import Mathlib.Algebra.Order.Monoid.Defs
import Mathlib.Data.List.Basic
import Mathlib.Data.List.Count

/-!
# Counting in fixed windows

A counter that starts a window of length `len` at the first hit after the last
window: the hits of a window are numbered, and those up to `limit` are admitted.

* `WindowsOk.hit`: hits that come at times which do not decrease are admitted at most
  `2 * limit` times in any interval of length `len`. The starts of two windows are
  more than `len` apart, so that the hits of an interval are in two windows at most.
* `WindowsOk.of_refused`: a hit is refused only if `limit` hits of the last `len` were
  admitted.
-/

namespace MeetingSystem.Framework

variable {T : Type*} [LinearOrder T]

/-- The hits of the window so far, and its last moment. -/
structure Window (T : Type*) where
  count : Nat
  expires : T
  deriving DecidableEq, Repr

/-- A hit with its number in its window. -/
structure Hit (T : Type*) where
  time : T
  number : Nat
  deriving DecidableEq, Repr

namespace Window

/-- What is left of a window at `now`. -/
def current (now : T) (w : Option (Window T)) : Option (Window T) :=
  w.filter fun w => decide (now ≤ w.expires)

/-- The window after a hit at `now`. -/
def hit [Add T] (len now : T) (w : Option (Window T)) : Window T :=
  match current now w with
  | some w => { w with count := w.count + 1 }
  | none => { count := 1, expires := now + len }

end Window

/-- The admitted hits from `a` on. -/
def admittedFrom (limit : Nat) (a : T) (hits : List (Hit T)) : Nat :=
  hits.countP fun h => decide (a ≤ h.time ∧ h.number ≤ limit)

/-- The admitted hits from `a` to `b`. -/
def admittedIn (limit : Nat) (a b : T) (hits : List (Hit T)) : Nat :=
  hits.countP fun h => decide (a ≤ h.time ∧ h.time ≤ b ∧ h.number ≤ limit)

variable {a b : T} {limit : Nat} {hits : List (Hit T)} {h : Hit T}

theorem admittedFrom_append :
    admittedFrom limit a (hits ++ [h]) =
      admittedFrom limit a hits + if a ≤ h.time ∧ h.number ≤ limit then 1 else 0 := by
  simp [admittedFrom, List.countP_append, List.countP_singleton]

theorem admittedIn_append :
    admittedIn limit a b (hits ++ [h]) =
      admittedIn limit a b hits + if a ≤ h.time ∧ h.time ≤ b ∧ h.number ≤ limit then 1 else 0 := by
  simp [admittedIn, List.countP_append, List.countP_singleton]

theorem admittedFrom_anti (limit : Nat) (hits : List (Hit T)) (hab : a ≤ b) :
    admittedFrom limit b hits ≤ admittedFrom limit a hits := by
  refine List.countP_mono_left fun h _ hb => ?_
  simp only [decide_eq_true_eq] at hb ⊢
  exact ⟨hab.trans hb.1, hb.2⟩

theorem admittedIn_le_from : admittedIn limit a b hits ≤ admittedFrom limit a hits := by
  refine List.countP_mono_left fun h _ hb => ?_
  simp only [decide_eq_true_eq] at hb ⊢
  exact ⟨hb.1, hb.2.2⟩

theorem admittedFrom_eq_zero (h : ∀ h ∈ hits, h.time < a) : admittedFrom limit a hits = 0 := by
  refine List.countP_eq_zero.mpr fun x hx hb => ?_
  simp only [decide_eq_true_eq] at hb
  exact absurd hb.1 (not_le.mpr (h x hx))

section Windows

variable [AddCommMonoid T]

/-- The window that the hits so far have led to. Those from its start on are its
own; those from before it that are less than `len` away are of one more window. -/
structure WindowOk (len : T) (limit : Nat) (x : Window T) (hits : List (Hit T)) : Prop where
  count : 0 < x.count
  start : ∃ start, x.expires = start + len ∧ (∃ h ∈ hits, h.time = start) ∧
    (∀ h ∈ hits, h.time ≤ start + len) ∧
    admittedFrom limit start hits = min x.count limit ∧
    ∀ a, start ≤ a + len → admittedFrom limit a hits ≤ min x.count limit + limit

/-- The counter and the hits so far. -/
structure WindowsOk (len : T) (limit : Nat) (w : Option (Window T)) (hits : List (Hit T)) :
    Prop where
  nil : w = none → hits = []
  window : ∀ x, w = some x → WindowOk len limit x hits
  bound : ∀ a, admittedIn limit a (a + len) hits ≤ 2 * limit

variable {len now : T} {w : Option (Window T)} {x : Window T}

namespace WindowOk

/-- One more hit in the window. -/
theorem again (hx : WindowOk len limit x hits) (hnow : now ≤ x.expires)
    (hlast : ∀ h ∈ hits, h.time ≤ now) :
    WindowOk len limit { x with count := x.count + 1 } (hits ++ [⟨now, x.count + 1⟩]) := by
  obtain ⟨start, hexp, ⟨h₀, hh₀, ht₀⟩, hold, heq, hle⟩ := hx.start
  have hstart : start ≤ now := ht₀ ▸ hlast h₀ hh₀
  refine ⟨Nat.succ_pos _, start, hexp, ⟨h₀, List.mem_append_left _ hh₀, ht₀⟩, ?_, ?_, ?_⟩
  · intro h hh
    rcases List.mem_append.mp hh with hh | hh
    · exact hold h hh
    · obtain rfl := List.mem_singleton.mp hh
      exact hexp ▸ hnow
  · rw [admittedFrom_append, heq]
    simp only [hstart, true_and]
    split <;> omega
  · intro a ha
    have := hle a ha
    rw [admittedFrom_append]
    dsimp only
    split
    · rename_i hin
      have := hin.2
      omega
    · omega

/-- Up to a moment less than `len` after `a`, the hits from `a` on are in the window
and in the one before it. -/
theorem admittedFrom_le (hx : WindowOk len limit x hits) (hlast : ∀ h ∈ hits, h.time ≤ a + len) :
    admittedFrom limit a hits ≤ 2 * limit := by
  obtain ⟨start, -, ⟨h₀, hh₀, ht₀⟩, -, -, hle⟩ := hx.start
  have := hle a (ht₀ ▸ hlast h₀ hh₀)
  omega

variable [IsOrderedCancelAddMonoid T]

/-- The first hit after the window. -/
theorem first (hx : WindowOk len limit x hits) (hlimit : 0 < limit) (hlen : 0 ≤ len)
    (hnow : x.expires < now) :
    WindowOk len limit { count := 1, expires := now + len } (hits ++ [⟨now, 1⟩]) := by
  obtain ⟨start, hexp, -, hold, heq, hle⟩ := hx.start
  rw [hexp] at hnow
  refine ⟨Nat.one_pos, now, rfl, ⟨_, List.mem_append_right _ (List.mem_singleton_self _), rfl⟩, ?_,
    ?_, ?_⟩
  · intro h hh
    rcases List.mem_append.mp hh with hh | hh
    · exact ((hold h hh).trans hnow.le).trans (le_add_of_nonneg_right hlen)
    · obtain rfl := List.mem_singleton.mp hh
      exact le_add_of_nonneg_right hlen
  · have hzero : admittedFrom limit now hits = 0 :=
      admittedFrom_eq_zero fun h hh => (hold h hh).trans_lt hnow
    rw [admittedFrom_append, hzero]
    dsimp only
    rw [if_pos ⟨le_refl now, hlimit⟩]
    omega
  · -- what is less than `len` before `now` is after the start of the window before
    intro a ha
    have hstart : start < a := lt_of_add_lt_add_right (hnow.trans_le ha)
    have := admittedFrom_anti limit hits hstart.le
    rw [admittedFrom_append]
    dsimp only
    split <;> omega

theorem start_of_empty (hlimit : 0 < limit) (hlen : 0 ≤ len) :
    WindowOk len limit { count := 1, expires := now + len } [⟨now, 1⟩] := by
  refine ⟨Nat.one_pos, now, rfl, ⟨_, List.mem_singleton_self _, rfl⟩, ?_, ?_, ?_⟩
  · intro h hh
    obtain rfl := List.mem_singleton.mp hh
    exact le_add_of_nonneg_right hlen
  · simp [admittedFrom, Nat.succ_le_of_lt hlimit]
  · intro a _
    exact (List.countP_le_length ..).trans (by simp; omega)

end WindowOk

theorem WindowsOk.empty : WindowsOk len limit (none : Option (Window T)) [] :=
  ⟨fun _ => rfl, nofun, fun _ => Nat.zero_le _⟩

variable [IsOrderedCancelAddMonoid T]

/-- The window after a hit. -/
theorem WindowsOk.hit_window (hw : WindowsOk len limit w hits) (hlimit : 0 < limit)
    (hlen : 0 ≤ len) (hlast : ∀ h ∈ hits, h.time ≤ now) :
    WindowOk len limit (Window.hit len now w)
      (hits ++ [⟨now, (Window.hit len now w).count⟩]) := by
  cases w with
  | none =>
    rw [hw.nil rfl]
    exact WindowOk.start_of_empty hlimit hlen
  | some x =>
    have hx := hw.window x rfl
    by_cases hnow : now ≤ x.expires
    · have hcur : Window.hit len now (some x) = { x with count := x.count + 1 } := by
        simp [Window.hit, Window.current, Option.filter, hnow]
      rw [hcur]
      exact hx.again hnow hlast
    · have hcur : Window.hit len now (some x) = { count := 1, expires := now + len } := by
        simp [Window.hit, Window.current, Option.filter, hnow]
      rw [hcur]
      exact hx.first hlimit hlen (not_le.mp hnow)

theorem WindowsOk.hit (hw : WindowsOk len limit w hits) (hlimit : 0 < limit) (hlen : 0 ≤ len)
    (hlast : ∀ h ∈ hits, h.time ≤ now) :
    WindowsOk len limit (some (Window.hit len now w))
      (hits ++ [⟨now, (Window.hit len now w).count⟩]) := by
  have hx := hw.hit_window hlimit hlen hlast
  refine ⟨nofun, fun x h => Option.some.inj h ▸ hx, fun a => ?_⟩
  by_cases hnow : now ≤ a + len
  · refine admittedIn_le_from.trans (hx.admittedFrom_le fun h hh => ?_)
    rcases List.mem_append.mp hh with hh | hh
    · exact (hlast h hh).trans hnow
    · obtain rfl := List.mem_singleton.mp hh
      exact hnow
  · rw [admittedIn_append, if_neg fun h => hnow h.2.1]
    exact hw.bound a

/-- A hit is refused only if `limit` hits of the last `len` were admitted. -/
theorem WindowsOk.of_refused (hw : WindowsOk len limit w hits) (hlimit : 0 < limit)
    (hlen : 0 ≤ len) (hlast : ∀ h ∈ hits, h.time ≤ now)
    (hrefused : limit < (Window.hit len now w).count) :
    ∃ start, now ≤ start + len ∧ admittedFrom limit start hits = limit := by
  obtain ⟨start, hexp, -, hold, heq, -⟩ := (hw.hit_window hlimit hlen hlast).start
  refine ⟨start, hold ⟨now, _⟩ (List.mem_append_right _ (List.mem_singleton_self _)), ?_⟩
  rw [admittedFrom_append, if_neg fun h => absurd h.2 (not_le.mpr hrefused),
    Nat.min_eq_right hrefused.le] at heq
  exact heq

end Windows

end MeetingSystem.Framework
