import Mathlib.Logic.Function.Basic
import Mathlib.Data.List.Basic

/-!
# A table with a reverse index

Every source has a list of routes, and a second table leads from the key of a
route back to its source. The two are changed together: a source is cleared in
both, and its routes are added one by one to both, where a key that is already
there is overwritten.

* `Backed`: every entry of the reverse index has its route. All operations keep it.
* `Indexed`: every route is found in the reverse index, and `IndexedAt`: every
  route with one key is. Clearing keeps it; rebuilding the routes of some sources
  keeps it if no two sources end up with the key (`rebuildAll_indexedAt`).
-/

namespace MeetingSystem.Framework

variable {S R K : Type*}

structure RouteTable (S R K : Type*) where
  forward : S → List R
  reverse : K → Option S

namespace RouteTable

variable [DecidableEq S] [DecidableEq K]

def clear (t : RouteTable S R K) (s : S) : RouteTable S R K :=
  { forward := Function.update t.forward s []
    reverse := fun k => if t.reverse k = some s then none else t.reverse k }

def add (key : R → K) (s : S) (t : RouteTable S R K) (r : R) : RouteTable S R K :=
  { forward := Function.update t.forward s (t.forward s ++ [r])
    reverse := Function.update t.reverse (key r) (some s) }

/-- Give `s` the routes that `target` has for it. -/
def rebuild (key : R → K) (target : S → List R) (t : RouteTable S R K) (s : S) :
    RouteTable S R K :=
  (target s).foldl (add key s) (t.clear s)

def Backed (key : R → K) (t : RouteTable S R K) : Prop :=
  ∀ k s, t.reverse k = some s → ∃ r ∈ t.forward s, key r = k

def Indexed (key : R → K) (t : RouteTable S R K) : Prop :=
  ∀ s, ∀ r ∈ t.forward s, t.reverse (key r) = some s

/-- No two sources have routes with the same key. -/
def Separate (key : R → K) (t : RouteTable S R K) : Prop :=
  ∀ s s' r r', r ∈ t.forward s → r' ∈ t.forward s' → key r = key r' → s = s'

/-- The routes with the key `k` are found. -/
def IndexedAt (key : R → K) (k : K) (t : RouteTable S R K) : Prop :=
  ∀ s, ∀ r ∈ t.forward s, key r = k → t.reverse k = some s

/-- No two sources have routes with the key `k`. -/
def SeparateAt (key : R → K) (k : K) (t : RouteTable S R K) : Prop :=
  ∀ s s' r r', r ∈ t.forward s → r' ∈ t.forward s' → key r = k → key r' = k → s = s'

variable {key : R → K} {t : RouteTable S R K} {target : S → List R} {k : K}

omit [DecidableEq S] [DecidableEq K] in
theorem indexed_of_at (h : ∀ k, t.IndexedAt key k) : t.Indexed key :=
  fun s r hr => h (key r) s r hr rfl

omit [DecidableEq S] [DecidableEq K] in
theorem Separate.at (h : t.Separate key) (k : K) : t.SeparateAt key k :=
  fun s s' r r' hr hr' hk hk' => h s s' r r' hr hr' (hk.trans hk'.symm)

/-! ## Clearing -/

omit [DecidableEq K] in
theorem clear_backed (h : t.Backed key) (s : S) : (t.clear s).Backed key := by
  intro k s' hk
  simp only [clear] at hk ⊢
  split at hk
  · simp at hk
  · rename_i hne
    have hs : s' ≠ s := by
      rintro rfl
      exact hne hk
    simpa only [Function.update_of_ne hs] using h k s' hk

omit [DecidableEq K] in
theorem clear_indexedAt (h : t.IndexedAt key k) (s : S) : (t.clear s).IndexedAt key k := by
  intro s' r hr hkey
  by_cases hs : s' = s
  · simp [clear, hs] at hr
  · simp only [clear, Function.update_of_ne hs] at hr ⊢
    have hk := h s' r hr hkey
    rw [hk, if_neg]
    simpa using hs

/-- Clear several sources. -/
def clearAll (t : RouteTable S R K) (ss : List S) : RouteTable S R K := ss.foldl clear t

omit [DecidableEq K] in
theorem clearAll_backed (h : t.Backed key) (ss : List S) : (t.clearAll ss).Backed key :=
  List.foldlRecOn ss clear h fun _ ht s _ => clear_backed ht s

omit [DecidableEq K] in
theorem clearAll_indexedAt (h : t.IndexedAt key k) (ss : List S) : (t.clearAll ss).IndexedAt key k :=
  List.foldlRecOn ss clear h fun _ ht s _ => clear_indexedAt ht s

omit [DecidableEq K] in
theorem clearAll_forward (t : RouteTable S R K) (ss : List S) (s : S) :
    (t.clearAll ss).forward s = if s ∈ ss then [] else t.forward s := by
  induction ss generalizing t with
  | nil => simp [clearAll]
  | cons s₀ ss ih =>
    have hstep : (t.clearAll (s₀ :: ss)).forward s = ((t.clear s₀).clearAll ss).forward s := rfl
    rw [hstep, ih]
    by_cases hs : s = s₀
    · simp [hs, clear]
    · simp [hs, clear]

/-! ## Adding the routes of one source -/

theorem add_forward_ne {s s' : S} (h : s' ≠ s) (r : R) :
    (add key s t r).forward s' = t.forward s' :=
  Function.update_of_ne h ..

theorem foldl_add_forward_ne {s s' : S} (h : s' ≠ s) (rs : List R) (t : RouteTable S R K) :
    (rs.foldl (add key s) t).forward s' = t.forward s' := by
  induction rs generalizing t with
  | nil => rfl
  | cons r rs ih => exact (ih _).trans (add_forward_ne h r)

theorem foldl_add_forward_self (s : S) (rs : List R) (t : RouteTable S R K) :
    (rs.foldl (add key s) t).forward s = t.forward s ++ rs := by
  induction rs generalizing t with
  | nil => simp
  | cons r rs ih => simp [ih, add]

/-- A key keeps its entry unless one of the routes that are added has it. -/
theorem foldl_add_reverse (s : S) (rs : List R) (t : RouteTable S R K) (k : K) :
    (rs.foldl (add key s) t).reverse k =
      if ∃ r ∈ rs, key r = k then some s else t.reverse k := by
  induction rs generalizing t with
  | nil => simp
  | cons r rs ih =>
    rw [List.foldl_cons, ih]
    by_cases hrs : ∃ r ∈ rs, key r = k
    · have hcons : ∃ r' ∈ r :: rs, key r' = k := by
        obtain ⟨r', hr', hk⟩ := hrs
        exact ⟨r', List.mem_cons_of_mem _ hr', hk⟩
      rw [if_pos hrs, if_pos hcons]
    · rw [if_neg hrs]
      by_cases hr : key r = k
      · rw [if_pos ⟨r, by simp, hr⟩, ← hr]
        exact Function.update_self ..
      · have hcons : ¬ ∃ r' ∈ r :: rs, key r' = k := by
          rintro ⟨r', hr', hk⟩
          rcases List.mem_cons.mp hr' with rfl | hr'
          · exact hr hk
          · exact hrs ⟨r', hr', hk⟩
        rw [if_neg hcons]
        exact Function.update_of_ne (Ne.symm hr) ..

theorem rebuild_forward_self (t : RouteTable S R K) (s : S) :
    (rebuild key target t s).forward s = target s := by
  simp [rebuild, foldl_add_forward_self, clear]

theorem rebuild_forward_ne {s s' : S} (h : s' ≠ s) :
    (rebuild key target t s).forward s' = t.forward s' := by
  simp [rebuild, foldl_add_forward_ne h, clear, h]

theorem rebuild_reverse (s : S) (k : K) :
    (rebuild key target t s).reverse k =
      if ∃ r ∈ target s, key r = k then some s else (t.clear s).reverse k :=
  foldl_add_reverse s (target s) (t.clear s) k

theorem rebuild_backed (h : t.Backed key) (s : S) : (rebuild key target t s).Backed key := by
  intro k s' hk
  rw [rebuild_reverse] at hk
  split at hk
  · rename_i hr
    obtain rfl : s = s' := by simpa using hk
    simpa only [rebuild_forward_self] using hr
  · obtain ⟨r, hr, hkey⟩ := clear_backed h s k s' hk
    have hs : s' ≠ s := by
      rintro rfl
      simp [clear] at hr
    refine ⟨r, ?_, hkey⟩
    simpa [rebuild_forward_ne hs, clear, hs] using hr

/-! ## Rebuilding several sources -/

theorem rebuildAll_backed (h : t.Backed key) (ss : List S) :
    (ss.foldl (rebuild key target) t).Backed key := by
  induction ss generalizing t with
  | nil => exact h
  | cons s ss ih => exact ih (rebuild_backed h s)

/-- In the middle of a rebuild: the sources in `done` have their routes, and a
route that is not found has lost its key to one of them. -/
structure Rebuilding (key : R → K) (target : S → List R) (k : K) (done : List S)
    (t : RouteTable S R K) : Prop where
  built : ∀ s ∈ done, t.forward s = target s
  found : ∀ s, ∀ r ∈ t.forward s, key r = k → t.reverse k = some s ∨
    ∃ s' ∈ done, s' ≠ s ∧ ∃ r' ∈ target s', key r' = k

theorem Rebuilding.step {done : List S} (h : Rebuilding key target k done t) (s : S) :
    Rebuilding key target k (s :: done) (rebuild key target t s) := by
  refine ⟨fun x hx => ?_, fun x r hr hk => ?_⟩
  · by_cases hxs : x = s
    · rw [hxs, rebuild_forward_self]
    · rw [rebuild_forward_ne hxs]
      exact h.built x ((List.mem_cons.mp hx).resolve_left hxs)
  · by_cases hxs : x = s
    · subst hxs
      rw [rebuild_forward_self] at hr
      exact .inl (by rw [rebuild_reverse, if_pos ⟨r, hr, hk⟩])
    · rw [rebuild_forward_ne hxs] at hr
      rcases h.found x r hr hk with hrev | ⟨s', hs', hne, hr'⟩
      · by_cases hover : ∃ r' ∈ target s, key r' = k
        · exact .inr ⟨s, by simp, Ne.symm hxs, hover⟩
        · left
          rw [rebuild_reverse, if_neg hover]
          simp [clear, hrev, hxs]
      · exact .inr ⟨s', List.mem_cons_of_mem _ hs', hne, hr'⟩

theorem Rebuilding.all {done : List S} (h : Rebuilding key target k done t) (ss : List S) :
    ∃ done', Rebuilding key target k done' (ss.foldl (rebuild key target) t) := by
  induction ss generalizing t done with
  | nil => exact ⟨done, h⟩
  | cons s ss ih => exact ih (h.step s)

/-- Rebuilding keeps the index complete at a key if only one source has it at
the end; on the way several may. -/
theorem rebuildAll_indexedAt (h : t.IndexedAt key k) (ss : List S)
    (hsep : (ss.foldl (rebuild key target) t).SeparateAt key k) :
    (ss.foldl (rebuild key target) t).IndexedAt key k := by
  have hstart : Rebuilding key target k [] t := ⟨by simp, fun s r hr hk => .inl (h s r hr hk)⟩
  obtain ⟨done, hdone⟩ := hstart.all ss
  intro s r hr hk
  rcases hdone.found s r hr hk with hrev | ⟨s', hs', hne, r', hr', hkey⟩
  · exact hrev
  · rw [← hdone.built s' hs'] at hr'
    exact absurd (hsep s' s r' r hr' hr hkey hk) hne

theorem rebuildAll_forward (ss : List S) (t : RouteTable S R K) (s : S) :
    (ss.foldl (rebuild key target) t).forward s = if s ∈ ss then target s else t.forward s := by
  induction ss generalizing t with
  | nil => simp
  | cons s₀ ss ih =>
    rw [List.foldl_cons, ih]
    by_cases hss : s ∈ ss
    · simp [hss]
    · by_cases hs : s = s₀
      · simp [hs, rebuild_forward_self]
      · simp [hss, hs, rebuild_forward_ne hs]

end RouteTable

end MeetingSystem.Framework
