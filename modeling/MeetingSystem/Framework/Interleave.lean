import MeetingSystem.Framework.Run
import Mathlib.Data.Set.Card

/-!
# Calls that interleave

Several calls work on one shared state, each a sequence of atomic steps. A
call in progress is a value of type `C`: where it is, and what it has read so
far. `next` is one step of a call, which ends it or leaves it somewhere else;
a move of the pool starts a call or takes one step of one that is in progress.

`move_cases` is what a move can do, and `Has.update` the frame rule for facts
about calls other than the one that moved. `Inv` is for a fact about the shared
state on which every call in progress relies: `Inv.move` asks each step to keep
what the other calls rely on. `Counts` is for a counter of the calls in
progress of some kind, a mutex among them: `Counts.update` is its rule for a
move.
-/

namespace MeetingSystem.Framework

variable {S A C E R : Type*}

structure Pool (S C : Type*) where
  shared : S
  calls : Nat → Option C

/-- A move: a call starts in a free place, or the call in a place takes a step,
with what the step draws from outside. -/
inductive Move (A E : Type*) where
  | start (i : Nat) (a : A)
  | step (i : Nat) (e : E)

def Move.place : Move A E → Nat
  | .start i _ => i
  | .step i _ => i

namespace Pool

/-- No call is in progress. -/
def Quiescent (p : Pool S C) : Prop := ∀ i, p.calls i = none

/-- The call in place `i` has become `c`. -/
def setCall (p : Pool S C) (i : Nat) (c : Option C) : Pool S C :=
  { p with calls := Function.update p.calls i c }

def move (entry : A → C) (next : S → E → C → S × (C ⊕ R)) (p : Pool S C) : Move A E → Pool S C
  | .start i a =>
    match p.calls i with
    | none => p.setCall i (some (entry a))
    | some _ => p
  | .step i e =>
    match p.calls i with
    | none => p
    | some c =>
      { shared := (next p.shared e c).1
        calls := Function.update p.calls i ((next p.shared e c).2.getLeft?) }

variable {entry : A → C} {next : S → E → C → S × (C ⊕ R)} {p : Pool S C}

variable (entry next) in
/-- Nothing happens, a call starts in a free place, or one takes a step. -/
theorem move_cases (m : Move A E) :
    p.move entry next m = p ∨
    (∃ i a, m = .start i a ∧ p.calls i = none ∧
      p.move entry next m = p.setCall i (some (entry a))) ∨
    ∃ i e c, m = .step i e ∧ p.calls i = some c ∧
      p.move entry next m =
        { shared := (next p.shared e c).1
          calls := Function.update p.calls i ((next p.shared e c).2.getLeft?) } := by
  cases m with
  | start i a =>
    cases hc : p.calls i with
    | none => exact .inr (.inl ⟨i, a, rfl, hc, by simp only [move, hc]⟩)
    | some c => exact .inl (by simp only [move, hc])
  | step i e =>
    cases hc : p.calls i with
    | none => exact .inl (by simp only [move, hc])
    | some c => exact .inr (.inr ⟨i, e, c, rfl, hc, by simp only [move, hc]⟩)

/-- A condition on the call in place `i`, as a computation. -/
theorem all_call_iff (p : Pool S C) (i : Nat) {P : C → Prop} [DecidablePred P] :
    (p.calls i).all (fun c => decide (P c)) = true ↔ ∀ c, p.calls i = some c → P c := by
  cases p.calls i with
  | none => simp
  | some c => simp

/-- Some call in progress satisfies `Q`. -/
def Has (p : Pool S C) (Q : C → Prop) : Prop := ∃ i c, p.calls i = some c ∧ Q c

theorem Quiescent.not_has (h : p.Quiescent) (Q : C → Prop) : ¬ p.Has Q := by
  intro hh
  obtain ⟨i, c, hc, -⟩ := hh
  rw [h i] at hc
  cases hc

/-- A call that does not satisfy `Q` may move. -/
theorem Has.update {Q : C → Prop} (h : p.Has Q) {i : Nat} (hi : ∀ c, p.calls i = some c → ¬ Q c)
    {s : S} {c' : Option C} :
    Has { shared := s, calls := Function.update p.calls i c' } Q := by
  obtain ⟨j, c, hc, hQ⟩ := h
  have hji : j ≠ i := by
    intro e
    subst e
    exact hi c hc hQ
  exact ⟨j, c, by dsimp only; rw [Function.update_of_ne hji, hc], hQ⟩

theorem has_update_self {Q : C → Prop} {s : S} {calls : Nat → Option C} {i : Nat} {c : C}
    (hQ : Q c) : Has { shared := s, calls := Function.update calls i (some c) } Q :=
  ⟨i, c, Function.update_self i _ _, hQ⟩

/-- The shared state satisfies `I`, and what every call in progress relies on. -/
structure Inv (I : S → Prop) (Q : S → C → Prop) (p : Pool S C) : Prop where
  shared : I p.shared
  calls : ∀ i c, p.calls i = some c → Q p.shared c

/-- A call starts with nothing it relies on in doubt; a step of a call keeps
what the others rely on, and gives the call what it relies on next. -/
theorem Inv.move {I : S → Prop} {Q : S → C → Prop} (h : p.Inv I Q) (m : Move A E)
    (hstart : ∀ a, Q p.shared (entry a))
    (hstep : ∀ i e c, m = .step i e → p.calls i = some c →
      I (next p.shared e c).1 ∧ (∀ c', Q p.shared c' → Q (next p.shared e c).1 c') ∧
        ∀ c', (next p.shared e c).2.getLeft? = some c' → Q (next p.shared e c).1 c') :
    (p.move entry next m).Inv I Q := by
  rcases move_cases entry next m with he | ⟨i, a, rfl, -, he⟩ |
    ⟨i, e, c, rfl, hc, he⟩
  · rw [he]
    exact h
  · rw [he]
    refine ⟨h.shared, fun j c hj => ?_⟩
    by_cases hji : j = i
    · subst hji
      obtain rfl := Option.some.inj ((Function.update_self j _ _).symm.trans hj)
      exact hstart a
    · exact h.calls j c ((Function.update_of_ne hji _ _).symm.trans hj)
  · rw [he]
    obtain ⟨hI, hothers, hthis⟩ := hstep i e c rfl hc
    refine ⟨hI, fun j c' hj => ?_⟩
    by_cases hji : j = i
    · subst hji
      exact hthis c' ((Function.update_self j _ _).symm.trans hj)
    · exact hothers c' (h.calls j c' ((Function.update_of_ne hji _ _).symm.trans hj))

/-- A move leaves the other places alone. -/
theorem move_calls_of_ne {m : Move A E} {i : Nat} (h : m.place ≠ i) :
    (p.move entry next m).calls i = p.calls i := by
  rcases move_cases entry next m with he | ⟨j, a, rfl, -, he⟩ |
    ⟨j, e, c, rfl, -, he⟩
  · rw [he]
  · rw [he]
    exact Function.update_of_ne (Ne.symm h) _ _
  · rw [he]
    exact Function.update_of_ne (Ne.symm h) _ _

theorem run_calls_of_ne {moves : List (Move A E)} {i : Nat} (h : ∀ m ∈ moves, m.place ≠ i) :
    (run (move entry next) p moves).calls i = p.calls i := by
  induction moves generalizing p with
  | nil => rfl
  | cons m moves ih =>
    rw [run_cons, ih fun m' hm' => h m' (List.mem_cons_of_mem _ hm')]
    exact move_calls_of_ne (h m List.mem_cons_self)

/-- After moves in the first `k` places only these have to be looked at. -/
theorem quiescent_of_lt {k : Nat} {moves : List (Move A E)} (hp : p.Quiescent)
    (hplaces : ∀ m ∈ moves, m.place < k)
    (hdone : ∀ i < k, (run (move entry next) p moves).calls i = none) :
    (run (move entry next) p moves).Quiescent := by
  intro i
  by_cases hi : i < k
  · exact hdone i hi
  · have hsame : ∀ m ∈ moves, m.place ≠ i := fun m hm e => hi (e ▸ hplaces m hm)
    rw [run_calls_of_ne hsame]
    exact hp i

/-! ## Counting calls -/

/-- The places of the calls in progress that satisfy `Q`. -/
def places (p : Pool S C) (Q : C → Bool) : Set Nat := {i | (p.calls i).any Q = true}

/-- `k` calls in progress satisfy `Q`. -/
def Counts (p : Pool S C) (Q : C → Bool) (k : Int) : Prop :=
  ∃ n : Nat, k = n ∧ (p.places Q).encard = n

variable {Q : C → Bool} {k k' : Int} {i j : Nat}

theorem mem_places_iff : i ∈ p.places Q ↔ ∃ c, p.calls i = some c ∧ Q c = true := by
  show (p.calls i).any Q = true ↔ _
  cases p.calls i with
  | none => simp
  | some c => simp

theorem mem_places {c : C} (hc : p.calls i = some c) (hQ : Q c = true) : i ∈ p.places Q :=
  mem_places_iff.mpr ⟨c, hc, hQ⟩

theorem Quiescent.counts (h : p.Quiescent) (Q : C → Bool) : p.Counts Q 0 := by
  have hnone : p.places Q = ∅ := by
    ext i
    simp [places, h i]
  refine ⟨0, rfl, ?_⟩
  rw [hnone, Set.encard_empty]
  rfl

theorem Counts.pos_iff (h : p.Counts Q k) : 0 < k ↔ (p.places Q).Nonempty := by
  obtain ⟨n, rfl, hcard⟩ := h
  rw [← Set.encard_pos, hcard]
  norm_cast

/-- A mutex lets one call in. -/
theorem Counts.eq_of_le_one (h : p.Counts Q k) (hk : k ≤ 1) (hi : i ∈ p.places Q)
    (hj : j ∈ p.places Q) : i = j := by
  obtain ⟨n, rfl, hcard⟩ := h
  have hle : (p.places Q).encard ≤ 1 := by
    rw [hcard]
    exact_mod_cast hk
  exact Set.encard_le_one_iff.mp hle i j hi hj

theorem places_update {s : S} {c' : Option C} :
    (Pool.mk s (Function.update p.calls i c')).places Q =
      if c'.any Q = true then insert i (p.places Q) else p.places Q \ {i} := by
  ext j
  by_cases hj : j = i
  · subst hj
    show (Function.update p.calls j c' j).any Q = true ↔ _
    rw [Function.update_self]
    split_ifs with hQ <;> simp [hQ]
  · show (Function.update p.calls i c' j).any Q = true ↔ _
    rw [Function.update_of_ne hj]
    split_ifs <;> simp [places, hj]

/-- A call has become another one, or begun, or ended. -/
theorem Counts.update (h : p.Counts Q k) {s : S} {c' : Option C}
    (hk : k' + ((p.calls i).any Q).toNat = k + (c'.any Q).toNat) :
    (Pool.mk s (Function.update p.calls i c')).Counts Q k' := by
  obtain ⟨n, rfl, hcard⟩ := h
  have hi : i ∈ p.places Q ↔ (p.calls i).any Q = true := Iff.rfl
  unfold Counts
  rw [places_update]
  cases hold : (p.calls i).any Q <;> cases hnew : c'.any Q <;>
    simp only [hold, hnew, Bool.toNat_false, Bool.toNat_true, Nat.cast_zero, Nat.cast_one,
      add_zero] at hk hi
  · rw [if_neg nofun, Set.sdiff_singleton_eq_self (by simpa using hi)]
    exact ⟨n, hk, hcard⟩
  · rw [if_pos rfl, Set.encard_insert_of_notMem (by simpa using hi), hcard]
    exact ⟨n + 1, hk, rfl⟩
  · have hsdiff := Set.encard_sdiff_singleton_add_one (hi.mpr trivial)
    obtain ⟨m, rfl⟩ : ∃ m, n = m + 1 := by
      refine Nat.exists_eq_succ_of_ne_zero ?_
      rintro rfl
      rw [hcard] at hsdiff
      exact absurd hsdiff (by simp)
    rw [hcard, Nat.cast_succ] at hsdiff
    rw [if_neg nofun]
    exact ⟨m, by omega, WithTop.add_right_cancel WithTop.one_ne_top hsdiff⟩
  · rw [if_pos rfl, Set.insert_eq_of_mem (hi.mpr trivial)]
    exact ⟨n, by omega, hcard⟩

end Pool

end MeetingSystem.Framework
