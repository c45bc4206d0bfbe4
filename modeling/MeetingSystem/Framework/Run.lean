import Mathlib.Data.List.Basic

/-!
# Runs of a deterministic step function

A component is a step function `step : S → O → S`: every choice its
environment makes (the scheduler's, the network's, a random generator's) is
part of the operation, so that a run is a list of operations.

* `run`: the state a run ends in, and `run_inv` and `run_eq`, the inductions
  over it;
* `Along`: every step of a run meets a condition in the state it is taken in;
  `Along.inv` is the invariant rule for such runs, `Along.of_inv` obtains the
  condition itself from an invariant;
* `Along.same` and `lost_of_not_along`: what a run keeps if all its steps meet
  the condition, and has lost for good if one does not; `throughout_iff`: what
  holds in every state of a run if and only if all its steps meet the condition.
-/

namespace MeetingSystem.Framework

variable {S O : Type*} {step : S → O → S}

/-- The state after the operations `os` from `s`. -/
def run (step : S → O → S) (s : S) (os : List O) : S := os.foldl step s

@[simp] theorem run_nil (s : S) : run step s [] = s := rfl

@[simp] theorem run_cons (s : S) (o : O) (os : List O) :
    run step s (o :: os) = run step (step s o) os := rfl

theorem run_append (s : S) (os₁ os₂ : List O) :
    run step s (os₁ ++ os₂) = run step (run step s os₁) os₂ := List.foldl_append ..

/-- What every step keeps holds after every run. -/
theorem run_inv {P : S → Prop} (hstep : ∀ s o, P s → P (step s o)) {s : S} (hs : P s)
    (os : List O) : P (run step s os) :=
  List.foldlRecOn os step hs fun s hs o _ => hstep s o hs

/-- What no step changes is the same after every run. -/
theorem run_eq {A : Type*} (π : S → A) (hstep : ∀ s o, π (step s o) = π s) (s : S)
    (os : List O) : π (run step s os) = π s :=
  run_inv (fun s' o h => (hstep s' o).trans h) rfl os

/-- Every step of the run of `os` from `s` meets `ok` in the state before it. -/
def Along (step : S → O → S) (ok : S → O → Prop) : S → List O → Prop
  | _, [] => True
  | s, o :: os => ok s o ∧ Along step ok (step s o) os

instance Along.decidable {ok : S → O → Prop} [∀ s o, Decidable (ok s o)] :
    ∀ (s : S) (os : List O), Decidable (Along step ok s os)
  | _, [] => .isTrue trivial
  | s, o :: os => @instDecidableAnd _ _ inferInstance (Along.decidable (step s o) os)

/-- What every step that meets `ok` keeps holds after every run whose steps
meet `ok`. -/
theorem Along.inv {ok : S → O → Prop} {P : S → Prop}
    (hstep : ∀ s o, ok s o → P s → P (step s o)) {s : S} (hs : P s) {os : List O}
    (h : Along step ok s os) : P (run step s os) := by
  induction os generalizing s with
  | nil => exact hs
  | cons o os ih => exact ih (hstep s o h.1 hs) h.2

theorem Along.mono {ok ok' : S → O → Prop} (hok : ∀ s o, ok s o → ok' s o) {s : S}
    {os : List O} (h : Along step ok s os) : Along step ok' s os := by
  induction os generalizing s with
  | nil => trivial
  | cons o os ih => exact ⟨hok s o h.1, ih h.2⟩

theorem along_append_iff {ok : S → O → Prop} {s : S} {os₁ os₂ : List O} :
    Along step ok s (os₁ ++ os₂) ↔ Along step ok s os₁ ∧ Along step ok (run step s os₁) os₂ := by
  induction os₁ generalizing s with
  | nil => exact (and_iff_right trivial).symm
  | cons o os ih =>
    show ok s o ∧ Along step ok (step s o) (os ++ os₂) ↔ _
    rw [ih, ← and_assoc]
    rfl

theorem along_append {ok : S → O → Prop} {s : S} {os₁ os₂ : List O} (h₁ : Along step ok s os₁)
    (h₂ : Along step ok (run step s os₁) os₂) : Along step ok s (os₁ ++ os₂) :=
  along_append_iff.mpr ⟨h₁, h₂⟩

/-- The beginning of such a run. -/
theorem Along.take {ok : S → O → Prop} {s : S} {os : List O} (h : Along step ok s os) (n : Nat) :
    Along step ok s (os.take n) := by
  rw [← List.take_append_drop n os] at h
  exact (along_append_iff.mp h).1

theorem Along.and {ok ok' : S → O → Prop} {s : S} {os : List O} (h : Along step ok s os)
    (h' : Along step ok' s os) : Along step (fun s o => ok s o ∧ ok' s o) s os := by
  induction os generalizing s with
  | nil => trivial
  | cons o os ih => exact ⟨⟨h.1, h'.1⟩, ih h.2 h'.2⟩

/-- The clock of the state, which shows the time of the last operation that has
one, does not go back if the times of the operations do not. -/
theorem Along.of_times {T : Type*} [LE T] (time : O → Option T) (clock : S → T)
    (hclock : ∀ s o, clock (step s o) = (time o).getD (clock s)) {s : S} {os : List O}
    (h : (clock s :: os.filterMap time).Pairwise (· ≤ ·)) :
    Along step (fun s o => ∀ t ∈ time o, clock s ≤ t) s os := by
  induction os generalizing s with
  | nil => trivial
  | cons o os ih =>
    cases ho : time o with
    | none =>
      rw [List.filterMap_cons_none ho] at h
      refine ⟨by simp [ho], ih ?_⟩
      rwa [hclock, ho]
    | some t =>
      rw [List.filterMap_cons_some ho] at h
      obtain ⟨hle, hrest⟩ := List.pairwise_cons.mp h
      refine ⟨by simpa [ho] using hle t (List.mem_cons_self ..), ih ?_⟩
      rwa [hclock, ho]

/-- A condition on the operations alone. -/
theorem Along.of_mem {Q : O → Prop} {s : S} {os : List O} (hQ : ∀ o ∈ os, Q o) :
    Along step (fun _ o => Q o) s os := by
  induction os generalizing s with
  | nil => trivial
  | cons o os ih =>
    obtain ⟨ho, hos⟩ := List.forall_mem_cons.mp hQ
    exact ⟨ho, ih hos⟩

/-- Such a condition besides another one. -/
theorem Along.and_mem {ok : S → O → Prop} {Q : O → Prop} {s : S} {os : List O}
    (h : Along step ok s os) (hQ : ∀ o ∈ os, Q o) : Along step (fun s o => ok s o ∧ Q o) s os :=
  h.and (.of_mem hQ)

/-- A condition that follows from an invariant of the steps that meet it. -/
theorem Along.of_inv {ok good : S → O → Prop} {P : S → Prop}
    (hstep : ∀ s o, ok s o → P s → P (step s o)) (hgood : ∀ s o, ok s o → P s → good s o)
    {s : S} (hs : P s) {os : List O} (h : Along step ok s os) : Along step good s os := by
  induction os generalizing s with
  | nil => trivial
  | cons o os ih => exact ⟨hgood s o h.1 hs, ih (hstep s o h.1 hs) h.2⟩

/-- A condition that follows from an invariant of all steps. -/
theorem Along.of_invariant {good : S → O → Prop} {P : S → Prop}
    (hstep : ∀ s o, P s → P (step s o)) (hgood : ∀ s o, P s → good s o) {s : S} (hs : P s)
    (os : List O) : Along step good s os := by
  induction os generalizing s with
  | nil => trivial
  | cons o os ih => exact ⟨hgood s o hs, ih (hstep s o hs)⟩

/-! ## Kept or lost -/

section Kept

variable {ok : S → O → Prop} (Same Lost : S → S → Prop)

theorem Along.same (hrefl : ∀ s, Same s s)
    (htrans : ∀ {s s' s''}, Same s s' → Same s' s'' → Same s s'')
    (hkeep : ∀ s o, ok s o → Same s (step s o)) {s : S} {os : List O}
    (h : Along step ok s os) : Same s (run step s os) := by
  induction os generalizing s with
  | nil => exact hrefl s
  | cons o os ih => exact htrans (hkeep s o h.1) (ih h.2)

/-- What one step loses, no later step brings back. -/
theorem lost_of_not_along (hkeep : ∀ s o, ok s o → Same s (step s o))
    (hlose : ∀ s o, ¬ ok s o → Lost s (step s o))
    (hbefore : ∀ {s s' s''}, Same s s' → Lost s' s'' → Lost s s'')
    (hafter : ∀ {s s'} o, Lost s s' → Lost s (step s' o)) {s : S} {os : List O}
    (h : ¬ Along step ok s os) : Lost s (run step s os) := by
  induction os generalizing s with
  | nil => exact absurd trivial h
  | cons o os ih =>
    by_cases ho : ok s o
    · exact hbefore (hkeep s o ho) (ih fun hos => h ⟨ho, hos⟩)
    · exact List.foldlRecOn os step (hlose s o ho) fun s' hs' o' _ => hafter o' hs'

end Kept

/-- A condition that says exactly when a step keeps what has held so far, in the
runs whose steps meet `Q`. -/
theorem throughout_iff {ok Q : S → O → Prop} {P : S → Prop}
    (hstep : ∀ s o, Q s o → P s → (P (step s o) ↔ ok s o)) {s : S} (hs : P s) {os : List O}
    (h : Along step Q s os) : (∀ n, P (run step s (os.take n))) ↔ Along step ok s os := by
  induction os generalizing s with
  | nil => exact iff_of_true (fun n => by rwa [List.take_nil]) trivial
  | cons o os ih =>
    obtain ⟨ho, hos⟩ := h
    constructor
    · intro h
      have hnext : P (step s o) := h 1
      exact ⟨(hstep s o ho hs).mp hnext, (ih hnext hos).mp fun n => h (n + 1)⟩
    · intro ⟨hok, hrest⟩ n
      cases n with
      | zero => exact hs
      | succ n => exact (ih ((hstep s o ho hs).mpr hok) hos).mpr hrest n

end MeetingSystem.Framework
