import Mathlib.Data.List.Basic

/-!
# Fields joined by a separator

Text keys are built by joining fields with a separator character and taken
apart again at its last occurrence (`rfind`). Over lists of any type:
`splitLast` is the search from the right with both sides of it,
`splitLast_append` and `append_sep_inj` say when joining loses nothing, and
`splitAll` is the loop that cuts at every separator.
-/

namespace MeetingSystem.Framework

variable {α : Type*} [DecidableEq α]

/-- The parts before and after the last `c`. -/
def splitLast (c : α) : List α → Option (List α × List α)
  | [] => none
  | x :: xs =>
    match splitLast c xs with
    | some (p, q) => some (x :: p, q)
    | none => if x = c then some ([], xs) else none

/-- The fields between the occurrences of `c`. -/
def splitAll (c : α) : List α → List (List α)
  | [] => [[]]
  | x :: xs =>
    if x = c then [] :: splitAll c xs
    else match splitAll c xs with
      | [] => [[x]]
      | f :: fs => (x :: f) :: fs

theorem splitLast_eq_none {c : α} {l : List α} (h : c ∉ l) : splitLast c l = none := by
  induction l with
  | nil => rfl
  | cons x xs ih =>
    obtain ⟨hx, hxs⟩ : c ≠ x ∧ c ∉ xs := by simpa using h
    rw [splitLast, ih hxs]
    exact if_neg (Ne.symm hx)

/-- The last field is found again. -/
theorem splitLast_append {c : α} (p : List α) {q : List α} (h : c ∉ q) :
    splitLast c (p ++ c :: q) = some (p, q) := by
  induction p with
  | nil => simp [splitLast, splitLast_eq_none h]
  | cons x xs ih => simp [splitLast, ih]

theorem splitAll_of_notMem {c : α} {l : List α} (h : c ∉ l) : splitAll c l = [l] := by
  induction l with
  | nil => rfl
  | cons x xs ih =>
    obtain ⟨hx, hxs⟩ : c ≠ x ∧ c ∉ xs := by simpa using h
    simp [splitAll, ih hxs, Ne.symm hx]

/-- The first field is cut off. -/
theorem splitAll_append {c : α} {p : List α} (q : List α) (h : c ∉ p) :
    splitAll c (p ++ c :: q) = p :: splitAll c q := by
  induction p with
  | nil => simp [splitAll]
  | cons x xs ih =>
    obtain ⟨hx, hxs⟩ : c ≠ x ∧ c ∉ xs := by simpa using h
    simp [splitAll, ih hxs, Ne.symm hx]

/-- No field holds the separator. -/
theorem notMem_of_mem_splitAll {c : α} {l p : List α} (h : p ∈ splitAll c l) : c ∉ p := by
  induction l generalizing p with
  | nil =>
    obtain rfl : p = [] := by simpa [splitAll] using h
    exact List.not_mem_nil
  | cons x xs ih =>
    rw [splitAll] at h
    split at h
    · rcases List.mem_cons.mp h with rfl | h
      · exact List.not_mem_nil
      · exact ih h
    · rename_i hx
      split at h
      · obtain rfl : p = [x] := by simpa using h
        simp [Ne.symm hx]
      · rename_i f fs hf
        rcases List.mem_cons.mp h with rfl | h
        · have hcf : c ∉ f := ih (by simp [hf])
          simp [Ne.symm hx, hcf]
        · exact ih (by simp [hf, h])

omit [DecidableEq α] in
/-- Joining is injective in a first field that cannot hold the separator. -/
theorem append_sep_inj {c : α} {p p' q q' : List α} (hp : c ∉ p) (hp' : c ∉ p')
    (h : p ++ c :: q = p' ++ c :: q') : p = p' ∧ q = q' := by
  induction p generalizing p' with
  | nil =>
    cases p' with
    | nil => simpa using h
    | cons y ys =>
      have hy : c = y := (List.cons.inj h).1
      exact absurd (by simp [hy]) hp'
  | cons x xs ih =>
    cases p' with
    | nil =>
      have hx : x = c := (List.cons.inj h).1
      exact absurd (by simp [hx]) hp
    | cons y ys =>
      obtain ⟨hxy, ht⟩ := List.cons.inj h
      have hxs : c ∉ xs := fun hc => hp (List.mem_cons_of_mem _ hc)
      have hys : c ∉ ys := fun hc => hp' (List.mem_cons_of_mem _ hc)
      obtain ⟨h₁, h₂⟩ := ih hxs hys ht
      exact ⟨by rw [hxy, h₁], h₂⟩

end MeetingSystem.Framework
