import Mathlib.Data.List.Basic

/-!
# The least element of a list, by one pass

Code that scans a container for its best element keeps the best one so far
and replaces it whenever the next one is better. `least lt l` is that scan.
For a strict weak order the result is in the list and nothing in the list is
less (`least_spec`), a list with an element has one (`least_isSome`), and with
no two elements tied it does not depend on the order of the scan
(`least_perm`).
-/

namespace MeetingSystem.Framework

variable {α : Type*} {lt : α → α → Bool}

/-- A strict weak order, as a Boolean test. -/
structure StrictWeak (lt : α → α → Bool) : Prop where
  asymm : ∀ a b, lt a b = true → lt b a = false
  negTrans : ∀ a b c, lt b a = false → lt c b = false → lt c a = false

theorem StrictWeak.irrefl (h : StrictWeak lt) (a : α) : lt a a = false := by
  cases ha : lt a a
  · rfl
  · exact ha.symm.trans (h.asymm a a ha)

/-- One step of the scan. -/
def pickLess (lt : α → α → Bool) (best : Option α) (x : α) : Option α :=
  match best with
  | none => some x
  | some b => if lt x b then some x else some b

/-- The scan of a list for its least element. -/
def least (lt : α → α → Bool) (l : List α) : Option α := l.foldl (pickLess lt) none

theorem foldl_pickLess_some (lt : α → α → Bool) (b : α) (l : List α) :
    ∃ r, l.foldl (pickLess lt) (some b) = some r ∧ (r = b ∨ r ∈ l) := by
  induction l generalizing b with
  | nil => exact ⟨b, rfl, .inl rfl⟩
  | cons x l ih =>
    simp only [List.foldl_cons, pickLess]
    split
    · obtain ⟨r, hr, h⟩ := ih x
      exact ⟨r, hr, .inr (h.elim (fun e => e ▸ List.mem_cons_self) (List.mem_cons_of_mem _))⟩
    · obtain ⟨r, hr, h⟩ := ih b
      exact ⟨r, hr, h.imp id (List.mem_cons_of_mem _)⟩

theorem foldl_pickLess_le (hlt : StrictWeak lt) (b : α) (l : List α) {r : α}
    (h : l.foldl (pickLess lt) (some b) = some r) : lt b r = false ∧ ∀ x ∈ l, lt x r = false := by
  induction l generalizing b with
  | nil =>
    simp only [List.foldl_nil, Option.some.injEq] at h
    subst h
    exact ⟨hlt.irrefl b, fun _ hx => absurd hx List.not_mem_nil⟩
  | cons x l ih =>
    simp only [List.foldl_cons, pickLess] at h
    split at h
    · rename_i hxb
      obtain ⟨hx, hl⟩ := ih x h
      exact ⟨hlt.negTrans r x b hx (hlt.asymm x b hxb), List.forall_mem_cons.mpr ⟨hx, hl⟩⟩
    · rename_i hxb
      obtain ⟨hb, hl⟩ := ih b h
      exact ⟨hb, List.forall_mem_cons.mpr
        ⟨hlt.negTrans r b x hb (by simpa using hxb), hl⟩⟩

theorem least_mem {l : List α} {r : α} (h : least lt l = some r) : r ∈ l := by
  cases l with
  | nil => cases h
  | cons b l =>
    obtain ⟨r', hr, hm⟩ := foldl_pickLess_some lt b l
    obtain rfl : r' = r := Option.some.inj (hr.symm.trans h)
    exact List.mem_cons.mpr hm

/-- The result of the scan is in the list, and nothing in the list is less. -/
theorem least_spec (hlt : StrictWeak lt) {l : List α} {r : α} (h : least lt l = some r) :
    r ∈ l ∧ ∀ x ∈ l, lt x r = false := by
  cases l with
  | nil => cases h
  | cons b l =>
    obtain ⟨hb, hl⟩ := foldl_pickLess_le hlt b l h
    exact ⟨least_mem h, List.forall_mem_cons.mpr ⟨hb, hl⟩⟩

theorem least_isSome (lt : α → α → Bool) {l : List α} (h : l ≠ []) : ∃ r, least lt l = some r := by
  cases l with
  | nil => exact absurd rfl h
  | cons b l => exact (foldl_pickLess_some lt b l).imp fun r hr => hr.1

/-- An element that nothing after it is less than. -/
theorem least_cons_of_forall {b : α} {l : List α} (h : ∀ x ∈ l, lt x b = false) :
    least lt (b :: l) = some b := by
  show l.foldl (pickLess lt) (some b) = some b
  induction l with
  | nil => rfl
  | cons x l ih =>
    rw [List.foldl_cons, pickLess, h x List.mem_cons_self]
    exact ih fun y hy => h y (List.mem_cons_of_mem x hy)

/-- With no two elements tied, every order of the scan gives the same element. -/
theorem least_perm (hlt : StrictWeak lt) {l l' : List α} (hp : l.Perm l')
    (htie : ∀ a ∈ l, ∀ b ∈ l, lt a b = false → lt b a = false → a = b) :
    least lt l = least lt l' := by
  by_cases hl : l = []
  · subst hl
    rw [hp.nil_eq]
  · have hl' : l' ≠ [] := fun e => hl (by subst e; exact hp.eq_nil)
    obtain ⟨r, hr⟩ := least_isSome lt hl
    obtain ⟨r', hr'⟩ := least_isSome lt hl'
    obtain ⟨hm, hle⟩ := least_spec hlt hr
    obtain ⟨hm', hle'⟩ := least_spec hlt hr'
    have e : r = r' := htie r hm r' (hp.mem_iff.mpr hm') (hle' r (hp.mem_iff.mp hm))
      (hle r' (hp.mem_iff.mpr hm'))
    rw [hr, hr', e]

end MeetingSystem.Framework
