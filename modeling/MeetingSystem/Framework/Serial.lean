import Mathlib.Data.List.Basic
import Mathlib.Data.List.Chain

/-!
# Serial numbers

Sequence numbers of 16 bits run around a circle. `ahead a b` is the way from
`a` to `b` in the direction of counting, and `SerialLt a b` says that `b` is
after `a`: it is reached in less than half a turn.

* `ahead_sub`: the way goes through what lies on it;
* `ahead_le_of_le`: where the numbers do not wrap, the order is the usual one;
* `exists_unwrapped`: numbers of which each is after the one before it are the
  remainders of a strictly increasing sequence.
-/

namespace MeetingSystem.Framework

/-- The distance from `a` to `b`, counting up. -/
def ahead (a b : UInt16) : Nat := (b - a).toNat

/-- `b` comes after `a`. -/
def SerialLt (a b : UInt16) : Prop := 0 < ahead a b ∧ ahead a b < 0x8000

instance (a b : UInt16) : Decidable (SerialLt a b) := inferInstanceAs (Decidable (_ ∧ _))

theorem ahead_eq (a b : UInt16) : ahead a b = (65536 - a.toNat + b.toNat) % 65536 :=
  UInt16.toNat_sub b a

@[simp] theorem ahead_self (a : UInt16) : ahead a a = 0 := by
  have := a.toNat_lt
  rw [ahead_eq]
  omega

theorem eq_of_ahead_eq {a b c : UInt16} (h : ahead a b = ahead a c) : b = c := by
  have hb := b.toNat_lt
  have hc := c.toNat_lt
  have ha := a.toNat_lt
  rw [ahead_eq, ahead_eq] at h
  apply UInt16.toNat_inj.mp
  omega

/-- The way from `a` to `c` goes over `b`. -/
theorem ahead_sub {a b c : UInt16} (h : ahead a b ≤ ahead a c) :
    ahead b c = ahead a c - ahead a b := by
  have ha := a.toNat_lt
  have hb := b.toNat_lt
  have hc := c.toNat_lt
  rw [ahead_eq, ahead_eq] at h ⊢
  rw [ahead_eq]
  omega

theorem ahead_add_one (a : UInt16) : ahead a (a + 1) = 1 := by
  rw [ahead, UInt16.add_comm, UInt16.add_sub_cancel]
  rfl

/-- From the next number on, everything ahead is one step closer. -/
theorem ahead_succ {a c : UInt16} (h : 0 < ahead a c) : ahead (a + 1) c = ahead a c - 1 := by
  have h1 := ahead_add_one a
  rw [ahead_sub (a := a) (by omega), h1]

/-- What is just ahead of the next number is after this one. -/
theorem serialLt_of_ahead_succ {a c : UInt16} (h : ahead (a + 1) c < 0x7FFF) : SerialLt a c := by
  have hpos : 0 < ahead a c := by
    by_contra hzero
    have ha := a.toNat_lt
    have h1 : (a + 1).toNat = (a.toNat + 1) % 65536 := UInt16.toNat_add a 1
    have hc : a = c := eq_of_ahead_eq (a := a) (by rw [ahead_self]; omega)
    rw [← hc, ahead_eq, h1] at h
    omega
  have := ahead_succ hpos
  exact ⟨hpos, by omega⟩

theorem serialLt_of_ahead {a b c : UInt16} (h : ahead a b < ahead a c)
    (hc : ahead a c < 0x8000) : SerialLt b c := by
  have := ahead_sub (Nat.le_of_lt h)
  exact ⟨by omega, by omega⟩

theorem not_serialLt_of_ahead {a b c : UInt16} (h : ahead a b ≤ ahead a c)
    (hc : ahead a c < 0x8000) : ¬ SerialLt c b := by
  intro hlt
  have h1 := ahead_sub h
  have h2 := hlt.1
  have h3 := hlt.2
  have ha := a.toNat_lt
  have hb := b.toNat_lt
  have hc' := c.toNat_lt
  rw [ahead_eq] at h1 h2 h3
  omega

/-- What is not ahead of `l` within half a turn is not ahead of the number after
`l` either. -/
theorem ahead_succ_of_le {base b l : UInt16} (h : ahead base b ≤ ahead base l)
    (hl : ahead base l < 0x8000) : 0x8000 ≤ ahead (l + 1) b := by
  have h1 : (l + 1).toNat = (l.toNat + 1) % 65536 := UInt16.toNat_add l 1
  have h2 := base.toNat_lt
  have h3 := b.toNat_lt
  have h4 := l.toNat_lt
  rw [ahead_eq] at h hl ⊢
  rw [ahead_eq] at h
  omega

theorem lt_of_serialLt {base b c : UInt16} (h : SerialLt b c) (hb : ahead base b < 0x8000) :
    ahead base b < ahead base c := by
  by_contra hle
  exact not_serialLt_of_ahead (Nat.le_of_not_lt hle) hb h

/-- Of two numbers in half a turn, one is after the other. -/
theorem serialLt_or {a b c : UInt16} (hb : ahead a b < 0x8000) (hc : ahead a c < 0x8000)
    (hne : b ≠ c) : SerialLt b c ∨ SerialLt c b := by
  rcases Nat.lt_trichotomy (ahead a b) (ahead a c) with h | h | h
  · exact .inl (serialLt_of_ahead h hc)
  · exact absurd (eq_of_ahead_eq h) hne
  · exact .inr (serialLt_of_ahead h hb)

theorem ofNat_add_ahead {u : Nat} {a b : UInt16} (h : UInt16.ofNat u = a) :
    UInt16.ofNat (u + ahead a b) = b := by
  rw [UInt16.ofNat_add, h, ahead, UInt16.ofNat_toNat, UInt16.add_comm, UInt16.sub_add_cancel]

theorem exists_unwrapped_from {a : UInt16} {l : List UInt16} (h : (a :: l).IsChain SerialLt)
    {u : Nat} (hu : UInt16.ofNat u = a) :
    ∃ us : List Nat, us.map UInt16.ofNat = l ∧ (u :: us).IsChain (· < ·) := by
  induction l generalizing a u with
  | nil => exact ⟨[], rfl, .singleton u⟩
  | cons b l ih =>
    obtain ⟨hab, hl⟩ := List.isChain_cons_cons.mp h
    obtain ⟨us, hus, hchain⟩ := ih hl (ofNat_add_ahead (b := b) hu)
    refine ⟨(u + ahead a b) :: us, ?_, List.isChain_cons_cons.mpr ⟨?_, hchain⟩⟩
    · rw [List.map_cons, hus, ofNat_add_ahead hu]
    · have := hab.1
      omega

/-- Numbers of which each is after the one before are the remainders of numbers
that grow. -/
theorem exists_unwrapped {l : List UInt16} (h : l.IsChain SerialLt) :
    ∃ us : List Nat, us.map UInt16.ofNat = l ∧ us.Pairwise (· < ·) := by
  cases l with
  | nil => exact ⟨[], rfl, .nil⟩
  | cons a l =>
    have ha : UInt16.ofNat a.toNat = a := UInt16.ofNat_toNat
    obtain ⟨us, hus, hchain⟩ := exists_unwrapped_from h ha
    exact ⟨a.toNat :: us, by rw [List.map_cons, hus, ha], List.isChain_iff_pairwise.mp hchain⟩

end MeetingSystem.Framework
