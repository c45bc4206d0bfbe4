import Mathlib.Data.List.Basic
import Mathlib.Data.String.Basic

/-!
# Text as bytes, and decimal numerals

Programs that treat a string as its bytes cut it, decode it and read numbers
out of it byte by byte. `utf8` gives the bytes of a text and `ofUtf8` the text
of bytes that are one; `natBytes` and `intBytes` are the decimal numerals,
`parseNat` and `parseInt` read them.

* `utf8_inj`, `ofUtf8_utf8`: a text is determined by its bytes;
* `parseNat_natBytes`, `parseInt_intBytes`: a numeral is read back.
-/

namespace MeetingSystem.Framework

/-! ## Text -/

def utf8 (s : String) : List UInt8 := s.toList.flatMap String.utf8EncodeChar

def ofUtf8 (b : List UInt8) : Option String := String.fromUTF8? b.toByteArray

theorem toByteArray_utf8 (s : String) : (utf8 s).toByteArray = s.toByteArray := by
  obtain ⟨l, rfl⟩ := s.exists_eq_ofList
  rw [utf8, String.toList_ofList, String.toByteArray_ofList]
  rfl

theorem utf8_inj {s t : String} : utf8 s = utf8 t ↔ s = t := by
  rw [← List.toByteArray_inj, toByteArray_utf8, toByteArray_utf8, String.toByteArray_inj]

@[simp] theorem utf8_append (s t : String) : utf8 (s ++ t) = utf8 s ++ utf8 t := by
  simp [utf8]

@[simp] theorem ofUtf8_utf8 (s : String) : ofUtf8 (utf8 s) = some s := by
  rw [ofUtf8, toByteArray_utf8, String.fromUTF8?, dif_pos s.isValidUTF8]
  rfl

/-- The text of characters below 0x80. -/
def asciiText (b : List UInt8) : String := String.ofList (b.map fun c => Char.ofNat c.toNat)

theorem utf8EncodeChar_ascii {c : UInt8} (h : c < 128) :
    String.utf8EncodeChar (Char.ofNat c.toNat) = [c] := by
  have hlt : c.toNat < 128 := UInt8.lt_iff_toNat_lt.mp h
  have hval : (Char.ofNat c.toNat).toNat = c.toNat := by
    rw [Char.ofNat, dif_pos (show c.toNat.isValidChar from .inl (by omega))]
    rfl
  have hle : (Char.ofNat c.toNat).val ≤ 127 := by
    rw [UInt32.le_iff_toNat_le]
    exact hval.trans_le (Nat.le_of_lt_succ hlt)
  rw [String.utf8EncodeChar_eq_singleton (Char.utf8Size_eq_one_iff.mpr hle)]
  have hbyte : (Char.ofNat c.toNat).val.toUInt8 = c := by
    apply UInt8.toNat_inj.mp
    rw [UInt32.toNat_toUInt8]
    exact (congrArg (· % 256) hval).trans (Nat.mod_eq_of_lt (by omega))
  rw [hbyte]

theorem utf8_asciiText {b : List UInt8} (h : ∀ c ∈ b, c < 128) : utf8 (asciiText b) = b := by
  rw [utf8, asciiText, String.toList_ofList, List.flatMap_map]
  induction b with
  | nil => rfl
  | cons c b ih =>
    obtain ⟨hc, hb⟩ := List.forall_mem_cons.mp h
    rw [List.flatMap_cons, utf8EncodeChar_ascii hc, ih hb]
    rfl

theorem utf8_ofUtf8 {b : List UInt8} {s : String} (h : ofUtf8 b = some s) : utf8 s = b := by
  rw [ofUtf8, String.fromUTF8?] at h
  split at h
  · rename_i hv
    obtain rfl := Option.some.inj h
    rw [← List.toByteArray_inj, toByteArray_utf8]
    rfl
  · cases h

/-! ## Numerals -/

def natBytes (n : Nat) : List UInt8 := (Nat.toDigits 10 n).map fun c => c.toNat.toUInt8

def intBytes : Int → List UInt8
  | .ofNat n => natBytes n
  | .negSucc n => 45 :: natBytes (n + 1)

def isDigit (c : UInt8) : Bool := 48 ≤ c && c ≤ 57

def digitsValue (l : List UInt8) : Nat := l.foldl (fun n c => 10 * n + (c.toNat - 48)) 0

/-- A non-empty list of digits. -/
def parseNat (l : List UInt8) : Option Nat :=
  if l ≠ [] ∧ l.all isDigit then some (digitsValue l) else none

/-- `parseNat` after an optional sign. -/
def parseInt : List UInt8 → Option Int
  | 43 :: l => (parseNat l).map fun n => (n : Int)
  | 45 :: l => (parseNat l).map fun n => -(n : Int)
  | l => (parseNat l).map fun n => (n : Int)

theorem isDigit_toUInt8 {c : Char} (h : c.isDigit = true) : isDigit c.toNat.toUInt8 = true := by
  simp only [Char.isDigit, Bool.and_eq_true, decide_eq_true_eq, ge_iff_le, UInt32.le_iff_toNat_le]
    at h
  have h48 : 48 ≤ c.toNat := h.1
  have h57 : c.toNat ≤ 57 := h.2
  simp only [isDigit, Bool.and_eq_true, decide_eq_true_eq, UInt8.le_iff_toNat_le,
    Nat.toUInt8_eq, UInt8.toNat_ofNat', UInt8.reduceToNat]
  omega

theorem toNat_toUInt8 {c : Char} (h : c.isDigit = true) : c.toNat.toUInt8.toNat = c.toNat := by
  simp only [Char.isDigit, Bool.and_eq_true, decide_eq_true_eq, ge_iff_le, UInt32.le_iff_toNat_le]
    at h
  have h57 : c.toNat ≤ 57 := h.2
  simp only [Nat.toUInt8_eq, UInt8.toNat_ofNat']
  omega

theorem isDigit_of_mem_natBytes {n : Nat} {c : UInt8} (h : c ∈ natBytes n) : isDigit c = true := by
  obtain ⟨d, hd, rfl⟩ := List.mem_map.mp h
  exact isDigit_toUInt8 (Nat.isDigit_of_mem_toDigits (by decide) (by decide) hd)

theorem natBytes_ne_nil (n : Nat) : natBytes n ≠ [] := by
  intro h
  exact Nat.toDigits_ne_nil (List.map_eq_nil_iff.mp h)

theorem digitsValue_map {l : List Char} (h : ∀ c ∈ l, c.isDigit = true) :
    digitsValue (l.map fun c => c.toNat.toUInt8) = Nat.ofDigitChars 10 l 0 := by
  rw [digitsValue, Nat.ofDigitChars_eq_foldl]
  generalize 0 = init
  induction l generalizing init with
  | nil => rfl
  | cons c l ih =>
    simp only [List.map_cons, List.foldl_cons]
    rw [toNat_toUInt8 (h c (by simp))]
    exact ih (fun d hd => h d (by simp [hd])) _

@[simp] theorem parseNat_natBytes (n : Nat) : parseNat (natBytes n) = some n := by
  rw [parseNat, if_pos ⟨natBytes_ne_nil n, List.all_eq_true.mpr fun c =>
    isDigit_of_mem_natBytes⟩, natBytes, digitsValue_map, Nat.ofDigitChars_ten_toDigits]
  intro c hc
  exact Nat.isDigit_of_mem_toDigits (by decide) (by decide) hc

/-- A numeral starts with a digit. -/
theorem natBytes_eq_cons (n : Nat) : ∃ c l, natBytes n = c :: l ∧ isDigit c = true := by
  obtain ⟨c, l, hl⟩ := List.exists_cons_of_ne_nil (natBytes_ne_nil n)
  exact ⟨c, l, hl, isDigit_of_mem_natBytes (n := n) (by simp [hl])⟩

theorem digitChar_ne_zero {n : Nat} (h : 0 < n) (hn : n < 10) :
    (Nat.digitChar n).toNat.toUInt8 ≠ 48 := by
  revert h
  revert n
  decide

/-- The numeral of a positive number does not start with a zero. -/
theorem natBytes_succ_eq_cons (n : Nat) : ∃ c l, natBytes (n + 1) = c :: l ∧ c ≠ 48 := by
  generalize hm : n + 1 = m
  have hpos : 0 < m := by omega
  clear hm
  induction m using Nat.strongRecOn with
  | ind m ih =>
    by_cases hlt : m < 10
    · refine ⟨_, [], ?_, digitChar_ne_zero hpos hlt⟩
      rw [natBytes, Nat.toDigits_of_lt_base hlt]
      rfl
    · obtain ⟨c, l, hl, hc⟩ := ih (m / 10) (by omega) (by omega)
      refine ⟨c, l ++ [(Nat.digitChar (m % 10)).toNat.toUInt8], ?_, hc⟩
      rw [natBytes, Nat.toDigits_of_base_le (by decide) (by omega), List.map_append]
      exact congrArg (· ++ _) hl

@[simp] theorem parseInt_intBytes (i : Int) : parseInt (intBytes i) = some i := by
  cases i with
  | ofNat n =>
    obtain ⟨c, l, hl, hc⟩ := natBytes_eq_cons n
    have hplus : c ≠ 43 := by
      intro h
      rw [h] at hc
      exact absurd hc (by decide)
    have hminus : c ≠ 45 := by
      intro h
      rw [h] at hc
      exact absurd hc (by decide)
    have hn := parseNat_natBytes n
    rw [hl] at hn
    rw [intBytes, hl, parseInt, hn]
    · rfl
    · intro l' h
      exact hplus (List.cons.inj h).1
    · intro l' h
      exact hminus (List.cons.inj h).1
  | negSucc n =>
    rw [intBytes, parseInt, parseNat_natBytes]
    rfl

theorem utf8_toString (n : Nat) : utf8 (toString n) = natBytes n := by
  rw [utf8, Nat.toString_eq_ofList_toDigits, String.toList_ofList, natBytes,
    List.map_eq_flatMap]
  apply List.flatMap_congr
  intro c hc
  have hd := Nat.isDigit_of_mem_toDigits (b := 10) (by decide) (by decide) hc
  simp only [Char.isDigit, Bool.and_eq_true, decide_eq_true_eq] at hd
  rw [String.utf8EncodeChar_eq_singleton
    (Char.utf8Size_eq_one_iff.mpr (UInt32.le_trans hd.2 (show (57 : UInt32) ≤ 127 by decide)))]
  rfl

end MeetingSystem.Framework
