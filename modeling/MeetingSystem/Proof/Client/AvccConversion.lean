import Mathlib.Algebra.Group.Nat.Defs
import MeetingSystem.Impl.Client.VideoEncoder

/-!
# From length prefixes to start codes

`convertAvccPayloadToAnnexB` takes a payload that has a start code for one in
Annex-B form. A length can look like a start code, or make one with the bytes
around it.

* `convertUnits_avccPayload`: the loop on units that stand after their lengths;
* `avccConverts_iff`: when the payload is converted;
* `not_avccConverts_of_length`: units of 256 to 511 bytes after lengths of four.
-/

namespace MeetingSystem.Proof.Client

open MeetingSystem.Impl.Client

/-! ## Lengths -/

/-- A length in `n` bytes. -/
def lengthBytes : Nat → Nat → List UInt8
  | 0, _ => []
  | n + 1, size => lengthBytes n (size / 256) ++ [(size % 256).toUInt8]

theorem length_lengthBytes (n size : Nat) : (lengthBytes n size).length = n := by
  induction n generalizing size with
  | zero => rfl
  | succ n ih =>
    rw [lengthBytes, List.length_append, ih]
    rfl

theorem naluSize_append (bytes : List UInt8) (b : UInt8) :
    naluSize (bytes ++ [b]) = naluSize bytes * 256 + b.toNat := by
  rw [naluSize, List.foldl_append]
  rfl

theorem naluSize_lengthBytes {n size : Nat} (h : size < 256 ^ n) :
    naluSize (lengthBytes n size) = size := by
  induction n generalizing size with
  | zero =>
    rw [Nat.pow_zero] at h
    show 0 = size
    omega
  | succ n ih =>
    have hdiv : size / 256 < 256 ^ n := by
      rw [Nat.pow_succ] at h
      omega
    have hbyte : (size % 256).toUInt8.toNat = size % 256 :=
      UInt8.toNat_ofNat_of_lt' (Nat.mod_lt _ (by decide))
    rw [lengthBytes, naluSize_append, ih hdiv, hbyte]
    omega

/-! ## Payloads -/

/-- The units, each after its length. -/
def avccPayload (n : Nat) (units : List (List UInt8)) : List UInt8 :=
  units.flatMap fun nalu => lengthBytes n nalu.length ++ nalu

/-- The units, each after a start code. -/
def annexBPayload (units : List (List UInt8)) : List UInt8 :=
  units.flatMap fun nalu => kStartCode ++ nalu

/-- Units that can be written with lengths of `n` bytes. -/
structure AvccUnits (n : Nat) (units : List (List UInt8)) : Prop where
  ne_nil : units ≠ []
  nonempty : ∀ nalu ∈ units, nalu ≠ []
  fits : ∀ nalu ∈ units, nalu.length < 256 ^ n

theorem convertUnits_avccPayload {n : Nat} (hn : 0 < n) {units : List (List UInt8)}
    (hne : ∀ nalu ∈ units, nalu ≠ []) (hfits : ∀ nalu ∈ units, nalu.length < 256 ^ n) :
    convertUnits n (avccPayload n units) = some (annexBPayload units, []) := by
  induction units with
  | nil =>
    rw [convertUnits, if_neg (by rintro ⟨-, hle⟩; exact absurd hn (Nat.not_lt.mpr hle))]
    rfl
  | cons nalu units ih =>
    obtain ⟨hnalu, hne⟩ := List.forall_mem_cons.mp hne
    obtain ⟨hfit, hfits⟩ := List.forall_mem_cons.mp hfits
    have hlen := length_lengthBytes n nalu.length
    have hpayload : avccPayload n (nalu :: units) =
        lengthBytes n nalu.length ++ (nalu ++ avccPayload n units) := by
      rw [avccPayload, List.flatMap_cons, List.append_assoc]
      rfl
    have hpos : nalu.length ≠ 0 := fun h => hnalu (List.length_eq_zero_iff.mp h)
    rw [hpayload, convertUnits, if_pos ⟨hn, by rw [List.length_append, hlen]; omega⟩]
    dsimp only
    rw [List.take_left' hlen, List.drop_left' hlen, naluSize_lengthBytes hfit,
      if_neg (by rw [List.length_append]; omega), List.take_left, List.drop_left, ih hne hfits]
    rfl

theorem length_avccPayload (n : Nat) (units : List (List UInt8)) :
    (avccPayload n units).length = units.length * n + units.flatten.length := by
  induction units with
  | nil => simp [avccPayload]
  | cons nalu units ih =>
    have hcons : avccPayload n (nalu :: units) =
        lengthBytes n nalu.length ++ nalu ++ avccPayload n units := List.flatMap_cons
    rw [hcons, List.length_append, List.length_append, length_lengthBytes, ih, List.length_cons,
      List.flatten_cons, List.length_append, Nat.succ_mul]
    omega

theorem length_annexBPayload (units : List (List UInt8)) :
    (annexBPayload units).length = units.length * 4 + units.flatten.length := by
  induction units with
  | nil => rfl
  | cons nalu units ih =>
    have hcons : annexBPayload (nalu :: units) = kStartCode ++ nalu ++ annexBPayload units :=
      List.flatMap_cons
    rw [hcons, List.length_append, List.length_append, ih, List.length_cons, List.flatten_cons,
      List.length_append, Nat.succ_mul]
    show 4 + nalu.length + _ = _
    omega

/-- A length of one, in four bytes, is a start code. -/
theorem lengthBytes_eq_kStartCode {size : Nat} (h : size < 256 ^ 4) :
    lengthBytes 4 size = kStartCode ↔ size = 1 := by
  constructor
  · intro heq
    rw [← naluSize_lengthBytes h, heq]
    decide
  · rintro rfl
    decide

theorem avccPayload_four_iff {units : List (List UInt8)}
    (hfits : ∀ nalu ∈ units, nalu.length < 256 ^ 4) :
    avccPayload 4 units = annexBPayload units ↔ ∀ nalu ∈ units, nalu.length = 1 := by
  induction units with
  | nil => exact iff_of_true rfl (by simp)
  | cons nalu units ih =>
    obtain ⟨hfit, hfits⟩ := List.forall_mem_cons.mp hfits
    have havcc : avccPayload 4 (nalu :: units) =
        lengthBytes 4 nalu.length ++ (nalu ++ avccPayload 4 units) := by
      rw [avccPayload, List.flatMap_cons, List.append_assoc]
      rfl
    have hannexB : annexBPayload (nalu :: units) =
        kStartCode ++ (nalu ++ annexBPayload units) := by
      rw [annexBPayload, List.flatMap_cons, List.append_assoc]
      rfl
    rw [havcc, hannexB, List.forall_mem_cons, ← ih hfits, ← lengthBytes_eq_kStartCode hfit]
    constructor
    · intro heq
      obtain ⟨hlength, hrest⟩ := List.append_inj heq (length_lengthBytes 4 _)
      exact ⟨hlength, List.append_cancel_left hrest⟩
    · rintro ⟨hlength, hrest⟩
      rw [hlength, hrest]

/-- The two forms are the same only if every length is itself a start code. -/
theorem avccPayload_eq_iff {n : Nat} {units : List (List UInt8)} (h : AvccUnits n units) :
    avccPayload n units = annexBPayload units ↔ n = 4 ∧ ∀ nalu ∈ units, nalu.length = 1 := by
  constructor
  · intro heq
    have hlength := congrArg List.length heq
    rw [length_avccPayload, length_annexBPayload, Nat.add_right_cancel_iff] at hlength
    have hpos : 0 < units.length := List.length_pos_iff.mpr h.ne_nil
    obtain rfl : n = 4 := Nat.eq_of_mul_eq_mul_left hpos hlength
    exact ⟨rfl, (avccPayload_four_iff h.fits).mp heq⟩
  · rintro ⟨rfl, hones⟩
    exact (avccPayload_four_iff h.fits).mpr hones

/-! ## The conversion -/

/-- The conversion gives the units after start codes. -/
def AvccConverts (n : Nat) (units : List (List UInt8)) : Prop :=
  convertAvccPayloadToAnnexB (avccPayload n units) n = (true, annexBPayload units)

instance (n : Nat) (units : List (List UInt8)) : Decidable (AvccConverts n units) :=
  inferInstanceAs (Decidable (_ = _))

theorem avccConverts_of_not_guessed {n : Nat} (hn : 1 ≤ n) (hn' : n ≤ 4)
    {units : List (List UInt8)} (h : AvccUnits n units)
    (hguess : hasAnnexBStartCode (avccPayload n units) = false) : AvccConverts n units := by
  obtain ⟨nalu, rest, rfl⟩ := List.exists_cons_of_ne_nil h.ne_nil
  have hlen := length_avccPayload n (nalu :: rest)
  have hpayload : avccPayload n (nalu :: rest) ≠ [] := by
    intro hnil
    rw [hnil, List.length_cons, Nat.succ_mul, List.length_nil] at hlen
    omega
  have hconverted : annexBPayload (nalu :: rest) ≠ [] := nofun
  have hsize : ¬ ((n : Int) < 1 ∨ 4 < (n : Int)) := by omega
  unfold AvccConverts convertAvccPayloadToAnnexB
  rw [if_neg hpayload, hguess, if_neg (by decide), if_neg hsize]
  dsimp only
  rw [Int.toNat_natCast, convertUnits_avccPayload hn h.nonempty h.fits]
  exact if_neg hconverted

/-- The payload is converted exactly if it does not look like Annex B, or is. -/
theorem avccConverts_iff {n : Nat} (hn : 1 ≤ n) (hn' : n ≤ 4) {units : List (List UInt8)}
    (h : AvccUnits n units) :
    AvccConverts n units ↔ hasAnnexBStartCode (avccPayload n units) = false ∨
      (n = 4 ∧ ∀ nalu ∈ units, nalu.length = 1) := by
  rw [← avccPayload_eq_iff h]
  cases hguess : hasAnnexBStartCode (avccPayload n units) with
  | false => exact iff_of_true (avccConverts_of_not_guessed hn hn' h hguess) (.inl rfl)
  | true =>
    have hpayload : avccPayload n units ≠ [] := by
      intro hnil
      rw [hnil] at hguess
      cases hguess
    have hsame : convertAvccPayloadToAnnexB (avccPayload n units) n =
        (true, avccPayload n units) := by
      unfold convertAvccPayloadToAnnexB
      rw [if_neg hpayload, if_pos hguess]
    unfold AvccConverts
    rw [hsame, Prod.mk.injEq]
    simp

/-- Two units of two bytes. -/
theorem avccConverts_two :
    AvccConverts 4 [[0x09, 0xF0], [0x65, 0x88]] :=
  (avccConverts_iff (by decide) (by decide)
    ⟨by decide, by decide, by decide⟩).mpr (.inl (by decide))

/-! ## Lengths that look like a start code -/

theorem hasAnnexBStartCode_cons (a : UInt8) {payload : List UInt8}
    (h : hasAnnexBStartCode payload = true) : hasAnnexBStartCode (a :: payload) = true := by
  match payload, h with
  | b :: c :: d :: rest, h =>
    rw [hasAnnexBStartCode]
    split
    · rfl
    · exact h

theorem hasAnnexBStartCode_append (front : List UInt8) {payload : List UInt8}
    (h : hasAnnexBStartCode payload = true) : hasAnnexBStartCode (front ++ payload) = true := by
  induction front with
  | nil => exact h
  | cons a front ih => exact hasAnnexBStartCode_cons a ih

theorem lengthBytes_four {size : Nat} (hlow : 256 ≤ size) (hhigh : size < 512) :
    lengthBytes 4 size = [0x00, 0x00, 0x01, (size % 256).toUInt8] := by
  have hone : size / 256 = 1 := by omega
  simp only [lengthBytes, hone]
  rfl

/-- A payload with such a length is left as it is. -/
theorem not_avccConverts_of_length {units : List (List UInt8)} (h : AvccUnits 4 units)
    {nalu : List UInt8} (hmem : nalu ∈ units) (hlow : 256 ≤ nalu.length)
    (hhigh : nalu.length < 512) : ¬ AvccConverts 4 units := by
  obtain ⟨front, back, rfl⟩ := List.append_of_mem hmem
  have hpayload : avccPayload 4 (front ++ nalu :: back) = avccPayload 4 front ++
      (lengthBytes 4 nalu.length ++ nalu ++ avccPayload 4 back) := by
    rw [avccPayload, List.flatMap_append, List.flatMap_cons]
    rfl
  have hguess : hasAnnexBStartCode (avccPayload 4 (front ++ nalu :: back)) = true := by
    rw [hpayload, lengthBytes_four hlow hhigh]
    apply hasAnnexBStartCode_append
    obtain ⟨b, rest, rfl⟩ := List.exists_cons_of_length_pos (Nat.lt_of_lt_of_le (by decide) hlow)
    rfl
  rw [avccConverts_iff (by decide) (by decide) h, hguess]
  rintro (hfalse | ⟨-, hones⟩)
  · cases hfalse
  · have hone := hones nalu hmem
    omega

/-- One unit of 256 bytes without a start code. -/
theorem avccConverts_guessed :
    hasAnnexBStartCode (List.replicate 256 0x65) = false ∧
      convertAvccPayloadToAnnexB (avccPayload 4 [List.replicate 256 0x65]) 4 =
        (true, [0x00, 0x00, 0x01, 0x00] ++ List.replicate 256 0x65) ∧
      ¬ AvccConverts 4 [List.replicate 256 0x65] := by
  decide +kernel

end MeetingSystem.Proof.Client
