import Mathlib.Algebra.Order.Ring.Nat
import MeetingSystem.Impl.Sfu.Operations
import MeetingSystem.Proof.Media.RtcpReports

/-!
# Bitrates in REMB packets

A REMB packet announces a bitrate as an 18-bit mantissa and a 6-bit exponent.

* The SFU halves the bitrate until the mantissa fits, rounding up each time
  (`halveMantissa_spec`). What it sends is at least the bitrate and less than
  one unit of the mantissa above it, and is read back as it was sent
  (`estimatedRemb_roundTrip`).
* Both parsers shift the mantissa in 64 bits and then cap the result at
  `2 ^ 32 - 1`. The shift has lost everything by then if all bits of the
  mantissa are pushed out (`decodedBitrate_iff`, `rembBitrate_saturates_iff`).
-/

namespace MeetingSystem.Proof.Media

open MeetingSystem.Framework MeetingSystem.Impl.Client MeetingSystem.Impl.Sfu
open RTCPHandler (packetSizeBytes reportHeader)

/-! ## Encoding -/

/-- Halving with rounding up: `k` times in all, and the result is the bitrate
divided by `2 ^ k`, rounded up. -/
theorem halveMantissa_spec (fuel : Nat) (exp : UInt8) (mantissa : UInt32)
    (hexp : exp.toNat + fuel < 2 ^ 8) (hmantissa : mantissa.toNat < 2 ^ 32 - 1) :
    ∃ k ≤ fuel, (halveMantissa fuel exp mantissa).1.toNat = exp.toNat + k ∧
      mantissa.toNat ≤ (halveMantissa fuel exp mantissa).2.toNat * 2 ^ k ∧
      (halveMantissa fuel exp mantissa).2.toNat * 2 ^ k < mantissa.toNat + 2 ^ k ∧
      (mantissa.toNat ≤ 0x3FFFF * 2 ^ fuel →
        (halveMantissa fuel exp mantissa).2.toNat ≤ 0x3FFFF) := by
  induction fuel generalizing exp mantissa with
  | zero =>
    refine ⟨0, le_rfl, rfl, ?_, ?_, ?_⟩ <;> simp [halveMantissa]
  | succ fuel ih =>
    rw [halveMantissa]
    split
    · have hone : (exp + 1).toNat = exp.toNat + 1 := by
        rw [UInt8.toNat_add]
        exact Nat.mod_eq_of_lt (by simp; omega)
      have hhalf : ((mantissa + 1) >>> 1).toNat = (mantissa.toNat + 1) / 2 := by
        rw [UInt32.toNat_shiftRight, UInt32.toNat_add, Nat.mod_eq_of_lt (by simp; omega)]
        simp [Nat.shiftRight_eq_div_pow]
      obtain ⟨k, hk, hexp', hle, hlt, hfit⟩ :=
        ih (exp + 1) ((mantissa + 1) >>> 1) (by omega) (by omega)
      rw [hhalf] at hle hlt hfit
      refine ⟨k + 1, by omega, by omega, ?_, ?_, fun hbound => hfit ?_⟩
      · rw [Nat.pow_succ, ← Nat.mul_assoc]
        omega
      · rw [Nat.pow_succ, ← Nat.mul_assoc]
        omega
      · rw [Nat.pow_succ] at hbound
        omega
    · rename_i hsmall
      have hsmall : mantissa.toNat ≤ 0x3FFFF := by
        simpa [UInt32.lt_iff_toNat_lt] using hsmall
      exact ⟨0, by omega, rfl, by simp, by simp, fun _ => hsmall⟩

/-- The mask at the end of `EncodeRembBitrate`. -/
theorem toNat_and_mask (v : UInt32) : (v &&& 0x3FFFF).toNat = v.toNat % 2 ^ 18 := by
  rw [UInt32.toNat_and]
  exact Nat.and_two_pow_sub_one_eq_mod v.toNat 18

theorem encodeRembBitrate_spec {bitrateBps : UInt32} (h : bitrateBps.toNat < 2 ^ 32 - 1) :
    let encoded := encodeRembBitrate bitrateBps
    encoded.1.toNat < 2 ^ 6 ∧ encoded.2.toNat < 2 ^ 18 ∧
      bitrateBps.toNat ≤ encoded.2.toNat * 2 ^ encoded.1.toNat ∧
      encoded.2.toNat * 2 ^ encoded.1.toNat < bitrateBps.toNat + 2 ^ encoded.1.toNat := by
  obtain ⟨k, hk, hexp, hle, hlt, hfit⟩ := halveMantissa_spec 63 0 bitrateBps (by decide) h
  have hfit := hfit (by omega)
  have hexp : (halveMantissa 63 0 bitrateBps).1.toNat = k := by
    rw [hexp]
    exact Nat.zero_add k
  have hmask : ((halveMantissa 63 0 bitrateBps).2 &&& 0x3FFFF).toNat =
      (halveMantissa 63 0 bitrateBps).2.toNat := by
    rw [toNat_and_mask]
    exact Nat.mod_eq_of_lt (by omega)
  have hencoded : encodeRembBitrate bitrateBps =
      ((halveMantissa 63 0 bitrateBps).1, (halveMantissa 63 0 bitrateBps).2 &&& 0x3FFFF) := rfl
  intro encoded
  simp only [encoded, hencoded, hmask, hexp]
  exact ⟨by omega, by omega, hle, hlt⟩

/-! ## The packet -/

/-- The byte with the exponent and the two highest bits of the mantissa. -/
theorem expByte {exp high : UInt8} (hexp : exp.toNat < 2 ^ 6) (hhigh : high.toNat < 2 ^ 2) :
    ((exp &&& 0x3F) <<< 2 ||| high) >>> 2 &&& 0x3F = exp ∧
      ((exp &&& 0x3F) <<< 2 ||| high) &&& 0x03 = high := by
  have hmask : (exp &&& 0x3F).toNat = exp.toNat := by
    rw [UInt8.toNat_and]
    exact (Nat.and_two_pow_sub_one_eq_mod exp.toNat 6).trans (Nat.mod_eq_of_lt hexp)
  have hbyte : ((exp &&& 0x3F) <<< 2 ||| high).toNat = exp.toNat * 4 + high.toNat := by
    have hshift : exp.toNat <<< 2 < 2 ^ 8 := by
      rw [Nat.shiftLeft_eq]
      omega
    rw [UInt8.toNat_or, UInt8.toNat_shiftLeft, hmask]
    show exp.toNat <<< 2 % 2 ^ 8 ||| high.toNat = _
    rw [Nat.mod_eq_of_lt hshift, or_shiftLeft hhigh]
    rfl
  constructor
  · rw [← UInt8.toNat_inj, UInt8.toNat_and, UInt8.toNat_shiftRight, hbyte,
      Nat.shiftRight_eq_div_pow]
    refine (Nat.and_two_pow_sub_one_eq_mod _ 6).trans ?_
    show (exp.toNat * 4 + high.toNat) / 2 ^ 2 % 2 ^ 6 = exp.toNat
    omega
  · rw [← UInt8.toNat_inj, UInt8.toNat_and, hbyte]
    refine (Nat.and_two_pow_sub_one_eq_mod _ 2).trans ?_
    omega

theorem readBE32_bytes (v : UInt32) (rest : Bytes) : readBE32 (u32Bytes v ++ rest) 0 = v := by
  simp only [readBE32, u32Bytes, List.cons_append, List.nil_append, List.getD_cons_zero,
    List.getD_cons_succ, Nat.zero_add, join32_bytes]

/-- A REMB packet behind its first four bytes. -/
def rembFields (senderSsrc mediaSsrc : UInt32) (exp : UInt8) (mantissa targetSsrc : UInt32) :
    Bytes :=
  u32Bytes senderSsrc ++ (u32Bytes mediaSsrc ++
    (([0x52, 0x45, 0x4D, 0x42, 0x01,
      (exp &&& 0x3F) <<< 2 ||| ((mantissa &&& 0x3FFFF) >>> 16).toUInt8,
      ((mantissa &&& 0x3FFFF) >>> 8).toUInt8, (mantissa &&& 0x3FFFF).toUInt8] : Bytes) ++
    u32Bytes targetSsrc))

theorem buildRembPacket_eq (senderSsrc mediaSsrc : UInt32) (exp : UInt8)
    (mantissa targetSsrc : UInt32) :
    buildRembPacket senderSsrc mediaSsrc exp mantissa targetSsrc =
      reportHeader 15 206 (4 + 5 * 4) ++
        rembFields senderSsrc mediaSsrc exp mantissa targetSsrc := by
  show _ = ([0x8F, 0xCE, 0x00, 0x05] : Bytes) ++ rembFields _ _ _ _ _
  simp only [buildRembPacket, rembFields, List.append_assoc]

/-- A bitrate as both parsers compute it. -/
def decodedBitrate (exp : UInt8) (mantissa : UInt32) : UInt32 :=
  if 0xFFFFFFFF < mantissa.toUInt64 <<< exp.toUInt64 then 0xFFFFFFFF
  else (mantissa.toUInt64 <<< exp.toUInt64).toUInt32

/-- The exponent and the mantissa as they stand in the packet. -/
theorem rembPacket_bitrate {senderSsrc mediaSsrc targetSsrc mantissa : UInt32} {exp : UInt8}
    {d : List UInt8} (hd : d = buildRembPacket senderSsrc mediaSsrc exp mantissa targetSsrc)
    (hexp : exp.toNat < 2 ^ 6) (hmantissa : mantissa.toNat < 2 ^ 18) :
    d.getD (12 + 5) 0 >>> 2 &&& 0x3F = exp ∧
      (d.getD (12 + 5) 0 &&& (0x03 : UInt8)).toUInt32 <<< 16 |||
        (d.getD (12 + 6) 0).toUInt32 <<< 8 ||| (d.getD (12 + 7) 0).toUInt32 = mantissa := by
  subst hd
  have hmask : mantissa &&& 0x3FFFF = mantissa := by
    rw [← UInt32.toNat_inj, toNat_and_mask, Nat.mod_eq_of_lt hmantissa]
  have hhigh : (mantissa >>> 16).toUInt8.toNat < 2 ^ 2 := by
    rw [UInt32.toNat_toUInt8, UInt32.toNat_shiftRight, Nat.shiftRight_eq_div_pow]
    show mantissa.toNat / 2 ^ 16 % 2 ^ 8 < 2 ^ 2
    omega
  obtain ⟨hexpByte, hhighByte⟩ := expByte hexp hhigh
  show ((exp &&& 0x3F) <<< 2 ||| ((mantissa &&& 0x3FFFF) >>> 16).toUInt8) >>> 2 &&& 0x3F = exp ∧
    (((exp &&& 0x3F) <<< 2 ||| ((mantissa &&& 0x3FFFF) >>> 16).toUInt8) &&&
        (0x03 : UInt8)).toUInt32 <<< 16 |||
      ((mantissa &&& 0x3FFFF) >>> 8).toUInt8.toUInt32 <<< 8 |||
        (mantissa &&& 0x3FFFF).toUInt8.toUInt32 = mantissa
  rw [hmask, hexpByte, hhighByte]
  exact ⟨rfl, join24_bytes (hmantissa.trans (by decide))⟩

/-- A built packet is read back by the client, and so by the SFU. -/
theorem rembPacket_parses (senderSsrc mediaSsrc targetSsrc : UInt32) {exp : UInt8}
    {mantissa : UInt32} (hexp : exp.toNat < 2 ^ 6) (hmantissa : mantissa.toNat < 2 ^ 18) :
    let d := buildRembPacket senderSsrc mediaSsrc exp mantissa targetSsrc
    RTCPHandler.parseRembFeedback d =
        some
          { senderSsrc, mediaSsrc, bitrateExp := exp, bitrateMantissa := mantissa
            bitrateBps := decodedBitrate exp mantissa, targetSsrcs := [targetSsrc] } ∧
      RtcpHandler.parseRembFeedback d =
        [{ senderSsrc, mediaSsrc, bitrateExp := exp, bitrateMantissa := mantissa
           bitrateBps := decodedBitrate exp mantissa, targetSsrcs := [targetSsrc] }] := by
  intro d
  have hlen : (rembFields senderSsrc mediaSsrc exp mantissa targetSsrc).length = 5 * 4 := rfl
  obtain ⟨header, halone, htype, hcount⟩ :=
    alone_report (show 15 ≤ 31 by decide) (show 5 < 2 ^ 16 by decide) 206 hlen
  rw [← buildRembPacket_eq] at halone
  have hcount : header.countOrFormat = 15 := UInt8.toNat_inj.mp hcount
  have hsize : packetSizeBytes header = 24 := halone.2
  have hlength : d.length = 24 := halone.2.symm.trans hsize
  obtain ⟨hexpField, hmantissaField⟩ := rembPacket_bitrate (Eq.refl d) hexp hmantissa
  have hclient : RTCPHandler.parseRembFeedback d =
      some
        { senderSsrc, mediaSsrc, bitrateExp := exp, bitrateMantissa := mantissa
          bitrateBps := decodedBitrate exp mantissa, targetSsrcs := [targetSsrc] } := by
    have hsender : readBE32 d 4 = senderSsrc := readBE32_bytes senderSsrc []
    have hmedia : readBE32 d 8 = mediaSsrc := readBE32_bytes mediaSsrc []
    have htarget : readBE32 d 20 = targetSsrc := readBE32_bytes targetSsrc []
    have hmark : ¬ (d.getD (12 + 0) 0 ≠ 0x52 ∨ d.getD (12 + 1) 0 ≠ 0x45 ∨
        d.getD (12 + 2) 0 ≠ 0x4D ∨ d.getD (12 + 3) 0 ≠ 0x42) := by
      show ¬ ((0x52 : UInt8) ≠ 0x52 ∨ (0x45 : UInt8) ≠ 0x45 ∨ (0x4D : UInt8) ≠ 0x4D ∨
        (0x42 : UInt8) ≠ 0x42)
      decide
    have hone : (d.getD (12 + 4) 0).toNat = 1 := rfl
    unfold RTCPHandler.parseRembFeedback
    rw [halone.1]
    dsimp only
    rw [htype, hcount, hsize, hlength, hone, if_neg (by decide), if_neg (by decide), if_neg hmark,
      if_neg (by decide)]
    simp only [hexpField, hmantissaField, hsender, hmedia, List.range_one, List.map_singleton,
      Nat.zero_mul, Nat.add_zero, htarget]
    rfl
  refine ⟨hclient, ?_⟩
  rw [halone.remb, hclient]
  rfl

/-- The bitrate in bits per second that `SendEstimatedRembToPublisher` works
with. -/
def cappedBps (bitrateKbps : UInt32) : UInt32 :=
  min bitrateKbps MediaIngress.kMaxKbpsBeforeOverflow * 1000

/-- The multiplication does not overflow. -/
theorem toNat_cappedBps (bitrateKbps : UInt32) :
    (cappedBps bitrateKbps).toNat = min bitrateKbps.toNat 4294967 * 1000 := by
  have hmin : (min bitrateKbps MediaIngress.kMaxKbpsBeforeOverflow).toNat =
      min bitrateKbps.toNat 4294967 := by
    show (if bitrateKbps ≤ MediaIngress.kMaxKbpsBeforeOverflow then bitrateKbps
      else MediaIngress.kMaxKbpsBeforeOverflow).toNat = _
    have hcap : MediaIngress.kMaxKbpsBeforeOverflow.toNat = 4294967 := rfl
    split
    · rename_i hle
      have hle := UInt32.le_iff_toNat_le.mp hle
      omega
    · rename_i hlt
      have hlt := mt UInt32.le_iff_toNat_le.mpr hlt
      omega
  rw [cappedBps, UInt32.toNat_mul, hmin]
  exact Nat.mod_eq_of_lt (show min bitrateKbps.toNat 4294967 * 1000 < 2 ^ 32 by omega)

/-- What the SFU announces for a bitrate is the bitrate rounded up to a multiple
of the unit of the mantissa, and its own parser reads it back as it was. -/
theorem estimatedRemb_roundTrip (bitrateKbps senderSsrc mediaSsrc targetSsrc : UInt32) :
    (cappedBps bitrateKbps).toNat = min bitrateKbps.toNat 4294967 * 1000 ∧
      match encodeRembBitrate (cappedBps bitrateKbps) with
      | (exp, mantissa) =>
        mantissa.toNat < 2 ^ 18 ∧
          (cappedBps bitrateKbps).toNat ≤ mantissa.toNat * 2 ^ exp.toNat ∧
          mantissa.toNat * 2 ^ exp.toNat < (cappedBps bitrateKbps).toNat + 2 ^ exp.toNat ∧
          ∃ remb, RtcpHandler.parseRembFeedback
              (buildRembPacket senderSsrc mediaSsrc exp mantissa targetSsrc) = [remb] ∧
            remb.bitrateExp = exp ∧ remb.bitrateMantissa = mantissa ∧
            remb.mediaSsrc = mediaSsrc ∧ remb.targetSsrcs = [targetSsrc] := by
  have hbps := toNat_cappedBps bitrateKbps
  obtain ⟨hexp, hmantissa, hle, hlt⟩ :=
    encodeRembBitrate_spec (show (cappedBps bitrateKbps).toNat < 2 ^ 32 - 1 by omega)
  exact ⟨hbps, hmantissa, hle, hlt, _,
    (rembPacket_parses senderSsrc mediaSsrc targetSsrc hexp hmantissa).2, rfl, rfl, rfl, rfl⟩

/-! ## Decoding -/

theorem toNat_decodedBitrate {exp : UInt8} (hexp : exp.toNat < 2 ^ 6) (mantissa : UInt32) :
    (decodedBitrate exp mantissa).toNat =
      min (mantissa.toNat * 2 ^ exp.toNat % 2 ^ 64) (2 ^ 32 - 1) := by
  have hshift : (mantissa.toUInt64 <<< exp.toUInt64).toNat =
      mantissa.toNat * 2 ^ exp.toNat % 2 ^ 64 := by
    rw [UInt64.toNat_shiftLeft, UInt32.toNat_toUInt64, UInt8.toNat_toUInt64, Nat.shiftLeft_eq]
    rw [Nat.mod_eq_of_lt (show exp.toNat < 64 from hexp)]
  rw [decodedBitrate, ← hshift]
  generalize mantissa.toUInt64 <<< exp.toUInt64 = bitrate
  split
  · rename_i hbig
    have hbig : 0xFFFFFFFF < bitrate.toNat := UInt64.lt_iff_toNat_lt.mp hbig
    rw [Nat.min_eq_right (by omega)]
    rfl
  · rename_i hsmall
    have hsmall : ¬ 0xFFFFFFFF < bitrate.toNat := fun h =>
      hsmall (UInt64.lt_iff_toNat_lt.mpr h)
    rw [UInt64.toNat_toUInt32, Nat.mod_eq_of_lt (by omega), Nat.min_eq_left (by omega)]

/-- The shift loses nothing that matters unless it loses every bit that is set. -/
theorem decodedBitrate_iff {exp : UInt8} {mantissa : UInt32} (hexp : exp.toNat < 2 ^ 6)
    (hmantissa : mantissa.toNat < 2 ^ 18) :
    (decodedBitrate exp mantissa).toNat = min (mantissa.toNat * 2 ^ exp.toNat) (2 ^ 32 - 1) ↔
      mantissa.toNat = 0 ∨ ¬ 2 ^ 64 ∣ mantissa.toNat * 2 ^ exp.toNat := by
  rw [toNat_decodedBitrate hexp]
  generalize mantissa.toNat = m at hmantissa
  generalize exp.toNat = e at hexp
  by_cases hfits : m * 2 ^ e < 2 ^ 64
  · rw [Nat.mod_eq_of_lt hfits]
    refine iff_of_true rfl ?_
    by_cases hm : m = 0
    · exact .inl hm
    · exact .inr (Nat.not_dvd_of_pos_of_lt (Nat.mul_pos (by omega) (Nat.two_pow_pos e)) hfits)
  · have hm : m ≠ 0 := by
      rintro rfl
      omega
    rw [Nat.min_eq_right (show 2 ^ 32 - 1 ≤ m * 2 ^ e by omega), or_iff_right hm,
      Nat.dvd_iff_mod_eq_zero]
    constructor
    · intro hsat hzero
      rw [hzero] at hsat
      exact absurd hsat (by decide)
    · intro hne
      -- what is left is a multiple of `2 ^ e`, which is more than the cap
      have hlarge : 2 ^ 46 ≤ 2 ^ e := by
        by_contra hsmall
        have hmul : m * 2 ^ e ≤ 2 ^ 18 * 2 ^ 46 := Nat.mul_le_mul hmantissa.le (by omega)
        omega
      have hdvd : 2 ^ e ∣ m * 2 ^ e % 2 ^ 64 :=
        (Nat.dvd_mod_iff (Nat.pow_dvd_pow 2 (by omega))).mpr (Nat.dvd_mul_left _ _)
      have hle := Nat.le_of_dvd (Nat.pos_of_ne_zero hne) hdvd
      exact Nat.min_eq_right (by omega)

/-- A bitrate that one of the parsers has read, with its fields. -/
inductive ReadBitrate (data : Bytes) : UInt8 → UInt32 → UInt32 → Prop
  | sfu {remb : RtcpRembFeedback} (h : remb ∈ RtcpHandler.parseRembFeedback data) :
    ReadBitrate data remb.bitrateExp remb.bitrateMantissa remb.bitrateBps
  | client {remb : RTCPRembFeedback} (h : RTCPHandler.parseRembFeedback data = some remb) :
    ReadBitrate data remb.bitrateExp remb.bitrateMantissa remb.bitrateBps

/-- The fields that both parsers take out of three bytes. -/
theorem bitrateFields (b5 b6 b7 : UInt8) :
    (b5 >>> 2 &&& 0x3F).toNat < 2 ^ 6 ∧
      ((b5 &&& 0x03).toUInt32 <<< 16 ||| b6.toUInt32 <<< 8 ||| b7.toUInt32).toNat < 2 ^ 18 := by
  constructor
  · rw [UInt8.toNat_and]
    exact (Nat.and_le_right).trans_lt (by decide)
  · have hhigh : (b5 &&& 0x03).toNat < 2 ^ 2 := by
      rw [UInt8.toNat_and]
      exact (Nat.and_le_right).trans_lt (by decide)
    have h6 := b6.toNat_lt
    have h7 := b7.toNat_lt
    rw [toNat_join24]
    omega

theorem readBitrate_eq {data : Bytes} {exp : UInt8} {mantissa bitrateBps : UInt32}
    (h : ReadBitrate data exp mantissa bitrateBps) :
    bitrateBps = decodedBitrate exp mantissa ∧ exp.toNat < 2 ^ 6 ∧ mantissa.toNat < 2 ^ 18 := by
  cases h with
  | sfu h =>
    simp only [RtcpHandler.parseRembFeedback, List.mem_filterMap] at h
    obtain ⟨packet, -, h⟩ := h
    split at h
    · cases h
    · split at h
      · cases h
      · split at h
        · cases h
        · obtain rfl := Option.some.inj h
          exact ⟨rfl, bitrateFields _ _ _⟩
  | client h =>
    simp only [RTCPHandler.parseRembFeedback] at h
    split at h
    · cases h
    · split at h
      · cases h
      · split at h
        · cases h
        · split at h
          · cases h
          · split at h
            · cases h
            · split at h
              · cases h
              · obtain rfl := Option.some.inj h
                exact ⟨rfl, bitrateFields _ _ _⟩

/-- The bitrate is the announced one, up to the largest that fits. -/
def Saturates (exp : UInt8) (mantissa bitrateBps : UInt32) : Prop :=
  bitrateBps.toNat = min (mantissa.toNat * 2 ^ exp.toNat) (2 ^ 32 - 1)

/-- No bit of the mantissa is set, or not all that are set are shifted out of 64
bits. -/
def KeepsABit (exp : UInt8) (mantissa : UInt32) : Prop :=
  mantissa.toNat = 0 ∨ ¬ 2 ^ 64 ∣ mantissa.toNat * 2 ^ exp.toNat

theorem readBitrate_saturates_iff {data : Bytes} {exp : UInt8} {mantissa bitrateBps : UInt32}
    (h : ReadBitrate data exp mantissa bitrateBps) :
    Saturates exp mantissa bitrateBps ↔ KeepsABit exp mantissa := by
  obtain ⟨rfl, hexp, hmantissa⟩ := readBitrate_eq h
  exact decodedBitrate_iff hexp hmantissa

/-- Two bitrates that are read are the announced ones up to the largest that
fits, so that more is never read as less, if and only if neither loses all the
bits of its mantissa. -/
theorem rembBitrate_saturates_iff {data data' : Bytes} {exp exp' : UInt8}
    {mantissa mantissa' bitrateBps bitrateBps' : UInt32}
    (h : ReadBitrate data exp mantissa bitrateBps)
    (h' : ReadBitrate data' exp' mantissa' bitrateBps') :
    (Saturates exp mantissa bitrateBps ∧ Saturates exp' mantissa' bitrateBps' ∧
      (mantissa.toNat * 2 ^ exp.toNat ≤ mantissa'.toNat * 2 ^ exp'.toNat →
        bitrateBps ≤ bitrateBps')) ↔
      KeepsABit exp mantissa ∧ KeepsABit exp' mantissa' := by
  rw [readBitrate_saturates_iff h, readBitrate_saturates_iff h']
  constructor
  · intro ⟨hkeeps, hkeeps', _⟩
    exact ⟨hkeeps, hkeeps'⟩
  · intro ⟨hkeeps, hkeeps'⟩
    refine ⟨hkeeps, hkeeps', fun hle => ?_⟩
    have hsat : bitrateBps.toNat = _ := (readBitrate_saturates_iff h).mpr hkeeps
    have hsat' : bitrateBps'.toNat = _ := (readBitrate_saturates_iff h').mpr hkeeps'
    rw [UInt32.le_iff_toNat_le, hsat, hsat']
    exact min_le_min_right _ hle

/-- 262 kbit/s, and the same mantissa with the largest exponent. -/
theorem rembBitrate_saturates_iff_twoPackets :
    Saturates 0 262143 262143 ∧ Saturates 63 262143 4294967295 ∧
      (262143 * 2 ^ (0 : UInt8).toNat ≤ 262143 * 2 ^ (63 : UInt8).toNat →
        (262143 : UInt32) ≤ 4294967295) := by
  have hsmall := (@rembPacket_parses 1 2 3 0 262143 (by decide) (by decide)).1
  have hlarge := (@rembPacket_parses 1 2 3 63 262143 (by decide) (by decide)).1
  exact (rembBitrate_saturates_iff (.client hsmall) (.client hlarge)).mpr
    ⟨.inr (by decide), .inr (by decide)⟩

/-- The bitrate `2 ^ 64` is read as nothing, by both parsers. -/
theorem hugeBitrate_vanishes :
    let d := buildRembPacket 1 2 63 2 2
    ReadBitrate d 63 2 0 ∧ RtcpHandler.parseRembFeedback d =
        [{ senderSsrc := 1, mediaSsrc := 2, bitrateExp := 63, bitrateMantissa := 2
           bitrateBps := 0, targetSsrcs := [2] }] ∧
      ¬ Saturates 63 2 0 := by
  intro d
  obtain ⟨hclient, hsfu⟩ := @rembPacket_parses 1 2 2 63 2 (by decide) (by decide)
  exact ⟨.client hclient, hsfu, by unfold Saturates; decide⟩

end MeetingSystem.Proof.Media
