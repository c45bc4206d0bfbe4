import MeetingSystem.Framework.Serial
import MeetingSystem.Impl.Client.VideoReceive
import MeetingSystem.Proof.Client.JitterOrder
import MeetingSystem.Proof.Client.LossSafety

/-!
# Retransmitted packets on the receive path

A sequence number that the assembler reports as missing is behind the number it
expects from then on, so the packet is ignored when it comes after all. What the
assembler makes of a frame without one of its packets has fewer bytes than the
frame (`gain` counts what the packets can add), so it is never the whole frame.

* `repaired_never_whole`: a frame with a packet that was reported as missing is
  never emitted whole.
-/

namespace MeetingSystem.Proof.Client

open MeetingSystem.Impl.Client MeetingSystem.Impl.Client.H264AccessUnitAssembler
open MeetingSystem.Framework

/-! ## What a packet can add -/

/-- The bytes in the assembler. -/
def weight (m : H264AccessUnitAssembler) : Nat := m.accessUnit.length + m.fragmentedNalu.length

/-- The most a fragment adds to them: the header at the start of a unit, and
the start code at its end. -/
def fragmentBytes : List UInt8 → Nat
  | [] => 0
  | fuHeader :: fragment =>
    (if fuHeader &&& 0x80 ≠ 0 then 1 else 0) + fragment.length +
      (if fuHeader &&& 0x40 ≠ 0 then 4 else 0)

/-- The most a payload adds: a start code and the unit, or the fragment. -/
def bytesOf : List UInt8 → Nat
  | [] => 0
  | first :: rest =>
    if first &&& 0x1F = 28 then max 1 (fragmentBytes rest) else 5 + rest.length

theorem length_appendCompleteNalu (target data : List UInt8) :
    (appendCompleteNalu target data).length ≤ target.length + 4 + data.length := by
  unfold appendCompleteNalu
  split
  · omega
  · simp only [List.length_append, List.length_cons, List.length_nil]
    omega

theorem addPayload_weight (m : H264AccessUnitAssembler) (first : UInt8) (rest : List UInt8) :
    weight (m.addPayload first rest).1 ≤ weight m + bytesOf (first :: rest) := by
  rw [bytesOf]
  unfold addPayload weight
  by_cases htype : first &&& 0x1F = 28
  · rw [if_pos htype, if_pos htype]
    cases rest with
    | nil => dsimp only; omega
    | cons fuHeader fragment =>
      rw [fragmentBytes]
      dsimp only
      by_cases hs : fuHeader &&& 0x80 ≠ 0
      · rw [if_pos hs, if_neg (List.cons_ne_nil _ _)]
        split
        · have := length_appendCompleteNalu m.accessUnit
            ([(first &&& 0xE0) ||| (fuHeader &&& 0x1F)] ++ fragment)
          simp only [List.length_append, List.length_cons, List.length_nil] at this ⊢
          omega
        · simp only [List.length_append, List.length_cons, List.length_nil]
          omega
      · rw [if_neg hs]
        split
        · dsimp only
          omega
        split
        · have := length_appendCompleteNalu m.accessUnit (m.fragmentedNalu ++ fragment)
          simp only [List.length_append, List.length_nil] at this ⊢
          omega
        · simp only [List.length_append]
          omega
  · rw [if_neg htype, if_neg htype]
    have := length_appendCompleteNalu m.accessUnit (first :: rest)
    rw [List.length_cons] at this
    dsimp only
    split
    · simp only [List.length_nil]
      omega
    · omega

/-- What comes out of the assembler, or stays in it, are bytes it had or the
packet brought. -/
theorem addAndFinish_weight (m : H264AccessUnitAssembler) (p : RTPPacket) (loss : Bool)
    (missing : List UInt16) :
    weight (addAndFinish m p loss missing).1 ≤ weight m + bytesOf p.payload ∧
      ∀ unit, (addAndFinish m p loss missing).2.accessUnit = some unit →
        unit.payload.length ≤ weight m + bytesOf p.payload := by
  unfold addAndFinish
  cases hp : p.payload with
  | nil => exact ⟨by simp, fun unit h => by cases h⟩
  | cons first rest =>
    have hw := addPayload_weight m first rest
    dsimp only
    generalize m.addPayload first rest = r at hw
    obtain ⟨m', ok⟩ := r
    dsimp only at hw ⊢
    cases ok with
    | false => exact ⟨hw, fun unit h => by cases h⟩
    | true =>
      dsimp only
      unfold finish
      split
      · exact ⟨hw, fun unit h => by cases h⟩
      · dsimp only
        split
        · exact ⟨by simp [weight], fun unit h => by cases h⟩
        · refine ⟨by simp [weight], fun unit h => ?_⟩
          obtain rfl := Option.some.inj h
          exact Nat.le_trans (Nat.le_add_right _ _) hw

/-! ## What a frame's packets can add -/

/-- The most a list of payloads adds. -/
def gain : List (List UInt8) → Nat
  | [] => 0
  | payload :: payloads => bytesOf payload + gain payloads

theorem gain_append (ps qs : List (List UInt8)) : gain (ps ++ qs) = gain ps + gain qs := by
  induction ps with
  | nil => simp [gain]
  | cons p ps ih => rw [List.cons_append, gain, gain, ih, Nat.add_assoc]

theorem gain_take_succ {ps : List (List UInt8)} {j : Nat} {payload : List UInt8}
    (h : ps[j]? = some payload) : gain (ps.take (j + 1)) = gain (ps.take j) + bytesOf payload := by
  rw [List.take_add_one, h, gain_append]
  simp [gain]

theorem gain_take_mono (ps : List (List UInt8)) {i j : Nat} (h : i ≤ j) :
    gain (ps.take i) ≤ gain (ps.take j) := by
  obtain ⟨d, rfl⟩ := Nat.exists_eq_add_of_le h
  rw [List.take_add, gain_append]
  omega

theorem bytesOf_pos {payload : List UInt8} (h : payload ≠ []) : 0 < bytesOf payload := by
  obtain ⟨first, rest, rfl⟩ := List.exists_cons_of_ne_nil h
  rw [bytesOf]
  split
  · exact Nat.lt_of_lt_of_le Nat.zero_lt_one (Nat.le_max_left _ _)
  · omega

theorem bytesOf_le (payload : List UInt8) : bytesOf payload ≤ payload.length + 4 := by
  cases payload with
  | nil => simp [bytesOf]
  | cons first rest =>
    rw [bytesOf]
    split
    · cases rest with
      | nil => simp [fragmentBytes]
      | cons fuHeader fragment =>
        rw [fragmentBytes]
        simp only [List.length_cons]
        split <;> split <;> omega
    · simp only [List.length_cons]
      omega

theorem bytesOf_fragment (h : UInt8) (s e : Bool) {chunk : List UInt8} (hc : chunk ≠ []) :
    bytesOf (((h &&& 0xE0) ||| 28) :: fuHeader h s e :: chunk) =
      (if s then 1 else 0) + chunk.length + (if e then 4 else 0) := by
  obtain ⟨hs, he, -⟩ := fuHeader_spec h s e
  have hpos := List.length_pos_of_ne_nil hc
  rw [bytesOf, if_pos (fuIndicator_type h), fragmentBytes]
  simp only [hs, he]
  omega

/-- The fragments of a unit from `offset` on add what is left of it. -/
theorem gain_fuPackets (h : UInt8) (nalu : List UInt8) (fb offset : Nat) (hpos : 1 ≤ offset) :
    gain (fuPackets nalu h fb offset) ≤
      (if offset = 1 then 1 else 0) + (nalu.length - offset) + 4 := by
  induction hm : nalu.length - offset using Nat.strongRecOn generalizing offset with
  | _ m ih =>
    rw [fuPackets]
    split
    · rename_i hlt
      have hne : (nalu.drop offset).take (min fb (nalu.length - offset)) ≠ [] := by
        simp only [ne_eq, List.take_eq_nil_iff, List.drop_eq_nil_iff]
        omega
      have hfrag := bytesOf_fragment h (decide (offset = 1))
        (decide (offset + min fb (nalu.length - offset) ≥ nalu.length)) hne
      simp only [fuHeader, decide_eq_true_eq, List.length_take, List.length_drop] at hfrag
      dsimp only
      rw [gain, hfrag]
      by_cases hlast : offset + min fb (nalu.length - offset) ≥ nalu.length
      · rw [if_pos hlast, fuPackets_done hlast, gain]
        omega
      · rw [if_neg hlast]
        have := ih _ (by omega) (offset + min fb (nalu.length - offset)) (by omega) rfl
        rw [if_neg (show ¬ offset + min fb (nalu.length - offset) = 1 by omega)] at this
        omega
    · simp [gain]

theorem gain_packetizeNalu (max : Nat) (nalu : List UInt8) :
    gain (packetizeNalu max nalu) ≤ nalu.length + 4 := by
  cases nalu with
  | nil => simp [packetizeNalu, gain]
  | cons h rest =>
    simp only [packetizeNalu]
    split
    · have := bytesOf_le (h :: rest)
      simpa [gain] using this
    split
    · split
      · simp [gain]
      · have := gain_fuPackets h (h :: rest) (max - 2) 1 (Nat.le_refl 1)
        simp only [if_true, List.length_cons] at this ⊢
        omega
    · simp [gain]

/-- The packets of a frame add no more than its units with their start codes. -/
theorem gain_flatMap (max : Nat) (nalus : List (List UInt8)) :
    gain (nalus.flatMap (packetizeNalu max)) ≤ (annexB nalus).length := by
  induction nalus with
  | nil => simp [gain]
  | cons nalu nalus ih =>
    have := gain_packetizeNalu max nalu
    rw [List.flatMap_cons, gain_append, annexB_cons]
    simp only [List.length_cons, List.length_append]
    omega

theorem fuPackets_ne_nil {nalu : List UInt8} {h : UInt8} {fb : Nat} (offset : Nat) :
    ∀ p ∈ fuPackets nalu h fb offset, p ≠ [] := by
  induction hm : nalu.length - offset using Nat.strongRecOn generalizing offset with
  | _ m ih =>
    rw [fuPackets]
    split
    · intro p hp
      rcases List.mem_cons.mp hp with rfl | hp
      · exact List.cons_ne_nil _ _
      · exact ih _ (by omega) _ rfl p hp
    · simp

theorem packetizeNalu_ne_nil {max : Nat} (nalu : List UInt8) :
    ∀ p ∈ packetizeNalu max nalu, p ≠ [] := by
  intro p hp
  cases nalu with
  | nil => simp [packetizeNalu] at hp
  | cons h rest =>
    simp only [packetizeNalu] at hp
    split at hp
    · rw [List.mem_singleton.mp hp]
      exact List.cons_ne_nil _ _
    split at hp
    · split at hp
      · simp at hp
      · exact fuPackets_ne_nil 1 p hp
    · simp at hp

/-! ## A frame without one of its packets -/

theorem SentFrame.payload_at {s : SentFrame} {p : RTPPacket} {j : Nat}
    (hj : s.packets[j]? = some p) : s.payloads[j]? = some p.payload := by
  rw [SentFrame.packets, getElem?_rtpPackets, Option.map_eq_some_iff] at hj
  obtain ⟨payload, hp, rfl⟩ := hj
  exact hp

/-- The assembler has taken packet `k` of the frame last, and never packet
`lost`: what it holds comes from the packets between two others. -/
structure Misses (s : SentFrame) (lost : Nat) (m : H264AccessUnitAssembler) (k : Nat) : Prop
    extends Taken s m k where
  progress : m.accessUnitCorrupted = true ∨ k + 1 = s.packets.length ∨
    ∃ i, i ≤ k ∧ ¬ (i ≤ lost ∧ lost ≤ k) ∧
      weight m + gain (s.payloads.take i) ≤ gain (s.payloads.take (k + 1))

/-- Whenever the assembler works on the frame, a packet is missing. -/
def Incomplete (s : SentFrame) (lost : Nat) (m : H264AccessUnitAssembler) : Prop :=
  m.hasTimestamp = true → m.timestamp = s.timestamp → ∃ k, Misses s lost m k

/-- What the packet makes the assembler emit is not the whole frame. -/
def NotWhole (s : SentFrame) (m : H264AccessUnitAssembler) (p : RTPPacket) : Prop :=
  p.header.timestamp = s.timestamp → ∀ unit, (m.consume p).2.accessUnit = some unit →
    unit.payload ≠ annexB (splitAnnexBNalus s.frame.bytes)

/-- The packets from `i` to the last, without an earlier one, fall short of the
frame. -/
theorem short_of_missing {s : SentFrame} {maxPayloadBytes lost i k n : Nat}
    (hpay : s.payloads = packetizeH264AnnexB s.frame.bytes maxPayloadBytes)
    (hlost : lost < s.packets.length) (hk : k + 1 = s.packets.length)
    (hi : ¬ (i ≤ lost ∧ lost ≤ k))
    (hn : n + gain (s.payloads.take i) ≤ gain (s.payloads.take (k + 1))) :
    n < (annexB (splitAnnexBNalus s.frame.bytes)).length := by
  have hlen : s.packets.length = s.payloads.length := length_rtpPackets ..
  obtain ⟨payload, hp⟩ : ∃ payload, s.payloads[lost]? = some payload :=
    ⟨_, List.getElem?_eq_getElem (by omega)⟩
  have hne : payload ≠ [] := by
    have hmem : payload ∈ packetizeH264AnnexB s.frame.bytes maxPayloadBytes := by
      rw [← hpay]
      exact List.mem_of_getElem? hp
    obtain ⟨nalu, -, hmem⟩ := List.mem_flatMap.mp hmem
    exact packetizeNalu_ne_nil nalu payload hmem
  have hpos := bytesOf_pos hne
  have hsucc := gain_take_succ hp
  have hmono := gain_take_mono s.payloads (show lost + 1 ≤ i by omega)
  have htotal : gain s.payloads ≤ (annexB (splitAnnexBNalus s.frame.bytes)).length := by
    rw [hpay]
    exact gain_flatMap maxPayloadBytes _
  rw [hk, hlen, List.take_length] at hn
  omega

variable {maxPayloadBytes : Nat} {s : SentFrame} {lost : Nat}

/-- A packet of the frame that adds to what the assembler holds. -/
theorem misses_add (hpay : s.payloads = packetizeH264AnnexB s.frame.bytes maxPayloadBytes)
    (hlost : lost < s.packets.length) {m m' : H264AccessUnitAssembler} {p : RTPPacket} {i j : Nat}
    {loss : Bool} {missing : List UInt16} (hp : s.packets[j]? = some p) (hm : ClockAt s m' p)
    (he : m.consume p = addAndFinish m' p loss missing) (hij : i ≤ j)
    (hi : ¬ (i ≤ lost ∧ lost ≤ j))
    (hw : weight m' + gain (s.payloads.take i) ≤ gain (s.payloads.take j)) :
    Incomplete s lost (advance m p) ∧ NotWhole s m p := by
  obtain ⟨hweight, hunit⟩ := addAndFinish_weight m' p loss missing
  have hgain := gain_take_succ (SentFrame.payload_at hp)
  refine ⟨fun _ _ => ⟨j, taken_of_clock hp hm he, .inr (.inr ⟨i, hij, hi, ?_⟩)⟩,
    fun _ unit hu hwhole => ?_⟩
  · rw [advance, he]
    omega
  · rw [he] at hu
    have hlast := addAndFinish_marker hu
    rw [(SentFrame.header_at hp).2.2, decide_eq_true_eq] at hlast
    have hshort := short_of_missing (n := unit.payload.length) hpay hlost hlast hi
      (by have := hunit unit hu; omega)
    rw [hwhole] at hshort
    exact Nat.lt_irrefl _ hshort

/-- A packet that leaves the access unit corrupted, or is the last. -/
theorem misses_corrupted {m m' : H264AccessUnitAssembler} {p : RTPPacket} {j : Nat}
    {loss : Bool} {missing : List UInt16} (hp : s.packets[j]? = some p) (hm : ClockAt s m' p)
    (he : m.consume p = addAndFinish m' p loss missing) (hc : m'.accessUnitCorrupted = true) :
    Incomplete s lost (advance m p) ∧ NotWhole s m p := by
  obtain ⟨hnone, hstay⟩ := addAndFinish_corrupted p loss missing hc
  refine ⟨fun _ _ => ⟨j, taken_of_clock hp hm he, ?_⟩, fun _ unit hu => ?_⟩
  · rw [advance, he]
    rcases hstay with hstay | hmark
    · exact .inl hstay
    · rw [(SentFrame.header_at hp).2.2, decide_eq_true_eq] at hmark
      exact .inr (.inl hmark)
  · rw [he, hnone] at hu
    cases hu

/-- A packet that is ignored, or of another frame, changes nothing for this
one. -/
theorem incomplete_other {m m' : H264AccessUnitAssembler} {p : RTPPacket} {loss : Bool}
    {missing : List UInt16} (hts : p.header.timestamp ≠ s.timestamp)
    (hm : m'.timestamp = p.header.timestamp)
    (he : m.consume p = addAndFinish m' p loss missing) :
    Incomplete s lost (advance m p) ∧ NotWhole s m p := by
  refine ⟨fun _ h => ?_, fun h => absurd h hts⟩
  have hc : SameClock m' (advance m p) := by
    rw [advance, he]
    exact addAndFinish_sameClock ..
  exact absurd ((hm.symm.trans hc.1.symm).trans h) hts

/-- As long as one packet of the frame is ignored, or does not come, the frame
is not emitted whole. -/
theorem incomplete_step {sent : List SentFrame}
    (hs : ∀ t ∈ sent, t.timestamp = s.timestamp → t = s)
    (hpay : s.payloads = packetizeH264AnnexB s.frame.bytes maxPayloadBytes)
    (hlen : s.packets.length < 65536) {lostPacket : RTPPacket}
    (hlost : s.packets[lost]? = some lostPacket) {m : H264AccessUnitAssembler} {p : RTPPacket}
    (hp : ∃ t ∈ sent, p ∈ t.packets)
    (hignored : p = lostPacket → m.checkSequence p.header = none) (h : Incomplete s lost m) :
    Incomplete s lost (advance m p) ∧ NotWhole s m p := by
  have hlt := SentFrame.lt_of_at hlost
  obtain ⟨t, ht, hp⟩ := hp
  obtain ⟨j, hj⟩ := List.getElem?_of_mem hp
  have hts := (SentFrame.header_at hj).1
  by_cases hframe : t.timestamp = s.timestamp
  · obtain rfl := hs t ht hframe
    have hne : m.checkSequence p.header ≠ none → j ≠ lost := by
      rintro hnone rfl
      exact hnone (hignored (Option.some.inj (hj.symm.trans hlost)))
    rcases consume_cases m p with ⟨-, he⟩ | ⟨htaken, -, loss, missing, he⟩ |
      ⟨m', loss, missing, hold, hc, hn, he⟩ | ⟨hold, hseq, he⟩
    · refine ⟨by rw [advance, he]; exact h, fun _ unit hu => ?_⟩
      rw [he] at hu
      cases hu
    · have := hne htaken
      exact misses_add (i := j) hpay hlt hj ⟨rfl, hts, rfl, rfl⟩ he (Nat.le_refl j) (by omega)
        (by simp [weight, inFrame])
    · exact misses_corrupted hj ⟨hn.1.trans hold.1, hn.2.1.trans (hold.2.symm.trans hts), hn.2.2⟩
        he hc
    · obtain ⟨k, hk⟩ := h hold.1 (hold.2.symm.trans hts)
      have hjk : j = k + 1 :=
        hk.toTaken.next_index hlen hj (hseq hk.hasExpectedSequence)
      have hclock : ClockAt t (expecting m p.header) p :=
        ⟨hold.1, hold.2.symm.trans hts, rfl, rfl⟩
      rcases hk.progress with hc | hend | ⟨i, hik, hi, hw⟩
      · exact misses_corrupted hj hclock he hc
      · have := SentFrame.lt_of_at hj
        omega
      · have hjl : j ≠ lost := by
          apply hne
          rw [checkSequence_next (hseq hk.hasExpectedSequence)]
          exact Option.some_ne_none _
        rw [← hjk] at hw
        exact misses_add hpay hlt hj hclock he (by omega) (by omega) hw
  · rw [← hts] at hframe
    rcases consume_cases m p with ⟨-, he⟩ | ⟨-, -, loss, missing, he⟩ |
      ⟨m', loss, missing, hold, -, hn, he⟩ | ⟨hold, -, he⟩
    · refine ⟨by rw [advance, he]; exact h, fun h => absurd h hframe⟩
    · exact incomplete_other hframe rfl he
    · exact incomplete_other hframe (hn.2.1.trans hold.2.symm) he
    · have hm : (expecting m p.header).timestamp = p.header.timestamp := hold.2.symm
      exact incomplete_other hframe hm he

/-! ## Numbers reported as missing -/

theorem appendMissingSequences_ahead {sequence actual q : UInt16} {room : Nat}
    (h : q ∈ appendMissingSequences sequence actual room) :
    ahead sequence q < ahead sequence actual := by
  induction room generalizing sequence with
  | zero => cases h
  | succ room ih =>
    rw [appendMissingSequences] at h
    split at h
    · cases h
    · rename_i hne
      have hpos : 0 < ahead sequence actual := by
        by_contra hzero
        exact hne (eq_of_ahead_eq (a := sequence) (by rw [ahead_self]; omega))
      rcases List.mem_cons.mp h with rfl | h
      · rw [ahead_self]
        exact hpos
      · have hlt := ih h
        have hactual := ahead_succ hpos
        by_cases hq : 0 < ahead sequence q
        · have := ahead_succ hq
          omega
        · omega

theorem addAndFinish_missing (m : H264AccessUnitAssembler) (p : RTPPacket) (loss : Bool)
    (missing : List UInt16) : (addAndFinish m p loss missing).2.missingSequences = missing := by
  unfold addAndFinish
  split
  · rfl
  split
  · rfl
  · unfold finish
    split
    · rfl
    · dsimp only
      split <;> rfl

/-- A number that is reported lies between the expected one and the packet's. -/
theorem missing_between {m : H264AccessUnitAssembler} {p : RTPPacket} {q : UInt16}
    (h : q ∈ (m.consume p).2.missingSequences) :
    m.checkSequence p.header ≠ none ∧ SerialLt q p.header.sequenceNumber := by
  cases hc : m.checkSequence p.header with
  | none =>
    rw [consume_ignored hc] at h
    cases h
  | some r =>
    obtain ⟨m', gap, missing⟩ := r
    rw [consume_taken hc, addAndFinish_missing] at h
    refine ⟨Option.some_ne_none _, ?_⟩
    unfold checkSequence at hc
    split at hc
    · rename_i hgap
      split at hc
      · rename_i hforward
        simp only [Option.some.injEq, Prod.mk.injEq] at hc
        obtain ⟨-, -, rfl⟩ := hc
        simp only [isForwardSequenceGap, Bool.and_eq_true, decide_eq_true_eq] at hforward
        exact serialLt_of_ahead (appendMissingSequences_ahead h) hforward.2
      · cases hc
    · simp only [Option.some.injEq, Prod.mk.injEq] at hc
      obtain ⟨-, -, rfl⟩ := hc
      cases h

/-- After a packet that is not ignored, the next number is expected. -/
theorem advance_expected {m : H264AccessUnitAssembler} {p : RTPPacket}
    (h : m.checkSequence p.header ≠ none) :
    (advance m p).hasExpectedSequence = true ∧
      (advance m p).expectedSequence = p.header.sequenceNumber + 1 := by
  have hclock : ∀ m' loss missing, m'.hasExpectedSequence = true →
      m'.expectedSequence = p.header.sequenceNumber + 1 →
      m.consume p = addAndFinish m' p loss missing →
      (advance m p).hasExpectedSequence = true ∧
        (advance m p).expectedSequence = p.header.sequenceNumber + 1 := by
    intro m' loss missing h1 h2 he
    have hc := addAndFinish_sameClock m' p loss missing
    rw [advance, he]
    exact ⟨hc.4.trans h1, hc.3.trans h2⟩
  rcases consume_cases m p with ⟨hnone, -⟩ | ⟨-, -, loss, missing, he⟩ |
    ⟨m', loss, missing, -, -, hn, he⟩ | ⟨-, -, he⟩
  · exact absurd hnone h
  · exact hclock _ _ _ rfl rfl he
  · exact hclock _ _ _ hn.2.2.1 hn.2.2.2 he
  · exact hclock _ _ _ rfl rfl he

/-- The assembler has gone past `q`, within half a turn from `base`. -/
def Past (base q : UInt16) (m : H264AccessUnitAssembler) : Prop :=
  m.hasExpectedSequence = true ∧ ∃ l, m.expectedSequence = l + 1 ∧ ahead base l < 0x8000 ∧
    ahead base q < ahead base l

theorem past_of_report {base q : UInt16} {m : H264AccessUnitAssembler} {p : RTPPacket}
    (h : q ∈ (m.consume p).2.missingSequences) (hq : ahead base q < 0x8000)
    (hp : ahead base p.header.sequenceNumber < 0x8000) : Past base q (advance m p) := by
  obtain ⟨htaken, hlt⟩ := missing_between h
  obtain ⟨h1, h2⟩ := advance_expected htaken
  exact ⟨h1, _, h2, hp, lt_of_serialLt hlt hq⟩

/-- What is not ahead of the expected number is ignored. -/
theorem ignored_of_behind {m : H264AccessUnitAssembler} {header : RTPHeader}
    (hexp : m.hasExpectedSequence = true)
    (h : 0x8000 ≤ ahead m.expectedSequence header.sequenceNumber) :
    m.checkSequence header = none := by
  have hne : header.sequenceNumber ≠ m.expectedSequence := by
    intro e
    rw [e, ahead_self] at h
    omega
  have hforward : isForwardSequenceGap m.expectedSequence header.sequenceNumber = false := by
    have hlt : ¬ header.sequenceNumber - m.expectedSequence < 0x8000 := by
      rw [UInt16.lt_iff_toNat_lt]
      exact Nat.not_lt.mpr h
    simp [isForwardSequenceGap, hlt]
  rw [checkSequence, if_pos ⟨hexp, hne⟩]
  simp [hforward]

theorem Past.ignored {base q : UInt16} {m : H264AccessUnitAssembler} (h : Past base q m)
    {header : RTPHeader} (hq : header.sequenceNumber = q) : m.checkSequence header = none := by
  obtain ⟨hexp, l, hl, hwin, hlt⟩ := h
  apply ignored_of_behind hexp
  rw [hl, hq]
  exact ahead_succ_of_le (Nat.le_of_lt hlt) hwin

theorem Past.advance {base q : UInt16} {m : H264AccessUnitAssembler} (h : Past base q m)
    {p : RTPPacket} (hp : ahead base p.header.sequenceNumber < 0x8000) :
    Past base q (advance m p) := by
  by_cases hnone : m.checkSequence p.header = none
  · rw [Client.advance, consume_ignored hnone]
    exact h
  · obtain ⟨hexp, l, hl, hwin, hlt⟩ := h
    obtain ⟨h1, h2⟩ := advance_expected hnone
    refine ⟨h1, _, h2, hp, ?_⟩
    by_contra hle
    apply hnone
    apply ignored_of_behind hexp
    rw [hl]
    exact ahead_succ_of_le (by omega) hwin

/-! ## The receive path -/

/-- Every packet in the buffer has the property. -/
def Held (b : JitterBuffer) (Q : RTPPacket → Prop) : Prop :=
  ∀ seq p, b.packets.lookup seq = some p → Q p

theorem held_new (config : VideoRecvPipelineConfig) (remoteMediaSsrc : UInt32)
    (Q : RTPPacket → Prop) :
    Held (VideoRecvPeerRuntime.new config remoteMediaSsrc).jitterBuffer Q := by
  intro seq p hl
  have hl : (∅ : AList fun _ : UInt16 => RTPPacket).lookup seq = some p := hl
  rw [AList.lookup_empty] at hl
  cases hl

theorem consumePacket_cases (r : VideoRecvPeerRuntime) (p : RTPPacket) :
    r.consumePacket p = none ∨ r.consumePacket p = some (r.assembler.consume p) := by
  rw [VideoRecvPeerRuntime.consumePacket]
  split
  · exact .inl rfl
  split
  · exact .inl rfl
  · exact .inr rfl

/-- An operation gives a packet of the buffer to the assembler, or leaves it
alone. -/
theorem runtime_cases (r : VideoRecvPeerRuntime) (op : RecvOp) :
    ((r.step op).assembler = r.assembler ∧ r.consumed op = none) ∨
    ∃ seq p, r.jitterBuffer.packets.lookup seq = some p ∧
      (r.step op).assembler = advance r.assembler p ∧
      r.consumed op = some (p, (r.assembler.consume p).2) := by
  cases op with
  | enqueue packet => exact .inl ⟨rfl, rfl⟩
  | configure minBufferedPackets => exact .inl ⟨rfl, rfl⟩
  | popWaitTurn now popNow =>
    have hp := (popWaitTurn_pops r.jitterBuffer now popNow).1
    simp only [VideoRecvPeerRuntime.step, VideoRecvPeerRuntime.consumed]
    generalize r.jitterBuffer.popWaitTurn now popNow = out at hp
    obtain ⟨b, popped⟩ := out
    cases popped with
    | none => exact .inl ⟨rfl, rfl⟩
    | some p =>
      rcases hp with ⟨-, hnone⟩ | ⟨seq, packet, -, hl, hout, -⟩
      · cases hnone
      · obtain rfl := Option.some.inj hout
        have hb : ({ r with jitterBuffer := b } : VideoRecvPeerRuntime).consumePacket p =
            r.consumePacket p := rfl
        simp only [VideoRecvPeerRuntime.processPacket, hb, Option.bind_some]
        rcases consumePacket_cases r p with h | h
        · rw [h]
          exact .inl ⟨rfl, rfl⟩
        · rw [h]
          exact .inr ⟨seq, p, hl, rfl, rfl⟩

theorem held_step {r : VideoRecvPeerRuntime} {Q : RTPPacket → Prop} (h : Held r.jitterBuffer Q)
    {op : RecvOp} (hop : ∀ p, op = .enqueue p → Q p) : Held (r.step op).jitterBuffer Q := by
  intro seq p hl
  cases op with
  | enqueue packet =>
    have hl : (r.jitterBuffer.push packet).packets.lookup seq = some p := hl
    have hl := push_subset hl
    by_cases hs : seq = packet.header.sequenceNumber
    · rw [hs, AList.lookup_insert, Option.some.injEq] at hl
      exact hl ▸ hop packet rfl
    · rw [AList.lookup_insert_ne hs] at hl
      exact h seq p hl
  | configure minBufferedPackets => exact h seq p hl
  | popWaitTurn now popNow =>
    have hb : (r.step (.popWaitTurn now popNow)).jitterBuffer =
        (r.jitterBuffer.popWaitTurn now popNow).1 := by
      simp only [VideoRecvPeerRuntime.step]
      generalize r.jitterBuffer.popWaitTurn now popNow = out
      obtain ⟨b, popped⟩ := out
      cases popped with
      | none => rfl
      | some p =>
        simp only [VideoRecvPeerRuntime.processPacket]
        split <;> rfl
    rw [hb] at hl
    rcases (popWaitTurn_pops r.jitterBuffer now popNow).1 with
      ⟨hsame, -⟩ | ⟨k, packet, -, -, -, hpk, -, -⟩
    · rw [hsame.packets] at hl
      exact h seq p hl
    · rw [hpk] at hl
      exact h seq p (lookup_of_erase hl).2

/-- Nothing the operation makes the assembler emit is the whole frame. -/
def EmitsNotWhole (s : SentFrame) (r : VideoRecvPeerRuntime) (op : RecvOp) : Prop :=
  ∀ p result, r.consumed op = some (p, result) → p.header.timestamp = s.timestamp →
    ∀ unit, result.accessUnit = some unit →
      unit.payload ≠ annexB (splitAnnexBNalus s.frame.bytes)

/-- What holds of the assembler after every packet of a kind holds on the
receive path of such packets. -/
theorem runtime_along {I : H264AccessUnitAssembler → Prop} {Q : RTPPacket → Prop}
    (hstep : ∀ m p, Q p → I m → I (advance m p) ∧ NotWhole s m p) {r : VideoRecvPeerRuntime}
    (hr : I r.assembler ∧ Held r.jitterBuffer Q) {ops : List RecvOp}
    (hops : ∀ p, .enqueue p ∈ ops → Q p) :
    let r' := run VideoRecvPeerRuntime.step r ops
    (I r'.assembler ∧ Held r'.jitterBuffer Q) ∧
      Along VideoRecvPeerRuntime.step (EmitsNotWhole s) r ops := by
  induction ops generalizing r with
  | nil => exact ⟨hr, trivial⟩
  | cons op ops ih =>
    have hheld := held_step hr.2 fun p (hp : op = .enqueue p) => hops p (by simp [hp])
    rcases runtime_cases r op with ⟨hsame, hnone⟩ | ⟨seq, p, hl, hadv, hout⟩
    · have hrest := ih ⟨hsame ▸ hr.1, hheld⟩ fun p hp => hops p (by simp [hp])
      refine ⟨hrest.1, fun p result hc => ?_, hrest.2⟩
      rw [hnone] at hc
      cases hc
    · obtain ⟨hI, hnot⟩ := hstep r.assembler p (hr.2 seq p hl) hr.1
      have hrest := ih ⟨hadv ▸ hI, hheld⟩ fun p hp => hops p (by simp [hp])
      refine ⟨hrest.1, fun p' result hc hts unit hu => ?_, hrest.2⟩
      rw [hout] at hc
      obtain ⟨rfl, rfl⟩ := Prod.mk.inj (Option.some.inj hc)
      exact hnot hts unit hu

/-- A packet that was reported as missing and comes afterwards, with everything
else that is on the way within half of the sequence space, does not complete its
frame: whatever else is delivered, the frame is never emitted whole. -/
theorem repaired_never_whole (maxPayloadBytes : Nat) (seq : UInt16) (frames : List EncodedFrame)
    (hts : (frames.map (·.header.timestamp)).Nodup) (config : VideoRecvPipelineConfig)
    (remoteMediaSsrc : UInt32) (before : List RecvOp) (report : RecvOp) (after : List RecvOp)
    (s : SentFrame) (hs : s ∈ sendFrames maxPayloadBytes seq frames)
    (hlen : s.packets.length < 65536) (lost : RTPPacket) (hlost : lost ∈ s.packets)
    (hsent : ∀ p, .enqueue p ∈ before ++ report :: after →
      ∃ t ∈ sendFrames maxPayloadBytes seq frames, p ∈ t.packets)
    (hnew : .enqueue lost ∉ before) (p : RTPPacket) (result : ConsumeResult)
    (hreport : (run VideoRecvPeerRuntime.step (.new config remoteMediaSsrc) before).consumed
      report = some (p, result))
    (hmissing : lost.header.sequenceNumber ∈ result.missingSequences) (base : UInt16)
    (hwindow : ahead base lost.header.sequenceNumber < 0x8000)
    (hheld : Held (run VideoRecvPeerRuntime.step (.new config remoteMediaSsrc) before).jitterBuffer
      fun p => ahead base p.header.sequenceNumber < 0x8000)
    (hafter : ∀ p, .enqueue p ∈ after → ahead base p.header.sequenceNumber < 0x8000) :
    Along VideoRecvPeerRuntime.step (EmitsNotWhole s) (.new config remoteMediaSsrc)
      (before ++ report :: after) := by
  obtain ⟨i, hi⟩ := List.getElem?_of_mem hlost
  have hframe : ∀ t ∈ sendFrames maxPayloadBytes seq frames, t.timestamp = s.timestamp → t = s := by
    intro t ht h
    exact sendFrames_timestamp_inj hts ht hs h
  have hstep := fun m p => incomplete_step (m := m) (p := p) hframe
    (sendFrames_payloads hs) hlen hi
  -- Until the report the packet has not come at all.
  have hbefore := runtime_along (s := s) (I := Incomplete s i)
    (Q := fun p => (∃ t ∈ sendFrames maxPayloadBytes seq frames, p ∈ t.packets) ∧ p ≠ lost)
    (fun m p hp h => hstep m p hp.1 (fun e => absurd e hp.2) h)
    (r := .new config remoteMediaSsrc)
    ⟨fun h => (by cases h), held_new config remoteMediaSsrc _⟩
    (fun p hp => ⟨hsent p (by simp [hp]), fun e => hnew (e ▸ hp)⟩)
  generalize hr : run VideoRecvPeerRuntime.step (.new config remoteMediaSsrc) before = r at *
  obtain ⟨⟨hinc, hQ⟩, hbeforeAlong⟩ := hbefore
  refine along_append hbeforeAlong ?_
  rw [hr]
  rcases runtime_cases r report with ⟨-, hnone⟩ | ⟨k, p', hl, hadv, hout⟩
  · rw [hnone] at hreport
    cases hreport
  · rw [hout] at hreport
    obtain ⟨rfl, rfl⟩ := Prod.mk.inj (Option.some.inj hreport)
    obtain ⟨hinc', hnot⟩ := hstep r.assembler p' (hQ k p' hl).1
      (fun e => absurd e (hQ k p' hl).2) hinc
    have hpast := past_of_report hmissing hwindow (hheld k p' hl)
    refine ⟨fun p'' result hc ht unit hu => ?_, ?_⟩
    · rw [hout] at hc
      obtain ⟨rfl, rfl⟩ := Prod.mk.inj (Option.some.inj hc)
      exact hnot ht unit hu
    -- From then on it is ignored.
    · refine (runtime_along (I := fun m => Incomplete s i m ∧
          Past base lost.header.sequenceNumber m)
        (Q := fun p => (∃ t ∈ sendFrames maxPayloadBytes seq frames, p ∈ t.packets) ∧
          ahead base p.header.sequenceNumber < 0x8000) ?_ ⟨⟨hadv ▸ hinc', hadv ▸ hpast⟩, ?_⟩
        ?_).2
      · intro m p hp h
        obtain ⟨h1, h2⟩ := hstep m p hp.1 (fun e => h.2.ignored (e ▸ rfl)) h.1
        exact ⟨⟨h1, h.2.advance hp.2⟩, h2⟩
      · refine held_step (Q := fun p => (∃ t ∈ sendFrames maxPayloadBytes seq frames,
          p ∈ t.packets) ∧ ahead base p.header.sequenceNumber < 0x8000)
          (fun k p hl => ⟨(hQ k p hl).1, hheld k p hl⟩) fun p hp => ?_
        rw [hp] at hout
        cases hout
      · exact fun p hp => ⟨hsent p (by simp [hp]), hafter p hp⟩

/-- Two frames of four packets each; the numbers wrap in the first. -/
def fragmentedFrames : List EncodedFrame :=
  [⟨⟨2, false, false, 0, false, 96, 0, 0, 7⟩, sampleFrame⟩,
    ⟨⟨2, false, false, 0, false, 96, 0, 3000, 7⟩, sampleFrame⟩]

def samplePayloads : List (List UInt8) :=
  [[0x67], [0x7C, 0x85, 7], [0x7C, 0x05, 9], [0x7C, 0x45, 11]]

def fragmentedSent : List SentFrame :=
  fragmentedFrames.zipWith (fun frame sequence => ⟨frame, sequence, samplePayloads⟩) [65534, 2]

theorem packetize_sampleFrame : packetizeH264AnnexB sampleFrame 3 = samplePayloads := by
  simp [packetizeH264AnnexB, sampleFrame_nalus, packetizeNalu, fuPackets, samplePayloads]
  decide

theorem sendFrames_fragmentedFrames : sendFrames 3 65534 fragmentedFrames = fragmentedSent := by
  simp [sendFrames, fragmentedFrames, fragmentedSent, packetize_sampleFrame, samplePayloads]

/-- Packet `j` of frame `i`. -/
def fragment (i j : Nat) : RTPPacket :=
  ⟨⟨2, false, false, 0, j == 3, 96, UInt16.ofNat (65534 + 4 * i + j), UInt32.ofNat (3000 * i), 7⟩,
    samplePayloads.getD j []⟩

/-- The first frame comes complete, the second without its second packet; the
buffer waits for it. -/
def gapOps : List RecvOp :=
  [.enqueue (fragment 0 0), .enqueue (fragment 0 1), .enqueue (fragment 0 2),
    .enqueue (fragment 0 3), .configure 3, .popWaitTurn 100 110, .popWaitTurn 120 130,
    .popWaitTurn 140 150, .popWaitTurn 160 170, .enqueue (fragment 1 0), .popWaitTurn 180 190,
    .enqueue (fragment 1 2), .popWaitTurn 200 210]

/-- The missing packet and the last one come, and everything is taken out. -/
def repairOps : List RecvOp :=
  [.enqueue (fragment 1 1), .enqueue (fragment 1 3), .popWaitTurn 30000030 30000040,
    .popWaitTurn 30000050 30000060, .popWaitTurn 60000000 60000010]

/-- The turn at which the wait is over. -/
def reportOp : RecvOp := .popWaitTurn 30000000 30000010

/-- What comes out on the receive path. -/
def emitted (r : VideoRecvPeerRuntime) : List RecvOp → List H264AccessUnit
  | [] => []
  | op :: ops => ((r.consumed op).bind (·.2.accessUnit)).toList ++ emitted (r.step op) ops

def secondFrame : SentFrame :=
  ⟨⟨⟨2, false, false, 0, false, 96, 0, 3000, 7⟩, sampleFrame⟩, 2, samplePayloads⟩

theorem secondFrame_mem : secondFrame ∈ sendFrames 3 65534 fragmentedFrames := by
  rw [sendFrames_fragmentedFrames]
  exact .tail _ (.head _)

/-- The packets among the operations. -/
def enqueued (ops : List RecvOp) : List RTPPacket :=
  ops.filterMap fun op =>
    match op with
    | .enqueue p => some p
    | _ => none

theorem mem_enqueued {p : RTPPacket} {ops : List RecvOp} (h : .enqueue p ∈ ops) :
    p ∈ enqueued ops := List.mem_filterMap.mpr ⟨_, h, rfl⟩

theorem repaired_never_whole_repairOps :
    Along VideoRecvPeerRuntime.step (EmitsNotWhole secondFrame) (.new ⟨97, 96⟩ 7)
      (gapOps ++ reportOp :: repairOps) := by
  have hsent : (enqueued (gapOps ++ reportOp :: repairOps)).all fun p =>
      fragmentedSent.any fun t => p ∈ t.packets := by decide
  have hafter : (enqueued repairOps).all fun p => ahead 0 p.header.sequenceNumber < 0x8000 := by
    decide
  have hheld : (run VideoRecvPeerRuntime.step (.new ⟨97, 96⟩ 7)
      gapOps).jitterBuffer.packets.entries.all
        fun e => ahead 0 e.2.header.sequenceNumber < 0x8000 := by decide
  refine repaired_never_whole 3 65534 fragmentedFrames (by decide) ⟨97, 96⟩ 7 gapOps reportOp
    repairOps secondFrame secondFrame_mem (by decide) (fragment 1 1) (by decide) (fun p hp => ?_)
    (by decide) (fragment 1 2) ⟨none, true, [3]⟩ (by decide) (by decide) 0 (by decide)
    (fun seq p hl => ?_) fun p hp => ?_
  · have := List.all_eq_true.mp hsent p (mem_enqueued hp)
    simp only [List.any_eq_true, decide_eq_true_eq] at this
    rw [sendFrames_fragmentedFrames]
    exact this
  · simpa using List.all_eq_true.mp hheld ⟨seq, p⟩ (mem_entries.mpr hl)
  · simpa using List.all_eq_true.mp hafter p (mem_enqueued hp)

/-- Every packet of the second frame is delivered, the one that was reported as
missing too, and the frame never comes out. -/
theorem repairOps_unrepaired :
    (secondFrame ∈ sendFrames 3 65534 fragmentedFrames ∧
      secondFrame.packets.all fun p => .enqueue p ∈ gapOps ++ reportOp :: repairOps) ∧
    (run VideoRecvPeerRuntime.step (.new ⟨97, 96⟩ 7) gapOps).consumed reportOp =
      some (fragment 1 2, ⟨none, true, [3]⟩) ∧
    emitted (.new ⟨97, 96⟩ 7) (gapOps ++ reportOp :: repairOps) =
      [⟨[0, 0, 0, 1, 0x67, 0, 0, 0, 1, 0x65, 7, 9, 11], 0, 96⟩] :=
  ⟨⟨secondFrame_mem, by decide⟩, by decide, by decide⟩

end MeetingSystem.Proof.Client
