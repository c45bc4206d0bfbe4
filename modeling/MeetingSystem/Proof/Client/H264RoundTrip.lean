import MeetingSystem.Proof.Client.NalUnits

/-!
# A frame through the packetizer and the assembler

While the packets of one frame arrive in order, the assembler's state is
`inFrame`: the units that are complete and the unit that is being put together
from fragments. `Adds` says what one payload does to these two, and
`adds_packetizeNalu` that the packets of a unit, whether one packet or FU-A
fragments, add the unit with a start code before it.

* `h264_roundTrip`: the packets of a frame give one access unit, at the last
  packet, that holds the frame's units.
-/

namespace MeetingSystem.Proof.Client

open MeetingSystem.Impl.Client MeetingSystem.Impl.Client.H264AccessUnitAssembler

/-! ## One payload -/

/-- The assembler between two packets of a frame with timestamp `ts`: `seq` is
expected next, `au` is complete and `frag` is the unit under way. -/
def inFrame (ts : UInt32) (seq : UInt16) (au frag : List UInt8) : H264AccessUnitAssembler :=
  { timestamp := ts, hasTimestamp := true, expectedSequence := seq, hasExpectedSequence := true,
    accessUnitCorrupted := false, accessUnit := au, fragmentedNalu := frag }

/-- The payload takes the complete part and the unit under way from `x` to `y`. -/
def Adds (payload : List UInt8) (x y : List UInt8 × List UInt8) : Prop :=
  ∃ first rest, payload = first :: rest ∧
    ∀ ts seq, (inFrame ts seq x.1 x.2).addPayload first rest = (inFrame ts seq y.1 y.2, true)

/-- The same for the payloads of a list one after another. -/
inductive AddsAll : List (List UInt8) → List UInt8 × List UInt8 → List UInt8 × List UInt8 → Prop
  | nil (x : List UInt8 × List UInt8) : AddsAll [] x x
  | cons {payload : List UInt8} {payloads : List (List UInt8)}
      {x y z : List UInt8 × List UInt8} (h : Adds payload x y) (hs : AddsAll payloads y z) :
      AddsAll (payload :: payloads) x z

theorem AddsAll.append {ps qs : List (List UInt8)} {x y z : List UInt8 × List UInt8}
    (h : AddsAll ps x y) (h' : AddsAll qs y z) : AddsAll (ps ++ qs) x z := by
  induction h with
  | nil => exact h'
  | cons h _ ih => exact .cons h (ih h')

theorem AddsAll.eq_of_nil {x y : List UInt8 × List UInt8} (h : AddsAll [] x y) : x = y := by
  cases h
  rfl

/-- A unit in a packet of its own. -/
theorem adds_single (au : List UInt8) {first : UInt8} {rest : List UInt8}
    (h : first &&& 0x1F ≠ 28) :
    Adds (first :: rest) (au, []) (au ++ [0x00, 0x00, 0x00, 0x01] ++ (first :: rest), []) := by
  refine ⟨first, rest, rfl, fun ts seq => ?_⟩
  simp [addPayload, h, inFrame, appendCompleteNalu]

/-! ## Fragments -/

theorem forall_uint8 {P : UInt8 → Prop} (h : ∀ i : Fin 256, P (UInt8.ofFin i)) (x : UInt8) : P x :=
  h x.toFin

theorem fuIndicator_type (h : UInt8) : ((h &&& 0xE0) ||| 28) &&& 0x1F = 28 :=
  forall_uint8 (P := fun h => ((h &&& 0xE0) ||| 28) &&& 0x1F = 28) (by decide +kernel) h

/-- The FU header of a fragment. -/
def fuHeader (h : UInt8) (s e : Bool) : UInt8 :=
  let base := if s then (h &&& 0x1F) ||| 0x80 else h &&& 0x1F
  if e then base ||| 0x40 else base

theorem fuHeader_spec (h : UInt8) (s e : Bool) :
    (fuHeader h s e &&& 0x80 ≠ 0 ↔ s = true) ∧ (fuHeader h s e &&& 0x40 ≠ 0 ↔ e = true) ∧
      (((h &&& 0xE0) ||| 28) &&& 0xE0) ||| (fuHeader h s e &&& 0x1F) = h := by
  refine forall_uint8 (P := fun h => ∀ s e : Bool,
    (fuHeader h s e &&& 0x80 ≠ 0 ↔ s = true) ∧ (fuHeader h s e &&& 0x40 ≠ 0 ↔ e = true) ∧
      (((h &&& 0xE0) ||| 28) &&& 0xE0) ||| (fuHeader h s e &&& 0x1F) = h) ?_ h s e
  decide +kernel

/-- A fragment extends the unit under way, which a first fragment starts with
the unit's header, and a last fragment completes it. -/
theorem adds_fragment (au frag chunk : List UInt8) (h : UInt8) (s e : Bool)
    (hfrag : s = false → frag ≠ []) :
    let unit := (if s then [h] else frag) ++ chunk
    Adds (((h &&& 0xE0) ||| 28) :: fuHeader h s e :: chunk) (au, frag)
      (if e then (au ++ [0x00, 0x00, 0x00, 0x01] ++ unit, []) else (au, unit)) := by
  obtain ⟨hs, he, hh⟩ := fuHeader_spec h s e
  refine ⟨_, _, rfl, fun ts seq => ?_⟩
  simp only [addPayload, fuIndicator_type, if_true, hs, he, hh, inFrame]
  cases s <;> cases e <;> simp [appendCompleteNalu, hfrag]

theorem fuPackets_done {nalu : List UInt8} {h : UInt8} {fb offset : Nat}
    (hle : nalu.length ≤ offset) : fuPackets nalu h fb offset = [] := by
  rw [fuPackets, if_neg (by omega)]

/-- The fragments of a unit from `offset` on complete it. -/
theorem addsAll_fuPackets (au : List UInt8) (h : UInt8) (rest : List UInt8) {fb : Nat}
    (hfb : 0 < fb) (offset : Nat) (hpos : 1 ≤ offset) (hlt : offset < (h :: rest).length)
    {frag : List UInt8} (hfrag : offset ≠ 1 → frag = (h :: rest).take offset) :
    AddsAll (fuPackets (h :: rest) h fb offset) (au, frag)
      (au ++ [0x00, 0x00, 0x00, 0x01] ++ (h :: rest), []) := by
  induction hm : (h :: rest).length - offset using Nat.strongRecOn generalizing offset frag with
  | _ m ih =>
    generalize hn : h :: rest = n at *
    have hunit : (if decide (offset = 1) then [h] else frag) = n.take offset := by
      by_cases h1 : offset = 1
      · simp [h1, ← hn]
      · simp [h1, hfrag h1]
    have hne : decide (offset = 1) = false → frag ≠ [] := by
      intro h1
      rw [hfrag (by simpa using h1)]
      simp only [ne_eq, List.take_eq_nil_iff, ← hn]
      simp
      omega
    rw [fuPackets, if_pos ⟨hlt, hfb⟩]
    have hadd := adds_fragment au frag ((n.drop offset).take (min fb (n.length - offset))) h
      (decide (offset = 1)) (decide (offset + min fb (n.length - offset) ≥ n.length)) hne
    rw [hunit, ← List.take_add] at hadd
    simp only [fuHeader, decide_eq_true_eq] at hadd
    by_cases hlast : offset + min fb (n.length - offset) ≥ n.length
    · simp only [hlast, if_true, List.take_of_length_le hlast] at hadd ⊢
      rw [fuPackets_done hlast]
      exact .cons hadd (.nil _)
    · simp only [hlast, if_false] at hadd ⊢
      exact .cons hadd (ih _ (by omega) _ (by omega) (by omega) (fun _ => rfl) rfl)

/-- The packets of a unit add it, whichever way it was packetized. -/
theorem addsAll_packetizeNalu (au : List UInt8) {nalu : List UInt8} {max : Nat} (hmax : 3 ≤ max)
    (hne : nalu ≠ []) (htype : ∀ b ∈ nalu.head?, b &&& 0x1F ≠ 28) :
    AddsAll (packetizeNalu max nalu) (au, []) (au ++ [0x00, 0x00, 0x00, 0x01] ++ nalu, []) := by
  obtain ⟨h, rest, rfl⟩ := List.exists_cons_of_ne_nil hne
  simp only [packetizeNalu]
  split
  · exact .cons (adds_single au (htype h rfl)) (.nil _)
  · rename_i hlong
    have hfb : (if max > 2 then max - 2 else 0) = max - 2 := if_pos (by omega)
    rw [hfb, if_neg (by omega)]
    simp only [List.length_cons] at hlong
    exact addsAll_fuPackets au h rest (by omega) 1 (Nat.le_refl 1) (by simp only [List.length_cons]; omega)
      fun hf => absurd rfl hf

/-- The packets of a frame add all its units. -/
theorem addsAll_flatMap (au : List UInt8) {nalus : List (List UInt8)} {max : Nat} (hmax : 3 ≤ max)
    (hne : ∀ n ∈ nalus, n ≠ []) (htype : ∀ n ∈ nalus, ∀ b ∈ n.head?, b &&& 0x1F ≠ 28) :
    AddsAll (nalus.flatMap (packetizeNalu max)) (au, []) (au ++ annexB nalus, []) := by
  induction nalus generalizing au with
  | nil => simpa using AddsAll.nil (au, [])
  | cons n nalus ih =>
    rw [List.flatMap_cons]
    refine (addsAll_packetizeNalu au hmax (hne n (by simp)) (htype n (by simp))).append ?_
    have := ih (au ++ [0x00, 0x00, 0x00, 0x01] ++ n) (fun m hm => hne m (by simp [hm]))
      (fun m hm => htype m (by simp [hm]))
    simpa [annexB_cons] using this

/-! ## Sizes -/

theorem fuPackets_length_le {nalu : List UInt8} {h : UInt8} {fb : Nat} (offset : Nat) :
    ∀ p ∈ fuPackets nalu h fb offset, p.length ≤ fb + 2 := by
  induction hm : nalu.length - offset using Nat.strongRecOn generalizing offset with
  | _ m ih =>
    rw [fuPackets]
    split
    · intro p hp
      rcases List.mem_cons.mp hp with rfl | hp
      · simp only [List.length_cons, List.length_take]
        omega
      · exact ih _ (by omega) _ rfl p hp
    · simp

theorem packetizeNalu_length_le {max : Nat} (nalu : List UInt8) :
    ∀ p ∈ packetizeNalu max nalu, p.length ≤ max := by
  intro p hp
  cases nalu with
  | nil => simp [packetizeNalu] at hp
  | cons h rest =>
    simp only [packetizeNalu] at hp
    split at hp
    · rw [List.mem_singleton.mp hp]
      assumption
    split at hp
    · split at hp
      · simp at hp
      · have := fuPackets_length_le 1 p hp
        omega
    · simp at hp

theorem payload_of_mem_rtpPackets {header : RTPHeader} {seq : UInt16}
    {payloads : List (List UInt8)} {p : RTPPacket} (hp : p ∈ rtpPackets header seq payloads) :
    p.payload ∈ payloads := by
  induction payloads generalizing seq with
  | nil => simp [rtpPackets] at hp
  | cons payload payloads ih =>
    rcases List.mem_cons.mp hp with rfl | hp
    · exact List.mem_cons_self
    · exact List.mem_cons_of_mem _ (ih hp)

theorem length_rtpPackets (header : RTPHeader) (seq : UInt16) (payloads : List (List UInt8)) :
    (rtpPackets header seq payloads).length = payloads.length := by
  induction payloads generalizing seq with
  | nil => rfl
  | cons payload payloads ih => simp [rtpPackets, ih]

/-! ## The packets of a frame -/

/-- What `consume` returns for a packet that completes nothing and loses
nothing. -/
def quiet : ConsumeResult := ⟨none, false, []⟩

/-- A packet that follows the last one, with a payload that fits. -/
theorem consume_inFrame (header : RTPHeader) {payload : List UInt8}
    {x y : List UInt8 × List UInt8} (h : Adds payload x y) :
    (inFrame header.timestamp header.sequenceNumber x.1 x.2).consume ⟨header, payload⟩ =
      (inFrame header.timestamp (header.sequenceNumber + 1) y.1 y.2).finish header false [] := by
  obtain ⟨first, rest, rfl, hadd⟩ := h
  have hadd := hadd header.timestamp (header.sequenceNumber + 1)
  simp only [inFrame] at hadd ⊢
  simp [consume, checkSequence, checkTimestamp, hadd]

/-- A frame's first packet finds the assembler as if it had nothing before. -/
theorem consume_start {m : H264AccessUnitAssembler} (header : RTPHeader) (payload : List UInt8)
    (hexp : m.hasExpectedSequence = true → m.expectedSequence = header.sequenceNumber)
    (hts : m.hasTimestamp = true → header.timestamp ≠ m.timestamp)
    (hau : m.accessUnit = []) (hfrag : m.fragmentedNalu = []) :
    m.consume ⟨header, payload⟩ =
      (inFrame header.timestamp header.sequenceNumber [] []).consume ⟨header, payload⟩ := by
  have hseq : ¬ (m.hasExpectedSequence = true ∧ header.sequenceNumber ≠ m.expectedSequence) :=
    fun h => h.2 (hexp h.1).symm
  have htime : ¬ m.hasTimestamp = true ∨ header.timestamp ≠ m.timestamp := by
    by_cases ht : m.hasTimestamp = true
    · exact .inr (hts ht)
    · exact .inl ht
  simp only [consume, checkSequence, checkTimestamp, if_neg hseq, if_pos htime, hau, hfrag]
  simp [inFrame]

theorem consumeAll_rtpPackets (header : RTPHeader) {payloads : List (List UInt8)}
    {x : List UInt8 × List UInt8} {au : List UInt8} (seq : UInt16) (hps : payloads ≠ [])
    (h : AddsAll payloads x (au, [])) (hau : au ≠ []) :
    ((inFrame header.timestamp seq x.1 x.2).consumeAll (rtpPackets header seq payloads)).2 =
      List.replicate (payloads.length - 1) quiet ++
        [⟨some ⟨au, header.timestamp.toNat, header.payloadType⟩, false, []⟩] := by
  induction payloads generalizing x seq with
  | nil => exact absurd rfl hps
  | cons payload payloads ih =>
    cases h with
    | cons hadd hs =>
      rename_i y
      have hc := consume_inFrame
        { header with marker := payloads.isEmpty, sequenceNumber := seq } hadd
      simp only at hc
      rw [rtpPackets, consumeAll]
      simp only [hc]
      cases payloads with
      | nil =>
        cases hs
        simp [finish, inFrame, hau, rtpPackets, consumeAll]
      | cons p ps =>
        have hfin : ∀ m : H264AccessUnitAssembler,
            m.finish { header with marker := false, sequenceNumber := seq } false [] =
              (m, quiet) := fun m => by simp [finish, quiet]
        simp only [List.isEmpty_cons, hfin]
        rw [ih (seq + 1) (by simp) hs]
        simp [List.replicate_succ]

/-- The packets of a frame, in order and none missing, give exactly one access
unit, at the last packet: the frame's units with a four-byte start code before
each. No loss is reported, no payload is larger than allowed, and the access
unit splits into the same units again. -/
theorem h264_roundTrip (frame : List UInt8) (maxPayloadBytes : Nat) (header : RTPHeader)
    (start : UInt16) (m : H264AccessUnitAssembler)
    (hunits : splitAnnexBNalus frame ≠ [])
    (htype : ∀ nalu ∈ splitAnnexBNalus frame, ∀ b ∈ nalu.head?, b &&& 0x1F ≠ 28)
    (hmax : 3 ≤ maxPayloadBytes)
    (hexp : m.hasExpectedSequence = true → m.expectedSequence = start)
    (hts : m.hasTimestamp = true → header.timestamp ≠ m.timestamp)
    (hau : m.accessUnit = []) (hfrag : m.fragmentedNalu = []) :
    let nalus := splitAnnexBNalus frame
    let packets := rtpPackets header start (packetizeH264AnnexB frame maxPayloadBytes)
    packets ≠ [] ∧
    (m.consumeAll packets).2 =
      List.replicate (packets.length - 1) ⟨none, false, []⟩ ++
        [⟨some ⟨annexB nalus, header.timestamp.toNat, header.payloadType⟩, false, []⟩] ∧
    (∀ p ∈ packets, p.payload.length ≤ maxPayloadBytes) ∧
    splitAnnexBNalus (annexB nalus) = nalus := by
  intro nalus packets
  have hsep := splitAnnexBNalus_separable frame
  have hadds := addsAll_flatMap [] hmax hsep.ne_nil htype
  rw [List.nil_append] at hadds
  have hannex : annexB (splitAnnexBNalus frame) ≠ [] := by
    obtain ⟨n, ns, hn⟩ := List.exists_cons_of_ne_nil hunits
    rw [hn, annexB_cons]
    simp
  have hps : packetizeH264AnnexB frame maxPayloadBytes ≠ [] := by
    intro e
    rw [packetizeH264AnnexB] at e
    rw [e] at hadds
    exact hannex (congrArg Prod.fst hadds.eq_of_nil).symm
  have hrun := consumeAll_rtpPackets header start hps hadds hannex
  have hlen : packets.length = (packetizeH264AnnexB frame maxPayloadBytes).length :=
    length_rtpPackets header start _
  refine ⟨?_, ?_, fun p hp => ?_, splitAnnexBNalus_annexB hsep⟩
  · rw [← List.length_pos_iff, hlen]
    exact List.length_pos_of_ne_nil hps
  · rw [hlen]
    refine Eq.trans ?_ hrun
    obtain ⟨q, qs, hq⟩ := List.exists_cons_of_ne_nil hps
    simp only [packets, hq, rtpPackets, consumeAll]
    rw [consume_start { header with marker := qs.isEmpty, sequenceNumber := start } q
      hexp hts hau hfrag]
  · obtain ⟨n, -, hn⟩ := List.mem_flatMap.mp (payload_of_mem_rtpPackets hp)
    exact packetizeNalu_length_le n p.payload hn

/-- A frame of two units, the second in three fragments, across the wrap of the
sequence number. -/
def sampleFrame : List UInt8 := [0, 0, 1, 0x67, 0, 0, 0, 1, 0x65, 7, 9, 11]

theorem sampleFrame_nalus : splitAnnexBNalus sampleFrame = [[0x67], [0x65, 7, 9, 11]] := by
  have h : splitAnnexBNalus sampleFrame = nalusFrom [0x67, 0, 0, 0, 1, 0x65, 7, 9, 11] := rfl
  rw [h, nalusFrom_some (i := 1) (k := 4) (by decide)]
  simp only [List.drop_succ_cons, List.drop_zero]
  rw [nalusFrom_none (by decide)]
  rfl

theorem sampleFrame_types :
    ∀ nalu ∈ splitAnnexBNalus sampleFrame, ∀ b ∈ nalu.head?, b &&& 0x1F ≠ 28 := by
  rw [sampleFrame_nalus]
  simp only [List.mem_cons, List.not_mem_nil, or_false, forall_eq_or_imp, forall_eq,
    List.head?_cons, Option.mem_def, Option.some.injEq, forall_eq']
  exact ⟨by decide, by decide⟩

theorem h264_roundTrip_sampleFrame :
    let header : RTPHeader := ⟨2, false, false, 0, false, 96, 0, 3000, 7⟩
    let packets := rtpPackets header 65535 (packetizeH264AnnexB sampleFrame 3)
    (H264AccessUnitAssembler.init.consumeAll packets).2 =
      List.replicate (packets.length - 1) ⟨none, false, []⟩ ++
        [⟨some ⟨annexB (splitAnnexBNalus sampleFrame), 3000, 96⟩, false, []⟩] :=
  (h264_roundTrip sampleFrame 3 ⟨2, false, false, 0, false, 96, 0, 3000, 7⟩ 65535 .init
    (by rw [sampleFrame_nalus]; simp) sampleFrame_types (by decide) (by decide) (by decide) rfl
    rfl).2.1

end MeetingSystem.Proof.Client
