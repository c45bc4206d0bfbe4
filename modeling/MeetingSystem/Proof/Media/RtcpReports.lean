import MeetingSystem.Proof.Media.RtcpCodec

/-!
# Sender and receiver reports

What `buildSenderReport` and `buildReceiverReport` of the client write is read
back by the client and by the SFU. `rtcp_agree` puts this together with the
compound packets and the feedback of `RtcpCodec`.
-/

namespace MeetingSystem.Proof.Media

open MeetingSystem.Framework MeetingSystem.Impl.Client MeetingSystem.Impl.Sfu
open RTCPHandler (packetSizeBytes parseHeader parseCompoundPacket readReportBlock readReportBlocks
  reportBlockBytes reportHeader signExtend24 writeBE64)

variable {data : Bytes}

/-! ## The signed field -/

theorem toInt_toInt32 (v : UInt32) :
    v.toInt32.toInt = if v.toNat < 2 ^ 31 then (v.toNat : Int) else v.toNat - 2 ^ 32 := by
  show v.toBitVec.toInt = _
  rw [BitVec.toInt_eq_toNat_cond]
  show (if 2 * v.toNat < 2 ^ 32 then (v.toNat : Int) else v.toNat - 2 ^ 32) = _
  split <;> split <;> omega

/-- The sign bit is tested, and then set in the upper byte. -/
theorem toInt_signExtend24 {v : UInt32} (hv : v.toNat < 2 ^ 24) :
    (signExtend24 v).toInt = if v.toNat < 2 ^ 23 then (v.toNat : Int) else v.toNat - 2 ^ 24 := by
  have hand : (v &&& 0x00800000).toNat = (v.toNat.testBit 23).toNat * 2 ^ 23 := by
    rw [UInt32.toNat_and]
    exact Nat.and_two_pow v.toNat 23
  rw [signExtend24]
  by_cases h : v.toNat < 2 ^ 23
  · rw [Nat.testBit_lt_two_pow h] at hand
    have hzero : v &&& 0x00800000 = 0 := UInt32.toNat_inj.mp hand
    rw [if_neg (not_not.mpr hzero), if_pos h, toInt_toInt32, if_pos (by omega)]
  · rw [Nat.testBit_of_two_pow_le_and_two_pow_add_one_gt (by omega) (by omega)] at hand
    have hset : v &&& 0x00800000 ≠ 0 := by
      intro hzero
      rw [hzero] at hand
      exact absurd hand (by decide)
    have hor : (v ||| 0xFF000000).toNat = 255 * 2 ^ 24 + v.toNat := by
      rw [UInt32.toNat_or, Nat.or_comm]
      exact or_shiftLeft (a := 255) hv
    rw [if_pos hset, if_neg h, toInt_toInt32, hor, if_neg (by omega)]
    push_cast
    omega

theorem readS24_eq (data : Bytes) (p : Nat) :
    readS24 data p = (signExtend24 ((data.getD p 0).toUInt32 <<< 16 |||
      (data.getD (p + 1) 0).toUInt32 <<< 8 ||| (data.getD (p + 2) 0).toUInt32)).toInt := by
  unfold readS24
  generalize data.getD p 0 = a
  generalize data.getD (p + 1) 0 = b
  generalize data.getD (p + 2) 0 = c
  have hjoin := toNat_join24 a b c
  have ha := a.toNat_lt
  have hb := b.toNat_lt
  have hc := c.toNat_lt
  have hlt : (a.toUInt32 <<< 16 ||| b.toUInt32 <<< 8 ||| c.toUInt32).toNat < 2 ^ 24 := by omega
  rw [toInt_signExtend24 hlt, hjoin]
  dsimp only
  split <;> split <;> omega

/-- The field has room for the losses from `-2 ^ 23` on below `2 ^ 23`. -/
theorem signExtend24_lost {c : Int32} (hlo : -2 ^ 23 ≤ c.toInt) (hhi : c.toInt < 2 ^ 23) :
    (c.toUInt32 &&& 0x00FFFFFF).toNat < 2 ^ 24 ∧ signExtend24 (c.toUInt32 &&& 0x00FFFFFF) = c := by
  have hand : (c.toUInt32 &&& 0x00FFFFFF).toNat = c.toUInt32.toNat % 2 ^ 24 := by
    rw [UInt32.toNat_and]
    exact Nat.and_two_pow_sub_one_eq_mod c.toUInt32.toNat 24
  have hlt : (c.toUInt32 &&& 0x00FFFFFF).toNat < 2 ^ 24 := by omega
  have hc := toInt_toInt32 c.toUInt32
  rw [Int32.toInt32_toUInt32] at hc
  refine ⟨hlt, Int32.toInt_inj.mp ?_⟩
  rw [toInt_signExtend24 hlt, hand]
  have hu := c.toUInt32.toNat_lt
  split at hc <;> split <;> omega

/-! ## Report blocks -/

/-- The losses of a block fit in its field. -/
def LossFits (block : RTCPReportBlock) : Prop :=
  -2 ^ 23 ≤ block.cumulativeLost.toInt ∧ block.cumulativeLost.toInt < 2 ^ 23

instance (block : RTCPReportBlock) : Decidable (LossFits block) :=
  inferInstanceAs (Decidable (_ ∧ _))

/-- A report block as the SFU reports it. -/
def reception (packetType : RtcpType) (reporterSsrc : UInt32) (block : RTCPReportBlock) :
    RtcpReceptionReport :=
  { packetType, reporterSsrc
    sourceSsrc := block.sourceSsrc
    fractionLost := block.fractionLost
    cumulativeLost := block.cumulativeLost.toInt
    highestSeq := block.highestSeq
    jitter := block.jitter
    lastSenderReport := block.lastSenderReport
    delaySinceLastSenderReport := block.delaySinceLastSenderReport }

theorem length_reportBlockBytes (block : RTCPReportBlock) : (reportBlockBytes block).length = 24 :=
  rfl

theorem readReportBlock_drop (data : Bytes) (p : Nat) :
    readReportBlock data p = readReportBlock (data.drop p) 0 := by
  simp only [readReportBlock, readBE32, getD_drop, Nat.add_assoc, Nat.zero_add, Nat.add_zero]

theorem readReportBlock_bytes {block : RTCPReportBlock} (h : LossFits block) (rest : Bytes) :
    readReportBlock (reportBlockBytes block ++ rest) 0 = block := by
  obtain ⟨hlt, hlost⟩ := signExtend24_lost h.1 h.2
  simp only [readReportBlock, reportBlockBytes, readBE32, writeBE32, toUInt8_and32,
    List.cons_append, List.nil_append, List.getD_cons_zero, List.getD_cons_succ, Nat.reduceAdd,
    Nat.zero_add, join32_bytes, join24_bytes hlt, hlost]

/-- The blocks that stand at `p` are read back. -/
theorem readReportBlocks_bytes {blocks : List RTCPReportBlock} (hfit : ∀ b ∈ blocks, LossFits b)
    {packetBytes p : Nat} (hdrop : data.drop p = blocks.flatMap reportBlockBytes)
    (hroom : p + blocks.length * 24 ≤ packetBytes) :
    readReportBlocks data packetBytes blocks.length p = some blocks := by
  induction blocks generalizing p with
  | nil => rfl
  | cons block blocks ih =>
    rw [List.length_cons] at hroom ⊢
    rw [List.flatMap_cons] at hdrop
    have hnext : data.drop (p + 24) = blocks.flatMap reportBlockBytes := by
      rw [← List.drop_drop, hdrop]
      rfl
    rw [readReportBlocks, if_neg (by omega),
      ih (fun b hb => hfit b (List.mem_cons_of_mem _ hb)) hnext (by omega), readReportBlock_drop,
      hdrop, readReportBlock_bytes (hfit block List.mem_cons_self)]
    rfl

/-- Where the client takes all blocks, the SFU takes the same ones. -/
theorem reportBlocks_eq {packet : RtcpPacketSummary} {n p : Nat} {blocks : List RTCPReportBlock}
    (h : readReportBlocks data (packet.offset + packet.packetSize) n p = some blocks)
    (hlen : packet.offset + packet.packetSize ≤ data.length) :
    RtcpHandler.reportBlocks data packet n p =
      blocks.map (reception packet.type packet.senderSsrc) := by
  induction n generalizing p blocks with
  | zero =>
    obtain rfl := Option.some.inj h
    rfl
  | succ n ih =>
    rw [readReportBlocks] at h
    split at h
    · cases h
    · rename_i hroom
      obtain ⟨rest, hrest, rfl⟩ := Option.map_eq_some_iff.mp h
      rw [RtcpHandler.reportBlocks, if_neg (by omega), ih hrest, readS24_eq]
      rfl

/-! ## The header of a report -/

/-- The count is in the low bits of the first byte. -/
theorem countByte {n : Nat} (h : n ≤ 31) :
    ((2 : UInt8) <<< 6 ||| (n.toUInt8 &&& 0x1F)) >>> 6 &&& 0x03 = 2 ∧
      (((2 : UInt8) <<< 6 ||| (n.toUInt8 &&& 0x1F)) &&& 0x1F).toNat = n := by
  have hall : ∀ i : Fin 32, ((2 : UInt8) <<< 6 ||| (i.val.toUInt8 &&& 0x1F)) >>> 6 &&& 0x03 = 2 ∧
      (((2 : UInt8) <<< 6 ||| (i.val.toUInt8 &&& 0x1F)) &&& 0x1F).toNat = i.val := by
    decide
  exact hall ⟨n, by omega⟩

/-- A report is one packet, with its type and its count. -/
theorem alone_report {n k : Nat} (hn : n ≤ 31) (hk : k < 2 ^ 16) (pt : UInt8) {rest : Bytes}
    (hrest : rest.length = k * 4) :
    ∃ header, Alone (reportHeader n pt (4 + k * 4) ++ rest) header ∧
      header.packetType = pt ∧ header.countOrFormat.toNat = n := by
  obtain ⟨hv, hc⟩ := countByte hn
  have hwords : ((4 + k * 4) / 4 - 1).toUInt16.toNat = k := by
    rw [show (4 + k * 4) / 4 - 1 = k by omega]
    exact UInt16.toNat_ofNat_of_lt' hk
  have hsize : packetSizeBytes (rtcpHeader (reportHeader n pt (4 + k * 4) ++ rest)) =
      4 + k * 4 := by
    simp only [packetSizeBytes, rtcpHeader, reportHeader, readBE16, writeBE16, toUInt8_and16,
      List.cons_append, List.nil_append, List.getD_cons_zero, List.getD_cons_succ, Nat.reduceAdd,
      join16_bytes, hwords]
    omega
  have hlen : (reportHeader n pt (4 + k * 4) ++ rest).length = 4 + k * 4 := by
    rw [List.length_append, hrest]
    rfl
  refine ⟨rtcpHeader (reportHeader n pt (4 + k * 4) ++ rest), ⟨?_, by rw [hsize, hlen]⟩, rfl, hc⟩
  exact parseHeader_eq_some.mpr ⟨rfl, by omega, hv, by omega⟩

/-! ## What the client accepts, the SFU reads the same way -/

variable {d : Bytes} {header : RTCPHeader}

def sfuSender (r : RTCPSenderReport) : RtcpSenderReport :=
  { senderSsrc := r.senderSsrc, ntpTimestamp := r.ntpTimestamp, rtpTimestamp := r.rtpTimestamp,
    packetCount := r.packetCount, octetCount := r.octetCount }

/-- The report blocks of one packet that the client has read. -/
theorem Alone.receptionReports (h : Alone d header) {type : RtcpType} {headerSize : Nat}
    (htype : toRtcpType header.packetType = type) (hrep : type = .rr ∨ type = .sr)
    (hsize : headerSize = if type = .sr then 28 else 8) (hle : headerSize ≤ packetSizeBytes header)
    {blocks : List RTCPReportBlock}
    (hblocks : readReportBlocks d (packetSizeBytes header) header.countOrFormat.toNat headerSize =
      some blocks) :
    RtcpHandler.parseReceptionReports d = blocks.map (reception type (readU32 d 4)) := by
  have h8 : 8 ≤ packetSizeBytes header := by
    split at hsize <;> omega
  have hty : (summaryOf d 0 header).type = type := htype
  have hssrc : (summaryOf d 0 header).senderSsrc = readU32 d 4 := if_pos h8
  have hend : (summaryOf d 0 header).offset + (summaryOf d 0 header).packetSize =
      packetSizeBytes header := Nat.zero_add _
  have hread := reportBlocks_eq (by rw [hend]; exact hblocks) (by rw [hend, h.2])
  rw [hty, hssrc] at hread
  rw [RtcpHandler.parseReceptionReports, h.parseCompound, List.flatMap_singleton, hty,
    if_neg (by tauto)]
  dsimp only
  rw [← hsize, if_neg (show ¬ (summaryOf d 0 header).packetSize < headerSize from Nat.not_lt.mpr hle),
    show (summaryOf d 0 header).offset + headerSize = headerSize from Nat.zero_add _]
  exact hread

theorem Alone.senderReport (h : Alone d header) {r : RTCPSenderReport}
    (hr : RTCPHandler.parseSenderReport d = some r) :
    RtcpHandler.parseSenderReports d = [sfuSender r] ∧
      RtcpHandler.parseReceptionReports d = r.reportBlocks.map (reception .sr r.senderSsrc) := by
  have hlen := h.2
  rw [RTCPHandler.parseSenderReport, h.1] at hr
  dsimp only at hr
  split at hr
  · cases hr
  · rename_i htype
    split at hr
    · cases hr
    · rename_i hsize
      obtain ⟨blocks, hblocks, rfl⟩ := Option.map_eq_some_iff.mp hr
      have hpt : header.packetType = 200 := by
        simpa only [RTCPHandler.isSenderReport, decide_eq_true_eq, not_not] using htype
      have hsr : toRtcpType header.packetType = .sr := toRtcpType_eq.1.mpr hpt
      refine ⟨?_, h.receptionReports hsr (.inr rfl) (show 28 = _ from rfl) (by omega) hblocks⟩
      rw [RtcpHandler.parseSenderReports, h.parseCompound, filterMap_one, if_neg]
      · rfl
      · rw [not_or, not_or]
        exact ⟨not_not.mpr hsr, not_lt.mpr (show 28 ≤ packetSizeBytes header by omega),
          not_lt.mpr (show 0 + 28 ≤ d.length by omega)⟩

theorem Alone.receiverReport (h : Alone d header) {r : RTCPReceiverReport}
    (hr : RTCPHandler.parseReceiverReport d = some r) :
    RtcpHandler.parseSenderReports d = [] ∧
      RtcpHandler.parseReceptionReports d = r.reportBlocks.map (reception .rr r.receiverSsrc) := by
  have hlen := h.2
  rw [RTCPHandler.parseReceiverReport, h.1] at hr
  dsimp only at hr
  split at hr
  · cases hr
  · rename_i htype
    split at hr
    · cases hr
    · rename_i hsize
      obtain ⟨blocks, hblocks, rfl⟩ := Option.map_eq_some_iff.mp hr
      have hpt : header.packetType = 201 := by
        simpa only [RTCPHandler.isReceiverReport, decide_eq_true_eq, not_not] using htype
      have hrr : toRtcpType header.packetType = .rr := toRtcpType_eq.2.1.mpr hpt
      refine ⟨?_, h.receptionReports hrr (.inl rfl) (show 8 = _ from rfl) (by omega) hblocks⟩
      rw [RtcpHandler.parseSenderReports, h.parseCompound, filterMap_one, if_pos]
      · rfl
      · refine .inl ?_
        rw [show (summaryOf d 0 header).type = .rr from hrr]
        decide

/-! ## Reports are read back -/

theorem length_flatMap_reportBlockBytes (blocks : List RTCPReportBlock) :
    (blocks.flatMap reportBlockBytes).length = blocks.length * 24 := by
  induction blocks with
  | nil => rfl
  | cons block blocks ih =>
    rw [List.flatMap_cons, List.length_append, ih, length_reportBlockBytes, List.length_cons]
    omega

/-- The timestamp is written as its two halves. -/
theorem writeBE64_eq (v : UInt64) :
    writeBE64 v = writeBE32 (v >>> 32).toUInt32 ++ writeBE32 v.toUInt32 := by
  simp only [writeBE64, writeBE32, toUInt8_and64, toUInt8_and32, List.cons_append, List.nil_append,
    List.cons.injEq, and_true, ← UInt8.toNat_inj, UInt64.toNat_toUInt8, UInt32.toNat_toUInt8,
    UInt64.toNat_shiftRight, UInt32.toNat_shiftRight, UInt64.toNat_toUInt32,
    Nat.shiftRight_eq_div_pow, UInt64.toNat_ofNat, UInt32.toNat_ofNat, Nat.reducePow,
    Nat.reduceMod]
  omega

/-- A sender report after its first four bytes. -/
def senderBody (r : RTCPSenderReport) : Bytes :=
  writeBE32 r.senderSsrc ++ writeBE32 (r.ntpTimestamp >>> 32).toUInt32 ++
    writeBE32 r.ntpTimestamp.toUInt32 ++ writeBE32 r.rtpTimestamp ++ writeBE32 r.packetCount ++
    writeBE32 r.octetCount ++ r.reportBlocks.flatMap reportBlockBytes

theorem length_senderBody (r : RTCPSenderReport) :
    (senderBody r).length = (6 + r.reportBlocks.length * 6) * 4 := by
  simp only [senderBody, List.length_append, length_flatMap_reportBlockBytes, writeBE32,
    List.length_cons, List.length_nil]
  omega

theorem buildSenderReport_eq {r : RTCPSenderReport} (hn : r.reportBlocks.length ≤ 31) :
    RTCPHandler.buildSenderReport r =
      reportHeader r.reportBlocks.length 200 (4 + (6 + r.reportBlocks.length * 6) * 4) ++
        senderBody r := by
  rw [RTCPHandler.buildSenderReport, if_neg (by omega)]
  simp only [senderBody, writeBE64_eq, List.append_assoc]
  rw [show 28 + r.reportBlocks.length * 24 = 4 + (6 + r.reportBlocks.length * 6) * 4 by omega]

theorem parse_buildSenderReport {r : RTCPSenderReport} (hn : r.reportBlocks.length ≤ 31)
    (hfit : ∀ b ∈ r.reportBlocks, LossFits b) :
    RTCPHandler.parseSenderReport (RTCPHandler.buildSenderReport r) = some r ∧
      RtcpHandler.parseSenderReports (RTCPHandler.buildSenderReport r) = [sfuSender r] ∧
      RtcpHandler.parseReceptionReports (RTCPHandler.buildSenderReport r) =
        r.reportBlocks.map (reception .sr r.senderSsrc) := by
  rw [buildSenderReport_eq hn]
  obtain ⟨header, halone, hpt, hcount⟩ := alone_report hn
    (show 6 + r.reportBlocks.length * 6 < 2 ^ 16 by omega) 200 (length_senderBody r)
  refine (fun hparse => ⟨hparse, halone.senderReport hparse⟩) ?_
  have hsize : packetSizeBytes header = 4 + (6 + r.reportBlocks.length * 6) * 4 := by
    rw [halone.2, List.length_append, length_senderBody]
    rfl
  have hblocks := readReportBlocks_bytes hfit
    (show (reportHeader r.reportBlocks.length 200 (4 + (6 + r.reportBlocks.length * 6) * 4) ++
      senderBody r).drop 28 = _ from rfl)
    (show 28 + r.reportBlocks.length * 24 ≤ packetSizeBytes header by omega)
  rw [RTCPHandler.parseSenderReport, halone.1]
  dsimp only
  rw [if_neg (by simp [RTCPHandler.isSenderReport, hpt]),
    if_neg (by rw [← halone.2]; omega), hcount, hblocks]
  simp only [Option.map_some, reportHeader, senderBody, writeBE16, writeBE32, readBE32,
    toUInt8_and16, toUInt8_and32, List.cons_append, List.nil_append, List.getD_cons_zero,
    List.getD_cons_succ, Nat.reduceAdd, join32_bytes, join64_halves]

/-- A receiver report after its first four bytes. -/
def receiverBody (r : RTCPReceiverReport) : Bytes :=
  writeBE32 r.receiverSsrc ++ r.reportBlocks.flatMap reportBlockBytes

theorem length_receiverBody (r : RTCPReceiverReport) :
    (receiverBody r).length = (1 + r.reportBlocks.length * 6) * 4 := by
  simp only [receiverBody, List.length_append, length_flatMap_reportBlockBytes, writeBE32,
    List.length_cons, List.length_nil]
  omega

theorem buildReceiverReport_eq {r : RTCPReceiverReport} (hn : r.reportBlocks.length ≤ 31) :
    RTCPHandler.buildReceiverReport r =
      reportHeader r.reportBlocks.length 201 (4 + (1 + r.reportBlocks.length * 6) * 4) ++
        receiverBody r := by
  rw [RTCPHandler.buildReceiverReport, if_neg (by omega)]
  simp only [receiverBody, List.append_assoc]
  rw [show 8 + r.reportBlocks.length * 24 = 4 + (1 + r.reportBlocks.length * 6) * 4 by omega]

theorem parse_buildReceiverReport {r : RTCPReceiverReport} (hn : r.reportBlocks.length ≤ 31)
    (hfit : ∀ b ∈ r.reportBlocks, LossFits b) :
    RTCPHandler.parseReceiverReport (RTCPHandler.buildReceiverReport r) = some r ∧
      RtcpHandler.parseSenderReports (RTCPHandler.buildReceiverReport r) = [] ∧
      RtcpHandler.parseReceptionReports (RTCPHandler.buildReceiverReport r) =
        r.reportBlocks.map (reception .rr r.receiverSsrc) := by
  rw [buildReceiverReport_eq hn]
  obtain ⟨header, halone, hpt, hcount⟩ := alone_report hn
    (show 1 + r.reportBlocks.length * 6 < 2 ^ 16 by omega) 201 (length_receiverBody r)
  refine (fun hparse => ⟨hparse, halone.receiverReport hparse⟩) ?_
  have hsize : packetSizeBytes header = 4 + (1 + r.reportBlocks.length * 6) * 4 := by
    rw [halone.2, List.length_append, length_receiverBody]
    rfl
  have hblocks := readReportBlocks_bytes hfit
    (show (reportHeader r.reportBlocks.length 201 (4 + (1 + r.reportBlocks.length * 6) * 4) ++
      receiverBody r).drop 8 = _ from rfl)
    (show 8 + r.reportBlocks.length * 24 ≤ packetSizeBytes header by omega)
  rw [RTCPHandler.parseReceiverReport, halone.1]
  dsimp only
  rw [if_neg (by simp [RTCPHandler.isReceiverReport, hpt]),
    if_neg (by rw [← halone.2]; omega), hcount, hblocks]
  simp only [Option.map_some, reportHeader, receiverBody, writeBE16, writeBE32, readBE32,
    toUInt8_and16, toUInt8_and32, List.cons_append, List.nil_append, List.getD_cons_zero,
    List.getD_cons_succ, Nat.reduceAdd, join32_bytes]

/-! ## The two codecs -/

/-- The client and the SFU cut a compound packet into the same packets and read
the same feedback from each of them, and both read a report as it was built. -/
theorem rtcp_agree :
    (∀ data : Bytes,
      ((parseCompoundPacket data).isSome = true ↔
        RtcpHandler.parseCompound data ≠ [] ∧
          ((RtcpHandler.parseCompound data).map (·.packetSize)).sum = data.length) ∧
      ∀ slices, parseCompoundPacket data = some slices →
        slices.map (fun s => (toRtcpType s.header.packetType, s.header.countOrFormat,
            s.header.lengthWords, s.offset, s.size)) =
          (RtcpHandler.parseCompound data).map (fun p =>
            (p.type, p.fmt, p.lengthWords, p.offset, p.packetSize)) ∧
        ∀ s ∈ slices,
          let d := (data.drop s.offset).take s.size
          RtcpHandler.parseNackFeedback d =
            ((RTCPHandler.parseNackFeedback d).map sfuNack).toList ∧
          RtcpHandler.parsePliFeedback d =
            ((RTCPHandler.parsePliFeedback d).map sfuPli).toList ∧
          RtcpHandler.parseRembFeedback d =
            ((RTCPHandler.parseRembFeedback d).map sfuRemb).toList) ∧
    (∀ r : RTCPSenderReport, r.reportBlocks.length ≤ 31 → (∀ b ∈ r.reportBlocks, LossFits b) →
      RTCPHandler.parseSenderReport (RTCPHandler.buildSenderReport r) = some r ∧
      RtcpHandler.parseSenderReports (RTCPHandler.buildSenderReport r) = [sfuSender r] ∧
      RtcpHandler.parseReceptionReports (RTCPHandler.buildSenderReport r) =
        r.reportBlocks.map (reception .sr r.senderSsrc)) ∧
    ∀ r : RTCPReceiverReport, r.reportBlocks.length ≤ 31 → (∀ b ∈ r.reportBlocks, LossFits b) →
      RTCPHandler.parseReceiverReport (RTCPHandler.buildReceiverReport r) = some r ∧
      RtcpHandler.parseSenderReports (RTCPHandler.buildReceiverReport r) = [] ∧
      RtcpHandler.parseReceptionReports (RTCPHandler.buildReceiverReport r) =
        r.reportBlocks.map (reception .rr r.receiverSsrc) := by
  refine ⟨fun data => ⟨parseCompoundPacket_isSome data, ?_⟩,
    fun r hn hfit => parse_buildSenderReport hn hfit,
    fun r hn hfit => parse_buildReceiverReport hn hfit⟩
  intro slices h
  obtain ⟨hc, -, hall⟩ := slicesFrom_some (parseCompoundPacket_eq_some.mp h).1 (Nat.zero_le _)
  constructor
  · rw [RtcpHandler.parseCompound, hc, List.map_map]
    refine List.map_congr_left fun s hs => ?_
    rw [(hall s hs).2]
    rfl
  · intro s hs d
    have halone := (hall s hs).alone
    exact ⟨halone.nack, halone.pli, halone.remb⟩

/-- A lossy stream in both reports, and a compound packet of one NACK. -/
def lossyBlock : RTCPReportBlock :=
  { sourceSsrc := 0x0A0B0C0D, fractionLost := 5, cumulativeLost := -2, highestSeq := 0x12345678,
    jitter := 9, lastSenderReport := 0x01020304, delaySinceLastSenderReport := 0x05060708 }

def lossySender : RTCPSenderReport :=
  { senderSsrc := 0x01020304, ntpTimestamp := 0x1111222233334444, rtpTimestamp := 0x55556666,
    packetCount := 42, octetCount := 2048, reportBlocks := [lossyBlock] }

def nackPacket : Bytes :=
  [0x81, 0xCD, 0x00, 0x03, 0x22, 0x22, 0x22, 0x22, 0x11, 0x11, 0x11, 0x11, 0x10, 0x00, 0x00, 0x05]

theorem rtcp_agree_lossy :
    RTCPHandler.parseSenderReport (RTCPHandler.buildSenderReport lossySender) = some lossySender ∧
    RTCPHandler.parseReceiverReport (RTCPHandler.buildReceiverReport ⟨7, [lossyBlock]⟩) =
      some ⟨7, [lossyBlock]⟩ ∧
    RtcpHandler.parseNackFeedback nackPacket =
      [⟨0x22222222, 0x11111111, [0x1000, 0x1001, 0x1003]⟩] := by
  have hfit : ∀ b ∈ [lossyBlock], LossFits b := by
    intro b hb
    rw [List.mem_singleton] at hb
    subst hb
    decide
  have hslices : parseCompoundPacket nackPacket =
      some [⟨⟨2, false, 1, 205, 3⟩, 0, 16⟩] := by
    decide +kernel
  refine ⟨(rtcp_agree.2.1 lossySender (by decide) hfit).1,
    (rtcp_agree.2.2 ⟨7, [lossyBlock]⟩ (by decide) hfit).1, ?_⟩
  refine ((rtcp_agree.1 nackPacket).2 _ hslices).2 _ (List.mem_singleton.mpr rfl) |>.1.trans ?_
  decide +kernel

end MeetingSystem.Proof.Media
