import MeetingSystem.Impl.Client.RTCPHandler
import MeetingSystem.Impl.Sfu.Rtcp
import MeetingSystem.Proof.Media.RtpCodec

/-!
# RTCP on the client and in the SFU

Both sides cut a compound packet into packets with loops of their own: the
client fails where the SFU stops.

* `parseCompoundPacket_isSome`, `slicesFrom_some`: the client succeeds exactly
  where the SFU gets to the end, and then finds the same packets;
* `Alone.nack`, `Alone.pli`, `Alone.remb`: on one packet alone both read the
  same feedback.
-/

namespace MeetingSystem.Proof.Media

open MeetingSystem.Framework MeetingSystem.Impl.Client MeetingSystem.Impl.Sfu
open RTCPHandler (packetSizeBytes parseHeader parsePacketSlice slicesFrom parseCompoundPacket)
open RtcpHandler (summaryAt compoundFrom parseCompound)

variable {data : Bytes}

/-! ## The packets of a compound packet -/

theorem getD_drop (data : Bytes) (offset i : Nat) :
    (data.drop offset).getD i 0 = data.getD (offset + i) 0 := by
  simp only [List.getD_eq_getElem?_getD, List.getElem?_drop]

theorem readBE16_drop (data : Bytes) (offset i : Nat) :
    readBE16 (data.drop offset) i = readU16 data (offset + i) := by
  rw [readBE16, readU16, getD_drop, getD_drop, Nat.add_assoc]

/-- A word that stands at `i` is read back. -/
theorem readU16_of_drop {i : Nat} {v : UInt16} {rest : Bytes}
    (h : data.drop i = writeBE16 v ++ rest) : readU16 data i = v := by
  have hdrop := readBE16_drop data i 0
  rw [h, Nat.add_zero] at hdrop
  rw [← hdrop]
  simp only [readBE16, writeBE16, toUInt8_and16, List.cons_append, List.nil_append,
    List.getD_cons_zero, List.getD_cons_succ, Nat.zero_add, join16_bytes]

/-- The first four bytes of a packet. -/
def rtcpHeader (data : Bytes) : RTCPHeader :=
  { version := data.getD 0 0 >>> 6 &&& 0x03
    padding := data.getD 0 0 &&& 0x20 != 0
    countOrFormat := data.getD 0 0 &&& 0x1F
    packetType := data.getD 1 0
    lengthWords := readBE16 data 2 }

theorem four_le_packetSizeBytes (header : RTCPHeader) : 4 ≤ packetSizeBytes header := by
  simp only [packetSizeBytes]
  omega

theorem parseHeader_eq_some {header : RTCPHeader} :
    parseHeader data = some header ↔
      header = rtcpHeader data ∧ 4 ≤ data.length ∧ header.version = 2 ∧
        packetSizeBytes header ≤ data.length := by
  have h4 := four_le_packetSizeBytes (rtcpHeader data)
  rw [parseHeader]
  by_cases hlen : data.length < 4
  · rw [if_pos hlen]
    simp only [reduceCtorEq, false_iff, not_and]
    omega
  rw [if_neg hlen]
  show (if (rtcpHeader data).version ≠ 2 then none
    else if packetSizeBytes (rtcpHeader data) < 4 ∨
      packetSizeBytes (rtcpHeader data) > data.length then none
    else some (rtcpHeader data)) = some header ↔ _
  constructor
  · intro h
    split at h
    · cases h
    · rename_i hv
      split at h
      · cases h
      · rename_i hfit
        rw [Option.some.injEq] at h
        subst h
        exact ⟨rfl, by omega, not_not.mp hv, by omega⟩
  · intro ⟨hh, _, hv, hfit⟩
    subst hh
    rw [if_neg (not_not.mpr hv), if_neg (by omega)]

/-- A header at `offset`, as the SFU summarizes it. -/
def summaryOf (data : Bytes) (offset : Nat) (header : RTCPHeader) : RtcpPacketSummary :=
  { type := toRtcpType header.packetType
    fmt := header.countOrFormat
    lengthWords := header.lengthWords
    senderSsrc := if 8 ≤ packetSizeBytes header then readU32 data (offset + 4) else 0
    offset
    packetSize := packetSizeBytes header }

theorem rtcpHeader_drop (data : Bytes) (offset : Nat) :
    rtcpHeader (data.drop offset) =
      { version := data.getD offset 0 >>> 6 &&& 0x03
        padding := data.getD offset 0 &&& 0x20 != 0
        countOrFormat := data.getD offset 0 &&& 0x1F
        packetType := data.getD (offset + 1) 0
        lengthWords := readU16 data (offset + 2) } := by
  simp only [rtcpHeader, getD_drop, readBE16_drop, Nat.add_zero]

/-- The SFU checks a header as the client does. -/
theorem summaryAt_eq_some {offset : Nat} {summary : RtcpPacketSummary} :
    summaryAt data offset = some summary ↔
      ∃ header, parseHeader (data.drop offset) = some header ∧
        summary = summaryOf data offset header := by
  simp only [parseHeader_eq_some, rtcpHeader_drop, List.length_drop, summaryAt]
  constructor
  · intro h
    split at h
    · cases h
    · rename_i hlen
      split at h
      · cases h
      · rename_i hok
        obtain ⟨hv, hfit⟩ := not_or.mp hok
        refine ⟨_, ⟨rfl, by omega, not_not.mp hv, ?_⟩, (Option.some.inj h).symm⟩
        simp only [packetSizeBytes]
        omega
  · intro h
    obtain ⟨header, ⟨hh, hlen, hv, hfit⟩, hs⟩ := h
    subst hh
    simp only [packetSizeBytes] at hfit
    rw [if_neg (by omega), if_neg (not_or.mpr ⟨not_not.mpr hv, by omega⟩), hs]
    rfl

theorem summaryAt_eq (data : Bytes) (offset : Nat) :
    summaryAt data offset = (parseHeader (data.drop offset)).map (summaryOf data offset) := by
  ext summary
  rw [summaryAt_eq_some, Option.map_eq_some_iff]
  simp only [eq_comm]

theorem parsePacketSlice_eq (data : Bytes) :
    parsePacketSlice data = (parseHeader data).map fun header =>
      { header, offset := 0, size := packetSizeBytes header } := by
  rw [parsePacketSlice]
  cases h : parseHeader data with
  | none => rfl
  | some header =>
    dsimp only
    rw [if_pos (parseHeader_eq_some.mp h).2.2.2]
    rfl

theorem slicesFrom_eq {offset : Nat} (hlt : offset < data.length) :
    slicesFrom data offset = (parseHeader (data.drop offset)).bind fun header =>
      (slicesFrom data (offset + packetSizeBytes header)).map
        ({ header, offset, size := packetSizeBytes header } :: ·) := by
  rw [slicesFrom, if_pos hlt]
  split
  · rename_i h
    rw [parsePacketSlice_eq, Option.map_eq_none_iff] at h
    rw [h]
    rfl
  · rename_i slice h
    rw [parsePacketSlice_eq, Option.map_eq_some_iff] at h
    obtain ⟨header, hh, rfl⟩ := h
    rw [hh]
    rfl

theorem compoundFrom_eq (data : Bytes) (offset : Nat) :
    compoundFrom data offset = match parseHeader (data.drop offset) with
      | none => []
      | some header => summaryOf data offset header ::
          compoundFrom data (offset + packetSizeBytes header) := by
  rw [compoundFrom]
  split
  · rename_i h
    rw [summaryAt_eq, Option.map_eq_none_iff] at h
    rw [h]
  · rename_i summary h
    rw [summaryAt_eq, Option.map_eq_some_iff] at h
    obtain ⟨header, hh, rfl⟩ := h
    rw [hh]
    rfl

/-- A slice of the packet: its header stands where it starts. -/
def SliceAt (data : Bytes) (slice : RTCPPacketSlice) : Prop :=
  parseHeader (data.drop slice.offset) = some slice.header ∧
    slice.size = packetSizeBytes slice.header

/-- What the client finds from `offset` on is what the SFU finds there, and it
is everything up to the end. -/
theorem slicesFrom_some {offset : Nat} {slices : List RTCPPacketSlice}
    (h : slicesFrom data offset = some slices) (hle : offset ≤ data.length) :
    compoundFrom data offset = slices.map (fun s => summaryOf data s.offset s.header) ∧
      offset + (slices.map (·.size)).sum = data.length ∧ ∀ s ∈ slices, SliceAt data s := by
  induction offset using RTCPHandler.slicesFrom.induct data generalizing slices with
  | case1 offset hlt hnone =>
    rw [parsePacketSlice_eq, Option.map_eq_none_iff] at hnone
    rw [slicesFrom_eq hlt, hnone] at h
    cases h
  | case2 offset hlt slice hslice hpos ih =>
    rw [parsePacketSlice_eq, Option.map_eq_some_iff] at hslice
    obtain ⟨header, hh, rfl⟩ := hslice
    have hfit := (parseHeader_eq_some.mp hh).2.2.2
    rw [List.length_drop] at hfit
    rw [slicesFrom_eq hlt, hh, Option.bind_some, Option.map_eq_some_iff] at h
    obtain ⟨rest, hrest, rfl⟩ := h
    obtain ⟨hc, hsum, hall⟩ := ih hrest (by dsimp only; omega)
    rw [compoundFrom_eq, hh]
    refine ⟨congrArg _ hc, ?_, ?_⟩
    · simp only [List.map_cons, List.sum_cons] at hsum ⊢
      omega
    · intro s hs
      rcases List.mem_cons.mp hs with rfl | hs
      · exact ⟨hh, rfl⟩
      · exact hall s hs
  | case3 offset hge =>
    rw [slicesFrom, if_neg hge, Option.some.injEq] at h
    subst h
    have hend : data.drop offset = [] := List.drop_eq_nil_of_le (by omega)
    rw [compoundFrom_eq, hend]
    exact ⟨rfl, by simp; omega, by simp⟩

/-- The SFU finds everything only if the client does. -/
theorem slicesFrom_isSome {offset : Nat} (hle : offset ≤ data.length)
    (h : offset + ((compoundFrom data offset).map (·.packetSize)).sum = data.length) :
    (slicesFrom data offset).isSome = true := by
  induction offset using RTCPHandler.slicesFrom.induct data with
  | case1 offset hlt hnone =>
    rw [parsePacketSlice_eq, Option.map_eq_none_iff] at hnone
    rw [compoundFrom_eq, hnone] at h
    simp at h
    omega
  | case2 offset hlt slice hslice hpos ih =>
    rw [parsePacketSlice_eq, Option.map_eq_some_iff] at hslice
    obtain ⟨header, hh, rfl⟩ := hslice
    have hfit := (parseHeader_eq_some.mp hh).2.2.2
    rw [List.length_drop] at hfit
    rw [compoundFrom_eq, hh] at h
    simp only [List.map_cons, List.sum_cons] at h
    rw [slicesFrom_eq hlt, hh, Option.bind_some, Option.isSome_map]
    exact ih (by dsimp only; omega) (by rw [← h, ← Nat.add_assoc]; rfl)
  | case3 offset hge =>
    rw [slicesFrom, if_neg hge]
    rfl

theorem parseCompoundPacket_eq_some {slices : List RTCPPacketSlice} :
    parseCompoundPacket data = some slices ↔ slicesFrom data 0 = some slices ∧ slices ≠ [] := by
  rw [parseCompoundPacket]
  by_cases hlen : data.length = 0
  · rw [if_pos hlen, slicesFrom, if_neg (by omega)]
    simp only [reduceCtorEq, Option.some.injEq, false_iff, not_and, not_not]
    exact Eq.symm
  · rw [if_neg hlen]
    cases slicesFrom data 0 with
    | none => simp only [reduceCtorEq, false_and]
    | some found =>
      simp only [Option.some.injEq]
      cases found with
      | nil =>
        simp only [List.isEmpty_nil, if_true, reduceCtorEq, false_iff, not_and, not_not]
        exact Eq.symm
      | cons s rest =>
        simp only [List.isEmpty_cons, Bool.false_eq_true, if_false, Option.some.injEq]
        exact ⟨fun h => ⟨h, h ▸ List.cons_ne_nil _ _⟩, And.left⟩

/-- The client takes a compound packet that the SFU reads to its end. -/
theorem parseCompoundPacket_isSome (data : Bytes) :
    (parseCompoundPacket data).isSome = true ↔
      parseCompound data ≠ [] ∧ ((parseCompound data).map (·.packetSize)).sum = data.length := by
  rw [Option.isSome_iff_exists]
  constructor
  · intro ⟨slices, h⟩
    obtain ⟨hs, hne⟩ := parseCompoundPacket_eq_some.mp h
    obtain ⟨hc, hsum, hall⟩ := slicesFrom_some hs (Nat.zero_le _)
    rw [parseCompound, hc]
    refine ⟨fun hnil => hne (List.map_eq_nil_iff.mp hnil), ?_⟩
    rw [← hsum, Nat.zero_add, List.map_map]
    exact congrArg List.sum (List.map_congr_left fun s hs => (hall s hs).2.symm)
  · intro ⟨hne, hsum⟩
    obtain ⟨slices, hs⟩ := Option.isSome_iff_exists.mp
      (slicesFrom_isSome (Nat.zero_le _) (by rw [Nat.zero_add]; exact hsum))
    refine ⟨slices, parseCompoundPacket_eq_some.mpr ⟨hs, ?_⟩⟩
    rintro rfl
    exact hne (slicesFrom_some hs (Nat.zero_le _)).1

/-! ## One packet alone -/

/-- The bytes are one packet with this header. -/
def Alone (d : Bytes) (header : RTCPHeader) : Prop :=
  parseHeader d = some header ∧ packetSizeBytes header = d.length

theorem SliceAt.alone {slice : RTCPPacketSlice} (h : SliceAt data slice) :
    Alone ((data.drop slice.offset).take slice.size) slice.header := by
  obtain ⟨hh, hsize⟩ := h
  obtain ⟨heq, h4, hv, hfit⟩ := parseHeader_eq_some.mp hh
  have hlen : ((data.drop slice.offset).take slice.size).length = packetSizeBytes slice.header := by
    rw [List.length_take, hsize]
    omega
  have hpos := four_le_packetSizeBytes slice.header
  have hget : ∀ i < 4, ((data.drop slice.offset).take slice.size).getD i 0 =
      (data.drop slice.offset).getD i 0 := by
    intro i hi
    rw [List.getD_eq_getElem?_getD, List.getElem?_take, if_pos (by omega),
      List.getD_eq_getElem?_getD]
  refine ⟨parseHeader_eq_some.mpr ⟨?_, by omega, hv, by omega⟩, hlen.symm⟩
  rw [heq]
  simp only [rtcpHeader, readBE16]
  rw [hget 0 (by decide), hget 1 (by decide), hget 2 (by decide), hget 3 (by decide)]

theorem Alone.parseCompound {d : Bytes} {header : RTCPHeader} (h : Alone d header) :
    parseCompound d = [summaryOf d 0 header] := by
  have hend : d.drop (0 + packetSizeBytes header) = [] :=
    List.drop_eq_nil_of_le (by rw [h.2]; omega)
  rw [RtcpHandler.parseCompound, compoundFrom_eq, List.drop_zero, h.1]
  dsimp only
  rw [compoundFrom_eq, hend]
  rfl

theorem toRtcpType_eq {pt : UInt8} :
    (toRtcpType pt = .sr ↔ pt = 200) ∧ (toRtcpType pt = .rr ↔ pt = 201) ∧
      (toRtcpType pt = .rtpfb ↔ pt = 205) ∧ (toRtcpType pt = .psfb ↔ pt = 206) := by
  rw [toRtcpType]
  by_cases h200 : pt = 200
  · subst h200
    decide
  by_cases h201 : pt = 201
  · subst h201
    decide
  by_cases h205 : pt = 205
  · subst h205
    decide
  by_cases h206 : pt = 206
  · subst h206
    decide
  rw [if_neg h200, if_neg h201, if_neg h205, if_neg h206]
  simp only [reduceCtorEq, h200, h201, h205, h206, and_self]

/-! ## Feedback -/

def sfuNack (f : RTCPNackFeedback) : RtcpNackFeedback :=
  { senderSsrc := f.senderSsrc, mediaSsrc := f.mediaSsrc, lostSequences := f.lostSequences }

def sfuPli (f : RTCPPliFeedback) : RtcpPliFeedback :=
  { senderSsrc := f.senderSsrc, mediaSsrc := f.mediaSsrc }

def sfuRemb (f : RTCPRembFeedback) : RtcpRembFeedback :=
  { senderSsrc := f.senderSsrc, mediaSsrc := f.mediaSsrc, bitrateExp := f.bitrateExp,
    bitrateMantissa := f.bitrateMantissa, bitrateBps := f.bitrateBps,
    targetSsrcs := f.targetSsrcs }

/-- The client's loop over the blocks visits as many as fit. -/
theorem nackBlocks_eq (d : Bytes) (packetBytes offset : Nat) :
    RTCPHandler.nackBlocks d packetBytes offset =
      (List.range ((packetBytes - offset) / 4)).flatMap fun i =>
        RtcpHandler.nackBlock d (offset + 4 * i) := by
  induction offset using RTCPHandler.nackBlocks.induct packetBytes with
  | case1 offset hfit ih =>
    rw [RTCPHandler.nackBlocks, if_pos hfit, ih,
      show (packetBytes - offset) / 4 = (packetBytes - (offset + 4)) / 4 + 1 by omega,
      List.range_succ_eq_map, List.flatMap_cons, List.flatMap_map]
    refine congrArg₂ _ rfl (List.flatMap_congr fun i _ => ?_)
    rw [show offset + 4 + 4 * i = offset + 4 * i.succ by omega]
  | case2 offset hfit =>
    rw [RTCPHandler.nackBlocks, if_neg hfit, show (packetBytes - offset) / 4 = 0 by omega]
    rfl

variable {d : Bytes} {header : RTCPHeader}

theorem filterMap_one {α β : Type} (f : α → Option β) (a : α) : [a].filterMap f = (f a).toList := by
  rw [List.filterMap_cons]
  cases f a <;> rfl

theorem Alone.nack (h : Alone d header) :
    RtcpHandler.parseNackFeedback d =
      ((RTCPHandler.parseNackFeedback d).map sfuNack).toList := by
  have hlen := h.2
  have hsfu : RtcpHandler.isNack (summaryOf d 0 header) = true ↔
      header.packetType = 205 ∧ header.countOrFormat = 1 := by
    simp only [RtcpHandler.isNack, summaryOf, toRtcpType_eq, decide_eq_true_eq]
  rw [RtcpHandler.parseNackFeedback, h.parseCompound, RTCPHandler.parseNackFeedback, h.1,
    filterMap_one]
  refine congrArg Option.toList ?_
  simp only [hsfu, nackBlocks_eq]
  by_cases htype : header.packetType ≠ 205 ∨ header.countOrFormat ≠ 1
  · rw [if_pos (.inl (not_and_or.mpr htype)), if_pos htype]
    rfl
  by_cases hsize : packetSizeBytes header < 12
  · rw [if_pos (.inr (.inl hsize)), if_neg htype, if_pos (.inl hsize)]
    rfl
  have hok : ¬ (¬ (header.packetType = 205 ∧ header.countOrFormat = 1) ∨
      packetSizeBytes header < 12 ∨ d.length < 0 + packetSizeBytes header) := by
    rw [not_or, not_or]
    exact ⟨fun hn => htype (not_and_or.mp hn), hsize, by omega⟩
  rw [if_neg htype, if_neg (show ¬ (packetSizeBytes header < 12 ∨ _) by omega)]
  refine (if_neg hok).trans ?_
  simp only [List.isEmpty_iff, summaryOf, Nat.zero_add]
  split
  · rfl
  · rfl

theorem Alone.pli (h : Alone d header) :
    RtcpHandler.parsePliFeedback d = ((RTCPHandler.parsePliFeedback d).map sfuPli).toList := by
  have hlen := h.2
  have hsfu : RtcpHandler.isPli (summaryOf d 0 header) = true ↔
      header.packetType = 206 ∧ header.countOrFormat = 1 := by
    simp only [RtcpHandler.isPli, summaryOf, toRtcpType_eq, decide_eq_true_eq]
  rw [RtcpHandler.parsePliFeedback, h.parseCompound, RTCPHandler.parsePliFeedback, h.1,
    filterMap_one]
  refine congrArg Option.toList ?_
  simp only [hsfu]
  by_cases htype : header.packetType ≠ 206 ∨ header.countOrFormat ≠ 1
  · rw [if_pos (.inl (not_and_or.mpr htype)), if_pos htype]
    rfl
  by_cases hsize : packetSizeBytes header < 12
  · rw [if_pos (.inr (.inl hsize)), if_neg htype, if_pos (.inl hsize)]
    rfl
  have hok : ¬ (¬ (header.packetType = 206 ∧ header.countOrFormat = 1) ∨
      packetSizeBytes header < 12 ∨ d.length < 0 + packetSizeBytes header) := by
    rw [not_or, not_or]
    exact ⟨fun hn => htype (not_and_or.mp hn), hsize, by omega⟩
  rw [if_neg htype, if_neg (show ¬ (packetSizeBytes header < 12 ∨ _) by omega)]
  exact if_neg hok

/-- The client compares the mark of a REMB packet byte by byte. -/
theorem rembMark_iff (hlen : 16 ≤ d.length) :
    (d.drop 12).take 4 = [0x52, 0x45, 0x4D, 0x42] ↔
      d.getD (12 + 0) 0 = 0x52 ∧ d.getD (12 + 1) 0 = 0x45 ∧ d.getD (12 + 2) 0 = 0x4D ∧
        d.getD (12 + 3) 0 = 0x42 := by
  rw [take_four (by rw [List.length_drop]; omega)]
  simp only [getD_drop, List.cons.injEq, and_true]

theorem Alone.remb (h : Alone d header) :
    RtcpHandler.parseRembFeedback d =
      ((RTCPHandler.parseRembFeedback d).map sfuRemb).toList := by
  have hlen := h.2
  rw [RtcpHandler.parseRembFeedback, h.parseCompound, RTCPHandler.parseRembFeedback, h.1,
    filterMap_one]
  refine congrArg Option.toList ?_
  simp only [summaryOf, toRtcpType_eq, ne_eq, Nat.zero_add]
  by_cases htype : ¬ header.packetType = 206 ∨ ¬ header.countOrFormat = 15
  · rw [if_pos (by rw [← or_assoc]; exact .inl htype), if_pos htype]
    rfl
  by_cases hsize : packetSizeBytes header < 20
  · rw [if_pos (.inr (.inr (.inl hsize))), if_neg htype, if_pos (.inl hsize)]
    rfl
  have hok : ¬ (¬ header.packetType = 206 ∨ ¬ header.countOrFormat = 15 ∨
      packetSizeBytes header < 20 ∨ d.length < packetSizeBytes header) := by
    rw [← or_assoc, not_or]
    exact ⟨htype, by omega⟩
  rw [if_neg hok, if_neg htype, if_neg (show ¬ (packetSizeBytes header < 20 ∨ _) by omega)]
  by_cases hmark : (d.drop 12).take 4 = [0x52, 0x45, 0x4D, 0x42]
  · have hbytes := (rembMark_iff (show 16 ≤ d.length by omega)).mp hmark
    have hsame : ¬ (¬ d.getD (12 + 0) 0 = 0x52 ∨ ¬ d.getD (12 + 1) 0 = 0x45 ∨
        ¬ d.getD (12 + 2) 0 = 0x4D ∨ ¬ d.getD (12 + 3) 0 = 0x42) := by
      rw [← not_and_or, ← not_and_or, ← not_and_or]
      exact not_not.mpr hbytes
    rw [if_neg (not_not.mpr hmark), if_neg hsame]
    simp only [Nat.reduceAdd, List.isEmpty_iff, List.map_eq_nil_iff, List.range_eq_nil]
    by_cases hreq : packetSizeBytes header < 20 + (d.getD 16 0).toNat * 4
    · rw [if_pos (.inl hreq), if_pos (.inl hreq)]
      rfl
    have hroom : ¬ (packetSizeBytes header < 20 + (d.getD 16 0).toNat * 4 ∨
        d.length < 20 + (d.getD 16 0).toNat * 4) := by
      omega
    by_cases hzero : (d.getD 16 0).toNat = 0
    · rw [if_pos (.inr hzero), if_neg hroom, if_pos hzero]
      rfl
    rw [if_neg (not_or.mpr ⟨hreq, hzero⟩), if_neg hroom, if_neg hzero]
    rfl
  · have hbytes := mt (rembMark_iff (show 16 ≤ d.length by omega)).mpr hmark
    rw [if_pos hmark, if_pos (by simpa only [not_and_or] using hbytes)]
    rfl

end MeetingSystem.Proof.Media
