import MeetingSystem.Framework.BigEndian
import MeetingSystem.Impl.Client.RTPSender
import MeetingSystem.Impl.Sfu.Rtp

/-!
# RTP on the client and in the SFU

Both sides parse RTP packets with code of their own, and the router writes a
new SSRC into the bytes of a packet it has parsed.

* `parsePacket_eq`: the two parsers accept the same byte strings and give the
  same header and the same payload;
* `parse_rewriteSsrc`: a packet with another SSRC written into it is parsed as
  before, up to the SSRC;
* `rtp_forwarded`: what a client builds comes through the router to every
  subscriber with the route's SSRC and is otherwise parsed as it was built.
-/

namespace MeetingSystem.Proof.Media

open MeetingSystem.Framework MeetingSystem.Impl.Client MeetingSystem.Impl.Sfu

variable {data : Bytes}

/-! ## What a parser reads -/

/-- Where the header of an accepted packet ends. -/
def headerEnd (data : Bytes) : Option Nat :=
  let offset := 12 + (data.getD 0 0 &&& 0x0F).toNat * 4
  if data.length < 12 ∨ data.getD 0 0 >>> 6 &&& 0x03 ≠ 2 ∨ data.length < offset then none
  else if data.getD 0 0 &&& 0x10 != 0 then RtpParser.extensionEnd data offset else some offset

/-- The header fields, in a header that ends at `n`. -/
def headerAt (data : Bytes) (n : Nat) : RtpHeader :=
  { version := data.getD 0 0 >>> 6 &&& 0x03
    padding := data.getD 0 0 &&& 0x20 != 0
    extension := data.getD 0 0 &&& 0x10 != 0
    csrcCount := data.getD 0 0 &&& 0x0F
    marker := data.getD 1 0 &&& 0x80 != 0
    payloadType := data.getD 1 0 &&& 0x7F
    sequence := readU16 data 2
    timestamp := readU32 data 4
    ssrc := readU32 data 8
    headerSize := n }

/-- The size of the payload from `n` on. -/
def payloadSize (data : Bytes) (n : Nat) : Option Nat :=
  if data.getD 0 0 &&& 0x20 != 0 then RtpParser.unpadded data (data.length - n)
  else some (data.length - n)

theorem parse_eq (data : Bytes) :
    RtpParser.parse data = (headerEnd data).bind fun n => (payloadSize data n).map fun k =>
      { header := headerAt data n, payload := (data.drop n).take k } := by
  simp only [RtpParser.parse, headerEnd]
  by_cases hlen : data.length < 12
  · rw [if_pos (show data.length < RtpParser.kMinHeaderSize from hlen), if_pos (.inl hlen)]
    rfl
  by_cases hv : data.getD 0 0 >>> 6 &&& 0x03 ≠ 2
  · rw [if_neg (show ¬ data.length < RtpParser.kMinHeaderSize from hlen), if_pos hv,
      if_pos (.inr (.inl hv))]
    rfl
  rw [if_neg (show ¬ data.length < RtpParser.kMinHeaderSize from hlen), if_neg hv]
  by_cases hc : data.length < 12 + (data.getD 0 0 &&& 0x0F).toNat * 4
  · rw [if_pos (show data.length < RtpParser.kMinHeaderSize + _ from hc),
      if_pos (.inr (.inr hc))]
    rfl
  have hok : ¬ (data.length < 12 ∨ data.getD 0 0 >>> 6 &&& 0x03 ≠ 2 ∨
      data.length < 12 + (data.getD 0 0 &&& 0x0F).toNat * 4) := by
    simp only [not_or]
    exact ⟨hlen, hv, hc⟩
  rw [if_neg (show ¬ data.length < RtpParser.kMinHeaderSize + _ from hc), if_neg hok]
  dsimp only [RtpParser.kMinHeaderSize, kRtpMinHeaderSize]
  cases if (data.getD 0 0 &&& 0x10 != 0) = true then
      RtpParser.extensionEnd data (12 + (data.getD 0 0 &&& 0x0F).toNat * 4)
    else some (12 + (data.getD 0 0 &&& 0x0F).toNat * 4) with
  | none => rfl
  | some n =>
    rw [Option.bind_some, payloadSize]
    dsimp only
    cases if (data.getD 0 0 &&& 0x20 != 0) = true then RtpParser.unpadded data (data.length - n)
      else some (data.length - n) with
    | none => rfl
    | some k => rfl

theorem skipExtension_eq (data : Bytes) (offset : Nat) :
    skipExtension data offset = RtpParser.extensionEnd data offset := by
  simp only [skipExtension, RtpParser.extensionEnd, Nat.add_assoc]
  rfl

theorem paddingFits_iff {size : Nat} :
    paddingFits data size = true ↔ (data.getD (data.length - 1) 0).toNat ≠ 0 ∧
      (data.getD (data.length - 1) 0).toNat ≤ size := by
  simp only [paddingFits, decide_eq_true_eq]
  omega

theorem unpadded_of_fits {size : Nat} (h : paddingFits data size = true) :
    RtpParser.unpadded data size = some (size - (data.getD (data.length - 1) 0).toNat) := by
  rw [paddingFits_iff] at h
  simp only [RtpParser.unpadded]
  rw [if_neg (by omega), if_neg (by omega)]

/-- The client has no check for an empty payload, but no padding fits in one. -/
theorem unpadded_of_not_fits {size : Nat} (h : ¬ paddingFits data size = true) :
    RtpParser.unpadded data size = none := by
  rw [paddingFits_iff] at h
  simp only [RtpParser.unpadded]
  by_cases h0 : size = 0
  · rw [if_pos h0]
  · rw [if_neg h0, if_pos (by omega)]

/-- The header of the SFU as the client has it. -/
def clientHeader (h : RtpHeader) : RTPHeader :=
  { version := h.version, padding := h.padding, extension := h.extension,
    csrcCount := h.csrcCount, marker := h.marker, payloadType := h.payloadType,
    sequenceNumber := h.sequence, timestamp := h.timestamp, ssrc := h.ssrc }

theorem parseRTPHeader_eq_bind (data : Bytes) :
    parseRTPHeader data = (headerEnd data).bind fun n => (payloadSize data n).map fun _ =>
      (clientHeader (headerAt data n), n) := by
  simp only [parseRTPHeader, headerEnd, skipExtension_eq]
  by_cases hlen : data.length < 12
  · rw [if_pos (show data.length < kRtpMinHeaderSize from hlen), if_pos (.inl hlen)]
    rfl
  by_cases hv : data.getD 0 0 >>> 6 &&& 0x03 ≠ 2
  · rw [if_neg (show ¬ data.length < kRtpMinHeaderSize from hlen), if_pos hv,
      if_pos (.inr (.inl hv))]
    rfl
  rw [if_neg (show ¬ data.length < kRtpMinHeaderSize from hlen), if_neg hv]
  by_cases hc : data.length < 12 + (data.getD 0 0 &&& 0x0F).toNat * 4
  · rw [if_pos (show kRtpMinHeaderSize + _ > data.length from hc), if_pos (.inr (.inr hc))]
    rfl
  have hok : ¬ (data.length < 12 ∨ data.getD 0 0 >>> 6 &&& 0x03 ≠ 2 ∨
      data.length < 12 + (data.getD 0 0 &&& 0x0F).toNat * 4) := by
    simp only [not_or]
    exact ⟨hlen, hv, hc⟩
  rw [if_neg (show ¬ kRtpMinHeaderSize + _ > data.length from hc), if_neg hok]
  dsimp only [RtpParser.kMinHeaderSize, kRtpMinHeaderSize]
  cases if (data.getD 0 0 &&& 0x10 != 0) = true then
      RtpParser.extensionEnd data (12 + (data.getD 0 0 &&& 0x0F).toNat * 4)
    else some (12 + (data.getD 0 0 &&& 0x0F).toNat * 4) with
  | none => rfl
  | some n =>
    simp only [Option.bind_some, payloadSize]
    by_cases hp : (data.getD 0 0 &&& 0x20 != 0) = true
    · rw [if_pos hp]
      by_cases hf : paddingFits data (data.length - n) = true
      · rw [unpadded_of_fits hf, if_neg (fun h => h.2 hf)]
        rfl
      · rw [unpadded_of_not_fits hf, if_pos ⟨hp, hf⟩]
        rfl
    · rw [if_neg hp, if_neg (fun h => hp h.1)]
      rfl

/-! ## The two parsers agree -/

def clientPacket (p : ParsedRtpPacket) : RTPPacket :=
  { header := clientHeader p.header, payload := p.payload }

theorem parseRTPHeader_eq (data : Bytes) :
    parseRTPHeader data =
      (RtpParser.parse data).map fun p => (clientHeader p.header, p.header.headerSize) := by
  rw [parseRTPHeader_eq_bind, parse_eq]
  cases headerEnd data with
  | none => rfl
  | some n =>
    rw [Option.bind_some, Option.bind_some, Option.map_map]
    rfl

theorem parsePacket_eq (data : Bytes) :
    parsePacket data = (RtpParser.parse data).map clientPacket := by
  rw [parsePacket, parseRTPHeader_eq_bind, parse_eq]
  cases headerEnd data with
  | none => rfl
  | some n =>
    rw [Option.bind_some, Option.bind_some]
    cases hk : payloadSize data n with
    | none => rfl
    | some k =>
      simp only [Option.map_some]
      by_cases hp : (data.getD 0 0 &&& 0x20 != 0) = true
      · rw [payloadSize, if_pos hp] at hk
        have hf : paddingFits data (data.length - n) = true := by
          by_contra hf
          rw [unpadded_of_not_fits hf] at hk
          cases hk
        rw [unpadded_of_fits hf, Option.some.injEq] at hk
        have hpos : 0 < data.length - n := by
          rw [paddingFits_iff] at hf
          omega
        rw [if_pos ⟨hp, hpos⟩, if_neg (fun h => h hf), hk]
        rfl
      · rw [payloadSize, if_neg hp, Option.some.injEq] at hk
        rw [if_neg (fun h => hp h.1), hk]
        rfl

/-! ## Another SSRC in the same packet -/

theorem length_rewriteSsrc (r : UInt32) (data : Bytes) :
    (rewriteSsrc r data).length = data.length := by
  rw [rewriteSsrc]
  split
  · rfl
  · rename_i h
    simp only [RtpParser.kMinHeaderSize] at h
    simp only [List.length_append, List.length_take, List.length_drop, u32Bytes, List.length_cons,
      List.length_nil]
    omega

/-- Only the bytes of the SSRC are written. -/
theorem getD_rewriteSsrc (r : UInt32) (data : Bytes) {i : Nat} (h : i < 8 ∨ 12 ≤ i) :
    (rewriteSsrc r data).getD i 0 = data.getD i 0 := by
  rw [rewriteSsrc]
  split
  · rfl
  · rename_i hlen
    simp only [RtpParser.kMinHeaderSize] at hlen
    simp only [List.getD_eq_getElem?_getD, u32Bytes, List.append_assoc]
    rcases h with h | h
    · rw [List.getElem?_append_left (by simp only [List.length_take]; omega), List.getElem?_take,
        if_pos h]
    · have h8 : (data.take 8).length = 8 := by
        rw [List.length_take]
        omega
      rw [List.getElem?_append_right (by omega), h8, List.getElem?_append_right (by simp; omega),
        List.getElem?_drop]
      congr 2
      simp only [List.length_cons, List.length_nil]
      omega

theorem drop_rewriteSsrc (r : UInt32) (data : Bytes) {n : Nat} (h : 12 ≤ n) :
    (rewriteSsrc r data).drop n = data.drop n := by
  rw [rewriteSsrc]
  split
  · rfl
  · rename_i hlen
    simp only [RtpParser.kMinHeaderSize] at hlen
    have h12 : (data.take 8 ++ u32Bytes r).length = 12 := by
      simp only [List.length_append, List.length_take, u32Bytes, List.length_cons, List.length_nil]
      omega
    rw [List.drop_append, List.drop_eq_nil_of_le (by omega), h12, List.drop_drop,
      List.nil_append, Nat.add_sub_cancel' h]

theorem readU16_rewriteSsrc (r : UInt32) (data : Bytes) {i : Nat} (h : i + 1 < 8 ∨ 12 ≤ i) :
    readU16 (rewriteSsrc r data) i = readU16 data i := by
  rw [readU16, readU16, getD_rewriteSsrc r data (by omega), getD_rewriteSsrc r data (by omega)]

theorem headerEnd_rewriteSsrc (r : UInt32) (data : Bytes) :
    headerEnd (rewriteSsrc r data) = headerEnd data := by
  have hext : ∀ k, RtpParser.extensionEnd (rewriteSsrc r data) (12 + k) =
      RtpParser.extensionEnd data (12 + k) := by
    intro k
    simp only [RtpParser.extensionEnd]
    rw [length_rewriteSsrc, readU16_rewriteSsrc r data (by omega)]
  simp only [headerEnd]
  rw [length_rewriteSsrc, getD_rewriteSsrc r data (by omega), hext]

theorem extensionEnd_le {offset n : Nat} (h : RtpParser.extensionEnd data offset = some n) :
    offset ≤ n ∧ n ≤ data.length := by
  simp only [RtpParser.extensionEnd] at h
  split at h
  · cases h
  · split at h
    · cases h
    · rw [Option.some.injEq] at h
      omega

theorem headerEnd_bound {n : Nat} (h : headerEnd data = some n) : 12 ≤ n ∧ n ≤ data.length := by
  simp only [headerEnd] at h
  split at h
  · cases h
  · rename_i hok
    rw [not_or, not_or] at hok
    split at h
    · have := extensionEnd_le h
      omega
    · rw [Option.some.injEq] at h
      omega

theorem payloadSize_rewriteSsrc (r : UInt32) (data : Bytes) {n : Nat} (h : 12 ≤ n) :
    payloadSize (rewriteSsrc r data) n = payloadSize data n := by
  simp only [payloadSize, RtpParser.unpadded]
  rw [length_rewriteSsrc, getD_rewriteSsrc r data (by omega)]
  by_cases h0 : data.length - n = 0
  · rw [if_pos h0, if_pos h0]
  · rw [if_neg h0, if_neg h0, getD_rewriteSsrc r data (by omega)]

theorem readU32_rewriteSsrc (r : UInt32) (h : 12 ≤ data.length) :
    readU32 (rewriteSsrc r data) 8 = r := by
  have h8 : (data.take 8).length = 8 := by
    rw [List.length_take]
    omega
  rw [rewriteSsrc, if_neg (by simp only [RtpParser.kMinHeaderSize]; omega), List.append_assoc]
  have hb : ∀ i, (data.take 8 ++ (u32Bytes r ++ data.drop 12)).getD (8 + i) 0 =
      (u32Bytes r ++ data.drop 12).getD i 0 := by
    intro i
    rw [List.getD_eq_getElem?_getD, List.getElem?_append_right (by omega), h8,
      Nat.add_sub_cancel_left, List.getD_eq_getElem?_getD]
  rw [readU32, hb 0, hb 1, hb 2, hb 3]
  exact join32_bytes r

theorem parse_rewriteSsrc (r : UInt32) (data : Bytes) :
    RtpParser.parse (rewriteSsrc r data) =
      (RtpParser.parse data).map fun p => { p with header := { p.header with ssrc := r } } := by
  rw [parse_eq, parse_eq, headerEnd_rewriteSsrc]
  cases hn : headerEnd data with
  | none => rfl
  | some n =>
    have hb := headerEnd_bound hn
    rw [Option.bind_some, Option.bind_some, payloadSize_rewriteSsrc r data hb.1, Option.map_map,
      drop_rewriteSsrc r data hb.1]
    have hh : headerAt (rewriteSsrc r data) n = { headerAt data n with ssrc := r } := by
      simp only [headerAt, readU32_rewriteSsrc r (show 12 ≤ data.length by omega)]
      rw [getD_rewriteSsrc r data (by omega), getD_rewriteSsrc r data (by omega),
        readU16_rewriteSsrc r data (by omega)]
      simp only [readU32]
      rw [getD_rewriteSsrc r data (by omega), getD_rewriteSsrc r data (by omega),
        getD_rewriteSsrc r data (by omega), getD_rewriteSsrc r data (by omega)]
    rw [hh]
    rfl

theorem take_four {l : Bytes} (h : 4 ≤ l.length) :
    l.take 4 = [l.getD 0 0, l.getD 1 0, l.getD 2 0, l.getD 3 0] := by
  rcases l with _ | ⟨a, _ | ⟨b, _ | ⟨c, _ | ⟨e, rest⟩⟩⟩⟩
  case cons.cons.cons.cons => rfl
  all_goals simp at h

theorem parse_bound {parsed : ParsedRtpPacket} (h : RtpParser.parse data = some parsed) :
    12 ≤ data.length ∧ parsed.header.ssrc = readU32 data 8 := by
  rw [parse_eq, Option.bind_eq_some_iff] at h
  obtain ⟨n, hn, hk⟩ := h
  obtain ⟨k, -, rfl⟩ := Option.map_eq_some_iff.mp hk
  exact ⟨(headerEnd_bound hn).1.trans (headerEnd_bound hn).2, rfl⟩

/-- The SSRC that a packet has is the one that is written there. -/
theorem rewriteSsrc_self {parsed : ParsedRtpPacket} (h : RtpParser.parse data = some parsed) :
    rewriteSsrc parsed.header.ssrc data = data := by
  obtain ⟨hlen, hssrc⟩ := parse_bound h
  have hbytes : u32Bytes (readU32 data 8) = (data.drop 8).take 4 := by
    rw [take_four (by rw [List.length_drop]; omega)]
    simp only [List.getD_eq_getElem?_getD, List.getElem?_drop, Nat.reduceAdd, u32Bytes, readU32]
    obtain ⟨ha, hb, hc, hd⟩ := bytes_join32 (data[8]?.getD 0) (data[9]?.getD 0) (data[10]?.getD 0)
      (data[11]?.getD 0)
    rw [ha, hb, hc, hd]
  rw [rewriteSsrc, if_neg (show ¬ data.length < RtpParser.kMinHeaderSize from not_lt.mpr hlen),
    hssrc, hbytes, List.append_assoc,
    show data.drop 12 = (data.drop 8).drop 4 by rw [List.drop_drop], List.take_append_drop,
    List.take_append_drop]

/-! ## What a client builds -/

/-- The packet that `buildPacket` was asked for. -/
def builtPacket (sender : RTPSender) (payloadType : UInt8) (marker : Bool) (timestamp : UInt32)
    (payload : List UInt8) : RTPPacket :=
  { header :=
      { version := 2, padding := false, extension := false, csrcCount := 0, marker
        payloadType := payloadType &&& 0x7F
        sequenceNumber := sender.sequence, timestamp
        ssrc := sender.ssrc }
    payload }

/-- The marker and the payload type do not touch each other in their byte. -/
theorem markerByte (payloadType : UInt8) (marker : Bool) :
    ((if marker then payloadType &&& 0x7F ||| 0x80 else payloadType &&& 0x7F) &&& 0x80 != 0) =
        marker ∧
      (if marker then payloadType &&& 0x7F ||| 0x80 else payloadType &&& 0x7F) &&& 0x7F =
        payloadType &&& 0x7F := by
  have hlow : payloadType &&& 0x7F &&& 0x80 = 0 := by
    rw [UInt8.and_assoc]
    exact UInt8.and_zero
  have hself : payloadType &&& 0x7F &&& 0x7F = payloadType &&& 0x7F := by
    rw [UInt8.and_assoc, UInt8.and_self]
  have hor (m : UInt8) : (payloadType &&& 0x7F ||| 0x80) &&& m =
      payloadType &&& 0x7F &&& m ||| 0x80 &&& m :=
    UInt8.toBitVec_inj.mp BitVec.and_or_distrib_right
  cases marker with
  | false =>
    simp only [Bool.false_eq_true, if_false, hlow, hself]
    decide
  | true =>
    simp only [if_true, hor, hlow, hself]
    exact ⟨by decide, UInt8.or_zero⟩

/-- `0x80` is version 2, without padding, extension and CSRC list. -/
theorem plainByte : (0x80 : UInt8) >>> 6 &&& 0x03 = 2 ∧ (0x80 : UInt8) &&& 0x0F = 0 ∧
    ((0x80 : UInt8) &&& 0x10 != 0) = false ∧ ((0x80 : UInt8) &&& 0x20 != 0) = false := by
  decide

theorem plain_packet {r : Bytes} (h : 11 ≤ r.length) :
    headerEnd (0x80 :: r) = some 12 ∧
      payloadSize (0x80 :: r) 12 = some (r.length - 11) := by
  obtain ⟨hv, hc, hx, hp⟩ := plainByte
  simp only [headerEnd, payloadSize, List.getD_cons_zero, List.length_cons, hv, hc, hx, hp,
    UInt8.toNat_zero, ne_eq, not_true_eq_false, false_or]
  rw [if_neg (by omega)]
  exact ⟨rfl, rfl⟩

theorem parsePacket_buildPacket (sender : RTPSender) (payloadType : UInt8) (marker : Bool)
    (timestamp : UInt32) (payload : List UInt8) :
    parsePacket (sender.buildPacket payloadType marker timestamp payload).1 =
      some (builtPacket sender payloadType marker timestamp payload) := by
  obtain ⟨hm, hpt⟩ := markerByte payloadType marker
  have hs := join16_bytes sender.sequence
  have ht := join32_bytes timestamp
  have hr := join32_bytes sender.ssrc
  rw [parsePacket_eq, parse_eq, RTPSender.buildPacket]
  simp only [writeBE16, writeBE32, toUInt8_and16, toUInt8_and32, List.cons_append,
    List.nil_append]
  obtain ⟨hend, hsize⟩ := plain_packet (r := _ :: _ :: _ :: _ :: _ :: _ :: _ :: _ :: _ :: _ ::
    _ :: payload) (by simp)
  rw [hend, Option.bind_some, hsize]
  simp only [Option.map_some, clientPacket, clientHeader, headerAt, builtPacket, readU16, readU32,
    List.getD_cons_zero, List.getD_cons_succ, Nat.reduceAdd, hm, hpt, hs, ht, hr]
  obtain ⟨hv, hc, hx, hp⟩ := plainByte
  rw [hv, hc, hx, hp]
  simp

/-! ## Through the router -/

/-- The router passes a packet on to every route of its source. -/
theorem route_calls (router : RtpRouter) {parsed : ParsedRtpPacket}
    (h : RtpParser.parse data = some parsed) :
    (router.route data).2 = (router.publishers parsed.header.ssrc).map fun route =>
      route.subscribers.map fun sub => (sub.endpoint, rewriteSsrc sub.rewrittenSsrc data) := by
  simp only [RtpRouter.route, h]
  cases router.publishers parsed.header.ssrc <;> rfl

theorem parsePacket_rewriteSsrc (r : UInt32) {packet : RTPPacket}
    (h : parsePacket data = some packet) :
    parsePacket (rewriteSsrc r data) =
      some { packet with header := { packet.header with ssrc := r } } := by
  rw [parsePacket_eq, Option.map_eq_some_iff] at h
  obtain ⟨parsed, hparsed, rfl⟩ := h
  rw [parsePacket_eq, parse_rewriteSsrc, hparsed]
  rfl

/-- The two parsers are the same function, and what a client builds comes
through the router to every subscriber with the route's SSRC and otherwise as
it was built. -/
theorem rtp_forwarded :
    (∀ data : Bytes,
      parseRTPHeader data =
        (RtpParser.parse data).map (fun p => (clientHeader p.header, p.header.headerSize)) ∧
      parsePacket data = (RtpParser.parse data).map clientPacket) ∧
    ∀ (router : RtpRouter) (sender : RTPSender) (payloadType : UInt8) (marker : Bool)
      (timestamp : UInt32) (payload : List UInt8),
      let packet := (sender.buildPacket payloadType marker timestamp payload).1
      let built := builtPacket sender payloadType marker timestamp payload
      parsePacket packet = some built ∧
      (router.route packet).2.map (fun calls => calls.map fun c => (c.1, parsePacket c.2)) =
        (router.publishers sender.ssrc).map fun route => route.subscribers.map fun sub =>
          (sub.endpoint,
            some { built with header := { built.header with ssrc := sub.rewrittenSsrc } }) := by
  refine ⟨fun data => ⟨parseRTPHeader_eq data, parsePacket_eq data⟩, ?_⟩
  intro router sender payloadType marker timestamp payload packet built
  have hbuilt : parsePacket packet = some built :=
    parsePacket_buildPacket sender payloadType marker timestamp payload
  refine ⟨hbuilt, ?_⟩
  obtain ⟨parsed, hparsed, heq⟩ := Option.map_eq_some_iff.mp (parsePacket_eq packet ▸ hbuilt)
  have hssrc : parsed.header.ssrc = sender.ssrc := congrArg (fun p => p.header.ssrc) heq
  rw [route_calls router hparsed, hssrc]
  cases router.publishers sender.ssrc with
  | none => rfl
  | some route =>
    simp only [Option.map_some, List.map_map, Function.comp_def,
      parsePacket_rewriteSsrc _ hbuilt]

end MeetingSystem.Proof.Media
