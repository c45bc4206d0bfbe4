import MeetingSystem.Impl.Sfu.Rtp

/-!
# RTCP packets

`RtcpHandler` of the SFU, and the packets that `MediaIngress.cpp` builds
itself.
-/

namespace MeetingSystem.Impl.Sfu

inductive RtcpType where
  | sr | rr | rtpfb | psfb | unknown
  deriving DecidableEq

structure RtcpPacketSummary where
  type : RtcpType
  fmt : UInt8
  lengthWords : UInt16
  senderSsrc : UInt32
  offset : Nat
  packetSize : Nat
  deriving DecidableEq

structure RtcpReceptionReport where
  packetType : RtcpType
  reporterSsrc : UInt32
  sourceSsrc : UInt32
  fractionLost : UInt8
  cumulativeLost : Int
  highestSeq : UInt32
  jitter : UInt32
  lastSenderReport : UInt32
  delaySinceLastSenderReport : UInt32
  deriving DecidableEq

structure RtcpSenderReport where
  senderSsrc : UInt32
  ntpTimestamp : UInt64
  rtpTimestamp : UInt32
  packetCount : UInt32
  octetCount : UInt32
  deriving DecidableEq

structure RtcpNackFeedback where
  senderSsrc : UInt32
  mediaSsrc : UInt32
  lostSequences : List UInt16
  deriving DecidableEq

structure RtcpPliFeedback where
  senderSsrc : UInt32
  mediaSsrc : UInt32
  deriving DecidableEq

structure RtcpRembFeedback where
  senderSsrc : UInt32
  mediaSsrc : UInt32
  bitrateExp : UInt8
  bitrateMantissa : UInt32
  bitrateBps : UInt32
  targetSsrcs : List UInt32
  deriving DecidableEq

/-- `ReadS24`: a signed 24-bit field. -/
def readS24 (data : Bytes) (offset : Nat) : Int :=
  let value : Int := (data.getD offset 0).toNat * 2 ^ 16 +
    (data.getD (offset + 1) 0).toNat * 2 ^ 8 + (data.getD (offset + 2) 0).toNat
  if value < 2 ^ 23 then value else value - 2 ^ 24

def toRtcpType (pt : UInt8) : RtcpType :=
  if pt = 200 then .sr
  else if pt = 201 then .rr
  else if pt = 205 then .rtpfb
  else if pt = 206 then .psfb
  else .unknown

namespace RtcpHandler

/-- The packet of a compound packet that starts at `offset`. -/
def summaryAt (data : Bytes) (offset : Nat) : Option RtcpPacketSummary :=
  if data.length < offset + 4 then none
  else
    let vpc := data.getD offset 0
    let lengthWords := readU16 data (offset + 2)
    let packetSize := (lengthWords.toNat + 1) * 4
    if vpc >>> 6 &&& 0x03 ≠ 2 ∨ data.length < offset + packetSize then none
    else
      some
        { type := toRtcpType (data.getD (offset + 1) 0)
          fmt := vpc &&& 0x1F
          lengthWords, offset, packetSize
          senderSsrc := if 8 ≤ packetSize then readU32 data (offset + 4) else 0 }

theorem summaryAt_bound {data : Bytes} {offset : Nat} {summary : RtcpPacketSummary}
    (h : summaryAt data offset = some summary) :
    0 < summary.packetSize ∧ offset + summary.packetSize ≤ data.length := by
  simp only [summaryAt] at h
  split at h
  · simp at h
  · split at h
    · simp at h
    · simp only [Option.some.injEq] at h
      subst h
      dsimp only
      omega

def compoundFrom (data : Bytes) (offset : Nat) : List RtcpPacketSummary :=
  match h : summaryAt data offset with
  | none => []
  | some summary =>
    have := summaryAt_bound h
    summary :: compoundFrom data (offset + summary.packetSize)
termination_by data.length - offset

def parseCompound (data : Bytes) : List RtcpPacketSummary := compoundFrom data 0

/-- The report blocks of one packet: as many as its count says and its size
has room for. -/
def reportBlocks (data : Bytes) (packet : RtcpPacketSummary) : Nat → Nat → List RtcpReceptionReport
  | 0, _ => []
  | count + 1, blockOffset =>
    if packet.offset + packet.packetSize < blockOffset + 24 ∨ data.length < blockOffset + 24 then []
    else
      { packetType := packet.type
        reporterSsrc := packet.senderSsrc
        sourceSsrc := readU32 data blockOffset
        fractionLost := data.getD (blockOffset + 4) 0
        cumulativeLost := readS24 data (blockOffset + 5)
        highestSeq := readU32 data (blockOffset + 8)
        jitter := readU32 data (blockOffset + 12)
        lastSenderReport := readU32 data (blockOffset + 16)
        delaySinceLastSenderReport := readU32 data (blockOffset + 20) } ::
      reportBlocks data packet count (blockOffset + 24)

def parseReceptionReports (data : Bytes) : List RtcpReceptionReport :=
  (parseCompound data).flatMap fun packet =>
    if packet.type ≠ .rr ∧ packet.type ≠ .sr then []
    else
      let headerSize := if packet.type = .sr then 28 else 8
      if packet.packetSize < headerSize then []
      else reportBlocks data packet packet.fmt.toNat (packet.offset + headerSize)

def parseSenderReports (data : Bytes) : List RtcpSenderReport :=
  (parseCompound data).filterMap fun packet =>
    if packet.type ≠ .sr ∨ packet.packetSize < 28 ∨ data.length < packet.offset + 28 then none
    else
      let body := packet.offset + 4
      some
        { senderSsrc := readU32 data body
          ntpTimestamp := (readU32 data (body + 4)).toUInt64 <<< 32 |||
            (readU32 data (body + 8)).toUInt64
          rtpTimestamp := readU32 data (body + 12)
          packetCount := readU32 data (body + 16)
          octetCount := readU32 data (body + 20) }

/-- The sequence numbers of a generic NACK's block at `blockOffset`. -/
def nackBlock (data : Bytes) (blockOffset : Nat) : List UInt16 :=
  let pid := readU16 data blockOffset
  let blp := readU16 data (blockOffset + 2)
  pid :: (List.range 16).filterMap fun bit =>
    if blp &&& (1 : UInt16) <<< bit.toUInt16 = 0 then none else some (pid + bit.toUInt16 + 1)

def isNack (packet : RtcpPacketSummary) : Bool := packet.type = .rtpfb ∧ packet.fmt = 1

def isPli (packet : RtcpPacketSummary) : Bool := packet.type = .psfb ∧ packet.fmt = 1

def parseNackFeedback (data : Bytes) : List RtcpNackFeedback :=
  (parseCompound data).filterMap fun packet =>
    if ¬ isNack packet ∨ packet.packetSize < 12 ∨
        data.length < packet.offset + packet.packetSize then none
    else
      let body := packet.offset + 4
      let lostSequences := (List.range ((packet.packetSize - 12) / 4)).flatMap fun i =>
        nackBlock data (packet.offset + 12 + 4 * i)
      if lostSequences = [] then none
      else
        some
          { senderSsrc := readU32 data body
            mediaSsrc := readU32 data (body + 4)
            lostSequences }

def parsePliFeedback (data : Bytes) : List RtcpPliFeedback :=
  (parseCompound data).filterMap fun packet =>
    if ¬ isPli packet ∨ packet.packetSize < 12 ∨
        data.length < packet.offset + packet.packetSize then none
    else
      let body := packet.offset + 4
      some { senderSsrc := readU32 data body, mediaSsrc := readU32 data (body + 4) }

def parseRembFeedback (data : Bytes) : List RtcpRembFeedback :=
  (parseCompound data).filterMap fun packet =>
    if packet.type ≠ .psfb ∨ packet.fmt ≠ (15 : UInt8) ∨ packet.packetSize < 20 ∨
        data.length < packet.offset + packet.packetSize then none
    else
      let body := packet.offset + 4
      let fci := body + 8
      if (data.drop fci).take 4 ≠ [0x52, 0x45, 0x4D, 0x42] then none
      else
        let ssrcCount := (data.getD (fci + 4) 0).toNat
        if packet.packetSize < 20 + ssrcCount * 4 ∨ ssrcCount = 0 then none
        else
          let bitrateExp := data.getD (fci + 5) 0 >>> 2 &&& 0x3F
          let bitrateMantissa := (data.getD (fci + 5) 0 &&& 0x03).toUInt32 <<< 16 |||
            (data.getD (fci + 6) 0).toUInt32 <<< 8 ||| (data.getD (fci + 7) 0).toUInt32
          let bitrate := bitrateMantissa.toUInt64 <<< bitrateExp.toUInt64
          some
            { senderSsrc := readU32 data body
              mediaSsrc := readU32 data (body + 4)
              bitrateExp, bitrateMantissa
              bitrateBps := if 0xFFFFFFFF < bitrate then 0xFFFFFFFF else bitrate.toUInt32
              targetSsrcs := (List.range ssrcCount).map fun i => readU32 data (fci + 8 + i * 4) }

end RtcpHandler

/-! ## The packets the SFU builds -/

def buildReceiverReportPacket (receiverSsrc sourceSsrc lastSenderReport
    delaySinceLastSenderReport : UInt32) : Bytes :=
  ([0x81, 0xC9, 0x00, 0x07] : Bytes) ++ u32Bytes receiverSsrc ++ u32Bytes sourceSsrc ++
    List.replicate 12 0 ++ u32Bytes lastSenderReport ++ u32Bytes delaySinceLastSenderReport

def buildPliPacket (senderSsrc mediaSsrc : UInt32) : Bytes :=
  ([0x81, 0xCE, 0x00, 0x02] : Bytes) ++ u32Bytes senderSsrc ++ u32Bytes mediaSsrc

def buildRembPacket (senderSsrc mediaSsrc : UInt32) (bitrateExp : UInt8)
    (bitrateMantissa targetSsrc : UInt32) : Bytes :=
  let cappedMantissa := bitrateMantissa &&& 0x3FFFF
  let fci : Bytes :=
    [0x52, 0x45, 0x4D, 0x42, 0x01,
      (bitrateExp &&& 0x3F) <<< 2 ||| (cappedMantissa >>> 16).toUInt8,
      (cappedMantissa >>> 8).toUInt8, cappedMantissa.toUInt8]
  ([0x8F, 0xCE, 0x00, 0x05] : Bytes) ++ u32Bytes senderSsrc ++ u32Bytes mediaSsrc ++ fci ++
    u32Bytes targetSsrc

/-- The loop of `EncodeRembBitrate`; `fuel` counts up to the limit of the exponent. -/
def halveMantissa : Nat → UInt8 → UInt32 → UInt8 × UInt32
  | 0, exp, mantissa => (exp, mantissa)
  | fuel + 1, exp, mantissa =>
    if 0x3FFFF < mantissa then halveMantissa fuel (exp + 1) ((mantissa + 1) >>> 1)
    else (exp, mantissa)

def encodeRembBitrate (bitrateBps : UInt32) : UInt8 × UInt32 :=
  let (exp, mantissa) := halveMantissa 63 0 bitrateBps
  (exp, mantissa &&& 0x3FFFF)

example : RtcpHandler.parseNackFeedback
    [0x81, 205, 0, 3, 0, 0, 0, 1, 0, 0, 0, 2, 0, 9, 0, 5] = [⟨1, 2, [9, 10, 12]⟩] := by
  decide +kernel

end MeetingSystem.Impl.Sfu
