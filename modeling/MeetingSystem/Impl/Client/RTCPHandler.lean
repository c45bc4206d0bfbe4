import MeetingSystem.Impl.Client.RTPSender

/-!
# RTCP on the client

`plasma-hawking/src/net/media/RTCPHandler.h`. The shifts that the header
repeats for every 32-bit field are `readBE32` and `writeBE32`; a parser that
returns false is `none`.
-/

namespace MeetingSystem.Impl.Client

structure RTCPHeader where
  version : UInt8
  padding : Bool
  countOrFormat : UInt8
  packetType : UInt8
  lengthWords : UInt16
  deriving DecidableEq

structure RTCPPacketSlice where
  header : RTCPHeader
  offset : Nat
  size : Nat
  deriving DecidableEq

structure RTCPReportBlock where
  sourceSsrc : UInt32
  fractionLost : UInt8
  cumulativeLost : Int32
  highestSeq : UInt32
  jitter : UInt32
  lastSenderReport : UInt32
  delaySinceLastSenderReport : UInt32
  deriving DecidableEq

structure RTCPSenderReport where
  senderSsrc : UInt32
  ntpTimestamp : UInt64
  rtpTimestamp : UInt32
  packetCount : UInt32
  octetCount : UInt32
  reportBlocks : List RTCPReportBlock
  deriving DecidableEq

structure RTCPReceiverReport where
  receiverSsrc : UInt32
  reportBlocks : List RTCPReportBlock
  deriving DecidableEq

structure RTCPNackFeedback where
  senderSsrc : UInt32
  mediaSsrc : UInt32
  lostSequences : List UInt16
  deriving DecidableEq

structure RTCPPliFeedback where
  senderSsrc : UInt32
  mediaSsrc : UInt32
  deriving DecidableEq

structure RTCPRembFeedback where
  senderSsrc : UInt32
  mediaSsrc : UInt32
  bitrateExp : UInt8
  bitrateMantissa : UInt32
  bitrateBps : UInt32
  targetSsrcs : List UInt32
  deriving DecidableEq

namespace RTCPHandler

/-! ## Packets of a compound packet -/

def packetSizeBytes (header : RTCPHeader) : Nat := (header.lengthWords.toNat + 1) * 4

def parseHeader (data : List UInt8) : Option RTCPHeader :=
  if data.length < 4 then none
  else
    let b0 := data.getD 0 0
    let header : RTCPHeader :=
      { version := b0 >>> 6 &&& 0x03
        padding := b0 &&& 0x20 != 0
        countOrFormat := b0 &&& 0x1F
        packetType := data.getD 1 0
        lengthWords := readBE16 data 2 }
    if header.version ≠ 2 then none
    else if packetSizeBytes header < 4 ∨ packetSizeBytes header > data.length then none
    else some header

def parsePacketSlice (data : List UInt8) : Option RTCPPacketSlice :=
  match parseHeader data with
  | none => none
  | some header =>
    let size := packetSizeBytes header
    if size ≤ data.length then some { header, offset := 0, size } else none

theorem parsePacketSlice_size {data : List UInt8} {slice : RTCPPacketSlice}
    (h : parsePacketSlice data = some slice) : 0 < slice.size := by
  simp only [parsePacketSlice] at h
  split at h
  · cases h
  · split at h
    · rw [Option.some.injEq] at h
      subst h
      simp only [packetSizeBytes]
      omega
    · cases h

/-- The loop of `parseCompoundPacket` from `offset` on. -/
def slicesFrom (data : List UInt8) (offset : Nat) : Option (List RTCPPacketSlice) :=
  if offset < data.length then
    match h : parsePacketSlice (data.drop offset) with
    | none => none
    | some slice =>
      have := parsePacketSlice_size h
      (slicesFrom data (offset + slice.size)).map ({ slice with offset } :: ·)
  else some []
termination_by data.length - offset

def parseCompoundPacket (data : List UInt8) : Option (List RTCPPacketSlice) :=
  if data.length = 0 then none
  else
    match slicesFrom data 0 with
    | none => none
    | some slices => if slices.isEmpty then none else some slices

/-! ## Reports -/

def isReceiverReport (header : RTCPHeader) : Bool := header.packetType = 201

def isSenderReport (header : RTCPHeader) : Bool := header.packetType = 200

/-- A signed 24-bit field is extended to 32 bits. -/
def signExtend24 (value : UInt32) : Int32 :=
  if value &&& 0x00800000 ≠ 0 then (value ||| 0xFF000000).toInt32 else value.toInt32

def readReportBlock (data : List UInt8) (p : Nat) : RTCPReportBlock :=
  { sourceSsrc := readBE32 data p
    fractionLost := data.getD (p + 4) 0
    cumulativeLost := signExtend24 ((data.getD (p + 5) 0).toUInt32 <<< 16 |||
      (data.getD (p + 6) 0).toUInt32 <<< 8 ||| (data.getD (p + 7) 0).toUInt32)
    highestSeq := readBE32 data (p + 8)
    jitter := readBE32 data (p + 12)
    lastSenderReport := readBE32 data (p + 16)
    delaySinceLastSenderReport := readBE32 data (p + 20) }

/-- The loop over the report blocks: all of them have to fit. -/
def readReportBlocks (data : List UInt8) (packetBytes : Nat) :
    Nat → Nat → Option (List RTCPReportBlock)
  | 0, _ => some []
  | count + 1, p =>
    if p + 24 > packetBytes then none
    else (readReportBlocks data packetBytes count (p + 24)).map (readReportBlock data p :: ·)

def parseSenderReport (data : List UInt8) : Option RTCPSenderReport :=
  match parseHeader data with
  | none => none
  | some header =>
    if ¬ isSenderReport header then none
    else
      let packetBytes := packetSizeBytes header
      if packetBytes < 28 ∨ data.length < packetBytes then none
      else
        let ntpMsw := (readBE32 data 8).toUInt64
        let ntpLsw := (readBE32 data 12).toUInt64
        (readReportBlocks data packetBytes header.countOrFormat.toNat 28).map fun reportBlocks =>
          { senderSsrc := readBE32 data 4
            ntpTimestamp := ntpMsw <<< 32 ||| ntpLsw
            rtpTimestamp := readBE32 data 16
            packetCount := readBE32 data 20
            octetCount := readBE32 data 24
            reportBlocks }

def parseReceiverReport (data : List UInt8) : Option RTCPReceiverReport :=
  match parseHeader data with
  | none => none
  | some header =>
    if ¬ isReceiverReport header then none
    else
      let packetBytes := packetSizeBytes header
      if packetBytes < 8 ∨ data.length < packetBytes then none
      else
        (readReportBlocks data packetBytes header.countOrFormat.toNat 8).map fun reportBlocks =>
          { receiverSsrc := readBE32 data 4, reportBlocks }

/-! ## Feedback -/

/-- The sequence numbers of the NACK block at `offset`. -/
def nackBlock (data : List UInt8) (offset : Nat) : List UInt16 :=
  let pid := readBE16 data offset
  let blp := readBE16 data (offset + 2)
  pid :: (List.range 16).filterMap fun bit =>
    if blp &&& (1 : UInt16) <<< bit.toUInt16 = 0 then none else some (pid + bit.toUInt16 + 1)

/-- The loop over the NACK blocks from `offset` on. -/
def nackBlocks (data : List UInt8) (packetBytes offset : Nat) : List UInt16 :=
  if offset + 4 ≤ packetBytes then
    nackBlock data offset ++ nackBlocks data packetBytes (offset + 4)
  else []
termination_by packetBytes - offset

def parseNackFeedback (data : List UInt8) : Option RTCPNackFeedback :=
  match parseHeader data with
  | none => none
  | some header =>
    if header.packetType ≠ 205 ∨ header.countOrFormat ≠ 1 then none
    else
      let packetBytes := packetSizeBytes header
      if packetBytes < 12 ∨ data.length < packetBytes then none
      else
        let lostSequences := nackBlocks data packetBytes 12
        if lostSequences.isEmpty then none
        else
          some
            { senderSsrc := readBE32 data 4, mediaSsrc := readBE32 data 8, lostSequences }

def parsePliFeedback (data : List UInt8) : Option RTCPPliFeedback :=
  match parseHeader data with
  | none => none
  | some header =>
    if header.packetType ≠ 206 ∨ header.countOrFormat ≠ 1 then none
    else
      let packetBytes := packetSizeBytes header
      if packetBytes < 12 ∨ data.length < packetBytes then none
      else some { senderSsrc := readBE32 data 4, mediaSsrc := readBE32 data 8 }

def parseRembFeedback (data : List UInt8) : Option RTCPRembFeedback :=
  match parseHeader data with
  | none => none
  | some header =>
    if header.packetType ≠ 206 ∨ header.countOrFormat ≠ 15 then none
    else
      let packetBytes := packetSizeBytes header
      if packetBytes < 20 ∨ data.length < packetBytes then none
      else
        let fci (i : Nat) : UInt8 := data.getD (12 + i) 0
        if fci 0 ≠ 0x52 ∨ fci 1 ≠ 0x45 ∨ fci 2 ≠ 0x4D ∨ fci 3 ≠ 0x42 then none
        else
          let ssrcCount := (fci 4).toNat
          let requiredBytes := 20 + ssrcCount * 4
          if packetBytes < requiredBytes ∨ data.length < requiredBytes then none
          else
            let bitrateExp := fci 5 >>> 2 &&& 0x3F
            let bitrateMantissa := (fci 5 &&& 0x03).toUInt32 <<< 16 |||
              (fci 6).toUInt32 <<< 8 ||| (fci 7).toUInt32
            let bitrate := bitrateMantissa.toUInt64 <<< bitrateExp.toUInt64
            let targetSsrcs := (List.range ssrcCount).map fun i => readBE32 data (20 + i * 4)
            if targetSsrcs.isEmpty then none
            else
              some
                { senderSsrc := readBE32 data 4
                  mediaSsrc := readBE32 data 8
                  bitrateExp, bitrateMantissa
                  bitrateBps := if bitrate > 0xFFFFFFFF then 0xFFFFFFFF else bitrate.toUInt32
                  targetSsrcs }

/-! ## Building reports -/

def writeBE64 (v : UInt64) : List UInt8 :=
  [(v >>> 56 &&& 0xFF).toUInt8, (v >>> 48 &&& 0xFF).toUInt8, (v >>> 40 &&& 0xFF).toUInt8,
    (v >>> 32 &&& 0xFF).toUInt8, (v >>> 24 &&& 0xFF).toUInt8, (v >>> 16 &&& 0xFF).toUInt8,
    (v >>> 8 &&& 0xFF).toUInt8, (v &&& 0xFF).toUInt8]

def reportBlockBytes (block : RTCPReportBlock) : List UInt8 :=
  let lost := block.cumulativeLost.toUInt32 &&& 0x00FFFFFF
  writeBE32 block.sourceSsrc ++
    [block.fractionLost, (lost >>> 16 &&& 0xFF).toUInt8, (lost >>> 8 &&& 0xFF).toUInt8,
      (lost &&& 0xFF).toUInt8] ++
    writeBE32 block.highestSeq ++ writeBE32 block.jitter ++ writeBE32 block.lastSenderReport ++
    writeBE32 block.delaySinceLastSenderReport

/-- The first four bytes of a report of `packetBytes` bytes. -/
def reportHeader (count : Nat) (packetType : UInt8) (packetBytes : Nat) : List UInt8 :=
  [(2 : UInt8) <<< 6 ||| (count.toUInt8 &&& 0x1F), packetType] ++
    writeBE16 (packetBytes / 4 - 1).toUInt16

def buildSenderReport (report : RTCPSenderReport) : List UInt8 :=
  if report.reportBlocks.length > 31 then []
  else
    let packetBytes := 28 + report.reportBlocks.length * 24
    reportHeader report.reportBlocks.length 200 packetBytes ++
      writeBE32 report.senderSsrc ++ writeBE64 report.ntpTimestamp ++
      writeBE32 report.rtpTimestamp ++ writeBE32 report.packetCount ++
      writeBE32 report.octetCount ++ report.reportBlocks.flatMap reportBlockBytes

def buildReceiverReport (report : RTCPReceiverReport) : List UInt8 :=
  if report.reportBlocks.length > 31 then []
  else
    let packetBytes := 8 + report.reportBlocks.length * 24
    reportHeader report.reportBlocks.length 201 packetBytes ++
      writeBE32 report.receiverSsrc ++ report.reportBlocks.flatMap reportBlockBytes

end RTCPHandler

end MeetingSystem.Impl.Client
