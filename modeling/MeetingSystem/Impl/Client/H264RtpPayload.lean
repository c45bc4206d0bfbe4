import Mathlib.Data.List.Basic

/-!
# H.264 over RTP: packetizer and access-unit assembler

`plasma-hawking/src/net/media/H264RtpPayload.cpp`. A byte vector is a
`List UInt8`; an index into the frame that only moves forward is the rest of
the frame from there on. `rtpPackets` is the loop of `VideoSendPipeline.cpp`
that numbers the payloads of a frame.
-/

namespace MeetingSystem.Impl.Client

/-! ## RTP packets -/

structure RTPHeader where
  version : UInt8
  padding : Bool
  extension : Bool
  csrcCount : UInt8
  marker : Bool
  payloadType : UInt8
  sequenceNumber : UInt16
  timestamp : UInt32
  ssrc : UInt32
  deriving DecidableEq, Repr

structure RTPPacket where
  header : RTPHeader
  payload : List UInt8
  deriving DecidableEq, Repr

/-! ## Splitting a frame into NAL units -/

/-- `findStartCode`, on the bytes from its start index on: the offset and the
length of the first start code. The loop stops when fewer than four bytes are
left, so a three-byte code at the very end is not one. -/
def findStartCode : List UInt8 → Option (Nat × Nat)
  | a :: b :: c :: d :: rest =>
    if a = 0x00 ∧ b = 0x00 ∧ c = 0x01 then some (0, 3)
    else if a = 0x00 ∧ b = 0x00 ∧ c = 0x00 ∧ d = 0x01 then some (0, 4)
    else (findStartCode (b :: c :: d :: rest)).map fun r => (r.1 + 1, r.2)
  | _ => none

theorem findStartCode_bound {l : List UInt8} {i k : Nat} (h : findStartCode l = some (i, k)) :
    0 < k ∧ i + k ≤ l.length := by
  induction l using findStartCode.induct generalizing i with
  | case1 a b c d rest hc =>
    rw [findStartCode, if_pos hc, Option.some.injEq, Prod.mk.injEq] at h
    obtain ⟨rfl, rfl⟩ := h
    simp
  | case2 a b c d rest hc hd =>
    rw [findStartCode, if_neg hc, if_pos hd, Option.some.injEq, Prod.mk.injEq] at h
    obtain ⟨rfl, rfl⟩ := h
    simp
  | case3 a b c d rest hc hd ih =>
    rw [findStartCode, if_neg hc, if_neg hd, Option.map_eq_some_iff] at h
    obtain ⟨⟨i', k'⟩, h', e⟩ := h
    simp only [Prod.mk.injEq] at e
    obtain ⟨rfl, rfl⟩ := e
    have := ih h'
    simp only [List.length_cons] at this ⊢
    omega
  | case4 l hl =>
    rw [findStartCode.eq_2 l hl] at h
    cases h

/-- The loop of `splitAnnexBNalus` from a unit's first byte on. -/
def nalusFrom (bytes : List UInt8) : List (List UInt8) :=
  match _h : findStartCode bytes with
  | none => if bytes.length > 0 then [bytes] else []
  | some (nextStart, nextPrefix) =>
    let nalus := nalusFrom (bytes.drop (nextStart + nextPrefix))
    if nextStart > 0 then bytes.take nextStart :: nalus else nalus
  termination_by bytes.length
  decreasing_by
    have := findStartCode_bound _h
    simp only [List.length_drop]
    omega

def splitAnnexBNalus (payload : List UInt8) : List (List UInt8) :=
  if payload = [] then []
  else
    match findStartCode payload with
    | none => [payload]
    | some (start, prefixLen) => nalusFrom (payload.drop (start + prefixLen))

/-! ## The packetizer -/

/-- The `while` loop of `packetizeH264AnnexB`: the FU-A packets of a unit from
`offset` on. -/
def fuPackets (nalu : List UInt8) (nalHeader : UInt8) (fragmentBytes offset : Nat) :
    List (List UInt8) :=
  if offset < nalu.length ∧ 0 < fragmentBytes then
    let fuIndicator := (nalHeader &&& 0xE0) ||| 28
    let fuHeaderBase := nalHeader &&& 0x1F
    let remaining := nalu.length - offset
    let chunk := min fragmentBytes remaining
    let fuHeader := if offset = 1 then fuHeaderBase ||| 0x80 else fuHeaderBase
    let fuHeader := if offset + chunk ≥ nalu.length then fuHeader ||| 0x40 else fuHeader
    (fuIndicator :: fuHeader :: (nalu.drop offset).take chunk) ::
      fuPackets nalu nalHeader fragmentBytes (offset + chunk)
  else []
  termination_by nalu.length - offset
  decreasing_by omega

/-- The packets of one unit. -/
def packetizeNalu (maxPayloadBytes : Nat) : List UInt8 → List (List UInt8)
  | [] => []
  | nalHeader :: rest =>
    let nalu := nalHeader :: rest
    if nalu.length ≤ maxPayloadBytes then [nalu]
    else
      let fragmentBytes := if maxPayloadBytes > 2 then maxPayloadBytes - 2 else 0
      if fragmentBytes = 0 then [] else fuPackets nalu nalHeader fragmentBytes 1

def packetizeH264AnnexB (encodedFrame : List UInt8) (maxPayloadBytes : Nat) : List (List UInt8) :=
  (splitAnnexBNalus encodedFrame).flatMap (packetizeNalu maxPayloadBytes)

/-- The packets of a frame: consecutive sequence numbers from `sequence` on and
the marker on the last payload. `header` supplies the other fields. -/
def rtpPackets (header : RTPHeader) (sequence : UInt16) : List (List UInt8) → List RTPPacket
  | [] => []
  | payload :: payloads =>
    { header := { header with marker := payloads.isEmpty, sequenceNumber := sequence }, payload } ::
      rtpPackets header (sequence + 1) payloads

/-! ## The assembler -/

structure H264AccessUnit where
  payload : List UInt8
  pts : Int
  payloadType : UInt8
  deriving DecidableEq, Repr

structure H264AccessUnitAssembler where
  timestamp : UInt32
  hasTimestamp : Bool
  expectedSequence : UInt16
  hasExpectedSequence : Bool
  accessUnitCorrupted : Bool
  accessUnit : List UInt8
  fragmentedNalu : List UInt8
  deriving DecidableEq, Repr

/-- What `consume` gives back: the access unit if it returns true, and its two
out parameters. -/
structure ConsumeResult where
  accessUnit : Option H264AccessUnit
  packetLossDetected : Bool
  missingSequences : List UInt16
  deriving DecidableEq, Repr

def kMaxReportedMissingSequences : Nat := 32

def isForwardSequenceGap (expected actual : UInt16) : Bool :=
  let delta := actual - expected
  delta ≠ 0 && delta < 0x8000

/-- The loop of `appendMissingSequences`, with the room that is left. -/
def appendMissingSequences (sequence actual : UInt16) : Nat → List UInt16
  | 0 => []
  | room + 1 =>
    if sequence = actual then []
    else sequence :: appendMissingSequences (sequence + 1) actual room

def appendCompleteNalu (target data : List UInt8) : List UInt8 :=
  if data = [] then target else target ++ [0x00, 0x00, 0x00, 0x01] ++ data

namespace H264AccessUnitAssembler

def init : H264AccessUnitAssembler :=
  { timestamp := 0, hasTimestamp := false, expectedSequence := 0, hasExpectedSequence := false,
    accessUnitCorrupted := false, accessUnit := [], fragmentedNalu := [] }

/-- The sequence check of `consume`: the state after it, whether a gap was
found and the sequence numbers it reports; `none` for a packet that is not
ahead of the expected one, which is ignored. -/
def checkSequence (m : H264AccessUnitAssembler) (header : RTPHeader) :
    Option (H264AccessUnitAssembler × Bool × List UInt16) :=
  let next (m : H264AccessUnitAssembler) : H264AccessUnitAssembler :=
    { m with expectedSequence := header.sequenceNumber + 1, hasExpectedSequence := true }
  if m.hasExpectedSequence ∧ header.sequenceNumber ≠ m.expectedSequence then
    if isForwardSequenceGap m.expectedSequence header.sequenceNumber then
      let missing := appendMissingSequences m.expectedSequence header.sequenceNumber
        kMaxReportedMissingSequences
      let m := { m with accessUnitCorrupted := true, fragmentedNalu := [] }
      let m := if ¬ m.hasTimestamp ∨ header.timestamp ≠ m.timestamp
        then { m with accessUnit := [] } else m
      some (next m, true, missing)
    else none
  else some (next m, false, [])

/-- The timestamp check of `consume`: the state after it, and whether an
unfinished access unit was dropped. -/
def checkTimestamp (m : H264AccessUnitAssembler) (header : RTPHeader) :
    H264AccessUnitAssembler × Bool :=
  if ¬ m.hasTimestamp ∨ header.timestamp ≠ m.timestamp then
    let dropped := m.hasTimestamp && (!m.accessUnit.isEmpty || !m.fragmentedNalu.isEmpty)
    ({ m with fragmentedNalu := [], accessUnit := [], timestamp := header.timestamp,
              hasTimestamp := true, accessUnitCorrupted := false },
      dropped)
  else (m, false)

/-- The payload of a packet is added to the access unit or to the fragmented
unit; `false` where `consume` returns here and reports a loss. -/
def addPayload (m : H264AccessUnitAssembler) (fuIndicator : UInt8) (rest : List UInt8) :
    H264AccessUnitAssembler × Bool :=
  if fuIndicator &&& 0x1F = 28 then
    match rest with
    | [] => ({ m with accessUnitCorrupted := true }, false)
    | fuHeader :: fragment =>
      let isStart := fuHeader &&& 0x80 ≠ 0
      let isEnd := fuHeader &&& 0x40 ≠ 0
      let reconstructedHeader := (fuIndicator &&& 0xE0) ||| (fuHeader &&& 0x1F)
      let m := if isStart then { m with fragmentedNalu := [reconstructedHeader] } else m
      if m.fragmentedNalu = [] then ({ m with accessUnitCorrupted := true }, false)
      else
        let m := { m with fragmentedNalu := m.fragmentedNalu ++ fragment }
        if isEnd then
          ({ m with accessUnit := appendCompleteNalu m.accessUnit m.fragmentedNalu,
                    fragmentedNalu := [] }, true)
        else (m, true)
  else
    let m := if m.fragmentedNalu ≠ []
      then { m with accessUnitCorrupted := true, fragmentedNalu := [] } else m
    ({ m with accessUnit := appendCompleteNalu m.accessUnit (fuIndicator :: rest) }, true)

/-- The end of `consume`: what is emitted at the marker. -/
def finish (m : H264AccessUnitAssembler) (header : RTPHeader) (packetLoss : Bool)
    (missing : List UInt16) : H264AccessUnitAssembler × ConsumeResult :=
  if ¬ header.marker ∨ m.accessUnit = [] then (m, ⟨none, packetLoss, missing⟩)
  else
    let corrupted := m.accessUnitCorrupted || !m.fragmentedNalu.isEmpty
    let cleared := { m with accessUnit := [], fragmentedNalu := [], accessUnitCorrupted := false }
    if corrupted then (cleared, ⟨none, packetLoss || corrupted, missing⟩)
    else
      let unit : H264AccessUnit :=
        { payload := m.accessUnit, pts := header.timestamp.toNat,
          payloadType := header.payloadType }
      (cleared, ⟨some unit, packetLoss || corrupted, missing⟩)

def consume (m : H264AccessUnitAssembler) (packet : RTPPacket) :
    H264AccessUnitAssembler × ConsumeResult :=
  match m.checkSequence packet.header with
  | none => (m, ⟨none, false, []⟩)
  | some (m, gap, missing) =>
    let (m, dropped) := m.checkTimestamp packet.header
    let packetLoss := gap || dropped
    match packet.payload with
    | [] => (m, ⟨none, packetLoss, missing⟩)
    | first :: rest =>
      match m.addPayload first rest with
      | (m, false) => (m, ⟨none, true, missing⟩)
      | (m, true) => m.finish packet.header packetLoss missing

/-- The results of a sequence of packets, with the state after them. -/
def consumeAll (m : H264AccessUnitAssembler) :
    List RTPPacket → H264AccessUnitAssembler × List ConsumeResult
  | [] => (m, [])
  | packet :: packets =>
    let (m, result) := m.consume packet
    let (m, results) := m.consumeAll packets
    (m, result :: results)

end H264AccessUnitAssembler

end MeetingSystem.Impl.Client
