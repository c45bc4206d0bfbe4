import MeetingSystem.Impl.Client.H264RtpPayload

/-!
# RTP packets on the wire

`plasma-hawking/src/net/media/RTPSender.cpp` and `RTPReceiver.cpp`. A pointer
into a packet is an offset into its bytes, and what a function writes to its
out parameters is its result.
-/

namespace MeetingSystem.Impl.Client

def kRtpMinHeaderSize : Nat := 12

def readBE16 (data : List UInt8) (offset : Nat) : UInt16 :=
  (data.getD offset 0).toUInt16 <<< 8 ||| (data.getD (offset + 1) 0).toUInt16

def readBE32 (data : List UInt8) (offset : Nat) : UInt32 :=
  (data.getD offset 0).toUInt32 <<< 24 ||| (data.getD (offset + 1) 0).toUInt32 <<< 16 |||
    (data.getD (offset + 2) 0).toUInt32 <<< 8 ||| (data.getD (offset + 3) 0).toUInt32

def writeBE16 (v : UInt16) : List UInt8 := [(v >>> 8 &&& 0xFF).toUInt8, (v &&& 0xFF).toUInt8]

def writeBE32 (v : UInt32) : List UInt8 :=
  [(v >>> 24 &&& 0xFF).toUInt8, (v >>> 16 &&& 0xFF).toUInt8, (v >>> 8 &&& 0xFF).toUInt8,
    (v &&& 0xFF).toUInt8]

/-! ## The parser -/

/-- The offset after the extension that starts at `payloadOffset`. -/
def skipExtension (data : List UInt8) (payloadOffset : Nat) : Option Nat :=
  if data.length < payloadOffset + 4 then none
  else
    let extBytes := (readBE16 data (payloadOffset + 2)).toNat * 4
    if payloadOffset + (4 + extBytes) > data.length then none
    else some (payloadOffset + (4 + extBytes))

/-- The last byte of a packet is a padding length that `room` bytes can hold. -/
def paddingFits (data : List UInt8) (room : Nat) : Bool :=
  let padLen := (data.getD (data.length - 1) 0).toNat
  ¬ (padLen = 0 ∨ padLen > room)

/-- The header of a packet, and where its payload starts. -/
def parseRTPHeader (data : List UInt8) : Option (RTPHeader × Nat) :=
  if data.length < kRtpMinHeaderSize then none
  else
    let b0 := data.getD 0 0
    let b1 := data.getD 1 0
    let header : RTPHeader :=
      { version := b0 >>> 6 &&& 0x03
        padding := b0 &&& 0x20 != 0
        extension := b0 &&& 0x10 != 0
        csrcCount := b0 &&& 0x0F
        marker := b1 &&& 0x80 != 0
        payloadType := b1 &&& 0x7F
        sequenceNumber := readBE16 data 2
        timestamp := readBE32 data 4
        ssrc := readBE32 data 8 }
    if header.version ≠ 2 then none
    else
      let payloadOffset := kRtpMinHeaderSize + header.csrcCount.toNat * 4
      if payloadOffset > data.length then none
      else
        match if header.extension then skipExtension data payloadOffset else some payloadOffset with
        | none => none
        | some payloadOffset =>
          if header.padding ∧ ¬ paddingFits data (data.length - payloadOffset) then none
          else some (header, payloadOffset)

/-- `RTPReceiver::parsePacket`. -/
def parsePacket (data : List UInt8) : Option RTPPacket :=
  match parseRTPHeader data with
  | none => none
  | some (header, payloadOffset) =>
    let payloadLen := data.length - payloadOffset
    if header.padding ∧ 0 < payloadLen then
      if ¬ paddingFits data payloadLen then none
      else
        let padLen := (data.getD (data.length - 1) 0).toNat
        some { header, payload := (data.drop payloadOffset).take (payloadLen - padLen) }
    else some { header, payload := (data.drop payloadOffset).take payloadLen }

/-! ## The sender -/

structure RTPSender where
  ssrc : UInt32
  sequence : UInt16
  deriving DecidableEq, Repr

/-- The packet, and the sender after it. -/
def RTPSender.buildPacket (sender : RTPSender) (payloadType : UInt8) (marker : Bool)
    (timestamp : UInt32) (payload : List UInt8) : List UInt8 × RTPSender :=
  let b1 := payloadType &&& 0x7F
  ([0x80, if marker then b1 ||| 0x80 else b1] ++ writeBE16 sender.sequence ++
      writeBE32 timestamp ++ writeBE32 sender.ssrc ++ payload,
    { sender with sequence := sender.sequence + 1 })

end MeetingSystem.Impl.Client
