import Mathlib.Data.List.Basic

/-!
# The frames of the signaling server

`meeting-server/signaling/protocol/frame.go`: the frames that it exchanges with
its clients; `meeting-server/signaling/sfu/client.go`: those that it exchanges
with the SFU. A reader is the bytes that it still gives.
-/

namespace MeetingSystem.Impl.Signaling

/-- `binary.BigEndian.PutUint16`. -/
def putUint16 (v : UInt16) : List UInt8 := [(v >>> 8).toUInt8, v.toUInt8]

/-- `binary.BigEndian.PutUint32`. -/
def putUint32 (v : UInt32) : List UInt8 :=
  [(v >>> 24).toUInt8, (v >>> 16).toUInt8, (v >>> 8).toUInt8, v.toUInt8]

/-- `binary.BigEndian.Uint16(b[offset:])`. -/
def bigEndianUint16 (b : List UInt8) (offset : Nat) : UInt16 :=
  (b.getD (offset + 1) 0).toUInt16 ||| (b.getD offset 0).toUInt16 <<< 8

/-- `binary.BigEndian.Uint32(b[offset:])`. -/
def bigEndianUint32 (b : List UInt8) (offset : Nat) : UInt32 :=
  (b.getD (offset + 3) 0).toUInt32 ||| (b.getD (offset + 2) 0).toUInt32 <<< 8 |||
    (b.getD (offset + 1) 0).toUInt32 <<< 16 ||| (b.getD offset 0).toUInt32 <<< 24

namespace Protocol

def HeaderSize : Nat := 9
def MagicHigh : UInt8 := 0xAB
def MagicLow : UInt8 := 0xCD
def Version : UInt8 := 0x01

def EncodeFrame (msgType : UInt16) (payload : List UInt8) : List UInt8 :=
  [MagicHigh, MagicLow, Version] ++ putUint16 msgType ++
    putUint32 (.ofNat payload.length) ++ payload

/-- The type and the length of the payload, or the error. -/
def DecodeHeader (header : List UInt8) (maxPayload : UInt32) : Except String (UInt16 × UInt32) :=
  if header.length ≠ HeaderSize then .error "frame too short"
  else if header.getD 0 0 ≠ MagicHigh ∨ header.getD 1 0 ≠ MagicLow then .error "bad frame magic"
  else if header.getD 2 0 ≠ Version then .error "unsupported frame version"
  else
    let payloadLen := bigEndianUint32 header 5
    if payloadLen > maxPayload then .error "invalid frame payload length"
    else .ok (bigEndianUint16 header 3, payloadLen)

end Protocol

namespace SfuClient

def wireMagic0 : UInt8 := 0x53
def wireMagic1 : UInt8 := 0x46
def wireMagic2 : UInt8 := 0x55
def wireMagic3 : UInt8 := 0x52
def wireVersion : UInt8 := 1
def wireHeaderSize : Nat := 14
def wireMaxPayload : UInt32 := 1048576

structure WireHeader where
  method : UInt16
  kind : UInt8
  status : UInt16
  length : UInt32
  deriving DecidableEq

/-- What is written; the length in the header is the caller's. -/
def writeFrame (header : WireHeader) (payload : List UInt8) : List UInt8 :=
  [wireMagic0, wireMagic1, wireMagic2, wireMagic3, wireVersion, header.kind] ++
    putUint16 header.method ++ putUint16 header.status ++ putUint32 header.length ++ payload

/-- `io.ReadFull`, of `n` bytes. -/
def readFull (r : List UInt8) (n : Nat) : Except String (List UInt8 × List UInt8) :=
  if n ≤ r.length then .ok (r.take n, r.drop n)
  else if r = [] then .error "EOF"
  else .error "unexpected EOF"

/-- The header and the payload, and the reader after them. -/
def readFrame (r : List UInt8) : Except String (WireHeader × List UInt8 × List UInt8) :=
  match readFull r wireHeaderSize with
  | .error err => .error err
  | .ok (headerBuf, r) =>
    if headerBuf.getD 0 0 ≠ wireMagic0 ∨ headerBuf.getD 1 0 ≠ wireMagic1 ∨
        headerBuf.getD 2 0 ≠ wireMagic2 ∨ headerBuf.getD 3 0 ≠ wireMagic3 then
      .error "sfu rpc bad magic"
    else if headerBuf.getD 4 0 ≠ wireVersion then .error "sfu rpc unsupported version"
    else
      let payloadLen := bigEndianUint32 headerBuf 10
      if payloadLen > wireMaxPayload then .error "sfu rpc payload too large"
      else
        match readFull r payloadLen.toNat with
        | .error err => .error err
        | .ok (payload, r) =>
          .ok
            ({ method := bigEndianUint16 headerBuf 6, kind := headerBuf.getD 5 0
               status := bigEndianUint16 headerBuf 8, length := payloadLen }, payload, r)

end SfuClient

end MeetingSystem.Impl.Signaling
