import MeetingSystem.Framework.Run
import MeetingSystem.Impl.Signaling.Frame

/-!
# The signaling connection of the client

`plasma-hawking/src/net/signaling/SignalProtocol.cpp` and the socket handlers of
`SignalingClient.cpp`. A connection is the frames that its peer sends; TCP hands
over any number of the next bytes of their stream at a time, and a connection
may end anywhere. What is done with a frame is left out.
-/

namespace MeetingSystem.Impl.Client

open MeetingSystem.Impl.Signaling

/-! ## The protocol -/

def kVersion : UInt8 := 0x01
def kMagicHigh : UInt8 := 0xAB
def kMagicLow : UInt8 := 0xCD
def kHeaderSize : Nat := 9

structure FrameHeader where
  type : UInt16
  length : UInt32
  deriving DecidableEq

def encodeFrame (type : UInt16) (payload : List UInt8) : List UInt8 :=
  let payloadLen : UInt32 := .ofNat payload.length
  [kMagicHigh, kMagicLow, kVersion, (type >>> 8 &&& 0xFF).toUInt8, (type &&& 0xFF).toUInt8,
    (payloadLen >>> 24 &&& 0xFF).toUInt8, (payloadLen >>> 16 &&& 0xFF).toUInt8,
    (payloadLen >>> 8 &&& 0xFF).toUInt8, (payloadLen &&& 0xFF).toUInt8] ++ payload

def decodeHeader (bytes : List UInt8) (maxPayloadLen : UInt32) : Option FrameHeader :=
  if bytes.length ≠ kHeaderSize then none
  else if bytes.getD 0 0 ≠ kMagicHigh ∨ bytes.getD 1 0 ≠ kMagicLow ∨ bytes.getD 2 0 ≠ kVersion then
    none
  else
    let type := (bytes.getD 3 0).toUInt16 <<< 8 ||| (bytes.getD 4 0).toUInt16
    let length := (bytes.getD 5 0).toUInt32 <<< 24 ||| (bytes.getD 6 0).toUInt32 <<< 16 |||
      (bytes.getD 7 0).toUInt32 <<< 8 ||| (bytes.getD 8 0).toUInt32
    if length > maxPayloadLen then none else some { type, length }

/-! ## The client -/

structure SignalFrame where
  type : UInt16
  payload : List UInt8
  deriving DecidableEq

/-- `m_maxPayloadBytes`. -/
def maxPayloadBytes : UInt32 := 4 * 1024 * 1024

/-- The frames that are handled, the read buffer after them, and whether a
header was invalid, for which the client disconnects. -/
def processIncomingFrames (readBuffer : List UInt8) : List SignalFrame × List UInt8 × Bool :=
  if readBuffer.length < kHeaderSize then ([], readBuffer, false)
  else
    match decodeHeader (readBuffer.take kHeaderSize) maxPayloadBytes with
    | none => ([], [], true)
    | some decoded =>
      let frameSize := kHeaderSize + decoded.length.toNat
      if readBuffer.length < frameSize then ([], readBuffer, false)
      else
        let payload := (readBuffer.drop kHeaderSize).take decoded.length.toNat
        let r := processIncomingFrames (readBuffer.drop frameSize)
        ({ type := decoded.type, payload } :: r.1, r.2)
  termination_by readBuffer.length
  decreasing_by
    simp only [List.length_drop, frameSize, kHeaderSize] at *
    omega

/-! ## Connections -/

/-- The two implementations that encode frames. -/
inductive Encoder where
  | client
  | server
  deriving DecidableEq

/-- A frame that a peer sends. -/
structure PeerFrame where
  encoder : Encoder
  frame : SignalFrame
  le : frame.payload.length ≤ maxPayloadBytes.toNat

def PeerFrame.bytes (f : PeerFrame) : List UInt8 :=
  match f.encoder with
  | .client => encodeFrame f.frame.type f.frame.payload
  | .server => Protocol.EncodeFrame f.frame.type f.frame.payload

/-- `frames` are the peer's on the last connection, `received` the bytes of them
that have arrived and `delivered` the frames handled since it was made. -/
structure SignalingClient where
  readBuffer : List UInt8
  connected : Bool
  frames : List PeerFrame
  received : List UInt8
  delivered : List SignalFrame

inductive SocketOp where
  | connectToServer (frames : List PeerFrame)
  | readyRead (count : Nat)
  | disconnected

namespace SignalingClient

def new : SignalingClient :=
  { readBuffer := [], connected := false, frames := [], received := [], delivered := [] }

/-- The handler of `readyRead`, for the bytes that have arrived. -/
def read (s : SignalingClient) (chunk : List UInt8) : SignalingClient :=
  let (frames, readBuffer, invalid) := processIncomingFrames (s.readBuffer ++ chunk)
  { s with
    readBuffer
    connected := !invalid
    received := s.received ++ chunk
    delivered := s.delivered ++ frames }

def step (s : SignalingClient) : SocketOp → SignalingClient
  | .connectToServer frames => { s with connected := true, frames, received := [], delivered := [] }
  | .readyRead count =>
    if ¬ s.connected then s
    else s.read (((s.frames.flatMap PeerFrame.bytes).drop s.received.length).take count)
  | .disconnected => { s with connected := false }

end SignalingClient

end MeetingSystem.Impl.Client
