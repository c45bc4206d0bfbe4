import MeetingSystem.Impl.Client.JitterBuffer

/-!
# The receive path of a video stream

`VideoRecvPeerRuntime` of `ScreenShareSessionTransport.cpp` with the assembler
of its `VideoRecvPipeline`: packets go into the jitter buffer as they arrive,
and a worker takes them out and gives them to the assembler. The runtime of a
peer is made for a media SSRC other than zero, so its pipeline has one stream.
What the decoder does with an access unit is not modelled; it decides only what
`consumePacket` returns for it.
-/

namespace MeetingSystem.Impl.Client

structure VideoRecvPipelineConfig where
  screenPayloadType : UInt8
  cameraPayloadType : UInt8

structure VideoRecvPeerRuntime where
  config : VideoRecvPipelineConfig
  remoteMediaSsrc : UInt32
  jitterBuffer : JitterBuffer
  assembler : H264AccessUnitAssembler

def kMaxRecvPeerQueuedPackets : Nat := 64

def kMinRecvPeerBufferedPackets : Nat := 3

/-- 20 ms. -/
def kRecvPeerJitterGapTimeout : Int := 20000000

/-- What happens to the runtime: a packet arrives, the worker sets up the buffer
before it waits, or a turn of its `popWait` is over. -/
inductive RecvOp
  | enqueue (packet : RTPPacket)
  | configure (minBufferedPackets : Nat)
  | popWaitTurn (now popNow : Int)
  deriving DecidableEq

namespace VideoRecvPeerRuntime

def new (config : VideoRecvPipelineConfig) (remoteMediaSsrc : UInt32) : VideoRecvPeerRuntime :=
  { config, remoteMediaSsrc
    jitterBuffer := .new kMaxRecvPeerQueuedPackets kMinRecvPeerBufferedPackets
      kRecvPeerJitterGapTimeout
    assembler := .init }

/-- `consumePacket` up to the assembler; `none` for a packet of another stream. -/
def consumePacket (r : VideoRecvPeerRuntime) (packet : RTPPacket) :
    Option (H264AccessUnitAssembler × ConsumeResult) :=
  if packet.header.payloadType ≠ r.config.screenPayloadType ∧
      packet.header.payloadType ≠ r.config.cameraPayloadType then none
  else if packet.header.ssrc ≠ r.remoteMediaSsrc then none
  else some (r.assembler.consume packet)

def processPacket (r : VideoRecvPeerRuntime) (packet : RTPPacket) : VideoRecvPeerRuntime :=
  match r.consumePacket packet with
  | none => r
  | some (assembler, _) => { r with assembler }

def step (r : VideoRecvPeerRuntime) : RecvOp → VideoRecvPeerRuntime
  | .enqueue packet => { r with jitterBuffer := r.jitterBuffer.push packet }
  | .configure minBufferedPackets =>
    let jitterBuffer := r.jitterBuffer.setMinBufferedPackets minBufferedPackets
    { r with jitterBuffer := jitterBuffer.setGapTimeout kRecvPeerJitterGapTimeout }
  | .popWaitTurn now popNow =>
    match r.jitterBuffer.popWaitTurn now popNow with
    | (jitterBuffer, none) => { r with jitterBuffer }
    | (jitterBuffer, some packet) => processPacket { r with jitterBuffer } packet

/-- The packet an operation gives to the assembler, with what it returns. -/
def consumed (r : VideoRecvPeerRuntime) : RecvOp → Option (RTPPacket × ConsumeResult)
  | .popWaitTurn now popNow =>
    (r.jitterBuffer.popWaitTurn now popNow).2.bind fun packet =>
      (r.consumePacket packet).map fun result => (packet, result.2)
  | _ => none

end VideoRecvPeerRuntime

end MeetingSystem.Impl.Client
