import MeetingSystem.Framework.Assoc
import MeetingSystem.Impl.Client.VideoReceive
import Mathlib.Algebra.Order.Group.Nat

/-!
# The streams of a receive pipeline

`VideoRecvPipeline.cpp`: a table with a state for each stream, bounded by
`pruneStreamStates` whenever a stream is new. The order of the table is the
order in which the loops go over it. The decoder of a stream is not modelled,
and `consumePacket` ends where it asks the decoder for a frame.
-/

namespace MeetingSystem.Impl.Client

open MeetingSystem.Framework

def kMaxTrackedRecvStreams : Nat := 8

def kRecvStreamIdleTimeoutMs : UInt64 := 30 * 1000

namespace VideoRecvPipeline

structure StreamState where
  assembler : H264AccessUnitAssembler := .init
  lastSeenAtMs : UInt64 := 0
  deriving DecidableEq

abbrev StreamStates := AList fun _ : UInt32 => StreamState

/-- The loop for the stream that has not been seen for longest, with the time
and the stream it has found so far. -/
def findOldest : List (Sigma fun _ : UInt32 => StreamState) → UInt64 → Option UInt32 →
    Option UInt32
  | [], _, oldest => oldest
  | ⟨ssrc, streamState⟩ :: rest, oldestSeenAt, oldest =>
    if streamState.lastSeenAtMs < oldestSeenAt then
      findOldest rest streamState.lastSeenAtMs (some ssrc)
    else findOldest rest oldestSeenAt oldest

/-- The loop that makes room; a turn per entry is enough. -/
def evictOldest : Nat → StreamStates → StreamStates
  | 0, streamStates => streamStates
  | turns + 1, streamStates =>
    if kMaxTrackedRecvStreams ≤ streamStates.keys.length then
      match findOldest streamStates.entries (.ofNat (2 ^ 64 - 1)) none with
      | none => streamStates
      | some oldest => evictOldest turns (streamStates.erase oldest)
    else streamStates

/-- The test of the first loop. -/
def StreamState.isIdle (streamState : StreamState) (nowMs : UInt64) : Bool :=
  streamState.lastSeenAtMs ≤ nowMs ∧ kRecvStreamIdleTimeoutMs < nowMs - streamState.lastSeenAtMs

def pruneStreamStates (streamStates : StreamStates) (nowMs : UInt64)
    (expectedRemoteSsrc : UInt32) : StreamStates :=
  let streamStates :=
    if expectedRemoteSsrc ≠ 0 then retain (fun ssrc _ => ssrc = expectedRemoteSsrc) streamStates
    else retain (fun _ streamState => !streamState.isIdle nowMs) streamStates
  evictOldest streamStates.keys.length streamStates

/-- The table and the state of the stream, unless there is none. -/
def findOrCreateStreamState (streamStates : StreamStates) (place : Nat) (ssrc : UInt32)
    (nowMs : UInt64) (expectedRemoteSsrc : UInt32) : StreamStates × Option StreamState :=
  if ssrc = 0 then (streamStates, none)
  else
    match streamStates.lookup ssrc with
    | some found =>
      let found := { found with lastSeenAtMs := nowMs }
      (streamStates.replace ssrc found, some found)
    | none =>
      let streamStates := pruneStreamStates streamStates nowMs expectedRemoteSsrc
      if ssrc ∈ streamStates then (streamStates, none)
      else
        let inserted : StreamState := { lastSeenAtMs := nowMs }
        (emplace place ssrc inserted streamStates, some inserted)

/-- What `consumePacket` has when it turns to the decoder. -/
inductive PacketResult where
  | ignored
  | decodeFailed (error : String)
  | assembled (remoteMediaSsrc : UInt32) (result : ConsumeResult)
  deriving DecidableEq

end VideoRecvPipeline

open VideoRecvPipeline

structure VideoRecvPipeline where
  config : VideoRecvPipelineConfig
  streamStates : StreamStates

namespace VideoRecvPipeline

def new (config : VideoRecvPipelineConfig) : VideoRecvPipeline := { config, streamStates := ∅ }

def consumePacket (m : VideoRecvPipeline) (place : Nat) (nowMs : UInt64) (packet : RTPPacket)
    (expectedRemoteSsrc : UInt32) : VideoRecvPipeline × PacketResult :=
  if packet.header.payloadType ≠ m.config.screenPayloadType ∧
      packet.header.payloadType ≠ m.config.cameraPayloadType then (m, .ignored)
  else if expectedRemoteSsrc ≠ 0 ∧ packet.header.ssrc ≠ expectedRemoteSsrc then (m, .ignored)
  else
    let remoteMediaSsrc :=
      if expectedRemoteSsrc ≠ 0 then expectedRemoteSsrc else packet.header.ssrc
    match findOrCreateStreamState m.streamStates place remoteMediaSsrc nowMs
      expectedRemoteSsrc with
    | (streamStates, none) =>
      ({ m with streamStates }, .decodeFailed "video decoder stream state unavailable")
    | (streamStates, some streamState) =>
      let (assembler, result) := streamState.assembler.consume packet
      ({ m with
          streamStates := streamStates.replace remoteMediaSsrc { streamState with assembler } },
        .assembled remoteMediaSsrc result)

/-- What happens to a pipeline: a packet arrives, and another stream becomes the
first of the table. -/
inductive PipelineOp where
  | consumePacket (place : Nat) (nowMs : UInt64) (packet : RTPPacket) (expectedRemoteSsrc : UInt32)
  | rehash (ssrc : UInt32)

def step (m : VideoRecvPipeline) : PipelineOp → VideoRecvPipeline
  | .consumePacket place nowMs packet expectedRemoteSsrc =>
    (m.consumePacket place nowMs packet expectedRemoteSsrc).1
  | .rehash ssrc => { m with streamStates := toFront ssrc m.streamStates }

end VideoRecvPipeline

end MeetingSystem.Impl.Client
