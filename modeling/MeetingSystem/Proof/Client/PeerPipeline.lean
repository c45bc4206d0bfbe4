import MeetingSystem.Proof.Client.StreamTable

/-!
# The pipeline of a peer

A `VideoRecvPeerRuntime` expects its own SSRC with every packet that it gives to
its pipeline. Its model has the assembler of that stream in place of the table.
`peer_pipeline`: in every run the table has no other stream, and each packet is
consumed with the same result.
-/

namespace MeetingSystem.Proof.Client

open MeetingSystem.Framework MeetingSystem.Impl.Client VideoRecvPipeline

/-- The packet that an operation takes out of the buffer. -/
def poppedBy (r : VideoRecvPeerRuntime) : RecvOp → Option RTPPacket
  | .popWaitTurn now popNow => (r.jitterBuffer.popWaitTurn now popNow).2
  | _ => none

/-- What the pipeline of the runtime returns for a packet. -/
def packetResult (remoteMediaSsrc : UInt32) : Option ConsumeResult → PacketResult
  | none => .ignored
  | some result => .assembled remoteMediaSsrc result

/-- An operation with the time and the place in the table that the pipeline
takes for its packet. -/
structure PeerOp where
  op : RecvOp
  place : Nat
  nowMs : UInt64

/-- The model of a runtime besides the pipeline of the source. -/
structure PeerWatch where
  runtime : VideoRecvPeerRuntime
  pipeline : VideoRecvPipeline

namespace PeerWatch

def start (config : VideoRecvPipelineConfig) (remoteMediaSsrc : UInt32) : PeerWatch :=
  { runtime := .new config remoteMediaSsrc, pipeline := .new config }

variable (w : PeerWatch) (o : PeerOp)

def consumePacket (packet : RTPPacket) : VideoRecvPipeline × PacketResult :=
  w.pipeline.consumePacket o.place o.nowMs packet w.runtime.remoteMediaSsrc

def step : PeerWatch where
  runtime := w.runtime.step o.op
  pipeline := ((poppedBy w.runtime o.op).map fun packet => (w.consumePacket o packet).1).getD
    w.pipeline

end PeerWatch

/-- The table has the stream of the runtime only, with its assembler. -/
structure PipelineOf (r : VideoRecvPeerRuntime) (m : VideoRecvPipeline) : Prop where
  named : r.remoteMediaSsrc ≠ 0
  config : m.config = r.config
  only : ∀ ssrc ∈ m.streamStates, ssrc = r.remoteMediaSsrc
  assembler : assemblerOf m.streamStates r.remoteMediaSsrc = r.assembler

/-- The packet that the operation gives to both has the same result. -/
def SameResult (w : PeerWatch) (o : PeerOp) : Prop :=
  ∀ packet, poppedBy w.runtime o.op = some packet →
    (w.consumePacket o packet).2 =
      packetResult w.runtime.remoteMediaSsrc ((w.runtime.consumed o.op).map Prod.snd)

variable {r : VideoRecvPeerRuntime} {m : VideoRecvPipeline}

theorem pipelineOf_new (config : VideoRecvPipelineConfig) {remoteMediaSsrc : UInt32}
    (hne : remoteMediaSsrc ≠ 0) : PipelineOf (.new config remoteMediaSsrc) (.new config) :=
  ⟨hne, rfl, fun _ h => absurd h (AList.notMem_empty _), rfl⟩

/-- Both ignore the packet, or give it to their assembler. -/
theorem PipelineOf.processPacket (h : PipelineOf r m) (packet : RTPPacket) (place : Nat)
    (nowMs : UInt64) :
    PipelineOf (r.processPacket packet)
        (m.consumePacket place nowMs packet r.remoteMediaSsrc).1 ∧
      (m.consumePacket place nowMs packet r.remoteMediaSsrc).2 =
        packetResult r.remoteMediaSsrc ((r.consumePacket packet).map Prod.snd) := by
  obtain ⟨hne, hconfig, honly, hassembler⟩ := h
  rw [VideoRecvPeerRuntime.processPacket, VideoRecvPeerRuntime.consumePacket, ← hconfig]
  by_cases hmedia : packet.header.payloadType ≠ m.config.screenPayloadType ∧
      packet.header.payloadType ≠ m.config.cameraPayloadType
  · rw [if_pos hmedia, VideoRecvPipeline.consumePacket, if_pos hmedia]
    exact ⟨⟨hne, hconfig, honly, hassembler⟩, rfl⟩
  · rw [if_neg hmedia]
    by_cases hother : packet.header.ssrc ≠ r.remoteMediaSsrc
    · rw [if_pos hother, VideoRecvPipeline.consumePacket, if_neg hmedia, if_pos ⟨hne, hother⟩]
      exact ⟨⟨hne, hconfig, honly, hassembler⟩, rfl⟩
    · have hssrc : packet.header.ssrc = r.remoteMediaSsrc := not_not.mp hother
      have hstream : streamOf m.config packet r.remoteMediaSsrc = some r.remoteMediaSsrc := by
        rw [streamOf, if_pos ⟨by tauto, .inr hssrc, hssrc ▸ hne⟩, hssrc]
      obtain ⟨next, heq, hlookup, -, hothers⟩ := consumePacket_spec hstream place nowMs
      rw [if_neg hother, heq, hassembler]
      rw [hassembler] at hlookup
      refine ⟨⟨hne, rfl, fun ssrc hssrc => ?_, ?_⟩, rfl⟩
      · by_contra hneq
        obtain ⟨streamState, hentry⟩ := lookup_of_mem hssrc
        rw [hothers ssrc hneq] at hentry
        exact hneq (honly ssrc (mem_of_lookup (lookup_roomFor hentry)))
      · show ((next.lookup r.remoteMediaSsrc).map StreamState.assembler).getD .init = _
        rw [hlookup]
        rfl

theorem remoteMediaSsrc_step (r : VideoRecvPeerRuntime) (op : RecvOp) :
    (r.step op).remoteMediaSsrc = r.remoteMediaSsrc := by
  cases op with
  | enqueue packet => rfl
  | configure minBufferedPackets => rfl
  | popWaitTurn now popNow =>
    rw [VideoRecvPeerRuntime.step]
    split
    · rfl
    · rw [VideoRecvPeerRuntime.processPacket]
      split <;> rfl

variable {w : PeerWatch} {o : PeerOp}

/-- Without a packet the assembler is left alone. -/
theorem PipelineOf.of_none (h : PipelineOf w.runtime w.pipeline)
    (hnone : poppedBy w.runtime o.op = none) :
    PipelineOf (w.step o).runtime (w.step o).pipeline := by
  have hpipeline : (w.step o).pipeline = w.pipeline := by
    rw [PeerWatch.step, hnone]
    rfl
  have hruntime : (w.step o).runtime.config = w.runtime.config ∧
      (w.step o).runtime.assembler = w.runtime.assembler := by
    rw [PeerWatch.step]
    obtain ⟨op, place, nowMs⟩ := o
    cases op with
    | enqueue packet => exact ⟨rfl, rfl⟩
    | configure minBufferedPackets => exact ⟨rfl, rfl⟩
    | popWaitTurn now popNow =>
      have hnone : (w.runtime.jitterBuffer.popWaitTurn now popNow).2 = none := hnone
      rw [VideoRecvPeerRuntime.step]
      generalize w.runtime.jitterBuffer.popWaitTurn now popNow = turn at hnone
      obtain ⟨jitterBuffer, popped⟩ := turn
      cases hnone
      exact ⟨rfl, rfl⟩
  have hssrc : (w.step o).runtime.remoteMediaSsrc = w.runtime.remoteMediaSsrc :=
    remoteMediaSsrc_step w.runtime o.op
  obtain ⟨hne, hconfig, honly, hassembler⟩ := h
  refine ⟨?_, ?_, ?_, ?_⟩
  · rwa [hssrc]
  · rw [hpipeline, hruntime.1, hconfig]
  · rw [hpipeline, hssrc]
    exact honly
  · rw [hpipeline, hssrc, hruntime.2, hassembler]

/-- What the turn does that takes the packet out. -/
theorem step_popped {op : RecvOp} {packet : RTPPacket} (h : poppedBy r op = some packet) :
    ∃ jitterBuffer, r.step op = { r with jitterBuffer }.processPacket packet ∧
      r.consumed op = (r.consumePacket packet).map fun result => (packet, result.2) := by
  cases op with
  | enqueue packet => cases h
  | configure minBufferedPackets => cases h
  | popWaitTurn now popNow =>
    have hpopped : (r.jitterBuffer.popWaitTurn now popNow).2 = some packet := h
    refine ⟨(r.jitterBuffer.popWaitTurn now popNow).1, ?_, ?_⟩
    · rw [VideoRecvPeerRuntime.step]
      generalize r.jitterBuffer.popWaitTurn now popNow = turn at hpopped
      obtain ⟨jitterBuffer, popped⟩ := turn
      cases hpopped
      rfl
    · rw [VideoRecvPeerRuntime.consumed, hpopped, Option.bind_some]

theorem PipelineOf.step (h : PipelineOf w.runtime w.pipeline) (o : PeerOp) :
    PipelineOf (w.step o).runtime (w.step o).pipeline ∧ SameResult w o := by
  cases hpopped : poppedBy w.runtime o.op with
  | none =>
    refine ⟨h.of_none hpopped, fun packet hpacket => ?_⟩
    rw [hpopped] at hpacket
    cases hpacket
  | some packet =>
    obtain ⟨jitterBuffer, hruntime, hconsumed⟩ := step_popped hpopped
    have hbuffer : PipelineOf { w.runtime with jitterBuffer } w.pipeline :=
      ⟨h.named, h.config, h.only, h.assembler⟩
    obtain ⟨hnext, hresult⟩ := hbuffer.processPacket packet o.place o.nowMs
    have hpipeline : (w.step o).pipeline = (w.consumePacket o packet).1 := by
      rw [PeerWatch.step, hpopped]
      rfl
    constructor
    · show PipelineOf (w.runtime.step o.op) _
      rw [hpipeline, hruntime]
      exact hnext
    · intro other hother
      rw [hpopped] at hother
      cases hother
      rw [hconsumed, Option.map_map]
      exact hresult

/-- In every run of a runtime for an SSRC other than zero, its pipeline has no
other stream, the same assembler, and the same results. -/
theorem peer_pipeline (config : VideoRecvPipelineConfig) {remoteMediaSsrc : UInt32}
    (hne : remoteMediaSsrc ≠ 0) (ops : List PeerOp) :
    PipelineOf (run PeerWatch.step (.start config remoteMediaSsrc) ops).runtime
        (run PeerWatch.step (.start config remoteMediaSsrc) ops).pipeline ∧
      Along PeerWatch.step SameResult (.start config remoteMediaSsrc) ops := by
  have hstart : PipelineOf (PeerWatch.start config remoteMediaSsrc).runtime
      (PeerWatch.start config remoteMediaSsrc).pipeline := pipelineOf_new config hne
  constructor
  · exact run_inv (P := fun w : PeerWatch => PipelineOf w.runtime w.pipeline)
      (fun w o h => (h.step o).1) hstart ops
  · exact Along.of_invariant (P := fun w : PeerWatch => PipelineOf w.runtime w.pipeline)
      (fun w o h => (h.step o).1) (fun w o h => (h.step o).2) hstart ops

/-- One frame in one packet, and a packet of another stream after it. -/
def strayOps : List PeerOp :=
  [⟨.configure 1, 0, 0⟩,
    ⟨.enqueue ⟨⟨2, false, false, 0, true, 96, 65535, 0, 7⟩, [0x65, 1]⟩, 0, 0⟩,
    ⟨.popWaitTurn 0 0, 0, 10⟩,
    ⟨.enqueue ⟨⟨2, false, false, 0, true, 96, 0, 3000, 8⟩, [0x65, 2]⟩, 0, 20⟩,
    ⟨.popWaitTurn 20 20, 0, 30⟩]

theorem peer_pipeline_strayOps :
    PipelineOf (run PeerWatch.step (.start ⟨96, 97⟩ 7) strayOps).runtime
        (run PeerWatch.step (.start ⟨96, 97⟩ 7) strayOps).pipeline ∧
      Along PeerWatch.step SameResult (.start ⟨96, 97⟩ 7) strayOps :=
  peer_pipeline ⟨96, 97⟩ (by decide) strayOps

end MeetingSystem.Proof.Client
