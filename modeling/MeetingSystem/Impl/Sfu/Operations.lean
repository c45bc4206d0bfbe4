import MeetingSystem.Framework.Run
import MeetingSystem.Impl.Sfu.Packets

/-!
# The operations of the media plane

What the RPC service, the status loop of the daemon and the UDP server do to a
`MediaIngress`, as one step function. `Op.reorder` stands for the hash tables,
which may change their iteration order whenever they grow.
-/

namespace MeetingSystem.Impl.Sfu

open MeetingSystem.Framework

/-- Bring one entry of an iterated table to the front. -/
inductive Reorder where
  | rooms (meetingId : String)
  | publishers (meetingId userId : String)
  | subscribers (meetingId userId : String)
  | transports (key : String)
  | rembFeedback (sourceSsrc : UInt32) (endpointKey : String)
  deriving DecidableEq

inductive Op where
  | createRoom (place : Nat) (meetingId : String) (maxPublishers : Nat)
  | destroyRoom (meetingId : String)
  | bindPublisher (place : Nat) (meetingId userId : String) (audioSsrc videoSsrc : UInt32)
  | bindSubscriber (place : Nat) (meetingId userId : String) (audioSsrc videoSsrc : UInt32)
  | setupTransport (req : MediaIngress.SetupRequest) (io : MediaIngress.SetupIo)
  | closeTransport (meetingId userId : String)
  | removePublisher (meetingId userId : String)
  | removeSubscriber (meetingId userId : String)
  | sendEstimatedRemb (meetingId userId : String) (bitrateKbps : UInt32) (now : Nat)
  | datagram (data : Bytes) (peer : Endpoint) (io : DatagramIo)
  | reorder (which : Reorder)

namespace MediaIngress

variable {lib : SrtpLib}

def kMaxKbpsBeforeOverflow : UInt32 := 4294967

def kMinSendInterval : Nat := 500000000

def kMinChangePercent : Nat := 5

/-- Whether a REMB with this bitrate is new enough to be sent; a state that
was never written has `sentAt` 0. -/
def shouldSendEstimate (state : EstimatedRembState) (bitrateBps : UInt32) (now : Nat) : Bool :=
  let old := state.bitrateBps.toNat
  let delta := if bitrateBps < state.bitrateBps then old - bitrateBps.toNat
    else bitrateBps.toNat - old
  let changePercent := if old = 0 then 100 else delta * 100 / old % 2 ^ 32
  ¬ (state.sentAt ≠ 0 ∧ now < state.sentAt + kMinSendInterval ∧ changePercent < kMinChangePercent)

def sendEstimatedRembToPublisher (s : MediaIngress lib) (meetingId userId : String)
    (bitrateKbps : UInt32) (now : Nat) : MediaIngress lib × List (Event lib) :=
  if meetingId = "" ∨ userId = "" ∨ bitrateKbps = 0 then (s, [])
  else
    match (s.roomManager.getRoomShared meetingId).bind (·.getPublisher userId) with
    | none => (s, [])
    | some publisher =>
      let sourceSsrc := if publisher.videoSsrc ≠ 0 then publisher.videoSsrc else publisher.audioSsrc
      match s.resolvePublisherEndpoint sourceSsrc with
      | none => (s, [])
      | some publisherEndpoint =>
        let bitrateBps := min bitrateKbps kMaxKbpsBeforeOverflow * 1000
        let state := (s.estimatedRembBySource sourceSsrc).getD { bitrateBps := 0, sentAt := 0 }
        if ¬ shouldSendEstimate state bitrateBps now then (s, [])
        else
          let s := { s with
            estimatedRembBySource := Function.update s.estimatedRembBySource sourceSsrc
              (some { bitrateBps, sentAt := now }) }
          let (exp, mantissa) := encodeRembBitrate bitrateBps
          report .answered
            (s.sendRtcp publisherEndpoint (buildRembPacket 0 sourceSsrc exp mantissa sourceSsrc))

/-- Change the order of a room's tables. -/
def reorderRoom (s : MediaIngress lib) (meetingId : String) (f : Room → Room) :
    MediaIngress lib :=
  match s.roomManager.rooms.lookup meetingId with
  | none => s
  | some room => s.setRoom meetingId (f room)

def reorder (s : MediaIngress lib) : Reorder → MediaIngress lib
  | .rooms meetingId =>
    { s with roomManager := { rooms := toFront meetingId s.roomManager.rooms } }
  | .publishers meetingId userId =>
    s.reorderRoom meetingId fun room =>
      { room with publishers := toFront userId room.publishers }
  | .subscribers meetingId userId =>
    s.reorderRoom meetingId fun room =>
      { room with subscribers := toFront userId room.subscribers }
  | .transports key =>
    { s with transportRegistry := { transports := toFront key s.transportRegistry.transports } }
  | .rembFeedback sourceSsrc endpointKey =>
    { s with
      rembFeedbackBySource := Function.update s.rembFeedbackBySource sourceSsrc
        (toFront endpointKey (s.rembFeedbackBySource sourceSsrc)) }

/-- One operation, with what it did. -/
def handle (s : MediaIngress lib) : Op → MediaIngress lib × List (Event lib)
  | .createRoom place meetingId maxPublishers =>
    ({ s with roomManager := s.roomManager.createRoom place meetingId maxPublishers }, [])
  | .destroyRoom meetingId => ({ s with roomManager := s.roomManager.destroyRoom meetingId }, [])
  | .bindPublisher place meetingId userId audioSsrc videoSsrc =>
    ((s.bindPublisher place meetingId userId audioSsrc videoSsrc).1, [])
  | .bindSubscriber place meetingId userId audioSsrc videoSsrc =>
    ((s.bindSubscriber place meetingId userId audioSsrc videoSsrc).1, [])
  | .setupTransport req io => ((s.setupTransport req io).1, [])
  | .closeTransport meetingId userId => ((s.closeTransport meetingId userId).1, [])
  | .removePublisher meetingId userId => ((s.removePublisher meetingId userId).1, [])
  | .removeSubscriber meetingId userId => ((s.removeSubscriber meetingId userId).1, [])
  | .sendEstimatedRemb meetingId userId bitrateKbps now =>
    s.sendEstimatedRembToPublisher meetingId userId bitrateKbps now
  | .datagram data peer io => s.handlePacket data peer io
  | .reorder which => (s.reorder which, [])

def step (s : MediaIngress lib) (o : Op) : MediaIngress lib := (s.handle o).1

/-- A state that some operations lead to from an empty media plane. -/
def Reachable (s : MediaIngress lib) : Prop :=
  ∃ port nackCapacity os, s = run step (new port nackCapacity) os

end MediaIngress

end MeetingSystem.Impl.Sfu
