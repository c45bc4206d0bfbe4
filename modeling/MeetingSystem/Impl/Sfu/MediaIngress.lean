import MeetingSystem.Framework.Emit
import MeetingSystem.Impl.Sfu.Room
import MeetingSystem.Impl.Sfu.Rtcp
import MeetingSystem.Impl.Sfu.Transport

/-!
# The media plane: publishers, subscribers and routes

The state of `MediaIngress` and those of its operations that the RPC service
calls. Each operation holds the locks it needs, so it is one step; OpenSSL's
random generator and the order of the hash tables are part of its input. Times
are nanoseconds of the steady clock.
-/

namespace MeetingSystem.Impl.Sfu

open MeetingSystem.Framework

structure PacketObservation where
  meetingId : String
  userId : String
  ssrc : UInt32
  sequence : UInt16
  timestamp : UInt32
  bytes : Nat
  deriving DecidableEq

/-- `packetLoss` is the fraction lost in 256ths. -/
structure PublisherTrafficCounters where
  meetingId : String
  userId : String
  packetCount : Nat
  byteCount : Nat
  packetLoss : UInt8
  jitterMs : UInt32
  rttMs : UInt32
  deriving DecidableEq

structure SenderReportLedgerEntry where
  compactNtp : UInt32
  observedAt : Nat
  deriving DecidableEq

structure RembFeedbackSample where
  bitrateExp : UInt8
  bitrateMantissa : UInt32
  bitrateBps : UInt32
  observedAt : Nat
  deriving DecidableEq

structure EstimatedRembState where
  bitrateBps : UInt32
  sentAt : Nat
  deriving DecidableEq

/-- The tables of `MediaIngress`. Those that are only looked up in are
functions; a source without feedback has no samples. -/
structure MediaIngress (lib : SrtpLib) where
  port : UInt16
  roomManager : RoomManager
  router : RtpRouter
  packetCount : Nat
  lastObservation : PacketObservation
  publisherTraffic : String → Option PublisherTrafficCounters
  senderReports : UInt32 → Option SenderReportLedgerEntry
  feedbackRoutes : String → Option UInt32
  publisherEndpoints : UInt32 → Option Endpoint
  pliForwardBySource : UInt32 → Option Nat
  rembFeedbackBySource : UInt32 → AList fun _ : String => RembFeedbackSample
  estimatedRembBySource : UInt32 → Option EstimatedRembState
  transportRegistry : TransportRegistry lib

/-- Take out every entry that leads to `value`. -/
def eraseValue {α β : Type} [DecidableEq β] (table : α → Option β) (value : β) : α → Option β :=
  fun a => if table a = some value then none else table a

namespace MediaIngress

variable {lib : SrtpLib}

def new (port : UInt16) (nackCapacity : Nat) : MediaIngress lib :=
  { port, roomManager := .new, router := .new nackCapacity, packetCount := 0
    lastObservation :=
      { meetingId := "", userId := "", ssrc := 0, sequence := 0, timestamp := 0, bytes := 0 }
    publisherTraffic := fun _ => none, senderReports := fun _ => none
    feedbackRoutes := fun _ => none, publisherEndpoints := fun _ => none
    pliForwardBySource := fun _ => none, rembFeedbackBySource := fun _ => ∅
    estimatedRembBySource := fun _ => none, transportRegistry := .new }

def setRoom (s : MediaIngress lib) (meetingId : String) (room : Room) : MediaIngress lib :=
  { s with roomManager := s.roomManager.setRoom meetingId room }

def resolvePublisher (s : MediaIngress lib) (ssrc : UInt32) : Option PublisherLocation :=
  s.roomManager.findPublisherBySsrc ssrc

/-! ## Routes -/

/-- The text of the endpoint that a subscriber receives a kind of media at. -/
def subscriberEndpoint (subscriber : Subscriber) (sourceIsVideo : Bool) : String :=
  if sourceIsVideo then
    if subscriber.videoEndpoint ≠ "" then subscriber.videoEndpoint
    else if subscriber.endpoint ≠ "" then subscriber.endpoint
    else subscriber.audioEndpoint
  else
    if subscriber.audioEndpoint ≠ "" then subscriber.audioEndpoint
    else if subscriber.endpoint ≠ "" then subscriber.endpoint
    else subscriber.videoEndpoint

/-- The SSRC that a source has toward a subscriber. -/
def rewrittenSsrc (meetingId : String) (subscriber : Subscriber) (sourceSsrc : UInt32)
    (sourceIsVideo : Bool) (sameKindPublisherCount : Nat) : UInt32 :=
  let preferred := if sourceIsVideo then subscriber.videoSsrc else subscriber.audioSsrc
  if 1 < sameKindPublisherCount ∧ preferred ≠ 0 then
    let ssrc := makeRouteRewriteSsrc meetingId subscriber.userId sourceSsrc sourceIsVideo
    let ssrc := if ssrc = preferred ∨ ssrc = sourceSsrc then ssrc ^^^ 0x01010101 else ssrc
    if ssrc = 0 then sourceSsrc ^^^ 0x01010101 else ssrc
  else if preferred ≠ 0 then preferred
  else sourceSsrc

/-- The routes of a source toward the subscribers of its room. -/
def roomRoutes (meetingId : String) (room : Room) (sourceSsrc : UInt32) : List SubscriberRoute :=
  let source := room.findPublisherBySsrc sourceSsrc
  let sourceIsVideo := source.any fun (_, publisher) => publisher.videoSsrc = sourceSsrc
  let sourceUserId := (source.map Prod.fst).getD ""
  let skipSelfForward := 1 < room.subscriberCount
  let sameKindPublisherCount := room.snapshotPublishers.countP fun publisher =>
    (if sourceIsVideo then publisher.videoSsrc else publisher.audioSsrc) ≠ 0
  room.snapshotSubscribers.filterMap fun subscriber =>
    if skipSelfForward ∧ sourceUserId ≠ "" ∧ subscriber.userId = sourceUserId then none
    else if subscriberEndpoint subscriber sourceIsVideo = "" then none
    else
      (parseEndpoint (subscriberEndpoint subscriber sourceIsVideo)).map fun endpoint =>
        { endpoint
          rewrittenSsrc :=
            rewrittenSsrc meetingId subscriber sourceSsrc sourceIsVideo sameKindPublisherCount }

def addRoute (sourceSsrc : UInt32) (s : MediaIngress lib) (route : SubscriberRoute) :
    MediaIngress lib :=
  { s with
    router := s.router.addSubscriber sourceSsrc route.rewrittenSsrc route.endpoint
    feedbackRoutes := Function.update s.feedbackRoutes
      (feedbackRouteKey route.endpoint route.rewrittenSsrc) (some sourceSsrc) }

def clearRoutes (s : MediaIngress lib) (sourceSsrc : UInt32) : MediaIngress lib :=
  { s with
    feedbackRoutes := eraseValue s.feedbackRoutes sourceSsrc
    router := s.router.removeSubscribers sourceSsrc }

def refreshPublisherRoutes (meetingId : String) (s : MediaIngress lib) (sourceSsrc : UInt32) :
    MediaIngress lib :=
  if sourceSsrc = 0 then s
  else
    match s.roomManager.getRoomShared meetingId with
    | none => s
    | some room =>
      (roomRoutes meetingId room sourceSsrc).foldl (addRoute sourceSsrc) (s.clearRoutes sourceSsrc)

/-- The SSRCs that a room's publishers send with. -/
def roomSources (room : Room) : List UInt32 :=
  room.snapshotPublishers.flatMap fun publisher =>
    [publisher.audioSsrc, publisher.videoSsrc].filter (· ≠ 0)

def refreshRoomRoutes (s : MediaIngress lib) (meetingId : String) : MediaIngress lib :=
  match s.roomManager.getRoomShared meetingId with
  | none => s
  | some room => (roomSources room).foldl (refreshPublisherRoutes meetingId) s

def removePublisherRoutes (s : MediaIngress lib) (sourceSsrc : UInt32) : MediaIngress lib :=
  if sourceSsrc = 0 then s
  else
    { s with
      router := (s.router.removeSubscribers sourceSsrc).unregisterPublisher sourceSsrc
      feedbackRoutes := eraseValue s.feedbackRoutes sourceSsrc
      publisherEndpoints := Function.update s.publisherEndpoints sourceSsrc none
      pliForwardBySource := Function.update s.pliForwardBySource sourceSsrc none
      rembFeedbackBySource := Function.update s.rembFeedbackBySource sourceSsrc ∅
      estimatedRembBySource := Function.update s.estimatedRembBySource sourceSsrc none }

/-! ## Publishers and subscribers -/

/-- An SSRC that is given, or else the one there was. -/
def mergeSsrc (ssrc previous : UInt32) : UInt32 := if ssrc ≠ 0 then ssrc else previous

def registerPublisher (s : MediaIngress lib) (sourceSsrc : UInt32) : MediaIngress lib :=
  { s with router := s.router.registerPublisher sourceSsrc }

/-- `BindPublisher` once the room has taken the publisher. -/
def rebindPublisher (s : MediaIngress lib) (meetingId : String) (previous merged : Publisher) :
    MediaIngress lib :=
  let s := if previous.audioSsrc ≠ 0 ∧ previous.audioSsrc ≠ merged.audioSsrc then
    s.removePublisherRoutes previous.audioSsrc else s
  let s := if previous.videoSsrc ≠ 0 ∧ previous.videoSsrc ≠ merged.videoSsrc then
    s.removePublisherRoutes previous.videoSsrc else s
  let s := if merged.audioSsrc ≠ 0 then s.registerPublisher merged.audioSsrc else s
  let s := if merged.videoSsrc ≠ 0 then s.registerPublisher merged.videoSsrc else s
  s.refreshRoomRoutes meetingId

def bindPublisher (s : MediaIngress lib) (place : Nat) (meetingId userId : String)
    (audioSsrc videoSsrc : UInt32) : MediaIngress lib × Bool :=
  if meetingId = "" ∨ userId = "" then (s, false)
  else
    match s.roomManager.getRoomShared meetingId with
    | none => (s, false)
    | some room =>
      let previous := (room.getPublisher userId).getD { userId, audioSsrc := 0, videoSsrc := 0 }
      let merged : Publisher :=
        { userId
          audioSsrc := mergeSsrc audioSsrc previous.audioSsrc
          videoSsrc := mergeSsrc videoSsrc previous.videoSsrc }
      if merged.audioSsrc = 0 ∧ merged.videoSsrc = 0 then (s, false)
      else
        match room.addPublisher place merged with
        | none => (s, false)
        | some room => ((s.setRoom meetingId room).rebindPublisher meetingId previous merged, true)

def bindSubscriber (s : MediaIngress lib) (place : Nat) (meetingId userId : String)
    (audioSsrc videoSsrc : UInt32) : MediaIngress lib × Bool :=
  if meetingId = "" ∨ userId = "" then (s, false)
  else
    match s.roomManager.getRoomShared meetingId with
    | none => (s, false)
    | some room =>
      let existing := (room.getSubscriber userId).getD
        { userId, endpoint := "", audioEndpoint := "", videoEndpoint := ""
          audioSsrc := 0, videoSsrc := 0 }
      let subscriber : Subscriber :=
        { existing with
          userId
          audioSsrc := mergeSsrc audioSsrc existing.audioSsrc
          videoSsrc := mergeSsrc videoSsrc existing.videoSsrc }
      match room.addSubscriber place subscriber with
      | none => (s, false)
      | some room => ((s.setRoom meetingId room).refreshRoomRoutes meetingId, true)

/-- What `RemovePublisher` forgets about a publisher that has left its room. -/
def forgetPublisher (s : MediaIngress lib) (meetingId userId : String) (publisher : Publisher) :
    MediaIngress lib :=
  let s := (s.removePublisherRoutes publisher.audioSsrc).removePublisherRoutes publisher.videoSsrc
  { s with
    publisherTraffic :=
      Function.update s.publisherTraffic (publisherTrafficKey meetingId userId) none
    senderReports := fun ssrc =>
      if ssrc ≠ 0 ∧ publisher.hasSsrc ssrc then none else s.senderReports ssrc }

def removePublisher (s : MediaIngress lib) (meetingId userId : String) : MediaIngress lib × Bool :=
  if meetingId = "" ∨ userId = "" then (s, false)
  else
    match s.roomManager.getRoomShared meetingId with
    | none => (s, false)
    | some room =>
      match room.getPublisher userId, room.removePublisher userId with
      | some publisher, some room =>
        ((s.setRoom meetingId room).forgetPublisher meetingId userId publisher, true)
      | _, _ => (s, false)

def removeSubscriber (s : MediaIngress lib) (meetingId userId : String) :
    MediaIngress lib × Bool :=
  if meetingId = "" ∨ userId = "" then (s, false)
  else
    match s.roomManager.getRoomShared meetingId with
    | none => (s, false)
    | some room =>
      match room.removeSubscriber userId with
      | none => (s, false)
      | some room => ((s.setRoom meetingId room).refreshRoomRoutes meetingId, true)

/-! ## Transports -/

structure SetupRequest where
  meetingId : String
  userId : String
  publishAudio : Bool
  publishVideo : Bool
  clientIceUfrag : String
  clientIcePwd : String
  clientDtlsFingerprint : String
  advertisedAddress : String
  deriving DecidableEq

/-- What OpenSSL and the hash tables add to a request: the results of
`MakeRandomSsrc` (0 on failure) and `MakeRandomIceToken`, the DTLS context and
its fingerprint, and the places of new entries. -/
structure SetupIo where
  initialized : Bool
  audioSsrc : UInt32
  videoSsrc : UInt32
  serverIceUfrag : String
  serverIcePwd : String
  start : StartIo
  serverDtlsFingerprint : String
  transportPlace : Nat
  subscriberPlace : Nat
  publisherPlace : Nat
  deriving DecidableEq

structure TransportSetupResult where
  serverIceUfrag : String
  serverIcePwd : String
  serverDtlsFingerprint : String
  serverCandidates : List String
  assignedAudioSsrc : UInt32
  assignedVideoSsrc : UInt32
  deriving DecidableEq

/-- The transport of a request that got that far. -/
def newTransport (req : SetupRequest) (io : SetupIo) (dtls : DtlsTransport) :
    ParticipantTransport lib :=
  .new req.meetingId req.userId (if req.publishAudio then io.audioSsrc else 0)
    (if req.publishVideo then io.videoSsrc else 0)
    (.configure req.clientIceUfrag io.serverIceUfrag) dtls

/-- `SetupTransport` up to the registration of the transport. -/
def registerTransport (s : MediaIngress lib) (req : SetupRequest) (io : SetupIo) :
    Option (MediaIngress lib) :=
  if req.meetingId = "" ∨ req.userId = "" ∨ req.clientIceUfrag = "" ∨ req.clientIcePwd = "" ∨
      req.clientDtlsFingerprint = "" then none
  else if s.roomManager.getRoomShared req.meetingId = none ∨ ¬ io.initialized then none
  else
    let dtls := (DtlsTransport.new .server).start req.clientDtlsFingerprint io.start
    if ¬ dtls.2 then none
    else
      some
        { s with
          transportRegistry := s.transportRegistry.upsert io.transportPlace
            (newTransport req io dtls.1)
            (TransportRegistry.kind req.publishAudio req.publishVideo) }

def setupTransport (s : MediaIngress lib) (req : SetupRequest) (io : SetupIo) :
    MediaIngress lib × Option TransportSetupResult :=
  match s.registerTransport req io with
  | none => (s, none)
  | some s =>
    let assignedAudioSsrc := if req.publishAudio then io.audioSsrc else 0
    let assignedVideoSsrc := if req.publishVideo then io.videoSsrc else 0
    let host := hostFromAdvertisedAddress req.advertisedAddress
    let result : TransportSetupResult :=
      { serverIceUfrag := io.serverIceUfrag
        serverIcePwd := io.serverIcePwd
        serverDtlsFingerprint := io.serverDtlsFingerprint
        serverCandidates := [makeHostCandidate (if host = "" then "127.0.0.1" else host) s.port]
        assignedAudioSsrc, assignedVideoSsrc }
    let bound := s.bindSubscriber io.subscriberPlace req.meetingId req.userId assignedAudioSsrc
      assignedVideoSsrc
    if ¬ bound.2 then (bound.1, none)
    else if assignedAudioSsrc = 0 ∧ assignedVideoSsrc = 0 then (bound.1, some result)
    else
      let published := bound.1.bindPublisher io.publisherPlace req.meetingId req.userId
        assignedAudioSsrc assignedVideoSsrc
      (published.1, if published.2 then some result else none)

def eraseTransports (s : MediaIngress lib) (meetingId userId : String) : MediaIngress lib :=
  { s with transportRegistry := s.transportRegistry.eraseUserTransports meetingId userId }

def closeTransport (s : MediaIngress lib) (meetingId userId : String) : MediaIngress lib × Bool :=
  if meetingId = "" ∨ userId = "" then (s, false)
  else
    let s := s.eraseTransports meetingId userId
    let s := (s.removeSubscriber meetingId userId).1
    ((s.removePublisher meetingId userId).1, true)

end MediaIngress

end MeetingSystem.Impl.Sfu
