import Mathlib.Algebra.Ring.Int.Defs
import MeetingSystem.Impl.Client.RTCPHandler
import MeetingSystem.Impl.Client.RoundTripTime
import MeetingSystem.Impl.Client.VideoBwePolicy

/-!
# Feedback to the video sender

What the client does with the RTCP it gets for its own video:
`VideoRtcpFeedbackPipeline::parseFeedback`, `VideoRtcpFeedbackDispatchPipeline::buildPlan`
and `ScreenShareSession::applyRtcpDispatchPlanLocked`, with the cache of sent packets of
`VideoRtcpActionPipeline`. Clock readings and the results of `sendToPeer` are given.
-/

namespace MeetingSystem.Impl.Client

/-! ## Events -/

inductive VideoRtcpFeedbackEvent where
  | Nack (sequenceNumber : UInt16) (mediaSsrc : UInt32)
  | Pli (mediaSsrc : UInt32)
  | Remb (bitrateBps mediaSsrc : UInt32)
  | ReceiverReport (mediaSsrc : UInt32) (fractionLost : UInt8)
    (lastSenderReport delaySinceLastSenderReport : UInt32)
  deriving DecidableEq, Repr

namespace VideoRtcpFeedbackPipeline

def isFeedbackPacket (header : RTCPHeader) : Bool :=
  header.packetType = 205 ∨ header.packetType = 206

/-- The events of one packet of a compound packet. -/
def sliceEvents (data : List UInt8) (localSsrc : UInt32) (slice : RTCPPacketSlice) :
    List VideoRtcpFeedbackEvent :=
  let packet := (data.drop slice.offset).take slice.size
  if RTCPHandler.isReceiverReport slice.header then
    match RTCPHandler.parseReceiverReport packet with
    | none => []
    | some rr =>
      (rr.reportBlocks.filter fun block => localSsrc ≠ 0 ∧ block.sourceSsrc = localSsrc).map
        fun block => .ReceiverReport block.sourceSsrc block.fractionLost block.lastSenderReport
          block.delaySinceLastSenderReport
  else if ¬ isFeedbackPacket slice.header then []
  else if slice.header.packetType = 205 ∧ slice.header.countOrFormat = 1 then
    match RTCPHandler.parseNackFeedback packet with
    | none => []
    | some nack =>
      if localSsrc = 0 ∨ (nack.mediaSsrc ≠ 0 ∧ nack.mediaSsrc ≠ localSsrc) then []
      else nack.lostSequences.map fun sequenceNumber => .Nack sequenceNumber nack.mediaSsrc
  else if slice.header.packetType = 206 ∧ slice.header.countOrFormat = 1 then
    match RTCPHandler.parsePliFeedback packet with
    | none => []
    | some pli =>
      if localSsrc = 0 ∨ (pli.mediaSsrc ≠ 0 ∧ pli.mediaSsrc ≠ localSsrc) then []
      else [.Pli pli.mediaSsrc]
  else if slice.header.packetType = 206 ∧ slice.header.countOrFormat = 15 then
    match RTCPHandler.parseRembFeedback packet with
    | none => []
    | some remb =>
      if localSsrc = 0 ∨ localSsrc ∉ remb.targetSsrcs then []
      else [.Remb remb.bitrateBps remb.mediaSsrc]
  else []

def parseFeedback (data : List UInt8) (localSsrc : UInt32) : Option (List VideoRtcpFeedbackEvent) :=
  (RTCPHandler.parseCompoundPacket data).map fun slices =>
    slices.flatMap (sliceEvents data localSsrc)

end VideoRtcpFeedbackPipeline

/-! ## Plans -/

structure VideoRtcpReceiverReportSample where
  fractionLost : UInt8
  lastSenderReport : UInt32
  delaySinceLastSenderReport : UInt32
  deriving DecidableEq, Repr

structure VideoRtcpFeedbackDispatchPlan where
  retransmitSequenceNumbers : List UInt16
  receiverReports : List VideoRtcpReceiverReportSample
  requestKeyFrame : Bool
  hasTargetBitrate : Bool
  targetBitrateBps : Nat
  deriving DecidableEq, Repr

namespace VideoRtcpFeedbackDispatchPipeline

def kMinAdaptiveBitrateBps : Nat := 100000
def kMaxAdaptiveBitrateBps : Nat := 8000000

def emptyPlan : VideoRtcpFeedbackDispatchPlan :=
  { retransmitSequenceNumbers := [], receiverReports := [], requestKeyFrame := false
    hasTargetBitrate := false, targetBitrateBps := 0 }

/-- The case of the loop of `buildPlan` for an event. -/
def addEvent (plan : VideoRtcpFeedbackDispatchPlan) :
    VideoRtcpFeedbackEvent → VideoRtcpFeedbackDispatchPlan
  | .Nack sequenceNumber _ =>
    { plan with
      retransmitSequenceNumbers := plan.retransmitSequenceNumbers ++ [sequenceNumber] }
  | .Pli _ => { plan with requestKeyFrame := true }
  | .Remb bitrateBps _ =>
    { plan with
      hasTargetBitrate := true
      targetBitrateBps := min (max bitrateBps.toNat kMinAdaptiveBitrateBps) kMaxAdaptiveBitrateBps }
  | .ReceiverReport _ fractionLost lastSenderReport delaySinceLastSenderReport =>
    { plan with
      receiverReports := plan.receiverReports ++
        [{ fractionLost, lastSenderReport, delaySinceLastSenderReport }] }

def buildPlan (events : List VideoRtcpFeedbackEvent) : VideoRtcpFeedbackDispatchPlan :=
  events.foldl addEvent emptyPlan

def hasActions (plan : VideoRtcpFeedbackDispatchPlan) : Bool :=
  plan.requestKeyFrame || plan.hasTargetBitrate || !plan.retransmitSequenceNumbers.isEmpty ||
    !plan.receiverReports.isEmpty

end VideoRtcpFeedbackDispatchPipeline

/-- `VideoRecvRtcpPipeline::parseDispatchPlan`. -/
def parseDispatchPlan (data : List UInt8) (localSsrc : UInt32) :
    Option VideoRtcpFeedbackDispatchPlan :=
  match VideoRtcpFeedbackPipeline.parseFeedback data localSsrc with
  | none => none
  | some events =>
    let plan := VideoRtcpFeedbackDispatchPipeline.buildPlan events
    if VideoRtcpFeedbackDispatchPipeline.hasActions plan then some plan else none

/-! ## The sender -/

/-- The target that the send loop reads, each value an atomic variable. -/
structure AdaptiveTarget where
  targetBitrateBps : Nat
  videoSuspended : Bool
  width : Int
  height : Int
  frameRate : Int
  jitterTargetMs : Nat
  turnRelayRequested : Bool
  profileVersion : Nat
  deriving DecidableEq

/-- What the feedback and the send loop share of a session. -/
structure VideoSendControl where
  sentPacketCache : List (UInt16 × List UInt8)
  forceKeyFramePending : Bool
  retransmitPacketCount : Nat
  keyframeRequestCount : Nat
  /-- The calls of the callback that asks for a TURN relay. -/
  turnRelayCalls : Nat
  lastError : String
  videoBwePolicy : VideoBwePolicy
  adaptive : AdaptiveTarget

/-- What `applyRtcpDispatchPlanLocked` reads of its surroundings: whether the socket is
open and has a peer, whether `sendToPeer` sends the whole of the `i`-th packet, and the
clocks at the REMB and at the `i`-th report. -/
structure FeedbackInputs where
  socketReady : Bool
  sentWhole : Nat → Bool
  rembMs : Nat
  reportMs : Nat → Nat
  ntpNow : Nat → UInt64

namespace VideoRtcpActionPipeline

/-- The loop that keeps the newest `limit` packets. -/
def popFront {α : Type} (limit : Nat) : List α → List α
  | [] => []
  | e :: rest => if limit < (e :: rest).length then popFront limit rest else e :: rest

def cacheSentPacket (limit : Nat) (cache : List (UInt16 × List UInt8)) (sequenceNumber : UInt16)
    (packetBytes : List UInt8) : List (UInt16 × List UInt8) :=
  if packetBytes = [] then cache else popFront limit (cache ++ [(sequenceNumber, packetBytes)])

/-- The packet that `retransmitPacket` sends: the last one with this number. -/
def sentPacket (cache : List (UInt16 × List UInt8)) (sequenceNumber : UInt16) :
    Option (List UInt8) :=
  (cache.reverse.find? fun e => e.1 = sequenceNumber).map Prod.snd

end VideoRtcpActionPipeline

namespace VideoSendControl

/-- The loop over the packets to retransmit, from the `i`-th on, and what it sends. -/
def retransmit (inputs : FeedbackInputs) :
    VideoSendControl → Nat → List UInt16 → VideoSendControl × List (List UInt8)
  | s, _, [] => (s, [])
  | s, i, sequenceNumber :: rest =>
    if ¬ inputs.socketReady then retransmit inputs s (i + 1) rest
    else
      match VideoRtcpActionPipeline.sentPacket s.sentPacketCache sequenceNumber with
      | none => retransmit inputs s (i + 1) rest
      | some packetBytes =>
        let s :=
          if inputs.sentWhole i then { s with retransmitPacketCount := s.retransmitPacketCount + 1 }
          else { s with lastError := "retransmit sendto failed" }
        let r := retransmit inputs s (i + 1) rest
        (r.1, packetBytes :: r.2)

def publishAdaptiveTarget (s : VideoSendControl) : VideoSendControl :=
  let target := s.videoBwePolicy.target
  { s with
    adaptive :=
      { targetBitrateBps := target.bitrateBps
        videoSuspended := target.videoSuspended
        width := target.width
        height := target.height
        frameRate := target.frameRate
        jitterTargetMs := target.jitterTargetMs
        turnRelayRequested := s.adaptive.turnRelayRequested || target.requestTurnRelay
        profileVersion := target.version }
    forceKeyFramePending :=
      s.forceKeyFramePending || (s.adaptive.videoSuspended && !target.videoSuspended)
    turnRelayCalls := s.turnRelayCalls + target.requestTurnRelay.toNat }

/-- The loop over the reports, from the `i`-th on. -/
def applyReports (inputs : FeedbackInputs) :
    VideoSendControl → Nat → List VideoRtcpReceiverReportSample → VideoSendControl
  | s, _, [] => s
  | s, i, report :: rest =>
    let rttMs := ScreenShareSession.computeRttFromReceiverReport (inputs.ntpNow i)
      report.lastSenderReport report.delaySinceLastSenderReport
    let sample : VideoBwePolicySample :=
      { fractionLost := report.fractionLost
        hasRtt := rttMs.isSome
        rttMs := (rttMs.getD 0).toNat
        nowMs := inputs.reportMs i }
    let s := { s with videoBwePolicy := (s.videoBwePolicy.onReceiverReport sample).1 }
    applyReports inputs s.publishAdaptiveTarget (i + 1) rest

/-- The session after a plan with actions, and the packets that it sends again. -/
def applyRtcpDispatchPlanLocked (inputs : FeedbackInputs) (s : VideoSendControl)
    (plan : VideoRtcpFeedbackDispatchPlan) : VideoSendControl × List (List UInt8) :=
  let (s, datagrams) := s.retransmit inputs 0 plan.retransmitSequenceNumbers
  let s :=
    if plan.requestKeyFrame then
      { s with forceKeyFramePending := true, keyframeRequestCount := s.keyframeRequestCount + 1 }
    else s
  let s :=
    if plan.hasTargetBitrate then
      { s with
        videoBwePolicy :=
          (s.videoBwePolicy.onRembTarget plan.targetBitrateBps).1 }.publishAdaptiveTarget
    else s
  (s.applyReports inputs 0 plan.receiverReports, datagrams)

/-- A datagram that `recvLoop` takes for RTCP. -/
def onRtcp (s : VideoSendControl) (localSsrc : UInt32) (inputs : FeedbackInputs)
    (data : List UInt8) : VideoSendControl × List (List UInt8) :=
  match parseDispatchPlan data localSsrc with
  | none => (s, [])
  | some plan => s.applyRtcpDispatchPlanLocked inputs plan

end VideoSendControl

/-! ## A session -/

structure ScreenShareSessionConfig where
  width : Int
  height : Int
  frameRate : Int
  bitrate : Int
  deriving DecidableEq, Repr

/-- The bitrate that the session is constructed with. -/
def ScreenShareSessionConfig.initialBitrate (config : ScreenShareSessionConfig) : Nat :=
  (max 1000 config.bitrate).toNat

def ScreenShareSessionConfig.bwePolicyConfig (config : ScreenShareSessionConfig) :
    VideoBwePolicyConfig :=
  { baselineWidth := config.width, baselineHeight := config.height
    baselineFrameRate := config.frameRate, baselineBitrateBps := config.initialBitrate }

/-- The steps of the threads of a session. A stream starts with `resetSender`, a request
for a key frame, `resetStats` and `resetPolicy`, between which RTCP may arrive. -/
inductive VideoSendOp where
  /-- `resetSenderForFreshStream`, and the end of `stop`. -/
  | resetSender
  /-- The value is stored, or taken by the send loop if it is false. -/
  | setForceKeyFrame (value : Bool)
  | resetStats
  | resetPolicy (nowMs : Nat)
  /-- The send loop has sent a packet. -/
  | cacheSentPacket (sequenceNumber : UInt16) (packetBytes : List UInt8)
  | rtcp (localSsrc : UInt32) (inputs : FeedbackInputs) (data : List UInt8)

namespace VideoSendControl

def new (config : ScreenShareSessionConfig) : VideoSendControl :=
  { sentPacketCache := [], forceKeyFramePending := false, retransmitPacketCount := 0
    keyframeRequestCount := 0, turnRelayCalls := 0, lastError := ""
    videoBwePolicy := VideoBwePolicy.reset config.bwePolicyConfig 0
    adaptive :=
      { targetBitrateBps := config.initialBitrate, videoSuspended := false
        width := config.width, height := config.height, frameRate := config.frameRate
        jitterTargetMs := 0, turnRelayRequested := false, profileVersion := 0 } }

/-- `resetSendThreadStats`, which stores the bitrate as `uint32_t`. -/
def resetStats (config : ScreenShareSessionConfig) (s : VideoSendControl) : VideoSendControl :=
  { s with
    keyframeRequestCount := 0
    retransmitPacketCount := 0
    adaptive := { s.adaptive with targetBitrateBps := (config.bitrate % 2 ^ 32).toNat } }

def resetPolicy (config : ScreenShareSessionConfig) (nowMs : Nat) (s : VideoSendControl) :
    VideoSendControl :=
  let videoBwePolicy := VideoBwePolicy.reset config.bwePolicyConfig nowMs
  let target := videoBwePolicy.target
  { s with
    videoBwePolicy
    adaptive :=
      { targetBitrateBps := s.adaptive.targetBitrateBps
        videoSuspended := target.videoSuspended
        width := target.width
        height := target.height
        frameRate := target.frameRate
        jitterTargetMs := target.jitterTargetMs
        turnRelayRequested := false
        profileVersion := target.version } }

/-- A step of a session whose cache holds `limit` packets, and what is sent again. -/
def step (limit : Nat) (config : ScreenShareSessionConfig) (s : VideoSendControl) :
    VideoSendOp → VideoSendControl × List (List UInt8)
  | .resetSender => ({ s with sentPacketCache := [] }, [])
  | .setForceKeyFrame value => ({ s with forceKeyFramePending := value }, [])
  | .resetStats => (s.resetStats config, [])
  | .resetPolicy nowMs => (s.resetPolicy config nowMs, [])
  | .cacheSentPacket sequenceNumber packetBytes =>
    ({ s with
        sentPacketCache := VideoRtcpActionPipeline.cacheSentPacket limit s.sentPacketCache
          sequenceNumber packetBytes }, [])
  | .rtcp localSsrc inputs data => s.onRtcp localSsrc inputs data

end VideoSendControl

end MeetingSystem.Impl.Client
