import Mathlib.Data.List.DropRight
import MeetingSystem.Framework.Run
import MeetingSystem.Impl.Client.VideoRtcpFeedback
import MeetingSystem.Proof.Client.BweRecovery
import MeetingSystem.Proof.Media.NackRoundTrip

/-!
# What feedback makes the video sender do

Over every run of the threads of a session, in which any datagrams arrive as RTCP:

* `resent_of_nack`: the sender sends again only the latest packets with the numbers
  that a datagram names, and for a NACK of the receiver all of these, each once;
* `adaptive_run`: what the send loop reads is what the policy has decided, within
  bounds, and no end of a suspension goes without a key frame.
-/

namespace MeetingSystem.Proof.Client

open MeetingSystem.Framework MeetingSystem.Impl.Client MeetingSystem.Proof.Media
open VideoRtcpActionPipeline (popFront cacheSentPacket sentPacket buildNackFeedback)

/-! ## The cache -/

theorem popFront_eq {α : Type} (limit : Nat) (l : List α) : popFront limit l = l.rtake limit := by
  induction l with
  | nil => rw [popFront, List.rtake_nil]
  | cons e rest ih =>
    rw [popFront, List.rtake]
    split
    · rename_i hlt
      rw [List.length_cons] at hlt ⊢
      rw [show rest.length + 1 - limit = (rest.length - limit) + 1 by omega, List.drop_succ_cons, ih]
      rfl
    · rename_i hle
      rw [show (e :: rest).length - limit = 0 by omega, List.drop_zero]

theorem rtake_append_one {α : Type} (limit : Nat) (l : List α) (e : α) :
    (l.rtake limit ++ [e]).rtake limit = (l ++ [e]).rtake limit := by
  have hsplit : l.rtake limit ++ [e] = (l ++ [e]).drop (l.length - limit) := by
    rw [List.drop_append_of_le_length (Nat.sub_le _ _)]
    rfl
  rw [hsplit, List.rtake, List.rtake, List.drop_drop, List.length_drop, List.length_append]
  congr 1
  show l.length - limit + (l.length + 1 - (l.length - limit) - limit) = l.length + 1 - limit
  omega

/-- The session, with the packets that the send loop has cached since the last reset of the
sender. -/
structure SentWatch where
  control : VideoSendControl
  sent : List (UInt16 × List UInt8)

def SentWatch.new (config : ScreenShareSessionConfig) : SentWatch :=
  { control := .new config, sent := [] }

/-- The packets that are sent since the reset, after the step. -/
def sentAfter (sent : List (UInt16 × List UInt8)) : VideoSendOp → List (UInt16 × List UInt8)
  | .resetSender => []
  | .cacheSentPacket sequenceNumber packetBytes =>
    if packetBytes = [] then sent else sent ++ [(sequenceNumber, packetBytes)]
  | _ => sent

def SentWatch.step (limit : Nat) (config : ScreenShareSessionConfig) (w : SentWatch)
    (op : VideoSendOp) : SentWatch :=
  { control := (w.control.step limit config op).1, sent := sentAfter w.sent op }

section

variable (s : VideoSendControl) (inputs : FeedbackInputs)

theorem retransmit_cache (i : Nat) (sequences : List UInt16) :
    (s.retransmit inputs i sequences).1.sentPacketCache = s.sentPacketCache := by
  induction sequences generalizing s i with
  | nil => rfl
  | cons sequenceNumber rest ih =>
    unfold VideoSendControl.retransmit
    split
    · exact ih s (i + 1)
    · cases sentPacket s.sentPacketCache sequenceNumber with
      | none => exact ih s (i + 1)
      | some packetBytes =>
        refine (ih _ (i + 1)).trans ?_
        split <;> rfl

/-- What the loop sends. -/
theorem retransmit_datagrams (i : Nat) (sequences : List UInt16) :
    (s.retransmit inputs i sequences).2 =
      if inputs.socketReady then sequences.filterMap (sentPacket s.sentPacketCache) else [] := by
  induction sequences generalizing s i with
  | nil => simp [VideoSendControl.retransmit]
  | cons sequenceNumber rest ih =>
    unfold VideoSendControl.retransmit
    cases hready : inputs.socketReady with
    | false => simp [ih, hready]
    | true =>
      cases hpacket : sentPacket s.sentPacketCache sequenceNumber with
      | none => simp [ih, hready, hpacket]
      | some packetBytes =>
        have hcache : (if inputs.sentWhole i = true then
            { s with retransmitPacketCount := s.retransmitPacketCount + 1 }
            else { s with lastError := "retransmit sendto failed" }).sentPacketCache =
              s.sentPacketCache := by
          split <;> rfl
        simp [ih, hready, hpacket, hcache]

theorem applyReports_cache (i : Nat) (reports : List VideoRtcpReceiverReportSample) :
    (s.applyReports inputs i reports).sentPacketCache = s.sentPacketCache := by
  induction reports generalizing s i with
  | nil => rfl
  | cons report rest ih => exact ih _ (i + 1)

theorem apply_cache (plan : VideoRtcpFeedbackDispatchPlan) :
    (s.applyRtcpDispatchPlanLocked inputs plan).1.sentPacketCache = s.sentPacketCache := by
  unfold VideoSendControl.applyRtcpDispatchPlanLocked
  rw [← retransmit_cache s inputs 0 plan.retransmitSequenceNumbers]
  refine (applyReports_cache _ inputs 0 _).trans ?_
  split <;> split <;> rfl

theorem onRtcp_cache (localSsrc : UInt32) (data : List UInt8) :
    (s.onRtcp localSsrc inputs data).1.sentPacketCache = s.sentPacketCache := by
  unfold VideoSendControl.onRtcp
  cases parseDispatchPlan data localSsrc with
  | none => rfl
  | some plan => exact apply_cache s inputs plan

end

theorem cache_step {limit : Nat} {config : ScreenShareSessionConfig} {w : SentWatch}
    (h : w.control.sentPacketCache = w.sent.rtake limit) (op : VideoSendOp) :
    (w.step limit config op).control.sentPacketCache = (w.step limit config op).sent.rtake limit := by
  cases op with
  | resetSender => exact (List.rtake_nil _).symm
  | setForceKeyFrame _ | resetStats | resetPolicy _ => exact h
  | rtcp localSsrc inputs data => exact (onRtcp_cache _ _ _ _).trans h
  | cacheSentPacket sequenceNumber packetBytes =>
    show cacheSentPacket limit w.control.sentPacketCache sequenceNumber packetBytes =
      (if packetBytes = [] then w.sent else w.sent ++ [(sequenceNumber, packetBytes)]).rtake limit
    rw [cacheSentPacket]
    split
    · exact h
    · rw [popFront_eq, h, rtake_append_one]

theorem cache_run (limit : Nat) (config : ScreenShareSessionConfig) (ops : List VideoSendOp) :
    (run (SentWatch.step limit config) (.new config) ops).control.sentPacketCache =
      (run (SentWatch.step limit config) (.new config) ops).sent.rtake limit :=
  run_inv (P := fun w : SentWatch => w.control.sentPacketCache = w.sent.rtake limit)
    (fun _ op h => cache_step h op) (List.rtake_nil _).symm ops

/-! ## The NACK of a receiver -/

theorem slices_alone {d : List UInt8} {header : RTCPHeader} (h : Alone d header) :
    RTCPHandler.parseCompoundPacket d = some [{ header, offset := 0, size := d.length }] := by
  have hpos := four_le_packetSizeBytes header
  rw [h.2] at hpos
  have hend : RTCPHandler.slicesFrom d (0 + RTCPHandler.packetSizeBytes header) = some [] := by
    rw [RTCPHandler.slicesFrom, if_neg (by rw [h.2]; omega)]
  refine parseCompoundPacket_eq_some.mpr ⟨?_, List.cons_ne_nil _ _⟩
  rw [slicesFrom_eq (by omega), List.drop_zero, h.1, Option.bind_some, hend, h.2]
  rfl

theorem foldl_nacks (mediaSsrc : UInt32) (sequences : List UInt16)
    (plan : VideoRtcpFeedbackDispatchPlan) :
    (sequences.map fun sequenceNumber => VideoRtcpFeedbackEvent.Nack sequenceNumber mediaSsrc).foldl
        VideoRtcpFeedbackDispatchPipeline.addEvent plan =
      { plan with
        retransmitSequenceNumbers := plan.retransmitSequenceNumbers ++ sequences } := by
  induction sequences generalizing plan with
  | nil => simp
  | cons sequenceNumber rest ih =>
    rw [List.map_cons, List.foldl_cons, ih]
    simp [VideoRtcpFeedbackDispatchPipeline.addEvent]

/-- The plan of a NACK is to send the packets that it names. -/
theorem parseDispatchPlan_nack (senderSsrc : UInt32) {localSsrc : UInt32} (hlocal : localSsrc ≠ 0)
    {lostSequences : List UInt16} (hlost : lostSequences ≠ []) :
    parseDispatchPlan (buildNackFeedback senderSsrc localSsrc lostSequences) localSsrc =
      some { VideoRtcpFeedbackDispatchPipeline.emptyPlan with
        retransmitSequenceNumbers := lostOnce lostSequences } := by
  obtain ⟨blocks, hne, hlen, hseq, hpacket⟩ :=
    @buildNackFeedback_eq senderSsrc localSsrc lostSequences hlocal hlost
  obtain ⟨hparse, -⟩ := nackPacket_parses senderSsrc localSsrc hne hlen
  rw [hseq] at hparse
  have hrest : (writeBE32 senderSsrc ++ writeBE32 localSsrc ++
      blocks.flatMap blockBytes).length = (2 + blocks.length) * 4 := by
    rw [List.length_append, List.length_append, length_flatMap_blockBytes]
    show 4 + 4 + _ = _
    omega
  obtain ⟨header, halone, htype, hcount⟩ := alone_report (show 1 ≤ 31 by decide) hlen 205 hrest
  rw [← hpacket] at hparse halone
  have hcount : header.countOrFormat = 1 := UInt8.toNat_inj.mp hcount
  have hmem : lostOnce lostSequences ≠ [] := by
    obtain ⟨s, hs⟩ := List.exists_mem_of_ne_nil _ hlost
    exact List.ne_nil_of_mem (mem_lostOnce.mpr hs)
  have hevents : VideoRtcpFeedbackPipeline.parseFeedback
      (buildNackFeedback senderSsrc localSsrc lostSequences) localSsrc =
      some ((lostOnce lostSequences).map fun sequenceNumber => .Nack sequenceNumber localSsrc) := by
    rw [VideoRtcpFeedbackPipeline.parseFeedback, slices_alone halone]
    simp only [Option.map_some, List.flatMap_cons, List.flatMap_nil, List.append_nil,
      VideoRtcpFeedbackPipeline.sliceEvents, RTCPHandler.isReceiverReport,
      VideoRtcpFeedbackPipeline.isFeedbackPacket, htype, hcount, List.drop_zero, List.take_length,
      hparse, hlocal]
    simp
  rw [parseDispatchPlan, hevents]
  simp only [VideoRtcpFeedbackDispatchPipeline.buildPlan, foldl_nacks]
  rw [if_pos]
  · rfl
  · simp [VideoRtcpFeedbackDispatchPipeline.hasActions,
      VideoRtcpFeedbackDispatchPipeline.emptyPlan, hmem]

theorem onRtcp_nack (s : VideoSendControl) {inputs : FeedbackInputs}
    (hready : inputs.socketReady = true) (senderSsrc : UInt32) {localSsrc : UInt32}
    (hlocal : localSsrc ≠ 0) {lostSequences : List UInt16} (hlost : lostSequences ≠ []) :
    (s.onRtcp localSsrc inputs (buildNackFeedback senderSsrc localSsrc lostSequences)).2 =
      (lostOnce lostSequences).filterMap (sentPacket s.sentPacketCache) := by
  unfold VideoSendControl.onRtcp
  rw [parseDispatchPlan_nack senderSsrc hlocal hlost]
  show (s.retransmit inputs 0 (lostOnce lostSequences)).2 = _
  rw [retransmit_datagrams, if_pos hready]

/-- The datagram names this number in a NACK for the stream. -/
def Nacks (data : List UInt8) (localSsrc : UInt32) (sequenceNumber : UInt16) : Prop :=
  ∃ plan ∈ parseDispatchPlan data localSsrc, sequenceNumber ∈ plan.retransmitSequenceNumbers

theorem onRtcp_sent {s : VideoSendControl} {localSsrc : UInt32} {inputs : FeedbackInputs}
    {data d : List UInt8} (h : d ∈ (s.onRtcp localSsrc inputs data).2) :
    ∃ sequenceNumber, Nacks data localSsrc sequenceNumber ∧
      sentPacket s.sentPacketCache sequenceNumber = some d := by
  unfold VideoSendControl.onRtcp at h
  cases hplan : parseDispatchPlan data localSsrc with
  | none =>
    rw [hplan] at h
    cases h
  | some plan =>
    rw [hplan] at h
    have h : d ∈ (s.retransmit inputs 0 plan.retransmitSequenceNumbers).2 := h
    rw [retransmit_datagrams] at h
    split at h
    · obtain ⟨sequenceNumber, hnamed, hpacket⟩ := List.mem_filterMap.mp h
      exact ⟨sequenceNumber, ⟨plan, hplan, hnamed⟩, hpacket⟩
    · cases h

theorem mem_of_sentPacket {cache : List (UInt16 × List UInt8)} {sequenceNumber : UInt16}
    {d : List UInt8} (h : sentPacket cache sequenceNumber = some d) :
    (sequenceNumber, d) ∈ cache := by
  obtain ⟨e, hfind, rfl⟩ := Option.map_eq_some_iff.mp h
  have hnumber := List.find?_some hfind
  rw [decide_eq_true_eq] at hnumber
  rw [← hnumber]
  exact List.mem_reverse.mp (List.mem_of_find?_eq_some hfind)

/-- Whatever arrives, only packets with a number that it names are sent again, each the latest
with this number of those that are among the last ones cached since the sender was reset. For a
NACK of the receiver these are, in the order of their numbers, all the packets that it names,
as far as they are there. -/
theorem resent_of_nack (limit : Nat) (config : ScreenShareSessionConfig) (ops : List VideoSendOp)
    {inputs : FeedbackInputs} (hready : inputs.socketReady = true) (senderSsrc : UInt32)
    {localSsrc : UInt32} (hlocal : localSsrc ≠ 0) {lostSequences : List UInt16}
    (hlost : lostSequences ≠ []) (data : List UInt8) :
    ((run (SentWatch.step limit config) (.new config) ops).control.onRtcp localSsrc inputs
        (buildNackFeedback senderSsrc localSsrc lostSequences)).2 =
      (lostOnce lostSequences).filterMap
        (sentPacket ((run (SentWatch.step limit config) (.new config) ops).sent.rtake limit)) ∧
    ∀ d ∈ ((run (SentWatch.step limit config) (.new config) ops).control.onRtcp localSsrc inputs
        data).2,
      ∃ sequenceNumber, Nacks data localSsrc sequenceNumber ∧
        (sequenceNumber, d) ∈ (run (SentWatch.step limit config) (.new config) ops).sent.rtake
          limit ∧
        sentPacket ((run (SentWatch.step limit config) (.new config) ops).sent.rtake limit)
          sequenceNumber = some d := by
  rw [← cache_run]
  refine ⟨onRtcp_nack _ hready senderSsrc hlocal hlost, fun d hd => ?_⟩
  obtain ⟨sequenceNumber, hnamed, hpacket⟩ := onRtcp_sent hd
  exact ⟨sequenceNumber, hnamed, mem_of_sentPacket hpacket, hpacket⟩

/-- A sender whose cache holds two packets has sent three. -/
def threeSent : List VideoSendOp :=
  [.cacheSentPacket 65534 [1], .cacheSentPacket 65535 [2, 2], .cacheSentPacket 0 [3]]

def readyInputs : FeedbackInputs :=
  { socketReady := true, sentWhole := fun _ => true, rembMs := 0, reportMs := fun _ => 0
    ntpNow := fun _ => 0 }

theorem resent_of_threeSent :
    ((run (SentWatch.step 2 ⟨1280, 720, 30, 1500000⟩) (.new ⟨1280, 720, 30, 1500000⟩)
        threeSent).control.onRtcp 9 readyInputs (buildNackFeedback 7 9 [0, 65534, 65535, 0])).2 =
      [[3], [2, 2]] :=
  (resent_of_nack 2 ⟨1280, 720, 30, 1500000⟩ threeSent rfl 7 (by decide) (by decide) []).1.trans
    (by decide +kernel)

/-! ## The target -/

/-- The policy of a session with this configuration. -/
structure PolicyOk (config : ScreenShareSessionConfig) (p : VideoBwePolicy) : Prop where
  bounded : Bounded p
  sound : Sound p
  config : p.config = VideoBwePolicy.normalizeConfig config.bwePolicyConfig

/-- The send loop reads the target. -/
structure Reads (a : AdaptiveTarget) (t : VideoBwePolicyTarget) : Prop where
  bitrate : a.targetBitrateBps = t.bitrateBps
  suspended : a.videoSuspended = t.videoSuspended
  width : a.width = t.width
  height : a.height = t.height
  frameRate : a.frameRate = t.frameRate
  jitter : a.jitterTargetMs = t.jitterTargetMs
  version : a.profileVersion = t.version

/-- The bitrate is zero exactly for suspended video, and otherwise in its bounds. -/
structure InBounds (config : ScreenShareSessionConfig) (a : AdaptiveTarget) : Prop where
  suspended : a.targetBitrateBps = 0 ↔ a.videoSuspended = true
  min_le : a.videoSuspended = false → VideoBwePolicy.kMinVideoBitrateBps ≤ a.targetBitrateBps
  le_max : a.targetBitrateBps ≤ max VideoBwePolicy.kMinVideoBitrateBps config.initialBitrate

/-- What feedback may do to a session. -/
structure Adapts (s s' : VideoSendControl) : Prop where
  keeps : s.forceKeyFramePending = true → s'.forceKeyFramePending = true
  resumes : s.adaptive.videoSuspended = true → s'.adaptive.videoSuspended = false →
    s'.forceKeyFramePending = true
  decided : Reads s'.adaptive s'.videoBwePolicy.target ∨
    s'.adaptive = s.adaptive ∧ s'.videoBwePolicy = s.videoBwePolicy

theorem Adapts.reads {s s' : VideoSendControl} (h : Adapts s s')
    (hs : Reads s.adaptive s.videoBwePolicy.target) :
    Reads s'.adaptive s'.videoBwePolicy.target := by
  rcases h.decided with hreads | ⟨hadaptive, hpolicy⟩
  · exact hreads
  · rwa [hadaptive, hpolicy]

theorem Adapts.trans {s s' s'' : VideoSendControl} (h : Adapts s s') (h' : Adapts s' s'') :
    Adapts s s'' := by
  refine ⟨fun hf => h'.keeps (h.keeps hf), fun hs hs'' => ?_, ?_⟩
  · cases hmid : s'.adaptive.videoSuspended with
    | true => exact h'.resumes hmid hs''
    | false => exact h'.keeps (h.resumes hs hmid)
  · rcases h'.decided with hreads | ⟨hadaptive, hpolicy⟩
    · exact .inl hreads
    · rcases h.decided with hreads | ⟨hadaptive', hpolicy'⟩
      · exact .inl (by rwa [hadaptive, hpolicy])
      · exact .inr ⟨hadaptive.trans hadaptive', hpolicy.trans hpolicy'⟩

theorem Adapts.of_same {s s' : VideoSendControl} (hadaptive : s'.adaptive = s.adaptive)
    (hpolicy : s'.videoBwePolicy = s.videoBwePolicy)
    (hforce : s.forceKeyFramePending = true → s'.forceKeyFramePending = true) : Adapts s s' := by
  refine ⟨hforce, fun hs hs' => ?_, .inr ⟨hadaptive, hpolicy⟩⟩
  rw [hadaptive, hs] at hs'
  cases hs'

theorem reads_publish (s : VideoSendControl) :
    Reads s.publishAdaptiveTarget.adaptive s.publishAdaptiveTarget.videoBwePolicy.target :=
  ⟨rfl, rfl, rfl, rfl, rfl, rfl, rfl⟩

/-- Publishing after a call of the policy. -/
theorem adapts_publish (s : VideoSendControl) (p : VideoBwePolicy) :
    Adapts s { s with videoBwePolicy := p }.publishAdaptiveTarget := by
  refine ⟨fun hf => ?_, fun hs hs' => ?_, .inl (reads_publish _)⟩
  · simp [VideoSendControl.publishAdaptiveTarget, hf]
  · have hs' : p.target.videoSuspended = false := hs'
    simp [VideoSendControl.publishAdaptiveTarget, hs, hs']

variable {config : ScreenShareSessionConfig}

theorem PolicyOk.inBounds {p : VideoBwePolicy} (h : PolicyOk config p) {a : AdaptiveTarget}
    (ha : Reads a p.target) : InBounds config a := by
  have hbaseline : p.config.baselineBitrateBps =
      max VideoBwePolicy.kMinVideoBitrateBps config.initialBitrate := by
    rw [h.config]
    rfl
  refine ⟨?_, fun hs => ?_, ?_⟩
  · rw [ha.bitrate, ha.suspended]
    exact h.sound.suspended
  · rw [ha.suspended] at hs
    rw [ha.bitrate]
    exact (h.sound.bitrate hs).2
  · rw [ha.bitrate, ← hbaseline]
    cases hs : p.target.videoSuspended with
    | true =>
      rw [h.sound.suspended.mpr hs]
      exact Nat.zero_le _
    | false =>
      have hle := h.sound.le_baseline
      have hlimited := (h.sound.bitrate hs).1
      unfold limitedBitrate at hlimited
      split at hlimited <;> omega

theorem policyOk_reset (config : ScreenShareSessionConfig) (nowMs : Nat) :
    PolicyOk config (.reset config.bwePolicyConfig nowMs) := by
  obtain ⟨hb, hs⟩ := reset_good config.bwePolicyConfig nowMs
  refine ⟨hb, hs, ?_⟩
  unfold VideoBwePolicy.reset
  rw [publishTarget_eq]

theorem PolicyOk.report {p : VideoBwePolicy} (h : PolicyOk config p)
    (sample : VideoBwePolicySample) : PolicyOk config (p.onReceiverReport sample).1 :=
  have hstep := report_step h.bounded h.sound sample
  ⟨hstep.bounded, hstep.sound, hstep.config.trans h.config⟩

theorem PolicyOk.remb {p : VideoBwePolicy} (h : PolicyOk config p) (bitrateBps : Nat) :
    PolicyOk config (p.onRembTarget bitrateBps).1 := by
  obtain ⟨hb, hs, -⟩ := remb_step h.bounded h.sound bitrateBps 0
  refine ⟨hb, hs, ?_⟩
  exact (publishTarget_frame
    { p with rembLimitBps := max VideoBwePolicy.kMinVideoBitrateBps bitrateBps } p.target.level
    p.target.width p.target.height p.target.frameRate p.policyBitrateBps p.target.videoSuspended
    p.target.jitterTargetMs false).1.trans h.config

theorem applyReports_adapts (inputs : FeedbackInputs) {s : VideoSendControl}
    (h : PolicyOk config s.videoBwePolicy) (i : Nat) (reports : List VideoRtcpReceiverReportSample) :
    Adapts s (s.applyReports inputs i reports) ∧
      PolicyOk config (s.applyReports inputs i reports).videoBwePolicy ∧
      (reports ≠ [] → Reads (s.applyReports inputs i reports).adaptive
        (s.applyReports inputs i reports).videoBwePolicy.target) := by
  induction reports generalizing s i with
  | nil => exact ⟨.of_same rfl rfl id, h, fun hne => absurd rfl hne⟩
  | cons report rest ih =>
    unfold VideoSendControl.applyReports
    dsimp only
    refine ⟨(adapts_publish s _).trans (ih ?_ (i + 1)).1, (ih ?_ (i + 1)).2.1,
      fun _ => (ih ?_ (i + 1)).1.reads (reads_publish _)⟩
    all_goals exact h.report _

theorem retransmit_frame (inputs : FeedbackInputs) (s : VideoSendControl) (i : Nat)
    (sequences : List UInt16) :
    (s.retransmit inputs i sequences).1.adaptive = s.adaptive ∧
      (s.retransmit inputs i sequences).1.videoBwePolicy = s.videoBwePolicy ∧
      (s.retransmit inputs i sequences).1.forceKeyFramePending = s.forceKeyFramePending := by
  induction sequences generalizing s i with
  | nil => exact ⟨rfl, rfl, rfl⟩
  | cons sequenceNumber rest ih =>
    unfold VideoSendControl.retransmit
    split
    · exact ih s (i + 1)
    · cases sentPacket s.sentPacketCache sequenceNumber with
      | none => exact ih s (i + 1)
      | some packetBytes =>
        obtain ⟨hadaptive, hpolicy, hforce⟩ := ih
          (if inputs.sentWhole i then { s with retransmitPacketCount := s.retransmitPacketCount + 1 }
          else { s with lastError := "retransmit sendto failed" }) (i + 1)
        refine ⟨hadaptive.trans ?_, hpolicy.trans ?_, hforce.trans ?_⟩ <;> split <;> rfl

theorem apply_adapts (inputs : FeedbackInputs) {s : VideoSendControl}
    (h : PolicyOk config s.videoBwePolicy) (plan : VideoRtcpFeedbackDispatchPlan) :
    Adapts s (s.applyRtcpDispatchPlanLocked inputs plan).1 ∧
      PolicyOk config (s.applyRtcpDispatchPlanLocked inputs plan).1.videoBwePolicy ∧
      (plan.hasTargetBitrate = true ∨ plan.receiverReports ≠ [] →
        Reads (s.applyRtcpDispatchPlanLocked inputs plan).1.adaptive
          (s.applyRtcpDispatchPlanLocked inputs plan).1.videoBwePolicy.target) := by
  obtain ⟨hadaptive, hpolicy, hforce⟩ :=
    retransmit_frame inputs s 0 plan.retransmitSequenceNumbers
  unfold VideoSendControl.applyRtcpDispatchPlanLocked
  generalize s.retransmit inputs 0 plan.retransmitSequenceNumbers = r at *
  obtain ⟨s₁, datagrams⟩ := r
  dsimp only at hadaptive hpolicy hforce ⊢
  have hkey : Adapts s (if plan.requestKeyFrame then
      { s₁ with forceKeyFramePending := true, keyframeRequestCount := s₁.keyframeRequestCount + 1 }
      else s₁) := by
    split
    · exact .of_same hadaptive hpolicy fun _ => rfl
    · exact .of_same hadaptive hpolicy fun hf => hforce.trans hf
  have hok : PolicyOk config (if plan.requestKeyFrame then
      { s₁ with forceKeyFramePending := true, keyframeRequestCount := s₁.keyframeRequestCount + 1 }
      else s₁).videoBwePolicy := by
    split <;> exact hpolicy ▸ h
  generalize (if plan.requestKeyFrame then
    { s₁ with forceKeyFramePending := true, keyframeRequestCount := s₁.keyframeRequestCount + 1 }
    else s₁) = s₂ at *
  cases hremb : plan.hasTargetBitrate with
  | false =>
    obtain ⟨hadapts, hok', hreads⟩ := applyReports_adapts inputs hok 0 plan.receiverReports
    refine ⟨hkey.trans hadapts, hok', fun hbwe => hreads ?_⟩
    simpa using hbwe
  | true =>
    obtain ⟨hadapts, hok', -⟩ := applyReports_adapts inputs
      (s := { s₂ with
        videoBwePolicy :=
          (s₂.videoBwePolicy.onRembTarget plan.targetBitrateBps).1 }.publishAdaptiveTarget)
      (hok.remb plan.targetBitrateBps) 0 plan.receiverReports
    exact ⟨hkey.trans ((adapts_publish _ _).trans hadapts), hok',
      fun _ => hadapts.reads (reads_publish _)⟩

/-- The session after the steps. -/
def sessionAfter (limit : Nat) (config : ScreenShareSessionConfig) (ops : List VideoSendOp) :
    VideoSendControl :=
  run (fun s op => (s.step limit config op).1) (.new config) ops

theorem reset_suspended (config : VideoBwePolicyConfig) (nowMs : Nat) :
    (VideoBwePolicy.reset config nowMs).target.videoSuspended = false := by
  unfold VideoBwePolicy.reset
  rw [publishTarget_eq]
  rfl

theorem onRtcp_adapts {s : VideoSendControl} (h : PolicyOk config s.videoBwePolicy)
    (localSsrc : UInt32) (inputs : FeedbackInputs) (data : List UInt8) :
    Adapts s (s.onRtcp localSsrc inputs data).1 ∧
      PolicyOk config (s.onRtcp localSsrc inputs data).1.videoBwePolicy := by
  unfold VideoSendControl.onRtcp
  cases parseDispatchPlan data localSsrc with
  | none => exact ⟨.of_same rfl rfl id, h⟩
  | some plan => exact ⟨(apply_adapts inputs h plan).1, (apply_adapts inputs h plan).2.1⟩

/-- The policy is sound, and the send loop knows whether video is suspended. -/
def Agrees (config : ScreenShareSessionConfig) (s : VideoSendControl) : Prop :=
  PolicyOk config s.videoBwePolicy ∧
    s.adaptive.videoSuspended = s.videoBwePolicy.target.videoSuspended

theorem agrees_step {s : VideoSendControl} (limit : Nat) (h : Agrees config s)
    (op : VideoSendOp) : Agrees config (s.step limit config op).1 := by
  cases op with
  | resetSender | setForceKeyFrame _ | resetStats | cacheSentPacket _ _ => exact h
  | resetPolicy nowMs => exact ⟨policyOk_reset config nowMs, rfl⟩
  | rtcp localSsrc inputs data =>
    obtain ⟨hadapts, hok⟩ := onRtcp_adapts h.1 localSsrc inputs data
    refine ⟨hok, ?_⟩
    rcases hadapts.decided with hreads | ⟨hadaptive, hpolicy⟩
    · exact hreads.suspended
    · exact (congrArg AdaptiveTarget.videoSuspended hadaptive).trans
        (h.2.trans (congrArg (fun p => p.target.videoSuspended) hpolicy.symm))

theorem agrees_run (limit : Nat) (config : ScreenShareSessionConfig) (ops : List VideoSendOp) :
    Agrees config (sessionAfter limit config ops) :=
  run_inv (P := Agrees config) (fun _ op h => agrees_step limit h op)
    ⟨policyOk_reset config 0, (reset_suspended _ _).symm⟩ ops

/-- In every state the send loop knows whether video is suspended. Feedback takes back no
request for a key frame, and makes one if it ends a suspension. After a REMB or a report
for the stream the send loop reads the target of the policy, whose bitrate is in bounds. -/
theorem adaptive_run (limit : Nat) (config : ScreenShareSessionConfig) (ops : List VideoSendOp)
    (localSsrc : UInt32) (inputs : FeedbackInputs) (data : List UInt8) :
    (sessionAfter limit config ops).adaptive.videoSuspended =
        (sessionAfter limit config ops).videoBwePolicy.target.videoSuspended ∧
      Adapts (sessionAfter limit config ops)
        ((sessionAfter limit config ops).onRtcp localSsrc inputs data).1 ∧
      ∀ plan, parseDispatchPlan data localSsrc = some plan →
        plan.hasTargetBitrate = true ∨ plan.receiverReports ≠ [] →
        Reads ((sessionAfter limit config ops).onRtcp localSsrc inputs data).1.adaptive
            ((sessionAfter limit config ops).onRtcp localSsrc inputs data).1.videoBwePolicy.target ∧
          InBounds config
            ((sessionAfter limit config ops).onRtcp localSsrc inputs data).1.adaptive := by
  obtain ⟨hok, hsuspended⟩ := agrees_run limit config ops
  refine ⟨hsuspended, (onRtcp_adapts hok localSsrc inputs data).1, fun plan hplan hbwe => ?_⟩
  have hafter := (onRtcp_adapts hok localSsrc inputs data).2
  have hreads : Reads ((sessionAfter limit config ops).onRtcp localSsrc inputs data).1.adaptive
      ((sessionAfter limit config ops).onRtcp localSsrc inputs data).1.videoBwePolicy.target := by
    unfold VideoSendControl.onRtcp
    rw [hplan]
    exact (apply_adapts inputs hok plan).2.2 hbwe
  exact ⟨hreads, hafter.inBounds hreads⟩

/-- A REMB of 250 kbit/s for the stream 9. -/
def rembDatagram : List UInt8 :=
  [0x8F, 206, 0, 5, 0, 0, 0, 7, 0, 0, 0, 0, 0x52, 0x45, 0x4D, 0x42, 1, 0x03, 0xD0, 0x90, 0, 0, 0, 9]

theorem adaptive_run_remb :
    let s := (sessionAfter 2 ⟨1280, 720, 30, 1500000⟩ [.resetStats, .resetPolicy 0]).onRtcp 9
      readyInputs rembDatagram
    s.1.adaptive.targetBitrateBps = 250000 ∧ Reads s.1.adaptive s.1.videoBwePolicy.target ∧
      InBounds ⟨1280, 720, 30, 1500000⟩ s.1.adaptive :=
  ⟨by decide +kernel,
    (adaptive_run 2 ⟨1280, 720, 30, 1500000⟩ [.resetStats, .resetPolicy 0] 9 readyInputs
      rembDatagram).2.2
      { retransmitSequenceNumbers := [], receiverReports := [], requestKeyFrame := false
        hasTargetBitrate := true, targetBitrateBps := 250000 } (by decide +kernel) (.inl rfl)⟩

end MeetingSystem.Proof.Client
