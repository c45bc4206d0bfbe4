import MeetingSystem.Framework.Run
import MeetingSystem.Impl.Client.VideoBwePolicy

/-!
# The bandwidth policy over whole runs

A run is a sequence of calls with the time of the last one and the number of
calls since the last reset that left a target which asks for a TURN relay.

* `Sound`: what every state has: the bounds of the policy bitrate, the bitrate of
  the target, and what the level `normal` means;
* `Steps`: what a call other than a reset may change;
* `restored`: clean reports at least five seconds apart lead back to `normal`;
* `policy_run`: all of it for every run whose times do not decrease, and that a
  relay is asked for once at most exactly if no report leaves a target as it is
  that asks for one (`Lingers`).
-/

namespace MeetingSystem.Proof.Client

open MeetingSystem.Framework MeetingSystem.Impl.Client MeetingSystem.Impl.Client.VideoBwePolicy

/-! ## Runs -/

inductive PolicyCall where
  | reset (config : VideoBwePolicyConfig) (nowMs : Nat)
  | onReceiverReport (sample : VideoBwePolicySample)
  | onRembTarget (bitrateBps nowMs : Nat)

def PolicyCall.nowMs : PolicyCall → Nat
  | .reset _ nowMs => nowMs
  | .onReceiverReport sample => sample.nowMs
  | .onRembTarget _ nowMs => nowMs

/-- The policy after a call. -/
def call (p : VideoBwePolicy) : PolicyCall → VideoBwePolicy
  | .reset config nowMs => .reset config nowMs
  | .onReceiverReport sample => (p.onReceiverReport sample).1
  | .onRembTarget bitrateBps _ => (p.onRembTarget bitrateBps).1

/-- The target asks for a TURN relay after the call. The session looks at the
target after every call and does not read what the call returns. -/
def asksTurn (p : VideoBwePolicy) (c : PolicyCall) : Bool := (call p c).target.requestTurnRelay

structure PolicyRun where
  policy : VideoBwePolicy
  nowMs : Nat
  turnRequests : Nat

def PolicyRun.start (config : VideoBwePolicyConfig) (nowMs : Nat) : PolicyRun :=
  { policy := .reset config nowMs, nowMs, turnRequests := 0 }

def PolicyRun.step (s : PolicyRun) (c : PolicyCall) : PolicyRun :=
  let next := call s.policy c
  { policy := next
    nowMs := c.nowMs
    turnRequests :=
      match c with
      | .reset _ _ => 0
      | _ => s.turnRequests + (asksTurn s.policy c).toNat }

/-- Time does not go back. -/
def InOrder (s : PolicyRun) (c : PolicyCall) : Prop := s.nowMs ≤ c.nowMs

instance (s : PolicyRun) (c : PolicyCall) : Decidable (InOrder s c) := Nat.decLe _ _

/-! ## The property -/

/-- The bitrate of the policy, under the REMB limit if there is one. -/
def limitedBitrate (p : VideoBwePolicy) : Nat :=
  if p.rembLimitBps = 0 then p.policyBitrateBps else min p.policyBitrateBps p.rembLimitBps

structure Sound (p : VideoBwePolicy) : Prop where
  min_le : kMinVideoBitrateBps ≤ p.policyBitrateBps
  le_baseline : p.policyBitrateBps ≤ p.config.baselineBitrateBps
  suspended : p.target.bitrateBps = 0 ↔ p.target.videoSuspended = true
  bitrate : p.target.videoSuspended = false →
    p.target.bitrateBps = limitedBitrate p ∧ kMinVideoBitrateBps ≤ p.target.bitrateBps
  normal : p.target.level = .normal →
    p.policyBitrateBps = p.config.baselineBitrateBps ∧
    p.target.width = p.config.baselineWidth ∧ p.target.height = p.config.baselineHeight ∧
    p.target.frameRate = p.config.baselineFrameRate

/-- A report with a loss below 2 %, five seconds after the last restore step. -/
def Restores (p : VideoBwePolicy) : PolicyCall → Prop
  | .onReceiverReport sample =>
    lossBelow sample.fractionLost 2 = true ∧ p.lastRestoreAtMs + kRestoreIntervalMs ≤ sample.nowMs
  | _ => False

/-- What a call other than a reset does to the version and to the policy
bitrate, and when the time of the last restore step changes. -/
structure Steps (p : VideoBwePolicy) (c : PolicyCall) : Prop where
  version : (call p c).target.version =
    if { (call p c).target with version := p.target.version } = p.target then p.target.version
    else p.target.version + 1
  rises : p.policyBitrateBps < (call p c).policyBitrateBps → Restores p c ∧
    (call p c).lastRestoreAtMs = c.nowMs ∧
    (call p c).policyBitrateBps ≤ (p.policyBitrateBps * 110 + 99) / 100
  restoreAt : (call p c).lastRestoreAtMs ≠ p.lastRestoreAtMs →
    Restores p c ∧ (call p c).lastRestoreAtMs = c.nowMs

/-- A report with a loss below 2 %. -/
def Clean (sample : VideoBwePolicySample) : Prop := lossBelow sample.fractionLost 2 = true

/-- Reports at least five seconds after `nowMs` and after one another. -/
def Spaced : Nat → List VideoBwePolicySample → Prop
  | _, [] => True
  | nowMs, sample :: samples =>
    nowMs + kRestoreIntervalMs ≤ sample.nowMs ∧ Spaced sample.nowMs samples

/-- Reports at least five seconds after one another, from `nowMs` on. -/
def SpacedFrom (nowMs : Nat) : List VideoBwePolicySample → Prop
  | [] => True
  | sample :: samples => nowMs ≤ sample.nowMs ∧ Spaced sample.nowMs samples

/-- What holds after every run. -/
structure Regulated (s : PolicyRun) : Prop where
  sound : Sound s.policy
  steps : ∀ c, (∀ config nowMs, c ≠ .reset config nowMs) → Steps s.policy c
  recovers : ∀ samples, (∀ sample ∈ samples, Clean sample) → SpacedFrom s.nowMs samples →
    s.policy.config.baselineBitrateBps + 2 ≤ samples.length →
      (run PolicyRun.step s (samples.map .onReceiverReport)).policy.target.level = .normal

/-- The jitter target of a report. -/
def reportJitter (sample : VideoBwePolicySample) : Nat :=
  if sample.hasRtt ∧ 300 < sample.rttMs then kHighRttJitterTargetMs else 0

/-- A report with a loss between 2 % and 5 % and the jitter target there is,
while the target asks for a TURN relay: the target is not published again and
goes on asking. -/
def Lingers (p : VideoBwePolicy) : PolicyCall → Prop
  | .onReceiverReport sample =>
    p.target.requestTurnRelay = true ∧ lossAbove sample.fractionLost 5 = false ∧
      lossBelow sample.fractionLost 2 = false ∧ p.target.jitterTargetMs = reportJitter sample
  | _ => False

instance (p : VideoBwePolicy) : ∀ c, Decidable (Lingers p c)
  | .reset _ _ => inferInstanceAs (Decidable False)
  | .onReceiverReport _ => inferInstanceAs (Decidable (_ = true ∧ _))
  | .onRembTarget _ _ => inferInstanceAs (Decidable False)

/-! ## Publishing a target -/

/-- The target that `publishTarget` compares with the one there is. -/
def nextTarget (p : VideoBwePolicy) (level : VideoBweDegradationLevel)
    (width height frameRate : Int) (bitrate : Nat) (suspended : Bool) (jitter : Nat)
    (turn : Bool) : VideoBwePolicyTarget :=
  { level, width := evenAtLeastTwo width, height := evenAtLeastTwo height
    frameRate := max 1 frameRate
    bitrateBps := if suspended then 0 else p.effectiveBitrate bitrate
    videoSuspended := suspended, jitterTargetMs := jitter, requestTurnRelay := turn
    version := p.target.version }

section
variable (p : VideoBwePolicy) (level : VideoBweDegradationLevel) (width height frameRate : Int)
  (bitrate : Nat) (suspended : Bool) (jitter : Nat) (turn : Bool)

/-- Only the target changes, and it is the new one but for its version. -/
theorem publishTarget_eq :
    p.publishTarget level width height frameRate bitrate suspended jitter turn =
      { p with
        target :=
          { nextTarget p level width height frameRate bitrate suspended jitter turn with
            version :=
              if nextTarget p level width height frameRate bitrate suspended jitter turn = p.target
              then p.target.version else p.target.version + 1 } } := by
  unfold publishTarget
  by_cases h : p.target =
      nextTarget p level width height frameRate bitrate suspended jitter turn
  · rw [if_pos h.symm]
    exact (if_pos h).trans (by rw [← h])
  · rw [if_neg (Ne.symm h)]
    exact if_neg h

/-- What publishing leaves alone. -/
theorem publishTarget_frame :
    let next := p.publishTarget level width height frameRate bitrate suspended jitter turn
    next.config = p.config ∧ next.policyBitrateBps = p.policyBitrateBps ∧
      next.lastRestoreAtMs = p.lastRestoreAtMs ∧
      next.turnRelayRequested = p.turnRelayRequested := by
  rw [publishTarget_eq]
  exact ⟨rfl, rfl, rfl, rfl⟩

theorem publishTarget_turn :
    (p.publishTarget level width height frameRate bitrate suspended
      jitter turn).target.requestTurnRelay = turn := by
  rw [publishTarget_eq]
  rfl

theorem publishTarget_version :
    let next := p.publishTarget level width height frameRate bitrate suspended jitter turn
    next.target.version =
      if { next.target with version := p.target.version } = p.target then p.target.version
      else p.target.version + 1 := by
  rw [publishTarget_eq]
  rfl

end

/-! ## Bounds -/

theorem evenAtLeastTwo_idem (value : Int) :
    evenAtLeastTwo (evenAtLeastTwo value) = evenAtLeastTwo value := by
  unfold evenAtLeastTwo
  dsimp only
  omega

/-- A configuration after `normalizeConfig`. -/
structure Normalized (config : VideoBwePolicyConfig) : Prop where
  width : evenAtLeastTwo config.baselineWidth = config.baselineWidth
  height : evenAtLeastTwo config.baselineHeight = config.baselineHeight
  frameRate : max 1 config.baselineFrameRate = config.baselineFrameRate

theorem normalizeConfig_normalized (config : VideoBwePolicyConfig) :
    Normalized (normalizeConfig config) := by
  refine ⟨evenAtLeastTwo_idem _, evenAtLeastTwo_idem _, ?_⟩
  show max 1 (max 1 config.baselineFrameRate) = max 1 config.baselineFrameRate
  omega

/-- The bounds of the bitrates, whatever the target is. -/
structure Bounded (p : VideoBwePolicy) : Prop where
  config : Normalized p.config
  min_le : kMinVideoBitrateBps ≤ p.policyBitrateBps
  le_baseline : p.policyBitrateBps ≤ p.config.baselineBitrateBps
  remb : p.rembLimitBps = 0 ∨ kMinVideoBitrateBps ≤ p.rembLimitBps

theorem Bounded.effectiveBitrate {p : VideoBwePolicy} (h : Bounded p) :
    p.effectiveBitrate p.policyBitrateBps = limitedBitrate p := by
  obtain ⟨-, hmin, hle, hremb⟩ := h
  unfold VideoBwePolicy.effectiveBitrate limitedBitrate
  dsimp only
  have hclamp : min (max p.policyBitrateBps kMinVideoBitrateBps) p.config.baselineBitrateBps =
      p.policyBitrateBps := by omega
  rw [hclamp]
  rcases hremb with hzero | hlimit
  · rw [if_pos hzero, hzero]
    exact if_neg (by decide)
  · rw [if_pos hlimit, if_neg]
    unfold kMinVideoBitrateBps at hlimit
    omega

theorem Bounded.min_le_limited {p : VideoBwePolicy} (h : Bounded p) :
    kMinVideoBitrateBps ≤ limitedBitrate p := by
  obtain ⟨-, hmin, -, hremb⟩ := h
  unfold limitedBitrate
  split
  · exact hmin
  · omega

/-- Publishing the policy bitrate, or a suspended video, gives a sound state. -/
theorem Bounded.publish {p : VideoBwePolicy} (h : Bounded p) {level : VideoBweDegradationLevel}
    {width height frameRate : Int} {bitrate : Nat} {suspended : Bool} {jitter : Nat} {turn : Bool}
    (hbitrate : suspended = true ∨ bitrate = p.policyBitrateBps)
    (hnormal : level = .normal → p.policyBitrateBps = p.config.baselineBitrateBps ∧
      width = p.config.baselineWidth ∧ height = p.config.baselineHeight ∧
      frameRate = p.config.baselineFrameRate) :
    Sound (p.publishTarget level width height frameRate bitrate suspended jitter turn) := by
  have hlimited := h.min_le_limited
  have hpos : limitedBitrate p ≠ 0 := by
    unfold kMinVideoBitrateBps at hlimited
    omega
  rw [publishTarget_eq]
  refine ⟨h.min_le, h.le_baseline, ?_, ?_, fun hlevel => ?_⟩
  · show (if suspended then 0 else p.effectiveBitrate bitrate) = 0 ↔ suspended = true
    rcases hbitrate with rfl | rfl
    · simp
    · simp [h.effectiveBitrate, hpos]
  · show suspended = false → (if suspended then 0 else p.effectiveBitrate bitrate) =
      limitedBitrate p ∧ _ ≤ (if suspended then 0 else p.effectiveBitrate bitrate)
    rintro rfl
    rcases hbitrate with hsuspended | rfl
    · cases hsuspended
    · simp only [Bool.false_eq_true, if_false, h.effectiveBitrate]
      exact ⟨trivial, hlimited⟩
  · obtain ⟨hbaseline, rfl, rfl, rfl⟩ := hnormal hlevel
    exact ⟨hbaseline, h.config.width, h.config.height, h.config.frameRate⟩

/-- A target that is published again keeps its level. -/
theorem Sound.republish {p q : VideoBwePolicy} (hs : Sound p) (hq : Bounded q)
    (hconfig : q.config = p.config) (hbitrate : q.policyBitrateBps = p.policyBitrateBps)
    (jitter : Nat) (turn : Bool) :
    Sound (q.publishTarget p.target.level p.target.width p.target.height p.target.frameRate
      q.policyBitrateBps p.target.videoSuspended jitter turn) := by
  apply hq.publish (.inr rfl)
  intro hlevel
  rw [hconfig, hbitrate]
  exact hs.normal hlevel

/-! ## Reports -/

/-- The policy bitrate after a clean report. -/
theorem restore_spec {p : VideoBwePolicy} (h : Bounded p) (nowMs : Nat) :
    (p.restore nowMs = p ∧ ¬ p.lastRestoreAtMs + kRestoreIntervalMs ≤ nowMs) ∨
    (p.lastRestoreAtMs + kRestoreIntervalMs ≤ nowMs ∧
      p.restore nowMs =
        { p with
          lastRestoreAtMs := nowMs
          policyBitrateBps :=
            restoreByTenPercent p.policyBitrateBps p.config.baselineBitrateBps }) := by
  have hpos : p.policyBitrateBps ≠ 0 := by
    have hmin := h.min_le
    unfold kMinVideoBitrateBps at hmin
    omega
  unfold VideoBwePolicy.restore
  split
  · rename_i hdue
    refine .inr ⟨by omega, ?_⟩
    rfl
  · rename_i hearly
    refine .inl ⟨rfl, ?_⟩
    unfold kRestoreIntervalMs at *
    omega

/-- A restore step raises the bitrate up to the baseline, by a tenth at most. -/
theorem restoreByTenPercent_spec {bitrate baseline : Nat}
    (hmin : kMinVideoBitrateBps ≤ bitrate) (hle : bitrate ≤ baseline) :
    let next := restoreByTenPercent bitrate baseline
    bitrate ≤ next ∧ next ≤ baseline ∧ next ≤ (bitrate * 110 + 99) / 100 ∧
      (next = baseline ∨ bitrate < next) := by
  unfold kMinVideoBitrateBps at hmin
  unfold restoreByTenPercent
  dsimp only
  omega

theorem Bounded.restore {p : VideoBwePolicy} (h : Bounded p) (nowMs : Nat) :
    Bounded (p.restore nowMs) := by
  rcases restore_spec h nowMs with ⟨hsame, -⟩ | ⟨-, hnext⟩
  · rw [hsame]
    exact h
  · obtain ⟨hge, hle, -⟩ := restoreByTenPercent_spec h.min_le h.le_baseline
    rw [hnext]
    exact ⟨h.config, h.min_le.trans hge, hle, h.remb⟩

/-- What a restore step leaves alone. -/
theorem restore_frame (p : VideoBwePolicy) (nowMs : Nat) :
    (p.restore nowMs).target = p.target ∧ (p.restore nowMs).config = p.config ∧
      (p.restore nowMs).rembLimitBps = p.rembLimitBps ∧
      (p.restore nowMs).turnRelayRequested = p.turnRelayRequested := by
  unfold VideoBwePolicy.restore
  split <;> exact ⟨rfl, rfl, rfl, rfl⟩

/-- What a report does to the policy before the target is published: the
bitrate does not rise, or it is a restore step. -/
structure Adjusts (p : VideoBwePolicy) (sample : VideoBwePolicySample) (q : VideoBwePolicy) :
    Prop where
  bounded : Bounded q
  target : q.target = p.target
  config : q.config = p.config
  turn : q.turnRelayRequested = p.turnRelayRequested
  bitrate : (q.policyBitrateBps ≤ p.policyBitrateBps ∧ q.lastRestoreAtMs = p.lastRestoreAtMs) ∨
    (Restores p (.onReceiverReport sample) ∧ q.lastRestoreAtMs = sample.nowMs ∧
      q.policyBitrateBps =
        restoreByTenPercent p.policyBitrateBps p.config.baselineBitrateBps)

theorem adjusts_self {p : VideoBwePolicy} (h : Bounded p) (sample : VideoBwePolicySample) :
    Adjusts p sample p :=
  ⟨h, rfl, rfl, rfl, .inl ⟨Nat.le_refl _, rfl⟩⟩

/-- A lower bitrate. -/
theorem adjusts_lower {p : VideoBwePolicy} (h : Bounded p) (sample : VideoBwePolicySample)
    {bitrate : Nat} (hmin : kMinVideoBitrateBps ≤ bitrate) (hle : bitrate ≤ p.policyBitrateBps) :
    Adjusts p sample { p with policyBitrateBps := bitrate } :=
  ⟨⟨h.config, hmin, hle.trans h.le_baseline, h.remb⟩, rfl, rfl, rfl, .inl ⟨hle, rfl⟩⟩

theorem adjusts_restore {p : VideoBwePolicy} (h : Bounded p) {sample : VideoBwePolicySample}
    (hclean : lossBelow sample.fractionLost 2 = true) :
    Adjusts p sample (p.restore sample.nowMs) := by
  obtain ⟨htarget, hconfig, -, hturn⟩ := restore_frame p sample.nowMs
  refine ⟨h.restore _, htarget, hconfig, hturn, ?_⟩
  rcases restore_spec h sample.nowMs with ⟨hsame, -⟩ | ⟨hdue, hnext⟩
  · rw [hsame]
    exact .inl ⟨Nat.le_refl _, rfl⟩
  · rw [hnext]
    exact .inr ⟨⟨hclean, hdue⟩, rfl, rfl⟩

/-- What a report leaves: the policy as it was, or a new target. -/
def Reported (p : VideoBwePolicy) (sample : VideoBwePolicySample) (jitter : Nat) (turn : Bool)
    (next : VideoBwePolicy) : Prop :=
  next = p ∨
  ∃ q level width height frameRate bitrate suspended, Adjusts p sample q ∧ Sound next ∧
    next = q.publishTarget level width height frameRate bitrate suspended jitter turn

/-- A clean report is published as `normal` exactly if the bitrate is restored. -/
theorem reported_clean {p : VideoBwePolicy} (h : Bounded p) {sample : VideoBwePolicySample}
    (hclean : lossBelow sample.fractionLost 2 = true) (jitter : Nat) (turn : Bool) :
    let q := p.restore sample.nowMs
    Reported p sample jitter turn
      (if q.config.baselineBitrateBps ≤ q.policyBitrateBps then
        q.publishTarget .normal q.config.baselineWidth q.config.baselineHeight
          q.config.baselineFrameRate q.policyBitrateBps false jitter turn
      else
        q.publishTarget .moderate q.target.width q.target.height kDegradedFrameRate
          q.policyBitrateBps false jitter turn) := by
  intro q
  have hq : Adjusts p sample q := adjusts_restore h hclean
  split
  · rename_i hrestored
    refine .inr ⟨q, _, _, _, _, _, _, hq, hq.bounded.publish (.inr rfl) fun _ => ?_, rfl⟩
    exact ⟨Nat.le_antisymm hq.bounded.le_baseline hrestored, rfl, rfl, rfl⟩
  · exact .inr ⟨q, _, _, _, _, _, _, hq, hq.bounded.publish (.inr rfl) nofun, rfl⟩

theorem applyReport_reported {p : VideoBwePolicy} (h : Bounded p) (hs : Sound p)
    (sample : VideoBwePolicySample) (jitter : Nat) (turn : Bool) :
    Reported p sample jitter turn (p.applyReport sample jitter turn) := by
  have hmin := h.min_le
  unfold VideoBwePolicy.applyReport
  dsimp only
  split
  · exact .inr ⟨p, _, _, _, _, _, _, adjusts_self h sample, h.publish (.inl rfl) nofun, rfl⟩
  · split
    · have hq := adjusts_lower h sample
        (Nat.le_min.mpr ⟨hmin, (by decide : kMinVideoBitrateBps ≤ kSevereVideoBitrateBps)⟩)
        (Nat.min_le_left _ _)
      exact .inr ⟨_, _, _, _, _, _, _, hq, hq.bounded.publish (.inr rfl) nofun, rfl⟩
    · split
      · have hpos : p.policyBitrateBps ≠ 0 := by
          unfold kMinVideoBitrateBps at hmin
          omega
        rw [if_neg hpos]
        have hlower : reduceByThirtyPercent p.policyBitrateBps ≤ p.policyBitrateBps := by
          unfold reduceByThirtyPercent
          omega
        have hq := adjusts_lower h sample (Nat.le_max_left _ _) hlower
        exact .inr ⟨_, _, _, _, _, _, _, hq, hq.bounded.publish (.inr rfl) nofun, rfl⟩
      · split
        · rename_i hclean
          exact reported_clean h hclean jitter turn
        · split
          · exact .inr ⟨p, _, _, _, _, _, _, adjusts_self h sample,
              hs.republish h rfl rfl jitter turn, rfl⟩
          · exact .inl rfl

/-! ## Calls -/

/-- What every state has: the bounds, the facts of the property, and that a
target that asks for a relay is counted, and a request that is counted is noted. -/
structure Good (s : PolicyRun) : Prop where
  bounded : Bounded s.policy
  sound : Sound s.policy
  counted : s.policy.target.requestTurnRelay = true → 0 < s.turnRequests
  noted : 0 < s.turnRequests → s.policy.turnRelayRequested = true
  restoreAt : s.policy.lastRestoreAtMs ≤ s.nowMs

theorem bounded_publish {p : VideoBwePolicy} (h : Bounded p) (level : VideoBweDegradationLevel)
    (width height frameRate : Int) (bitrate : Nat) (suspended : Bool) (jitter : Nat)
    (turn : Bool) :
    Bounded (p.publishTarget level width height frameRate bitrate suspended jitter turn) := by
  rw [publishTarget_eq]
  exact ⟨h.config, h.min_le, h.le_baseline, h.remb⟩

/-- The version counts the changes of the other fields. -/
def VersionStep (p next : VideoBwePolicy) : Prop :=
  next.target.version =
    if { next.target with version := p.target.version } = p.target then p.target.version
    else p.target.version + 1

/-- What a report that is adjusted and published leaves. -/
structure ReportStep (p : VideoBwePolicy) (sample : VideoBwePolicySample) (next : VideoBwePolicy) :
    Prop where
  bounded : Bounded next
  sound : Sound next
  version : VersionStep p next
  config : next.config = p.config
  requested : next.turnRelayRequested = p.turnRelayRequested
  bitrate : (next.policyBitrateBps ≤ p.policyBitrateBps ∧
      next.lastRestoreAtMs = p.lastRestoreAtMs) ∨
    (Restores p (.onReceiverReport sample) ∧ next.lastRestoreAtMs = sample.nowMs ∧
      next.policyBitrateBps =
        restoreByTenPercent p.policyBitrateBps p.config.baselineBitrateBps)

theorem Reported.step {p next : VideoBwePolicy} {sample : VideoBwePolicySample} {jitter : Nat}
    {turn : Bool} (h : Bounded p) (hs : Sound p) (hr : Reported p sample jitter turn next) :
    ReportStep p sample next := by
  rcases hr with rfl | ⟨q, level, width, height, frameRate, bitrate, suspended, hq, hsound, rfl⟩
  · exact ⟨h, hs, (if_pos rfl).symm, rfl, rfl, .inl ⟨Nat.le_refl _, rfl⟩⟩
  · have hversion := publishTarget_version q level width height frameRate bitrate suspended jitter
      turn
    rw [hq.target] at hversion
    refine ⟨bounded_publish hq.bounded _ _ _ _ _ _ _ _, hsound, hversion, ?_, ?_, ?_⟩
    · rw [publishTarget_eq]
      exact hq.config
    · rw [publishTarget_eq]
      exact hq.turn
    · rw [publishTarget_eq]
      exact hq.bitrate

theorem reset_good (config : VideoBwePolicyConfig) (nowMs : Nat) :
    Bounded (.reset config nowMs) ∧ Sound (.reset config nowMs) := by
  have hmin : kMinVideoBitrateBps ≤ (normalizeConfig config).baselineBitrateBps :=
    Nat.le_max_left _ _
  have h : Bounded
      { config := normalizeConfig config, target := defaultTarget
        policyBitrateBps := (normalizeConfig config).baselineBitrateBps, rembLimitBps := 0
        lastRestoreAtMs := nowMs, turnRelayRequested := false } :=
    ⟨normalizeConfig_normalized config, hmin, Nat.le_refl _, .inl rfl⟩
  exact ⟨bounded_publish h _ _ _ _ _ _ _ _, h.publish (.inr rfl) fun _ => ⟨rfl, rfl, rfl, rfl⟩⟩

/-- The request that a report makes. -/
def reportTurn (p : VideoBwePolicy) (sample : VideoBwePolicySample) : Bool :=
  (sample.hasRtt ∧ 500 < sample.rttMs) ∧ ¬ p.turnRelayRequested

theorem bounded_request {p : VideoBwePolicy} (h : Bounded p) (requested : Bool) :
    Bounded { p with turnRelayRequested := requested } :=
  ⟨h.config, h.min_le, h.le_baseline, h.remb⟩

/-- A report, with the request for a relay noted first. -/
theorem report_step {p : VideoBwePolicy} (h : Bounded p) (hs : Sound p)
    (sample : VideoBwePolicySample) :
    ReportStep { p with turnRelayRequested := p.turnRelayRequested || reportTurn p sample } sample
      (call p (.onReceiverReport sample)) := by
  have h' := bounded_request h (p.turnRelayRequested || reportTurn p sample)
  have hs' : Sound { p with turnRelayRequested := p.turnRelayRequested || reportTurn p sample } :=
    ⟨hs.min_le, hs.le_baseline, hs.suspended, hs.bitrate, hs.normal⟩
  exact (applyReport_reported h' hs' sample _ _).step h' hs'

theorem lossAbove_of_le {fractionLost : UInt8} {percent percent' : Nat}
    (habove : lossAbove fractionLost percent' = true) (hle : percent ≤ percent') :
    lossAbove fractionLost percent = true := by
  have hlt : percent' * 256 < fractionLost.toNat * 100 := of_decide_eq_true habove
  exact decide_eq_true (Nat.lt_of_le_of_lt (Nat.mul_le_mul_right 256 hle) hlt)

/-- What a report leaves of the request in the target. -/
theorem applyReport_turn (p : VideoBwePolicy) (sample : VideoBwePolicySample) (jitter : Nat)
    (turn : Bool) :
    (p.applyReport sample jitter turn).target.requestTurnRelay = true ↔
      turn = true ∨ p.target.requestTurnRelay = true ∧ lossAbove sample.fractionLost 5 = false ∧
        lossBelow sample.fractionLost 2 = false ∧ p.target.jitterTargetMs = jitter := by
  -- a loss over 5 % is published, at each of the three levels
  have hloss {percent : Nat} (habove : lossAbove sample.fractionLost percent = true)
      (hle : 5 ≤ percent) : turn = true ∨ p.target.requestTurnRelay = true ∧
        lossAbove sample.fractionLost 5 = false ∧ lossBelow sample.fractionLost 2 = false ∧
          p.target.jitterTargetMs = jitter ↔ turn = true :=
    or_iff_left fun hkept =>
      Bool.false_ne_true (hkept.2.1.symm.trans (lossAbove_of_le habove hle))
  unfold VideoBwePolicy.applyReport
  split
  case isTrue habove =>
    rw [publishTarget_turn, hloss habove (by decide)]
  case isFalse =>
    split
    case isTrue habove =>
      rw [publishTarget_turn, hloss habove (by decide)]
    case isFalse =>
      split
      case isTrue habove =>
        rw [publishTarget_turn, hloss habove (by decide)]
      case isFalse hnotAbove =>
        split
        case isTrue hclean =>
          rw [or_iff_left fun hkept => Bool.false_ne_true (hkept.2.2.1.symm.trans hclean)]
          dsimp only
          split <;> rw [publishTarget_turn]
        case isFalse hnotClean =>
          split
          case isTrue hchanges =>
            rw [publishTarget_turn]
            refine ⟨.inl, fun h => h.elim id fun hkept => ?_⟩
            exact hchanges.resolve_left (not_not_intro hkept.2.2.2)
          case isFalse hsame =>
            obtain ⟨hjitter, hturn⟩ := not_or.mp hsame
            rw [or_iff_right hturn]
            exact ⟨fun hflag => ⟨hflag, Bool.eq_false_iff.mpr hnotAbove,
              Bool.eq_false_iff.mpr hnotClean, not_not.mp hjitter⟩, And.left⟩

/-- A target asks for a relay after a report that makes the request, and after
one that leaves the target as it is. -/
theorem asksTurn_report {p : VideoBwePolicy} (sample : VideoBwePolicySample) :
    asksTurn p (.onReceiverReport sample) = true ↔
      reportTurn p sample = true ∨ Lingers p (.onReceiverReport sample) :=
  applyReport_turn _ sample _ _

theorem asksTurn_remb (p : VideoBwePolicy) (bitrateBps nowMs : Nat) :
    asksTurn p (.onRembTarget bitrateBps nowMs) = false :=
  publishTarget_turn _ _ _ _ _ _ _ _ _

theorem remb_step {p : VideoBwePolicy} (h : Bounded p) (hs : Sound p) (bitrateBps nowMs : Nat) :
    let next := call p (.onRembTarget bitrateBps nowMs)
    Bounded next ∧ Sound next ∧ VersionStep p next ∧
      next.policyBitrateBps = p.policyBitrateBps ∧ next.lastRestoreAtMs = p.lastRestoreAtMs ∧
      next.turnRelayRequested = p.turnRelayRequested := by
  have h' : Bounded { p with rembLimitBps := max kMinVideoBitrateBps bitrateBps } :=
    ⟨h.config, h.min_le, h.le_baseline, .inr (Nat.le_max_left _ _)⟩
  obtain ⟨-, hbitrate, hlast, hrequested⟩ := publishTarget_frame
    { p with rembLimitBps := max kMinVideoBitrateBps bitrateBps } p.target.level p.target.width
    p.target.height p.target.frameRate p.policyBitrateBps p.target.videoSuspended
    p.target.jitterTargetMs false
  exact ⟨bounded_publish h' _ _ _ _ _ _ _ _, hs.republish h' rfl rfl _ _,
    publishTarget_version _ _ _ _ _ _ _ _ _, hbitrate, hlast, hrequested⟩

theorem good_reset (config : VideoBwePolicyConfig) (nowMs : Nat) : Good (.start config nowMs) := by
  obtain ⟨hb, hs⟩ := reset_good config nowMs
  refine ⟨hb, hs, fun hasks => ?_, fun hpos => absurd hpos (Nat.lt_irrefl 0), ?_⟩
  · have hnone : (VideoBwePolicy.reset config nowMs).target.requestTurnRelay = false :=
      publishTarget_turn _ _ _ _ _ _ _ _ _
    exact absurd (hnone.symm.trans hasks) Bool.false_ne_true
  · show (VideoBwePolicy.reset config nowMs).lastRestoreAtMs ≤ nowMs
    unfold VideoBwePolicy.reset
    rw [publishTarget_eq]

theorem good_step {s : PolicyRun} {c : PolicyCall} (hc : InOrder s c) (h : Good s) :
    Good (s.step c) := by
  obtain ⟨hbounded, hsound, hcounted, hnoted, hrestore⟩ := h
  cases c with
  | reset config nowMs => exact good_reset config nowMs
  | onRembTarget bitrateBps nowMs =>
    obtain ⟨hb, hs, -, -, hlast, hrequested⟩ := remb_step hbounded hsound bitrateBps nowMs
    have hasks := asksTurn_remb s.policy bitrateBps nowMs
    refine ⟨hb, hs, fun hflag => absurd (hasks.symm.trans hflag) Bool.false_ne_true, ?_, ?_⟩
    · show 0 < s.turnRequests + (asksTurn s.policy (.onRembTarget bitrateBps nowMs)).toNat → _
      rw [hasks]
      exact fun hpos => hrequested.trans (hnoted hpos)
    · exact (Nat.le_of_eq hlast).trans (hrestore.trans hc)
  | onReceiverReport sample =>
    obtain ⟨hb, hs, -, -, hrequested, hbitrate⟩ := report_step hbounded hsound sample
    have hcount : (s.step (.onReceiverReport sample)).turnRequests =
        s.turnRequests + (asksTurn s.policy (.onReceiverReport sample)).toNat := rfl
    refine ⟨hb, hs, fun hflag => ?_, fun hpos => ?_, ?_⟩
    · replace hflag : asksTurn s.policy (.onReceiverReport sample) = true := hflag
      rw [hcount, hflag]
      exact Nat.succ_pos _
    · refine hrequested.trans ((Bool.or_eq_true ..).mpr ?_)
      by_cases hearlier : 0 < s.turnRequests
      · exact .inl (hnoted hearlier)
      -- nothing was asked for before, so the report makes the request
      · have hasks : asksTurn s.policy (.onReceiverReport sample) = true := by
          by_contra hnot
          rw [hcount, Bool.eq_false_iff.mpr hnot] at hpos
          exact hearlier hpos
        exact ((asksTurn_report sample).mp hasks).elim .inr fun hlingers =>
          absurd (hcounted hlingers.1) hearlier
    · rcases hbitrate with ⟨-, hlast⟩ | ⟨-, hlast, -⟩
      · exact (Nat.le_of_eq hlast).trans (hrestore.trans hc)
      · exact Nat.le_of_eq hlast

/-- A relay that has been asked for once at most is asked for again exactly by a
call that lingers. -/
theorem turnRequests_le_iff {s : PolicyRun} (h : Good s) (hle : s.turnRequests ≤ 1)
    (c : PolicyCall) : (s.step c).turnRequests ≤ 1 ↔ ¬ Lingers s.policy c := by
  cases c with
  | reset config nowMs => exact iff_of_true (Nat.zero_le _) not_false
  | onRembTarget bitrateBps nowMs =>
    show s.turnRequests + (asksTurn s.policy (.onRembTarget bitrateBps nowMs)).toNat ≤ 1 ↔ _
    rw [asksTurn_remb]
    exact iff_of_true hle not_false
  | onReceiverReport sample =>
    show s.turnRequests + (asksTurn s.policy (.onReceiverReport sample)).toNat ≤ 1 ↔ _
    by_cases hlingers : Lingers s.policy (.onReceiverReport sample)
    · have hpos := h.counted hlingers.1
      rw [(asksTurn_report sample).mpr (.inr hlingers)]
      exact iff_of_false (Nat.not_le.mpr (Nat.succ_lt_succ hpos)) (not_not_intro hlingers)
    · refine iff_of_true ?_ hlingers
      cases hasks : asksTurn s.policy (.onReceiverReport sample) with
      | false => exact hle
      | true =>
        -- the request is made now, so none was made before
        have hturn := ((asksTurn_report sample).mp hasks).resolve_right hlingers
        have hfirst : ¬ 0 < s.turnRequests := fun hpos =>
          (of_decide_eq_true hturn).2 (h.noted hpos)
        rw [Nat.eq_zero_of_not_pos hfirst]
        exact Nat.le_refl _

/-- A call other than a reset. -/
theorem steps_of_good {s : PolicyRun} (h : Good s) {c : PolicyCall}
    (hc : ∀ config nowMs, c ≠ .reset config nowMs) : Steps s.policy c := by
  obtain ⟨hbounded, hsound, -, -, -⟩ := h
  cases c with
  | reset config nowMs => exact absurd rfl (hc config nowMs)
  | onRembTarget bitrateBps nowMs =>
    obtain ⟨-, -, hversion, hbitrate, hlast, -⟩ := remb_step hbounded hsound bitrateBps nowMs
    exact ⟨hversion, fun hlt => absurd hlt (Nat.not_lt.mpr (Nat.le_of_eq hbitrate)),
      fun hne => absurd hlast hne⟩
  | onReceiverReport sample =>
    obtain ⟨-, -, hversion, -, -, hbitrate⟩ := report_step hbounded hsound sample
    refine ⟨hversion, fun hlt => ?_, fun hne => ?_⟩
    · rcases hbitrate with ⟨hle, -⟩ | ⟨hrestores, hlast, hnext⟩
      · exact absurd hlt (Nat.not_lt.mpr hle)
      · obtain ⟨-, -, hle, -⟩ := restoreByTenPercent_spec hbounded.min_le hbounded.le_baseline
        exact ⟨hrestores, hlast, hnext ▸ hle⟩
    · rcases hbitrate with ⟨-, hlast⟩ | ⟨hrestores, hlast, -⟩
      · exact absurd hlast hne
      · exact ⟨hrestores, hlast⟩

/-! ## Recovery -/

theorem Clean.not_above {sample : VideoBwePolicySample} (h : Clean sample) {percent : Nat}
    (hpercent : 2 ≤ percent) : lossAbove sample.fractionLost percent = false := by
  have hlt : sample.fractionLost.toNat * 100 < 2 * 256 := of_decide_eq_true h
  apply decide_eq_false
  omega

/-- A clean report makes a restore step if it is due. The level is `normal` once
the bitrate is that of the baseline. -/
theorem applyReport_clean {p : VideoBwePolicy} {sample : VideoBwePolicySample}
    (h : Clean sample) (jitter : Nat) (turn : Bool) :
    let next := p.applyReport sample jitter turn
    next.policyBitrateBps = (p.restore sample.nowMs).policyBitrateBps ∧
      next.lastRestoreAtMs = (p.restore sample.nowMs).lastRestoreAtMs ∧
      (p.config.baselineBitrateBps ≤ next.policyBitrateBps → next.target.level = .normal) := by
  have hconfig := (restore_frame p sample.nowMs).2.1
  unfold VideoBwePolicy.applyReport
  rw [if_neg (by simp [h.not_above]), if_neg (by simp [h.not_above]),
    if_neg (by simp [h.not_above]), if_pos (show lossBelow sample.fractionLost 2 = true from h)]
  dsimp only
  split
  · obtain ⟨-, hbitrate, hlast, -⟩ := publishTarget_frame (p.restore sample.nowMs) .normal
      (p.restore sample.nowMs).config.baselineWidth (p.restore sample.nowMs).config.baselineHeight
      (p.restore sample.nowMs).config.baselineFrameRate (p.restore sample.nowMs).policyBitrateBps
      false jitter turn
    refine ⟨hbitrate, hlast, fun _ => ?_⟩
    rw [publishTarget_eq]
    rfl
  · rename_i hbelow
    obtain ⟨-, hbitrate, hlast, -⟩ := publishTarget_frame (p.restore sample.nowMs) .moderate
      (p.restore sample.nowMs).target.width (p.restore sample.nowMs).target.height
      kDegradedFrameRate (p.restore sample.nowMs).policyBitrateBps false jitter turn
    refine ⟨hbitrate, hlast, fun hrestored => ?_⟩
    rw [hbitrate, ← hconfig] at hrestored
    exact absurd hrestored hbelow

/-- A clean report that is due raises the bitrate until it is restored. -/
theorem clean_due {s : PolicyRun} (h : Good s) {sample : VideoBwePolicySample}
    (hclean : Clean sample) (hdue : s.nowMs + kRestoreIntervalMs ≤ sample.nowMs) :
    let next := (s.step (.onReceiverReport sample)).policy
    (s.policy.config.baselineBitrateBps ≤ next.policyBitrateBps → next.target.level = .normal) ∧
      (next.policyBitrateBps = s.policy.config.baselineBitrateBps ∨
        s.policy.policyBitrateBps < next.policyBitrateBps) := by
  have h' := bounded_request h.bounded (s.policy.turnRelayRequested || reportTurn s.policy sample)
  obtain ⟨hbitrate, -, hlevel⟩ := applyReport_clean (p := { s.policy with
    turnRelayRequested := s.policy.turnRelayRequested || reportTurn s.policy sample }) hclean
    (reportJitter sample) (reportTurn s.policy sample)
  refine ⟨hlevel, ?_⟩
  obtain ⟨-, -, -, hrises⟩ := restoreByTenPercent_spec h.bounded.min_le h.bounded.le_baseline
  rcases restore_spec h' sample.nowMs with ⟨-, hearly⟩ | ⟨-, hnext⟩
  · have hlast := h.restoreAt
    dsimp only at hearly
    omega
  · rw [hnext] at hbitrate
    rcases hrises with heq | hlt
    · exact .inl (hbitrate.trans heq)
    · exact .inr (Nat.lt_of_lt_of_eq hlt hbitrate.symm)

theorem report_config {s : PolicyRun} (h : Good s) (sample : VideoBwePolicySample) :
    (s.step (.onReceiverReport sample)).policy.config = s.policy.config :=
  (report_step h.bounded h.sound sample).config

/-- Enough clean reports five seconds apart restore the baseline. -/
theorem restored_of_spaced {samples : List VideoBwePolicySample} {s : PolicyRun} (h : Good s)
    (hclean : ∀ sample ∈ samples, Clean sample) (hspaced : Spaced s.nowMs samples)
    (hne : samples ≠ [])
    (hlength : s.policy.config.baselineBitrateBps - s.policy.policyBitrateBps ≤ samples.length) :
    (run PolicyRun.step s (samples.map .onReceiverReport)).policy.target.level = .normal := by
  induction samples generalizing s with
  | nil => exact absurd rfl hne
  | cons sample samples ih =>
    obtain ⟨hsample, hsamples⟩ := List.forall_mem_cons.mp hclean
    obtain ⟨hdue, hspaced⟩ := hspaced
    have hnext : Good (s.step (.onReceiverReport sample)) :=
      good_step (Nat.le_trans (Nat.le_add_right _ _) hdue) h
    have hconfig := report_config h sample
    have hle := hnext.bounded.le_baseline
    rw [hconfig] at hle
    have hstep := clean_due h hsample hdue
    dsimp only at hstep
    rw [List.length_cons] at hlength
    show (run PolicyRun.step (s.step (.onReceiverReport sample))
      (samples.map .onReceiverReport)).policy.target.level = .normal
    cases samples with
    | nil =>
      apply hstep.1
      rw [List.length_nil] at hlength
      omega
    | cons sample' samples =>
      apply ih hnext hsamples hspaced (List.cons_ne_nil _ _)
      rw [hconfig]
      omega

/-- The first report may come at any time. -/
theorem restored {samples : List VideoBwePolicySample} {s : PolicyRun} (h : Good s)
    (hclean : ∀ sample ∈ samples, Clean sample) (hspaced : SpacedFrom s.nowMs samples)
    (hlength : s.policy.config.baselineBitrateBps + 2 ≤ samples.length) :
    (run PolicyRun.step s (samples.map .onReceiverReport)).policy.target.level = .normal := by
  cases samples with
  | nil => exact absurd hlength (by simp)
  | cons sample samples =>
    obtain ⟨-, hsamples⟩ := List.forall_mem_cons.mp hclean
    obtain ⟨horder, hspaced⟩ := hspaced
    rw [List.length_cons] at hlength
    have hfirst : Good (s.step (.onReceiverReport sample)) := good_step horder h
    apply restored_of_spaced hfirst hsamples hspaced
    · rintro rfl
      rw [List.length_nil] at hlength
      omega
    · rw [report_config h sample]
      omega

/-! ## The result -/

theorem Good.regulated {s : PolicyRun} (h : Good s) : Regulated s where
  sound := h.sound
  steps _ hc := steps_of_good h hc
  recovers _ hclean hspaced hlength := restored h hclean hspaced hlength

/-- In every run in the order of the times: after any calls the policy is sound,
any further call changes what `Steps` allows, and clean reports five seconds
apart restore the baseline. A relay is asked for once at most since the last
reset, all the time, if and only if no call lingers. -/
theorem policy_run (config : VideoBwePolicyConfig) (nowMs : Nat) (calls : List PolicyCall)
    (h : Along PolicyRun.step InOrder (.start config nowMs) calls) :
    (∀ n, Regulated (run PolicyRun.step (.start config nowMs) (calls.take n))) ∧
      ((∀ n, Regulated (run PolicyRun.step (.start config nowMs) (calls.take n)) ∧
          (run PolicyRun.step (.start config nowMs) (calls.take n)).turnRequests ≤ 1) ↔
        Along PolicyRun.step (fun s c => ¬ Lingers s.policy c) (.start config nowMs) calls) := by
  have hgood : ∀ n, Good (run PolicyRun.step (.start config nowMs) (calls.take n)) := fun n =>
    Along.inv (fun _ _ => good_step) (good_reset config nowMs) (h.take n)
  refine ⟨fun n => (hgood n).regulated, ?_⟩
  rw [← throughout_iff (P := fun s : PolicyRun => Good s ∧ s.turnRequests ≤ 1)
    (fun s c hc hs => (and_iff_right (good_step hc hs.1)).trans (turnRequests_le_iff hs.1 hs.2 c))
    ⟨good_reset config nowMs, Nat.zero_le _⟩ h]
  exact forall_congr' fun n =>
    and_congr_left' (iff_of_true (hgood n).regulated (hgood n))

/-- Three reports with a loss of 3 % and a round trip of 550 ms. -/
def lingeringCalls : List PolicyCall :=
  [1000, 2000, 3000].map fun nowMs =>
    .onReceiverReport { fractionLost := 8, hasRtt := true, rttMs := 550, nowMs }

theorem turnRequests_lingering :
    Along PolicyRun.step InOrder (.start ⟨1280, 720, 30, 1000000⟩ 0) lingeringCalls ∧
      ¬ (run PolicyRun.step (.start ⟨1280, 720, 30, 1000000⟩ 0) lingeringCalls).turnRequests ≤ 1 :=
  ⟨by decide, by decide +kernel⟩

/-- A report with a loss of 6 % and a round trip of 550 ms, and a REMB. -/
def lossyCalls : List PolicyCall :=
  [.onReceiverReport { fractionLost := 16, hasRtt := true, rttMs := 550, nowMs := 1000 },
    .onRembTarget 250000 2000]

theorem policy_run_lossy :
    let s n := run PolicyRun.step (.start ⟨1280, 720, 30, 1000000⟩ 0) (lossyCalls.take n)
    (s 1).turnRequests = 1 ∧ (s 2).policy.policyBitrateBps = 700000 ∧
      (s 2).policy.target.bitrateBps = 250000 ∧
      ∀ n, Regulated (s n) ∧ (s n).turnRequests ≤ 1 := by
  have h := policy_run ⟨1280, 720, 30, 1000000⟩ 0 lossyCalls (by decide)
  exact ⟨by decide +kernel, by decide +kernel, by decide +kernel, h.2.mpr (by decide +kernel)⟩

end MeetingSystem.Proof.Client
