import Mathlib.Data.Int.Init
import Mathlib.Algebra.Group.Nat.Defs
import Mathlib.Data.Nat.Log

/-!
# The bandwidth policy of the video sender

`VideoBwePolicy`: the size, frame rate and bitrate at which the client encodes,
from the receiver reports and the REMB of its peer. Bitrates are `uint32_t` and
times `uint64_t` in the source; nothing here can overflow them. The loss in
percent is a multiple of 100 / 256, which doubles represent exactly.
-/

namespace MeetingSystem.Impl.Client

inductive VideoBweDegradationLevel where
  | normal | moderate | severe | audioOnly
  deriving DecidableEq

structure VideoBwePolicyConfig where
  baselineWidth : Int
  baselineHeight : Int
  baselineFrameRate : Int
  baselineBitrateBps : Nat
  deriving DecidableEq

structure VideoBwePolicySample where
  fractionLost : UInt8
  hasRtt : Bool
  rttMs : Nat
  nowMs : Nat
  deriving DecidableEq

structure VideoBwePolicyTarget where
  level : VideoBweDegradationLevel
  width : Int
  height : Int
  frameRate : Int
  bitrateBps : Nat
  videoSuspended : Bool
  jitterTargetMs : Nat
  requestTurnRelay : Bool
  version : Nat
  deriving DecidableEq

structure VideoBwePolicy where
  config : VideoBwePolicyConfig
  target : VideoBwePolicyTarget
  policyBitrateBps : Nat
  rembLimitBps : Nat
  lastRestoreAtMs : Nat
  turnRelayRequested : Bool
  deriving DecidableEq

namespace VideoBwePolicy

def kMinVideoBitrateBps : Nat := 100000
def kSevereVideoBitrateBps : Nat := 300000
def kDegradedFrameRate : Int := 15
def kHighRttJitterTargetMs : Nat := 100
def kRestoreIntervalMs : Nat := 5000

def evenAtLeastTwo (value : Int) : Int :=
  let value := max 2 value
  max 2 (value - value % 2)

def normalizeConfig (config : VideoBwePolicyConfig) : VideoBwePolicyConfig :=
  { baselineWidth := evenAtLeastTwo config.baselineWidth
    baselineHeight := evenAtLeastTwo config.baselineHeight
    baselineFrameRate := max 1 config.baselineFrameRate
    baselineBitrateBps := max kMinVideoBitrateBps config.baselineBitrateBps }

/-- `lossPercent(fractionLost) > percent`. -/
def lossAbove (fractionLost : UInt8) (percent : Nat) : Bool :=
  percent * 256 < fractionLost.toNat * 100

/-- `lossPercent(fractionLost) < percent`. -/
def lossBelow (fractionLost : UInt8) (percent : Nat) : Bool :=
  fractionLost.toNat * 100 < percent * 256

/-! ## Arithmetic on doubles -/

/-- `n / d`, rounded to the nearest integer, ties to even. -/
def roundQuotient (n d : Nat) : Nat :=
  let q := n / d
  let r := n % d
  if 2 * r < d then q
  else if d < 2 * r then q + 1
  else q + q % 2

/-- The double `360.0 / height`, for a height over 360: the mantissa `m` of 53
bits and `s` with the value `m / 2 ^ s`. -/
def ratioTo360 (height : Nat) : Nat × Nat :=
  let s := 53 + Nat.log2 height - Nat.log2 360
  let s := if 360 * 2 ^ s / height < 2 ^ 53 then s else s - 1
  (roundQuotient (360 * 2 ^ s) height, s)

/-- `std::round(width * ratio)` for the double `m / 2 ^ s`: the product is
rounded to 53 bits, and then to the nearest integer, ties away from zero. -/
def roundProduct (width : Nat) (ratio : Nat × Nat) : Nat :=
  let product := width * ratio.1
  let k := Nat.log2 product + 1 - 53
  let value := roundQuotient product (2 ^ k) * 2 ^ k
  (2 * value + 2 ^ ratio.2) / 2 ^ (ratio.2 + 1)

def scaledWidthFor360p (config : VideoBwePolicyConfig) : Int :=
  if config.baselineHeight ≤ 360 then config.baselineWidth
  else
    evenAtLeastTwo
      (roundProduct config.baselineWidth.toNat (ratioTo360 config.baselineHeight.toNat))

def scaledHeightFor360p (config : VideoBwePolicyConfig) : Int :=
  if config.baselineHeight ≤ 360 then config.baselineHeight else 360

/-! ## Bitrates -/

def reduceByThirtyPercent (bitrateBps : Nat) : Nat :=
  max kMinVideoBitrateBps (bitrateBps * 70 / 100)

def restoreByTenPercent (bitrateBps baselineBitrateBps : Nat) : Nat :=
  min baselineBitrateBps ((bitrateBps * 110 + 99) / 100)

def effectiveBitrate (p : VideoBwePolicy) (policyBitrateBps : Nat) : Nat :=
  let bitrate := min (max policyBitrateBps kMinVideoBitrateBps) p.config.baselineBitrateBps
  if kMinVideoBitrateBps ≤ p.rembLimitBps then min bitrate p.rembLimitBps else bitrate

/-! ## The policy -/

def publishTarget (p : VideoBwePolicy) (level : VideoBweDegradationLevel)
    (width height frameRate : Int) (policyBitrateBps : Nat) (videoSuspended : Bool)
    (jitterTargetMs : Nat) (requestTurnRelay : Bool) : VideoBwePolicy :=
  let next : VideoBwePolicyTarget :=
    { level
      width := evenAtLeastTwo width
      height := evenAtLeastTwo height
      frameRate := max 1 frameRate
      bitrateBps := if videoSuspended then 0 else p.effectiveBitrate policyBitrateBps
      videoSuspended, jitterTargetMs, requestTurnRelay
      version := p.target.version }
  if p.target = next then p
  else { p with target := { next with version := p.target.version + 1 } }

/-- What a target is before it is published. -/
def defaultTarget : VideoBwePolicyTarget :=
  { level := .normal, width := 1280, height := 720, frameRate := 30, bitrateBps := 1500000
    videoSuspended := false, jitterTargetMs := 0, requestTurnRelay := false, version := 0 }

def reset (config : VideoBwePolicyConfig) (nowMs : Nat) : VideoBwePolicy :=
  let config := normalizeConfig config
  publishTarget
    { config, target := defaultTarget, policyBitrateBps := config.baselineBitrateBps
      rembLimitBps := 0, lastRestoreAtMs := nowMs, turnRelayRequested := false }
    .normal config.baselineWidth config.baselineHeight config.baselineFrameRate
    config.baselineBitrateBps false 0 false

/-- The policy bitrate after a clean report: a step every five seconds. -/
def restore (p : VideoBwePolicy) (nowMs : Nat) : VideoBwePolicy :=
  if p.lastRestoreAtMs ≤ nowMs ∧ kRestoreIntervalMs ≤ nowMs - p.lastRestoreAtMs then
    { p with
      lastRestoreAtMs := nowMs
      policyBitrateBps :=
        if p.policyBitrateBps = 0 then kSevereVideoBitrateBps
        else restoreByTenPercent p.policyBitrateBps p.config.baselineBitrateBps }
  else p

/-- What a report changes, once a TURN relay has been asked for if need be. -/
def applyReport (p : VideoBwePolicy) (sample : VideoBwePolicySample) (jitterTargetMs : Nat)
    (requestTurnRelay : Bool) : VideoBwePolicy :=
  if lossAbove sample.fractionLost 30 then
    p.publishTarget .audioOnly p.target.width p.target.height kDegradedFrameRate 0 true
      jitterTargetMs requestTurnRelay
  else if lossAbove sample.fractionLost 15 then
    let p := { p with policyBitrateBps := min p.policyBitrateBps kSevereVideoBitrateBps }
    p.publishTarget .severe (scaledWidthFor360p p.config) (scaledHeightFor360p p.config)
      kDegradedFrameRate p.policyBitrateBps false jitterTargetMs requestTurnRelay
  else if lossAbove sample.fractionLost 5 then
    let p := { p with
      policyBitrateBps := reduceByThirtyPercent
        (if p.policyBitrateBps = 0 then p.config.baselineBitrateBps else p.policyBitrateBps) }
    p.publishTarget .moderate p.config.baselineWidth p.config.baselineHeight kDegradedFrameRate
      p.policyBitrateBps false jitterTargetMs requestTurnRelay
  else if lossBelow sample.fractionLost 2 then
    let p := p.restore sample.nowMs
    if p.config.baselineBitrateBps ≤ p.policyBitrateBps then
      p.publishTarget .normal p.config.baselineWidth p.config.baselineHeight
        p.config.baselineFrameRate p.policyBitrateBps false jitterTargetMs requestTurnRelay
    else
      p.publishTarget .moderate p.target.width p.target.height kDegradedFrameRate
        p.policyBitrateBps false jitterTargetMs requestTurnRelay
  else if p.target.jitterTargetMs ≠ jitterTargetMs ∨ requestTurnRelay then
    p.publishTarget p.target.level p.target.width p.target.height p.target.frameRate
      p.policyBitrateBps p.target.videoSuspended jitterTargetMs requestTurnRelay
  else p

def onReceiverReport (p : VideoBwePolicy) (sample : VideoBwePolicySample) :
    VideoBwePolicy × Bool :=
  let highRtt := sample.hasRtt ∧ 300 < sample.rttMs
  let turnRtt := sample.hasRtt ∧ 500 < sample.rttMs
  let jitterTargetMs := if highRtt then kHighRttJitterTargetMs else 0
  let requestTurnRelay : Bool := turnRtt ∧ ¬ p.turnRelayRequested
  let next := applyReport
    { p with turnRelayRequested := p.turnRelayRequested || requestTurnRelay } sample
    jitterTargetMs requestTurnRelay
  (next, p.target.version ≠ next.target.version ∨ requestTurnRelay)

def onRembTarget (p : VideoBwePolicy) (bitrateBps : Nat) : VideoBwePolicy × Bool :=
  let limited := { p with rembLimitBps := max kMinVideoBitrateBps bitrateBps }
  let next := limited.publishTarget p.target.level p.target.width p.target.height
    p.target.frameRate p.policyBitrateBps p.target.videoSuspended p.target.jitterTargetMs false
  (next, p.target.version ≠ next.target.version)

end VideoBwePolicy

end MeetingSystem.Impl.Client
