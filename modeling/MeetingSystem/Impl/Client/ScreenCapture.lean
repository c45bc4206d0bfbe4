import MeetingSystem.Framework.Run
import MeetingSystem.Impl.Client.VideoBwePolicy

/-!
# The clock of the hardware screen capture

The send loop of `ScreenShareSessionTransport` numbers the frames that it
captures from the screen in units of the frame rate in force, and
`VideoSendPipeline` makes the RTP timestamp of a frame from its number and that
rate. The steps are the captures and what reaches the policy between them;
elapsed times are milliseconds since the loop was started.
-/

namespace MeetingSystem.Impl.Client

def kMaxScreenShareFrameRate : Int := 30

/-- The frame rate that a frame of the screen is captured and encoded at. -/
def screenFrameRate (adaptiveFrameRate configFrameRate : Int) : Int :=
  let target := if 0 < adaptiveFrameRate then adaptiveFrameRate else configFrameRate
  min (max 1 target) kMaxScreenShareFrameRate

def framePts (elapsedMs : Nat) (targetFrameRate lastHardwareCapturePts : Int) : Int :=
  let framePts := (elapsedMs * max 1 targetFrameRate).tdiv 1000
  if framePts ≤ lastHardwareCapturePts then lastHardwareCapturePts + 1 else framePts

/-- The timestamp of an encoded frame; `fallbackFrameRate` is the one of the
pipeline. -/
def rtpTimestamp (pts encodedFrameRate fallbackFrameRate : Int) : UInt32 :=
  let frameRate := if 0 < encodedFrameRate then encodedFrameRate else fallbackFrameRate
  .ofInt ((pts * 90000).tdiv (max 1 frameRate))

/-- A frame as it leaves the encoder. -/
structure CapturedFrame where
  pts : Int
  frameRate : Int
  deriving DecidableEq

def CapturedFrame.timestamp (frame : CapturedFrame) : UInt32 :=
  rtpTimestamp frame.pts frame.frameRate frame.frameRate

/-- The newest frame is the first of `frames`. -/
structure ScreenStream where
  config : VideoBwePolicyConfig
  policy : VideoBwePolicy
  lastHardwareCapturePts : Int
  frames : List CapturedFrame
  deriving DecidableEq

inductive ScreenOp where
  | restart (nowMs : Nat)
  | receiverReport (sample : VideoBwePolicySample)
  | rembTarget (bitrateBps : Nat)
  | capture (elapsedMs : Nat)
  deriving DecidableEq

namespace ScreenStream

def new (config : VideoBwePolicyConfig) : ScreenStream :=
  { config, policy := .reset config 0, lastHardwareCapturePts := -1, frames := [] }

/-- The frame rate in force. -/
def frameRate (s : ScreenStream) : Int :=
  screenFrameRate s.policy.target.frameRate s.config.baselineFrameRate

/-- The frame that is captured at a time. -/
def nextFrame (s : ScreenStream) (elapsedMs : Nat) : CapturedFrame :=
  { pts := framePts elapsedMs s.frameRate s.lastHardwareCapturePts, frameRate := s.frameRate }

def step (s : ScreenStream) : ScreenOp → ScreenStream
  | .restart nowMs => { s with policy := .reset s.config nowMs }
  | .receiverReport sample => { s with policy := (s.policy.onReceiverReport sample).1 }
  | .rembTarget bitrateBps => { s with policy := (s.policy.onRembTarget bitrateBps).1 }
  | .capture elapsedMs =>
    { s with
      lastHardwareCapturePts := (s.nextFrame elapsedMs).pts
      frames := s.nextFrame elapsedMs :: s.frames }

end ScreenStream

end MeetingSystem.Impl.Client
