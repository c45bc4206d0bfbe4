import Mathlib.Algebra.Order.Group.Nat
import Mathlib.Algebra.Order.Ring.Int

/-!
# The relay between a camera and the encoder

`av/session/CameraFrameRelay.cpp`: camera callbacks put frames in, the send loop
takes them out, and the session starts and stops captures, each in a thread of
its own. Three atomics are read and written without the mutex, also while another
thread has it. A call goes from one access to shared data to the next and waits
in its place as long as the mutex is taken; it may wake from a condition variable
at any time, as `wakeOne` and `wakeAll` only bring such a moment about. Times are
ticks of the clock, in nanoseconds; 0 stands for a time that is not set.

The frames are of any type. What `popFrame` and `popFrameForEncode` convert the
frame to, after they have taken it, is not modelled.
-/

namespace MeetingSystem.Impl.Client

inductive EnqueueDropReason where
  | none
  | invalidFrame
  | disabledOrSharing
  | generationMismatch
  | throttled
  | convertFailed
  deriving DecidableEq, Repr

structure QueuedCameraFrame (F : Type*) where
  frame : F
  pts : Int
  deriving DecidableEq, Repr

structure CameraFrameRelay (F : Type*) where
  targetFrameRate : Int
  /-- In milliseconds. -/
  frameInterval : Int
  mutex : Bool := false
  frames : List (QueuedCameraFrame F) := []
  lastAcceptedAt : Int := 0
  ptsOriginAt : Int := 0
  lastAssignedPts : Int := -1
  cameraEnabled : Bool := false
  sharingEnabled : Bool := false
  generation : Nat := 0
  deriving DecidableEq, Repr

/-- What a call returns; the reason is the one that it has set, if any. -/
inductive RelayResult (F : Type*) where
  | enqueued (accepted : Bool) (dropReason : Option EnqueueDropReason)
  | begun (generation : Nat)
  | done
  | popped (frame : Option (QueuedCameraFrame F))
  deriving DecidableEq, Repr

/-- The three times that `enqueueFrame` reads the atomics. -/
inductive RelayCheck where
  | entry
  | throttle
  | push
  deriving DecidableEq, Repr

/-- A call by the access that it comes to next. -/
inductive RelayCall (F : Type*) where
  | validate (expectedGeneration : Nat) (frame : F)
  | loadEnabled (check : RelayCheck) (expectedGeneration : Nat) (frame : F)
  | loadSharing (check : RelayCheck) (expectedGeneration : Nat) (frame : F)
  | loadGeneration (check : RelayCheck) (expectedGeneration : Nat) (frame : F)
  /-- The generation is read again, for the reason. -/
  | reloadGeneration (locked : Bool) (expectedGeneration : Nat)
  | lockThrottle (expectedGeneration : Nat) (frame : F)
  | throttle (expectedGeneration : Nat) (frame : F)
  | unlockThrottle (expectedGeneration : Nat) (frame : F)
  | lockPush (expectedGeneration : Nat) (frame : F)
  | push (frame : F)
  | fetchAdd (disable : Bool)
  | storeEnabled (enabled : Bool)
  | storeSharing (enabled : Bool)
  | lockClear (result : RelayResult F)
  | clear (result : RelayResult F)
  | lockPop (timeout : Int)
  | setDeadline (timeout : Int)
  | whileEmpty (deadline : Int)
  | whileEnabled (deadline : Int)
  | whileNotSharing (deadline : Int)
  | beforeDeadline (deadline : Int)
  | wait (deadline : Int)
  | popFront
  | unlock (result : RelayResult F)
  deriving DecidableEq, Repr

/-- What a step gets from outside: the time, and whether a wait ends by a wake-up. -/
structure RelayEnv where
  now : Int
  woken : Bool
  deriving DecidableEq, Repr

namespace CameraFrameRelay

variable {F : Type*}

def kCapacity : Nat := 3

def new (targetFrameRate : Int) : CameraFrameRelay F :=
  { targetFrameRate := max 1 targetFrameRate
    frameInterval := max 1 (1000 / max 1 targetFrameRate) }

variable (s : CameraFrameRelay F)

/-- `m_generation.fetch_add(1) + 1`. -/
def nextGeneration : Nat := (s.generation + 1) % 2 ^ 64

/-- What `beginCapture` and `setCameraEnabled(false)` do under the mutex. -/
def cleared : CameraFrameRelay F :=
  { s with frames := [], lastAcceptedAt := 0, ptsOriginAt := 0, lastAssignedPts := -1 }

def throttled (now : Int) : Bool :=
  s.lastAcceptedAt != 0 && decide (now - s.lastAcceptedAt < s.frameInterval * 1000000)

/-- The number of the frame that is queued at `ptsNow`. -/
def computedPts (ptsNow : Int) : Int :=
  let origin := if s.ptsOriginAt = 0 then ptsNow else s.ptsOriginAt
  let elapsedMs := (ptsNow - origin).tdiv 1000000
  let computedPts := (elapsedMs * s.targetFrameRate).tdiv 1000
  if computedPts ≤ s.lastAssignedPts then s.lastAssignedPts + 1 else computedPts

/-- The queue with one more frame; the oldest makes room for it. -/
def pushed (frame : F) (ptsNow : Int) : CameraFrameRelay F :=
  let pts := s.computedPts ptsNow
  { s with
    ptsOriginAt := if s.ptsOriginAt = 0 then ptsNow else s.ptsOriginAt
    lastAssignedPts := pts
    frames := (if kCapacity ≤ s.frames.length then s.frames.tail else s.frames) ++ [⟨frame, pts⟩] }

end CameraFrameRelay

namespace RelayCall

variable {F : Type*}

def enqueueFrame (expectedGeneration : Nat) (frame : F) : RelayCall F :=
  .validate expectedGeneration frame

def beginCapture : RelayCall F := .fetchAdd false

def invalidate : RelayCall F := .fetchAdd true

def setCameraEnabled (enabled : Bool) : RelayCall F := .storeEnabled enabled

def setSharingEnabled (enabled : Bool) : RelayCall F := .storeSharing enabled

/-- `popFrame` and `popFrameForEncode`, up to the conversion. -/
def popFrame (timeout : Int) : RelayCall F := .lockPop timeout

end RelayCall

/-- A call with its arguments. -/
inductive RelayRequest (F : Type*) where
  | enqueueFrame (expectedGeneration : Nat) (frame : F)
  | beginCapture
  | invalidate
  | setCameraEnabled (enabled : Bool)
  | setSharingEnabled (enabled : Bool)
  | popFrame (timeout : Int)
  deriving DecidableEq, Repr

def RelayRequest.call {F : Type*} : RelayRequest F → RelayCall F
  | .enqueueFrame g frame => .enqueueFrame g frame
  | .beginCapture => .beginCapture
  | .invalidate => .invalidate
  | .setCameraEnabled enabled => .setCameraEnabled enabled
  | .setSharingEnabled enabled => .setSharingEnabled enabled
  | .popFrame timeout => .popFrame timeout

namespace RelayCall

variable {F : Type*}

/-- Where a call goes that has failed a check. -/
def failed (check : RelayCheck) (expectedGeneration : Nat) : RelayCall F :=
  match check with
  | .entry => .reloadGeneration false expectedGeneration
  | .throttle => .unlock (.enqueued false none)
  | .push => .reloadGeneration true expectedGeneration

/-- Where a call goes that has passed a check. -/
def passed (check : RelayCheck) (expectedGeneration : Nat) (frame : F) : RelayCall F :=
  match check with
  | .entry => .lockThrottle expectedGeneration frame
  | .throttle => .throttle expectedGeneration frame
  | .push => .push frame

/-- `QMutexLocker locker(&m_mutex)`. -/
def lock (s : CameraFrameRelay F) (call next : RelayCall F) :
    CameraFrameRelay F × (RelayCall F ⊕ RelayResult F) :=
  if s.mutex then (s, .inl call) else ({ s with mutex := true }, .inl next)

/-- One access to shared data. -/
def next (isValid : F → Bool) (s : CameraFrameRelay F) (e : RelayEnv) :
    RelayCall F → CameraFrameRelay F × (RelayCall F ⊕ RelayResult F)
  | .validate g frame =>
    if isValid frame then (s, .inl (.loadEnabled .entry g frame))
    else (s, .inr (.enqueued false (some .invalidFrame)))
  | .loadEnabled check g frame =>
    (s, .inl (if s.cameraEnabled then .loadSharing check g frame else failed check g))
  | .loadSharing check g frame =>
    (s, .inl (if s.sharingEnabled then failed check g else .loadGeneration check g frame))
  | .loadGeneration check g frame =>
    (s, .inl (if s.generation = g then passed check g frame else failed check g))
  | .reloadGeneration locked g =>
    let reason := if s.generation = g then .disabledOrSharing else .generationMismatch
    (s, if locked then .inl (.unlock (.enqueued false (some reason)))
      else .inr (.enqueued false (some reason)))
  | .lockThrottle g frame => lock s (.lockThrottle g frame) (.loadEnabled .throttle g frame)
  | .throttle g frame =>
    if s.throttled e.now then (s, .inl (.unlock (.enqueued false (some .throttled))))
    else ({ s with lastAcceptedAt := e.now }, .inl (.unlockThrottle g frame))
  | .unlockThrottle g frame => ({ s with mutex := false }, .inl (.lockPush g frame))
  | .lockPush g frame => lock s (.lockPush g frame) (.loadEnabled .push g frame)
  | .push frame => (s.pushed frame e.now, .inl (.unlock (.enqueued true (some .none))))
  | .fetchAdd disable =>
    ({ s with generation := s.nextGeneration },
      .inl (if disable then .storeEnabled false else .lockClear (.begun s.nextGeneration)))
  | .storeEnabled enabled =>
    ({ s with cameraEnabled := enabled }, if enabled then .inr .done else .inl (.lockClear .done))
  | .storeSharing enabled => ({ s with sharingEnabled := enabled }, .inr .done)
  | .lockClear result => lock s (.lockClear result) (.clear result)
  | .clear result => (s.cleared, .inl (.unlock result))
  | .lockPop timeout => lock s (.lockPop timeout) (.setDeadline timeout)
  | .setDeadline timeout => (s, .inl (.whileEmpty (e.now + max timeout 0 * 1000000)))
  | .whileEmpty deadline =>
    (s, .inl (if s.frames.isEmpty then .whileEnabled deadline else .popFront))
  | .whileEnabled deadline =>
    (s, .inl (if s.cameraEnabled then .whileNotSharing deadline else .popFront))
  | .whileNotSharing deadline =>
    (s, .inl (if s.sharingEnabled then .popFront else .beforeDeadline deadline))
  | .beforeDeadline deadline =>
    if deadline ≤ e.now then (s, .inl (.unlock (.popped none)))
    -- the wait gives the mutex up
    else ({ s with mutex := false }, .inl (.wait deadline))
  | .wait deadline =>
    lock s (.wait deadline) (if e.woken then .whileEmpty deadline else .unlock (.popped none))
  | .popFront =>
    match s.frames with
    | [] => (s, .inl (.unlock (.popped none)))
    | front :: rest => ({ s with frames := rest }, .inl (.unlock (.popped (some front))))
  | .unlock result => ({ s with mutex := false }, .inr result)

end RelayCall

end MeetingSystem.Impl.Client
