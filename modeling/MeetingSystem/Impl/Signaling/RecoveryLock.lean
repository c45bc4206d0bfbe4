import Mathlib.Logic.Function.Basic

/-!
# The lock of a recovery

`acquireRecoveryLock` of `signaling/handler/media_handler.go` and the function
that it returns, which its caller runs once, when the recovery is over. A call
goes from one access to shared data to the next; `Lock` waits in its place as
long as the mutex is taken.
-/

namespace MeetingSystem.Impl.Signaling

structure MeetingRecoveryLock where
  mu : Bool := false
  refs : Int := 0
  deriving DecidableEq, Repr

/-- The locks of a `MediaHandler`. `recoveryLocks` has addresses in `entries`,
of which those from `fresh` on are free; a nil map reads as an empty one. -/
structure RecoveryLocks where
  recoveryMu : Bool
  recoveryLocks : String → Option Nat
  entries : Nat → MeetingRecoveryLock
  fresh : Nat

def RecoveryLocks.empty : RecoveryLocks :=
  { recoveryMu := false, recoveryLocks := fun _ => none, entries := fun _ => {}, fresh := 0 }

/-- A call by the statement it comes to next. -/
inductive RecoveryCall where
  /-- The function that does nothing. -/
  | noLock
  | lockMap (meetingID : String)
  | getEntry (meetingID : String)
  | putEntry (meetingID : String)
  | incRefs (meetingID : String) (entry : Nat)
  | unlockMap (meetingID : String) (entry : Nat)
  | lockEntry (meetingID : String) (entry : Nat)
  /-- The caller has the lock, and is to release it. -/
  | unlockEntry (meetingID : String) (entry : Nat)
  | relockMap (meetingID : String) (entry : Nat)
  | decRefs (meetingID : String) (entry : Nat)
  | deleteEntry (meetingID : String) (entry : Nat)
  | unlockMapAgain
  deriving DecidableEq, Repr

namespace RecoveryLocks

variable (s : RecoveryLocks)

def setMu (entry : Nat) (mu : Bool) : RecoveryLocks :=
  { s with entries := Function.update s.entries entry { s.entries entry with mu } }

def addRefs (entry : Nat) (n : Int) : RecoveryLocks :=
  { s with entries :=
      Function.update s.entries entry { s.entries entry with refs := (s.entries entry).refs + n } }

/-- `recoveryLocks[meetingID] = &meetingRecoveryLock{}`. -/
def putNew (meetingID : String) : RecoveryLocks :=
  { s with
    recoveryLocks := Function.update s.recoveryLocks meetingID (some s.fresh)
    entries := Function.update s.entries s.fresh {}
    fresh := s.fresh + 1 }

def delete (meetingID : String) : RecoveryLocks :=
  { s with recoveryLocks := Function.update s.recoveryLocks meetingID none }

end RecoveryLocks

namespace RecoveryCall

def acquireRecoveryLock (meetingID : String) : RecoveryCall :=
  if meetingID = "" then .noLock else .lockMap meetingID

/-- One statement. -/
def next (s : RecoveryLocks) (_ : Unit) : RecoveryCall → RecoveryLocks × (RecoveryCall ⊕ Unit)
  | .noLock => (s, .inr ())
  | .lockMap meetingID =>
    if s.recoveryMu then (s, .inl (.lockMap meetingID))
    else ({ s with recoveryMu := true }, .inl (.getEntry meetingID))
  | .getEntry meetingID =>
    match s.recoveryLocks meetingID with
    | none => (s, .inl (.putEntry meetingID))
    | some entry => (s, .inl (.incRefs meetingID entry))
  | .putEntry meetingID => (s.putNew meetingID, .inl (.incRefs meetingID s.fresh))
  | .incRefs meetingID entry => (s.addRefs entry 1, .inl (.unlockMap meetingID entry))
  | .unlockMap meetingID entry =>
    ({ s with recoveryMu := false }, .inl (.lockEntry meetingID entry))
  | .lockEntry meetingID entry =>
    if (s.entries entry).mu then (s, .inl (.lockEntry meetingID entry))
    else (s.setMu entry true, .inl (.unlockEntry meetingID entry))
  | .unlockEntry meetingID entry => (s.setMu entry false, .inl (.relockMap meetingID entry))
  | .relockMap meetingID entry =>
    if s.recoveryMu then (s, .inl (.relockMap meetingID entry))
    else ({ s with recoveryMu := true }, .inl (.decRefs meetingID entry))
  | .decRefs meetingID entry => (s.addRefs entry (-1), .inl (.deleteEntry meetingID entry))
  | .deleteEntry meetingID entry =>
    (if (s.entries entry).refs ≤ 0 then s.delete meetingID else s, .inl .unlockMapAgain)
  | .unlockMapAgain => ({ s with recoveryMu := false }, .inr ())

end RecoveryCall

end MeetingSystem.Impl.Signaling
