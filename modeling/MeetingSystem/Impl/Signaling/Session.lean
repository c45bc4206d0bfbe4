import Mathlib.Logic.Function.Basic

/-!
# Sessions and the session manager

`signaling/server/session.go` and `session_manager.go`: the part of a session
the handlers read and write, and the manager's two indexes. The manager holds
pointers to sessions; here it holds their ids, which the listener hands out in
increasing order and never twice, and the session objects are kept beside it.
-/

namespace MeetingSystem.Impl.Signaling

inductive SessionState where
  | connected | authenticated | inMeeting | disconnected
  deriving DecidableEq, Repr

structure Session where
  userID : String
  meetingID : String
  state : SessionState
  /-- `closeCh` is closed. -/
  closed : Bool
  deriving DecidableEq, Repr

def newSession : Session :=
  { userID := "", meetingID := "", state := .connected, closed := false }

/-- `Close`, whose body runs once. -/
def Session.close (s : Session) : Session :=
  if s.closed then s else { s with state := .disconnected, closed := true }

@[simp] theorem Session.close_closed (s : Session) : s.close.closed = true := by
  unfold Session.close
  split <;> simp_all

@[simp] theorem Session.close_userID (s : Session) : s.close.userID = s.userID := by
  unfold Session.close
  split <;> rfl

@[simp] theorem Session.close_meetingID (s : Session) : s.close.meetingID = s.meetingID := by
  unfold Session.close
  split <;> rfl

structure SessionManager where
  /-- The ids in the session table. -/
  sessions : Nat → Bool
  byUser : String → Option Nat

namespace SessionManager

def new : SessionManager := { sessions := fun _ => false, byUser := fun _ => none }

def add (m : SessionManager) (id : Nat) : SessionManager :=
  { m with sessions := Function.update m.sessions id true }

/-- `Remove`, with the user id the session carries at that moment. -/
def remove (m : SessionManager) (id : Nat) (userID : String) : SessionManager :=
  let m := { m with sessions := Function.update m.sessions id false }
  if userID ≠ "" ∧ m.byUser userID = some id then
    { m with byUser := Function.update m.byUser userID none }
  else m

/-- `BindUser`: the manager after it, and the displaced session, which the
caller then closes. -/
def bindUser (m : SessionManager) (id : Nat) (userID : String) : SessionManager × Option Nat :=
  let old := match m.byUser userID with
    | some existing => if existing ≠ id then some existing else none
    | none => none
  ({ m with byUser := Function.update m.byUser userID (some id) }, old)

def getByUser (m : SessionManager) (userID : String) : Option Nat := m.byUser userID

/-- `DeliverUserFrame`: the session the frame is sent to. -/
def deliverUserFrame (m : SessionManager) (userID : String) (targetSessionID : Nat)
    (frame : List UInt8) : Option Nat :=
  if userID = "" ∨ frame.length = 0 then none
  else
    match m.getByUser userID with
    | none => none
    | some target => if targetSessionID ≠ 0 ∧ target ≠ targetSessionID then none else some target

end SessionManager

end MeetingSystem.Impl.Signaling
