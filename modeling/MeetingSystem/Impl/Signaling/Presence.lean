import MeetingSystem.Impl.Signaling.Session
import Mathlib.Data.List.Basic

/-!
# Presence of a user across signaling nodes

`HandleLogin` of `auth_handler.go` from its presence lookup on, the presence
record of `session_store.go`, the user events of `node_event_bus.go` and the
close callback. A node is its non-empty `NodeID`; the record, the sessions and
the events are those of one user.

Each Redis command, each call of the session manager and each delivery of an
event is one step, so that a run is any interleaving of the logins, closes and
deliveries of all nodes. A step whose turn it is not leaves the cluster as it
is. Expiry of the record and its refresh by heartbeats are left out.
-/

namespace MeetingSystem.Impl.Signaling

variable {Node : Type} [DecidableEq Node]

structure SessionPresence (Node : Type) where
  userID : String
  nodeID : Node
  sessionID : Nat
  meetingID : String
  status : SessionState
  deriving DecidableEq, Repr

/-- The part of a `UserNodeEvent` that a login fills in; the frame that goes
with it is the `AuthKickNotify` for the client. -/
structure UserNodeEvent (Node : Type) where
  targetNodeID : Node
  targetUserID : String
  targetSessionID : Nat
  close : Bool
  deriving DecidableEq, Repr

/-- How far the login handler of a session has come. `existing` is the presence
record it has read. -/
inductive LoginStep (Node : Type) where
  | idle
  | started
  | read (existing : Option (SessionPresence Node))
  | bound (existing : Option (SessionPresence Node))
  | written (existing : Option (SessionPresence Node))
  deriving DecidableEq, Repr

/-- A session of a node, with its login handler and its close callback. -/
structure NodeSession (Node : Type) where
  session : Session
  login : LoginStep Node
  /-- `OnSessionClosed` has run. -/
  cleared : Bool
  /-- The session has been taken out of the manager. -/
  removed : Bool
  deriving DecidableEq, Repr

structure Cluster (Node : Type) where
  /-- An `atomic.Uint64` of each node; fewer than `2 ^ 64` sessions are accepted. -/
  nextID : Node → Nat
  managers : Node → SessionManager
  sessions : Node × Nat → NodeSession Node
  /-- The hash `session:<user>`. -/
  presence : Option (SessionPresence Node)
  inFlight : List (UserNodeEvent Node)

namespace Cluster

def init : Cluster Node :=
  { nextID := fun _ => 0
    managers := fun _ => .new
    sessions := fun _ => { session := newSession, login := .idle, cleared := false,
                           removed := false }
    presence := none
    inFlight := [] }

/-- Change one session. -/
def modify (s : Cluster Node) (σ : Node × Nat) (f : NodeSession Node → NodeSession Node) :
    Cluster Node :=
  { s with sessions := Function.update s.sessions σ (f (s.sessions σ)) }

def closeSession (s : Cluster Node) (σ : Node × Nat) : Cluster Node :=
  s.modify σ fun x => { x with session := x.session.close }

/-- `Accept` in the listener of `n`. -/
def accept (s : Cluster Node) (n : Node) : Cluster Node :=
  let id := s.nextID n + 1
  { s with nextID := Function.update s.nextID n id
           managers := Function.update s.managers n ((s.managers n).add id) }

/-- The sessions of a node are those its counter has numbered. -/
def Accepted (s : Cluster Node) (σ : Node × Nat) : Prop := 0 < σ.2 ∧ σ.2 ≤ s.nextID σ.1

instance (s : Cluster Node) (σ : Node × Nat) : Decidable (s.Accepted σ) :=
  inferInstanceAs (Decidable (_ ∧ _))

/-! ## The login handler -/

/-- The router hands a login request to the handler: the session's reader is
running and its state allows it. -/
def loginStart (s : Cluster Node) (σ : Node × Nat) : Cluster Node :=
  let x := s.sessions σ
  if s.Accepted σ ∧ ¬ x.session.closed ∧ x.login = .idle ∧
      (x.session.state = .connected ∨ x.session.state = .authenticated) then
    s.modify σ fun x => { x with login := .started }
  else s

/-- `sessionStore.Get`. -/
def loginRead (s : Cluster Node) (σ : Node × Nat) : Cluster Node :=
  if (s.sessions σ).login = .started then
    s.modify σ fun x => { x with login := .read s.presence }
  else s

/-- `BindUser`, which closes the session it displaces. -/
def loginBind (u : String) (s : Cluster Node) (σ : Node × Nat) : Cluster Node :=
  match (s.sessions σ).login with
  | .read existing =>
    let (manager, old) := (s.managers σ.1).bindUser σ.2 u
    let s := { s with managers := Function.update s.managers σ.1 manager }
    let s := s.modify σ fun x =>
      { x with session := { x.session with userID := u }, login := .bound existing }
    match old with
    | some id => s.closeSession (σ.1, id)
    | none => s
  | _ => s

/-- `SetState`, `SetMeetingID` and `syncSessionPresence`, whose `Upsert`
replaces the record. -/
def loginWrite (s : Cluster Node) (σ : Node × Nat) : Cluster Node :=
  match (s.sessions σ).login with
  | .bound existing =>
    let s := s.modify σ fun x =>
      { x with session := { x.session with state := .authenticated, meetingID := "" }
               login := .written existing }
    let session := (s.sessions σ).session
    if session.userID = "" ∨ σ.2 = 0 then s
    else { s with presence := some { userID := session.userID, nodeID := σ.1, sessionID := σ.2,
                                     meetingID := session.meetingID, status := session.state } }
  | _ => s

/-- `kickRemoteExistingSession`: the event it publishes. -/
def kickRemoteExistingSession (existing : Option (SessionPresence Node)) (nodeID : Node)
    (newSessionID : Nat) : List (UserNodeEvent Node) :=
  match existing with
  | none => []
  | some p =>
    if p.nodeID = nodeID ∨ p.sessionID = 0 ∨ p.sessionID = newSessionID then []
    else [{ targetNodeID := p.nodeID, targetUserID := p.userID, targetSessionID := p.sessionID,
            close := true }]

def loginPublish (s : Cluster Node) (σ : Node × Nat) : Cluster Node :=
  match (s.sessions σ).login with
  | .written existing =>
    let s := { s with inFlight := s.inFlight ++ kickRemoteExistingSession existing σ.1 σ.2 }
    s.modify σ fun x => { x with login := .idle }
  | _ => s

/-! ## Closing -/

/-- `compareDeleteSessionScript`, which compares the session id alone. -/
def compareDelete (presence : Option (SessionPresence Node)) (sessionID : Nat) :
    Option (SessionPresence Node) :=
  match presence with
  | none => none
  | some p => if p.sessionID = sessionID then none else some p

/-- `OnSessionClosed` of the authentication handler, once the session is
closed. -/
def onSessionClosed (s : Cluster Node) (σ : Node × Nat) : Cluster Node :=
  let x := s.sessions σ
  if x.session.closed ∧ ¬ x.cleared then
    let s := if x.session.userID = "" ∨ σ.2 = 0 then s
      else { s with presence := compareDelete s.presence σ.2 }
    s.modify σ fun x => { x with cleared := true }
  else s

/-- `SessionManager.Remove`, after `OnSessionClosed`. -/
def remove (s : Cluster Node) (σ : Node × Nat) : Cluster Node :=
  let x := s.sessions σ
  if x.session.closed ∧ x.cleared ∧ ¬ x.removed then
    let s := { s with managers := Function.update s.managers σ.1
                        ((s.managers σ.1).remove σ.2 x.session.userID) }
    s.modify σ fun x => { x with removed := true }
  else s

/-- `OnUserNodeEvent` on the node the event was published for. -/
def onUserNodeEvent (s : Cluster Node) (event : UserNodeEvent Node) : Cluster Node :=
  if event.targetUserID = "" ∨ event.targetSessionID = 0 then s
  else if (s.managers event.targetNodeID).getByUser event.targetUserID ≠
      some event.targetSessionID then s
  else if event.close then s.closeSession (event.targetNodeID, event.targetSessionID)
  else s

/-- An event in flight reaches its node. -/
def deliver (s : Cluster Node) (event : UserNodeEvent Node) : Cluster Node :=
  if event ∈ s.inFlight then
    { s with inFlight := s.inFlight.erase event }.onUserNodeEvent event
  else s

/-! ## Runs -/

inductive Op (Node : Type) where
  | accept (n : Node)
  | loginStart (σ : Node × Nat)
  | loginRead (σ : Node × Nat)
  | loginBind (σ : Node × Nat)
  | loginWrite (σ : Node × Nat)
  | loginPublish (σ : Node × Nat)
  | close (σ : Node × Nat)
  | onSessionClosed (σ : Node × Nat)
  | remove (σ : Node × Nat)
  | deliver (event : UserNodeEvent Node)
  deriving DecidableEq

/-- One step of the cluster; all logins are logins of user `u`. -/
def step (u : String) (s : Cluster Node) : Op Node → Cluster Node
  | .accept n => s.accept n
  | .loginStart σ => s.loginStart σ
  | .loginRead σ => s.loginRead σ
  | .loginBind σ => s.loginBind u σ
  | .loginWrite σ => s.loginWrite σ
  | .loginPublish σ => s.loginPublish σ
  | .close σ => if s.Accepted σ then s.closeSession σ else s
  | .onSessionClosed σ => s.onSessionClosed σ
  | .remove σ => s.remove σ
  | .deliver event => s.deliver event

end Cluster

end MeetingSystem.Impl.Signaling
