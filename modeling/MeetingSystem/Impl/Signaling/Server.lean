import MeetingSystem.Impl.Signaling.Session
import MeetingSystem.Impl.Store.MemoryStore

/-!
# The signaling server's session handlers

`HandleLogin`, `HandleCreate`, `HandleJoin`, `HandleLeave` and `HandleKick` of
`auth_handler.go` and `meeting_handler.go`, the router's state check and the
close callback, as far as they touch the sessions, the session manager and the
meeting store of one node.

The handlers of a session run one after another in its read loop, and the
close callback runs beside them, so each session has two program counters.
Every call of the store or of the session manager and every access to a field
of a session object is one step.
-/

namespace MeetingSystem.Impl.Signaling

open MeetingSystem.Impl.Store

/-- What a handler is about to do. -/
inductive Handler where
  | idle
  /-- `HandleLogin`, with the user the request was authenticated as. -/
  | loginBind (userID : String)
  | loginState
  | loginMeeting
  /-- `HandleCreate` and `HandleJoin` before their store call. -/
  | createStore (title password : String) (maxParticipants : Int)
  | joinStore (meetingID password : String)
  /-- After it; `created` if the call was `CreateMeeting`. -/
  | joined (meetingID : String) (created : Bool)
  | entering
  /-- `leave`, called by `HandleLeave`. -/
  | leaveRead
  | leaveStore (meetingID : String)
  | leaveReset
  | leaveCheck
  | leaveState
  /-- `HandleKick`. -/
  | kickRead (targetUserID : String)
  | kickHost (meetingID targetUserID : String)
  | kickHas (meetingID targetUserID : String)
  | kickLeave (meetingID targetUserID : String)
  | kickFind (meetingID targetUserID : String)
  | kickCheck (meetingID : String) (kickedSession : Nat)
  | kickReset (kickedSession : Nat)
  | kickState (kickedSession : Nat)
  deriving DecidableEq

/-- What the close callback is about to do. -/
inductive Callback where
  | waiting
  | leaveRead
  | leaveStore (meetingID : String)
  | leaveReset
  | remove
  | done
  deriving DecidableEq

/-- A session with its read loop and its close callback. -/
structure SessionTasks extends Session where
  handler : Handler
  callback : Callback
  deriving DecidableEq

structure Server where
  /-- An `atomic.Uint64`; fewer than `2 ^ 64` sessions are accepted. -/
  nextID : Nat
  manager : SessionManager
  store : MemoryStore
  sessions : Nat → SessionTasks

/-- The requests that are modelled, as the router hands them on: a login that
has been authenticated as `userID`, and the bodies of the others. -/
inductive Request where
  | login (userID : String)
  | create (title password : String) (maxParticipants : Int)
  | join (meetingID password : String)
  | leave
  | kick (targetUserID : String)
  deriving DecidableEq

def isStateAllowed (state : SessionState) : Request → Bool
  | .login _ => state = .connected || state = .authenticated
  | .create .. | .join .. => state = .authenticated
  | .leave | .kick _ => state = .inMeeting

namespace Server

def init (hash : String → String) : Server :=
  { nextID := 0, manager := .new, store := newMemoryStore hash
    sessions := fun _ => { newSession with handler := .idle, callback := .waiting } }

/-- Change one session. -/
def modify (s : Server) (i : Nat) (f : SessionTasks → SessionTasks) : Server :=
  { s with sessions := Function.update s.sessions i (f (s.sessions i)) }

def setUserID (s : Server) (i : Nat) (u : String) : Server :=
  s.modify i fun x => { x with userID := u }

def setMeetingID (s : Server) (i : Nat) (m : String) : Server :=
  s.modify i fun x => { x with meetingID := m }

def setState (s : Server) (i : Nat) (state : SessionState) : Server :=
  s.modify i fun x => { x with state }

def close (s : Server) (i : Nat) : Server :=
  s.modify i fun x => { x with toSession := x.toSession.close }

/-- The handler of session `i` goes on to `h`. -/
def goto (s : Server) (i : Nat) (h : Handler) : Server :=
  s.modify i fun x => { x with handler := h }

def gotoCallback (s : Server) (i : Nat) (c : Callback) : Server :=
  s.modify i fun x => { x with callback := c }

def accept (s : Server) : Server :=
  let id := s.nextID + 1
  { s with nextID := id, manager := s.manager.add id }

/-- The sessions are those the listener's counter has numbered. -/
def Accepted (s : Server) (i : Nat) : Prop := 0 < i ∧ i ≤ s.nextID

instance (s : Server) (i : Nat) : Decidable (s.Accepted i) := inferInstanceAs (Decidable (_ ∧ _))

/-! ## Requests -/

/-- Where the handler of a request starts; a request that fails the handler's
own checks is answered at once. -/
def firstStep : Request → Handler
  | .login userID => if userID = "" then .idle else .loginBind userID
  | .create title password maxParticipants =>
    if title = "" then .idle else .createStore title password maxParticipants
  | .join meetingID password => if meetingID = "" then .idle else .joinStore meetingID password
  | .leave => .leaveRead
  | .kick targetUserID => if targetUserID = "" then .idle else .kickRead targetUserID

/-- The read loop of an open session has read a request and calls
`HandleMessage`, which looks at the state. Both are one step: a request that is
read before the session is closed counts as in progress from then on. -/
def request (s : Server) (i : Nat) (r : Request) : Server :=
  let x := s.sessions i
  if s.Accepted i ∧ x.closed = false ∧ x.handler = .idle then
    if isStateAllowed x.state r then s.goto i (firstStep r) else s.close i
  else s

/-! ## Steps of a handler -/

/-- What the environment decides in a step: the fresh id and the time for
`CreateMeeting`, and whether the room of a new meeting can be routed. -/
structure Env where
  meetingID : String
  now : Int
  routed : Bool
  deriving DecidableEq

/-- `BindUser`, which closes the session it displaces. -/
def bindUser (s : Server) (i : Nat) (u : String) : Server :=
  let (manager, old) := s.manager.bindUser i u
  let s := { s with manager }.setUserID i u
  match old with
  | some k => s.close k
  | none => s

/-- `CreateMeeting`, which is given a fresh id. -/
def createMeeting (s : Server) (i : Nat) (env : Env) (title password : String)
    (maxParticipants : Int) : Server :=
  if env.meetingID = "" ∨ (s.store.meetings env.meetingID).isSome then s
  else
    let maxParticipants := if maxParticipants ≤ 0 then 16 else maxParticipants
    let (store, result) := s.store.createMeetingAt env.meetingID title password
      (s.sessions i).userID maxParticipants env.now
    let s := { s with store }
    match result with
    | .ok (meeting, _) => s.goto i (.joined meeting.id true)
    | .error _ => s.goto i .idle

def joinMeeting (s : Server) (i : Nat) (meetingID password : String) : Server :=
  let (store, result) := s.store.joinMeeting meetingID password (s.sessions i).userID
  let s := { s with store }
  match result with
  | .ok (meeting, _, _) => s.goto i (.joined meeting.id false)
  | .error _ => s.goto i .idle

/-- `LeaveMeeting` of user `u`, and where the handler of `i` goes on. -/
def leaveMeeting (s : Server) (i : Nat) (meetingID u : String) (next : Handler) : Server :=
  let (store, result) := s.store.leaveMeeting meetingID u
  let s := { s with store }
  match result with
  | .ok _ => s.goto i next
  | .error _ => s.goto i .idle

/-- `rollbackCreate`. -/
def rollbackCreate (s : Server) (i : Nat) (meetingID : String) : Server :=
  if meetingID = "" ∨ (s.sessions i).userID = "" then s.goto i .idle
  else s.leaveMeeting i meetingID (s.sessions i).userID .idle

/-- The next step of the handler in progress in session `i`. -/
def handlerStep (s : Server) (i : Nat) (env : Env) : Server :=
  let x := s.sessions i
  match x.handler with
  | .idle => s
  | .loginBind u => (s.bindUser i u).goto i .loginState
  | .loginState => (s.setState i .authenticated).goto i .loginMeeting
  | .loginMeeting => (s.setMeetingID i "").goto i .idle
  | .createStore title password maxParticipants =>
    s.createMeeting i env title password maxParticipants
  | .joinStore meetingID password => s.joinMeeting i meetingID password
  | .joined meetingID created =>
    if created ∧ ¬ env.routed then s.rollbackCreate i meetingID
    else (s.setMeetingID i meetingID).goto i .entering
  | .entering => (s.setState i .inMeeting).goto i .idle
  | .leaveRead =>
    if x.meetingID = "" then s.goto i .idle else s.goto i (.leaveStore x.meetingID)
  | .leaveStore meetingID => s.leaveMeeting i meetingID x.userID .leaveReset
  | .leaveReset => (s.setMeetingID i "").goto i .leaveCheck
  | .leaveCheck => if x.state ≠ .disconnected then s.goto i .leaveState else s.goto i .idle
  | .leaveState => (s.setState i .authenticated).goto i .idle
  | .kickRead target =>
    if x.meetingID = "" ∨ target = x.userID then s.goto i .idle
    else s.goto i (.kickHost x.meetingID target)
  | .kickHost meetingID target =>
    match s.store.isMeetingHost meetingID x.userID with
    | .ok true => s.goto i (.kickHas meetingID target)
    | _ => s.goto i .idle
  | .kickHas meetingID target =>
    match s.store.hasParticipant meetingID target with
    | .ok true => s.goto i (.kickLeave meetingID target)
    | _ => s.goto i .idle
  | .kickLeave meetingID target =>
    s.leaveMeeting i meetingID target (.kickFind meetingID target)
  | .kickFind meetingID target =>
    match s.manager.getByUser target with
    | some k => s.goto i (.kickCheck meetingID k)
    | none => s.goto i .idle
  | .kickCheck meetingID k =>
    if (s.sessions k).meetingID = meetingID then s.goto i (.kickReset k) else s.goto i .idle
  | .kickReset k => (s.setMeetingID k "").goto i (.kickState k)
  | .kickState k => (s.setState k .authenticated).goto i .idle

/-! ## Steps of the close callback -/

/-- `OnSessionClosed` with `leave`, and then `SessionManager.Remove`. -/
def callbackStep (s : Server) (i : Nat) : Server :=
  let x := s.sessions i
  match x.callback with
  | .waiting =>
    if x.closed then
      if x.meetingID = "" then s.gotoCallback i .remove else s.gotoCallback i .leaveRead
    else s
  | .leaveRead =>
    if x.meetingID = "" then s.gotoCallback i .remove
    else s.gotoCallback i (.leaveStore x.meetingID)
  | .leaveStore meetingID =>
    let (store, result) := s.store.leaveMeeting meetingID x.userID
    let s := { s with store }
    match result with
    | .ok _ => s.gotoCallback i .leaveReset
    | .error _ => s.gotoCallback i .remove
  | .leaveReset => (s.setMeetingID i "").gotoCallback i .remove
  | .remove =>
    { s with manager := s.manager.remove i x.userID }.gotoCallback i .done
  | .done => s

/-! ## Runs -/

inductive Op where
  | accept
  | request (i : Nat) (r : Request)
  | handler (i : Nat) (env : Env)
  | close (i : Nat)
  | callback (i : Nat)
  deriving DecidableEq

def step (s : Server) : Op → Server
  | .accept => s.accept
  | .request i r => s.request i r
  | .handler i env => s.handlerStep i env
  | .close i => if s.Accepted i then s.close i else s
  | .callback i => s.callbackStep i

end Server

end MeetingSystem.Impl.Signaling
