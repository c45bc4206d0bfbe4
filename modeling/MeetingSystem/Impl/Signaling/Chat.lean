import MeetingSystem.Impl.Signaling.Session
import MeetingSystem.Impl.Store.MessageRepo

/-!
# Chat

`signaling/handler/chat_handler.go`, with the handlers that take a session in
and out of a meeting, on one node with the in-memory meeting store. A message
goes to the message repository when the ids of the meeting and of the sender
are numbers, and to the meeting store otherwise; the history is read from the
repository when the id of the meeting is a number.

A handler is one step here. What a step takes from outside is an argument of
its operation: the number drawn and the clock, whether a route for the new
meeting is found, and whether the statement of the message table succeeds.
-/

namespace MeetingSystem.Impl.Signaling

open MeetingSystem.Framework MeetingSystem.Impl.Store

/-! ## Ids -/

def parseNumericID (raw : String) : Option UInt64 :=
  let trimmed := utf8 (trimSpace raw)
  let digits := match trimmed with
    | c :: rest => if rest ≠ [] ∧ (c = 117 ∨ c = 85) then rest else trimmed
    | [] => []
  match parseUint64 digits with
  | some value => if value > 0 then some value else none
  | none => none

/-- `strconv.FormatUint` to base 10. -/
def formatUint (n : UInt64) : String := toString n.toNat

def formatUserID (id : UInt64) : String := if id = 0 then "" else "u" ++ formatUint id

/-! ## Messages -/

structure ChatSendReq where
  type : Int32
  content : String
  replyToId : String
  deriving DecidableEq, Repr

structure ChatRecvNotify where
  messageId : String
  senderId : String
  senderName : String
  type : Int32
  content : String
  replyToId : String
  timestamp : Int
  deriving DecidableEq, Repr

structure ChatHistoryReq where
  meetingId : String
  limit : Int32
  beforeTimestamp : Int
  deriving DecidableEq, Repr

structure ChatServer where
  maxMessageLen : Nat
  userRepo : Option UserAuthRepo
  store : MemoryStore
  messageRepo : MessageRepo
  sessions : Nat → Session

/-- The texts of `ErrorInfo`. -/
inductive ChatError where
  | badRequest | messageTooLong | saveFailed | meetingMismatch | loadFailed
  deriving DecidableEq, Repr

def ChatError.code : ChatError → Int32
  | .badRequest => 1001
  | .messageTooLong => 4001
  | .saveFailed => 1002
  | .meetingMismatch => 1001
  | .loadFailed => 1002

def ChatError.text : ChatError → String
  | .badRequest => "bad request"
  | .messageTooLong => "message too long"
  | .saveFailed => "save message failed"
  | .meetingMismatch => "meeting mismatch"
  | .loadFailed => "load history failed"

/-- Nanoseconds to milliseconds. -/
def unixMilli (t : Int) : Int := t / 1000000

namespace ChatServer

variable (s : ChatServer)

def senderDisplayName (userID : String) : String :=
  match s.store.getUserByID s.userRepo userID with
  | some sender => if trimSpace sender.displayName ≠ "" then sender.displayName else userID
  | none => userID

/-! ## Sending -/

/-- The message `saveMessage` hands to the repository. -/
def newMessage (numericMeetingID numericSenderID : UInt64) (req : ChatSendReq) : MessageRow :=
  { id := 0, meetingID := numericMeetingID, senderID := numericSenderID, type := req.type.toInt,
    content := req.content, replyToID := parseNumericID req.replyToId, createdAt := 0 }

def saveMessage (session : Session) (req : ChatSendReq) (now : Int) (ok : Bool) :
    ChatServer × Option ChatRecvNotify :=
  let meetingID := trimSpace session.meetingID
  let userID := trimSpace session.userID
  let senderName := s.senderDisplayName userID
  match parseNumericID meetingID, parseNumericID userID with
  | some numericMeetingID, some numericSenderID =>
    match s.messageRepo.save (newMessage numericMeetingID numericSenderID req) now ok with
    | (_, none) => (s, none)
    | (messageRepo, some message) =>
      ({ s with messageRepo },
        some { messageId := formatUint message.id, senderId := userID, senderName,
               type := req.type, content := message.content, replyToId := req.replyToId,
               timestamp := unixMilli message.createdAt })
  | _, _ =>
    let (store, msg) := s.store.saveMessage meetingID userID req.type req.content req.replyToId
      (unixMilli now)
    ({ s with store },
      some { messageId := msg.id, senderId := msg.senderID, senderName, type := msg.type,
             content := msg.content, replyToId := msg.replyToID, timestamp := msg.timestamp })

/-- `HandleSend` on session `i`. A message that is saved is notified to the
other sessions of the meeting and answered with its id and time. -/
def handleSend (i : Nat) (req : ChatSendReq) (now : Int) (ok : Bool) :
    ChatServer × Except ChatError ChatRecvNotify :=
  let session := s.sessions i
  if trimSpace req.content = "" ∨ trimSpace session.meetingID = "" then (s, .error .badRequest)
  else if (utf8 req.content).length > s.maxMessageLen then (s, .error .messageTooLong)
  else
    match s.saveMessage session req now ok with
    | (s', none) => (s', .error .saveFailed)
    | (s', some notify) => (s', .ok notify)

/-! ## Reading the history -/

/-- A row of the repository as it is sent to a client. -/
def notifyOfRow (row : MessageRow) : ChatRecvNotify :=
  { messageId := formatUint row.id
    senderId := formatUserID row.senderID
    senderName := s.senderDisplayName (formatUserID row.senderID)
    type := Int32.ofInt row.type
    content := row.content
    replyToId := match row.replyToID with
      | some replyTo => formatUint replyTo
      | none => ""
    timestamp := unixMilli row.createdAt }

def notifyOfMessage (msg : Message) : ChatRecvNotify :=
  { messageId := msg.id, senderId := msg.senderID, senderName := s.senderDisplayName msg.senderID,
    type := msg.type, content := msg.content, replyToId := msg.replyToID,
    timestamp := msg.timestamp }

def listMessages (meetingID : String) (limit beforeTimestampMs : Int) (ok : Bool) :
    Option (List ChatRecvNotify) :=
  match parseNumericID meetingID with
  | some numericMeetingID =>
    (s.messageRepo.listByMeeting numericMeetingID limit beforeTimestampMs ok).map fun messages =>
      messages.map s.notifyOfRow
  | none =>
    some ((s.store.listMessages meetingID limit beforeTimestampMs).map s.notifyOfMessage)

/-- The number of messages a request gets at most. -/
def historyLimit (req : ChatHistoryReq) : Int :=
  if req.limit.toInt ≤ 0 ∨ req.limit.toInt > 50 then 50 else req.limit.toInt

/-- `HandleHistory` on session `i`. -/
def handleHistory (i : Nat) (req : ChatHistoryReq) (ok : Bool) :
    Except ChatError (List ChatRecvNotify) :=
  let current := trimSpace (s.sessions i).meetingID
  let meetingID := if trimSpace req.meetingId = "" then current else trimSpace req.meetingId
  if meetingID = "" ∨ meetingID ≠ current then .error .meetingMismatch
  else
    match s.listMessages meetingID (historyLimit req) req.beforeTimestamp ok with
    | none => .error .loadFailed
    | some messages => .ok messages

/-! ## Coming and going -/

def setSession (i : Nat) (session : Session) : ChatServer :=
  { s with sessions := Function.update s.sessions i session }

/-- `HandleCreate`, with `rollbackCreate` when no route is found: the id of the
meeting the session is now in. -/
def handleCreate (i : Nat) (title password : String) (maxParticipants : Int) (r : Fin 9000)
    (now : Int) (routed : Bool) : ChatServer × Option String :=
  if title = "" then (s, none)
  else
    let session := s.sessions i
    match s.store.createMeeting title password session.userID maxParticipants r now with
    | (store, .error _) => ({ s with store }, none)
    | (store, .ok (meeting, _)) =>
      if routed then
        (setSession { s with store } i { session with meetingID := meeting.id, state := .inMeeting },
          some meeting.id)
      else ({ s with store := (store.leaveMeeting meeting.id session.userID).1 }, none)

def handleJoin (i : Nat) (meetingID password : String) : ChatServer :=
  if meetingID = "" then s
  else
    let session := s.sessions i
    match s.store.joinMeeting meetingID password session.userID with
    | (store, .error _) => { s with store }
    | (store, .ok (meeting, _, _)) =>
      setSession { s with store } i { session with meetingID := meeting.id, state := .inMeeting }

/-- `leave`, with `reply` when it was asked for by the client. -/
def leave (i : Nat) (reply : Bool) : ChatServer :=
  let session := s.sessions i
  if session.meetingID = "" then s
  else
    match s.store.leaveMeeting session.meetingID session.userID with
    | (store, .error _) => { s with store }
    | (store, .ok _) =>
      let state := if session.state ≠ .disconnected ∧ reply then .authenticated else session.state
      setSession { s with store } i { session with meetingID := "", state }

/-- The router's check of a request on session `i`. -/
def admits (i : Nat) (state : SessionState) : Bool :=
  !(s.sessions i).closed && (s.sessions i).state = state

/-- What becomes of a session whose request is not admitted: it is closed, and
leaves its meeting. -/
def refuse (i : Nat) : ChatServer :=
  if (s.sessions i).closed then s else (s.setSession i (s.sessions i).close).leave i false

end ChatServer

/-! ## Runs -/

inductive ChatOp where
  | create (i : Nat) (title password : String) (maxParticipants : Int) (r : Fin 9000) (now : Int)
      (routed : Bool)
  | join (i : Nat) (meetingID password : String)
  | leave (i : Nat)
  | send (i : Nat) (req : ChatSendReq) (now : Int) (ok : Bool)
  deriving DecidableEq

/-- What a client or the other clients see of a step. -/
inductive ChatEvent where
  | none
  | created (meetingID : String)
  | notified (meetingID : String) (notify : ChatRecvNotify)
  deriving DecidableEq

namespace ChatServer

def stepEvent (s : ChatServer) : ChatOp → ChatServer × ChatEvent
  | .create i title password maxParticipants r now routed =>
    if s.admits i .authenticated then
      match s.handleCreate i title password maxParticipants r now routed with
      | (s', some meetingID) => (s', .created meetingID)
      | (s', none) => (s', .none)
    else (s.refuse i, .none)
  | .join i meetingID password =>
    (if s.admits i .authenticated then s.handleJoin i meetingID password else s.refuse i, .none)
  | .leave i => (if s.admits i .inMeeting then s.leave i true else s.refuse i, .none)
  | .send i req now ok =>
    if s.admits i .inMeeting then
      match s.handleSend i req now ok with
      | (s', .ok notify) => (s', .notified (s.sessions i).meetingID notify)
      | (s', .error _) => (s', .none)
    else (s.refuse i, .none)

/-- The sessions of logged-in users, session `i` of user `users i`, and no meetings. -/
def init (maxMessageLen : Nat) (userRepo : Option UserAuthRepo) (hash : String → String)
    (backing : Backing) (users : Nat → String) : ChatServer :=
  { maxMessageLen, userRepo, store := newMemoryStore hash
    messageRepo := newMessageRepo backing
    sessions := fun i => { newSession with userID := users i, state := .authenticated } }

end ChatServer

end MeetingSystem.Impl.Signaling
