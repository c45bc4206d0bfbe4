import MeetingSystem.Impl.Signaling.Session
import MeetingSystem.Impl.Store.MemoryStore
import MeetingSystem.Impl.Store.RoomMembers
import MeetingSystem.Impl.Store.Users

/-!
# What a node tells its clients

The handlers of `auth_handler.go`, `meeting_handler.go` and `media_handler.go` with the
messages that they send, and `BroadcastToMeeting` of `session_manager.go`. A handler runs to
its end before the next one starts. `Server.lean` has the steps of handlers that overlap,
without their messages.

A message has the fields that the client's list of participants depends on. What comes
from outside (Redis, the SFU, the clock) is in the request.
-/

namespace MeetingSystem.Impl.Signaling

open MeetingSystem.Framework MeetingSystem.Impl.Store

/-! ## Messages -/

inductive MeetingMessage where
  | authLoginRsp (success : Bool) (userId : String)
  | authKickNotify
  | meetCreateRsp (success : Bool) (meetingId : String)
  | meetJoinRsp (success : Bool) (meetingId title : String) (participants : List Participant)
  | meetLeaveRsp (success : Bool)
  | meetKickRsp (success : Bool)
  | meetMuteAllReq (mute : Bool)
  | meetMuteAllRsp (success : Bool)
  | meetStateSync (meetingId title hostId : String) (participants : List Participant)
  | meetParticipantJoin (participant : Participant)
  | meetParticipantLeave (userId reason : String)
  | meetHostChanged (newHostId newHostName : String)
  | mediaAnswer (meetingId : String) (assignedAudioSsrc assignedVideoSsrc : UInt32)
  deriving DecidableEq

/-- `strconv.ParseUint` to base 10 and 32 bits. -/
def parseUint32 (s : String) : Option UInt32 :=
  match parseNat (utf8 s) with
  | some n => if n < 2 ^ 32 then some n.toUInt32 else none
  | none => none

/-- The loop of `HydrateParticipants` for a participant, with the hash that Redis has
for them. -/
def hydrateParticipant (values : HashFields) (p : Participant) : Participant :=
  { p with
    isAudioOn := ((values.lookup "is_audio_on").map (· != "0")).getD p.isAudioOn
    isVideoOn := ((values.lookup "is_video_on").map (· != "0")).getD p.isVideoOn
    isSharing := ((values.lookup "is_sharing").map (· != "0")).getD p.isSharing
    audioSsrc := ((values.lookup "audio_ssrc").bind parseUint32).getD p.audioSsrc
    videoSsrc := ((values.lookup "video_ssrc").bind parseUint32).getD p.videoSsrc }

/-- `HydrateParticipants`. Where Redis is off or fails, all hashes are empty. -/
def hydrateParticipants (hashes : String → HashFields) (participants : List Participant) :
    List Participant :=
  participants.map fun p => hydrateParticipant (hashes p.userId) p

/-! ## Sessions -/

/-- A session with its write queue, and with its connection to the client. -/
structure Conn extends Session where
  /-- The free places of `writeCh`. -/
  free : Nat
  /-- What has been sent and the client has not read. -/
  inbox : List MeetingMessage
  deriving DecidableEq

namespace Conn

def new (writeQueueSize : Nat) : Conn := { newSession with free := writeQueueSize, inbox := [] }

variable (c : Conn)

/-- `SendRaw`, which closes a session whose queue is full. -/
def send (msg : MeetingMessage) : Conn :=
  if c.closed then c
  else if c.free = 0 then { c with toSession := c.toSession.close }
  else { c with free := c.free - 1, inbox := c.inbox ++ [msg] }

def close : Conn := { c with toSession := c.toSession.close }

end Conn

structure MeetingNode where
  /-- An `atomic.Uint64`; fewer than `2 ^ 64` sessions are accepted. -/
  nextID : Nat
  manager : SessionManager
  store : MemoryStore
  sessions : Nat → Conn

/-- Redis for the reply to a join and for the broadcast after it. -/
structure JoinReads where
  joined : String → HashFields
  synced : String → HashFields
  muteAll : Bool

namespace MeetingNode

def new (hash : String → String) (writeQueueSize : Nat) : MeetingNode :=
  { nextID := 0, manager := .new, store := newMemoryStore hash
    sessions := fun _ => .new writeQueueSize }

variable (n : MeetingNode)

def modify (i : Nat) (f : Conn → Conn) : MeetingNode :=
  { n with sessions := Function.update n.sessions i (f (n.sessions i)) }

def send (i : Nat) (msg : MeetingMessage) : MeetingNode := n.modify i (·.send msg)

def setMeetingID (i : Nat) (meetingID : String) : MeetingNode :=
  n.modify i fun c => { c with meetingID }

def setState (i : Nat) (state : SessionState) : MeetingNode := n.modify i fun c => { c with state }

def accept : MeetingNode :=
  { n with nextID := n.nextID + 1, manager := n.manager.add (n.nextID + 1) }

def Accepted (i : Nat) : Prop := 0 < i ∧ i ≤ n.nextID

instance (i : Nat) : Decidable (n.Accepted i) := inferInstanceAs (Decidable (_ ∧ _))

/-- The sessions that `DeliverMeetingFrame` writes to. -/
def inRoom (meetingID excludeUserID : String) (i : Nat) : Bool :=
  n.manager.sessions i && (n.sessions i).meetingID = meetingID &&
    !(excludeUserID ≠ "" && (n.sessions i).userID = excludeUserID)

/-- `BroadcastToRoom` on this node. -/
def broadcastToRoom (meetingID : String) (msg : MeetingMessage) (excludeUserID : String) :
    MeetingNode :=
  { n with sessions := fun i =>
      if n.inRoom meetingID excludeUserID i then (n.sessions i).send msg else n.sessions i }

/-- `broadcastMeetingStateSync`. -/
def broadcastMeetingStateSync (hashes : String → HashFields) (meetingID excludeUserID : String) :
    MeetingNode :=
  match n.store.snapshotMeeting meetingID with
  | .error _ => n
  | .ok (meeting, participants) =>
    n.broadcastToRoom meetingID (.meetStateSync meeting.id meeting.title meeting.hostUserID
      (hydrateParticipants hashes participants)) excludeUserID

/-! ## Logging in -/

/-- `BindUser`. -/
def bindUser (i : Nat) (userID : String) : MeetingNode :=
  let old := (n.manager.bindUser i userID).2
  let n := { n with manager := (n.manager.bindUser i userID).1 }.modify i fun c =>
    { c with userID }
  match old with
  | some k => (n.send k .authKickNotify).modify k .close
  | none => n

/-- `HandleLogin`, with the user who has been authenticated. -/
def handleLogin (i : Nat) (user : Option String) : MeetingNode :=
  match user with
  | none => n.send i (.authLoginRsp false "")
  | some userID =>
    (((n.bindUser i userID).setState i .authenticated).setMeetingID i "").send i
      (.authLoginRsp true userID)

/-! ## Creating and joining -/

/-- `HandleCreate`; `routed` says that the room has its route and its state in Redis. -/
def handleCreate (i : Nat) (title password : String) (maxParticipants : Int) (r : Fin 9000)
    (now : Int) (routed : Bool) (hashes : String → HashFields) : MeetingNode :=
  if title = "" then n.send i (.meetCreateRsp false "")
  else
    let userID := (n.sessions i).userID
    let (store, result) := n.store.createMeeting title password userID maxParticipants r now
    let n := { n with store }
    match result with
    | .error _ => n.send i (.meetCreateRsp false "")
    | .ok (meeting, hostParticipant) =>
      if routed then
        (((n.setMeetingID i meeting.id).setState i .inMeeting).send i
          (.meetCreateRsp true meeting.id)).send i
            (.meetJoinRsp true meeting.id meeting.title
              (hydrateParticipants hashes [hostParticipant]))
      else
        -- `rollbackCreate`
        { n with store := (n.store.leaveMeeting meeting.id userID).1 }.send i
          (.meetCreateRsp false "")

def handleJoin (i : Nat) (meetingID password : String) (reads : JoinReads) : MeetingNode :=
  if meetingID = "" then n.send i (.meetJoinRsp false "" "" [])
  else
    let userID := (n.sessions i).userID
    let (store, result) := n.store.joinMeeting meetingID password userID
    let n := { n with store }
    match result with
    | .error _ => n.send i (.meetJoinRsp false "" "" [])
    | .ok (meeting, participants, joined) =>
      let n := ((n.setMeetingID i meeting.id).setState i .inMeeting).send i
        (.meetJoinRsp true meeting.id meeting.title
          (hydrateParticipants reads.joined participants))
      let n := (n.broadcastToRoom meeting.id (.meetParticipantJoin joined)
        userID).broadcastMeetingStateSync reads.synced meeting.id ""
      -- `replayMuteAllState`
      if reads.muteAll then n.send i (.meetMuteAllReq true) else n

/-! ## Leaving -/

/-- What `leave` and `HandleKick` send to the meeting about a user who is no longer in it.
The new host is announced to `excludeHost`. -/
def announceLeft (meetingID userID reason excludeHost : String) (result : LeaveResult)
    (hashes : String → HashFields) : MeetingNode :=
  let n := n.broadcastToRoom meetingID (.meetParticipantLeave userID reason) userID
  let n := match result.hostChanged, result.newHost with
    | true, some newHost =>
      n.broadcastToRoom meetingID (.meetHostChanged newHost.userId newHost.displayName) excludeHost
    | _, _ => n
  if 0 < result.remaining then n.broadcastMeetingStateSync hashes meetingID userID else n

/-- `leave`. -/
def leave (i : Nat) (reply : Bool) (reason : String) (hashes : String → HashFields) :
    MeetingNode :=
  let meetingID := (n.sessions i).meetingID
  if meetingID = "" then if reply then n.send i (.meetLeaveRsp true) else n
  else
    let userID := (n.sessions i).userID
    let (store, result) := n.store.leaveMeeting meetingID userID
    let n := { n with store }
    match result with
    | .error _ => if reply then n.send i (.meetLeaveRsp false) else n
    | .ok result =>
      let n := (n.announceLeft meetingID userID reason userID result hashes).setMeetingID i ""
      let n :=
        if (n.sessions i).state ≠ .disconnected ∧ reply then n.setState i .authenticated else n
      if reply then n.send i (.meetLeaveRsp true) else n

def handleKick (i : Nat) (targetUserID : String) (hashes : String → HashFields) : MeetingNode :=
  let meetingID := (n.sessions i).meetingID
  let userID := (n.sessions i).userID
  if targetUserID = "" ∨ meetingID = "" ∨ targetUserID = userID then n.send i (.meetKickRsp false)
  else
    match n.store.isMeetingHost meetingID userID, n.store.hasParticipant meetingID targetUserID with
    | .ok true, .ok true =>
      let (store, result) := n.store.leaveMeeting meetingID targetUserID
      let n := { n with store }
      match result with
      | .error _ => n.send i (.meetKickRsp false)
      | .ok result =>
        let reason := "被主持人移出会议"
        let n := match n.manager.getByUser targetUserID with
          | some k =>
            if (n.sessions k).meetingID = meetingID then
              ((n.setMeetingID k "").setState k .authenticated).send k
                (.meetParticipantLeave targetUserID reason)
            else n
          | none => n
        (n.announceLeft meetingID targetUserID reason "" result hashes).send i (.meetKickRsp true)
    | _, _ => n.send i (.meetKickRsp false)

/-! ## Media -/

/-- `HandleMuteAll`; `saved` says that `SetMuteAll` has worked. -/
def handleMuteAll (i : Nat) (mute saved : Bool) : MeetingNode :=
  let meetingID := (n.sessions i).meetingID
  let userID := (n.sessions i).userID
  match n.store.isMeetingHost meetingID userID with
  | .ok true =>
    if saved then
      (n.broadcastToRoom meetingID (.meetMuteAllReq mute) userID).send i (.meetMuteAllRsp true)
    else n.send i (.meetMuteAllRsp false)
  | _ => n.send i (.meetMuteAllRsp false)

def handleMuteToggle (i : Nat) (mediaType : Int32) (muted : Bool) (hashes : String → HashFields) :
    MeetingNode :=
  let meetingID := (n.sessions i).meetingID
  let userID := (n.sessions i).userID
  if meetingID = "" ∨ userID = "" then n
  else
    { n with store := (n.store.setParticipantMediaMuted meetingID userID mediaType muted).1
      }.broadcastMeetingStateSync hashes meetingID ""

def handleScreenShare (i : Nat) (sharing : Bool) (hashes : String → HashFields) : MeetingNode :=
  let meetingID := (n.sessions i).meetingID
  let userID := (n.sessions i).userID
  if meetingID = "" ∨ userID = "" then n
  else
    { n with store := (n.store.setParticipantSharing meetingID userID sharing).1
      }.broadcastMeetingStateSync hashes meetingID ""

/-- `handleTransportOffer` of a complete offer, with the SSRCs that the SFU assigns. -/
def handleOffer (i : Nat) (meetingID : String) (answer : Option (UInt32 × UInt32))
    (hashes : String → HashFields) : MeetingNode :=
  let userID := (n.sessions i).userID
  if (n.sessions i).meetingID = "" ∨ userID = "" ∨ meetingID ≠ (n.sessions i).meetingID then n
  else
    match answer with
    | none => n
    | some (audioSsrc, videoSsrc) =>
      let n := n.send i (.mediaAnswer meetingID audioSsrc videoSsrc)
      let store :=
        if audioSsrc = 0 ∧ videoSsrc = 0 then n.store
        else (n.store.setParticipantMediaSsrc meetingID userID audioSsrc videoSsrc).1
      { n with store }.broadcastMeetingStateSync hashes meetingID ""

/-! ## The router -/

inductive Request where
  | login (user : Option String)
  | logout
  | create (title password : String) (maxParticipants : Int) (r : Fin 9000) (now : Int)
      (routed : Bool) (hashes : String → HashFields)
  | join (meetingID password : String) (reads : JoinReads)
  | leave (hashes : String → HashFields)
  | kick (targetUserID : String) (hashes : String → HashFields)
  | muteAll (mute saved : Bool)
  | muteToggle (mediaType : Int32) (muted : Bool) (hashes : String → HashFields)
  | screenShare (sharing : Bool) (hashes : String → HashFields)
  | offer (meetingID : String) (answer : Option (UInt32 × UInt32)) (hashes : String → HashFields)

def isStateAllowed (state : SessionState) : Request → Bool
  | .login _ => state = .connected || state = .authenticated
  | .logout => state = .authenticated || state = .inMeeting
  | .create .. | .join .. => state = .authenticated
  | _ => state = .inMeeting

/-- A handler that the router has found. -/
def handle (i : Nat) : Request → MeetingNode
  | .login user => n.handleLogin i user
  | .logout => n.modify i .close
  | .create title password maxParticipants r now routed hashes =>
    n.handleCreate i title password maxParticipants r now routed hashes
  | .join meetingID password reads => n.handleJoin i meetingID password reads
  | .leave hashes => n.leave i true "主动离开" hashes
  | .kick targetUserID hashes => n.handleKick i targetUserID hashes
  | .muteAll mute saved => n.handleMuteAll i mute saved
  | .muteToggle mediaType muted hashes => n.handleMuteToggle i mediaType muted hashes
  | .screenShare sharing hashes => n.handleScreenShare i sharing hashes
  | .offer meetingID answer hashes => n.handleOffer i meetingID answer hashes

/-- `HandleMessage`, from the read loop of an open session. -/
def handleMessage (i : Nat) (req : Request) : MeetingNode :=
  if n.Accepted i ∧ (n.sessions i).closed = false then
    if isStateAllowed (n.sessions i).state req then n.handle i req
    else (n.send i .authKickNotify).modify i .close
  else n

/-- `OnSessionClosed`, and then `Remove`. -/
def onSessionClosed (i : Nat) (reason : String) (hashes : String → HashFields) : MeetingNode :=
  if (n.sessions i).closed ∧ n.manager.sessions i then
    let n := n.leave i false reason hashes
    { n with manager := n.manager.remove i (n.sessions i).userID }
  else n

end MeetingNode

end MeetingSystem.Impl.Signaling
