import MeetingSystem.Impl.Client.ListModels
import MeetingSystem.Impl.Signaling.MeetingNode

/-!
# The meeting as the client shows it

`plasma-hawking/src/app/MeetingController.cpp` with `handlePayload` of
`SignalingClient.cpp`: which meeting the client is in and who is in it, the messages that
change this, and what the user does meanwhile. Texts, signals to the views, the local
database and the media sessions are left out.

`Conference` puts a node and its clients together. Messages reach a client in the order in
which they were sent to its session, at any time.
-/

namespace MeetingSystem.Impl.Client

open MeetingSystem.Impl.Store MeetingSystem.Impl.Signaling

/-! ## Participants from messages -/

/-- `ParticipantListModel::fromProto`. -/
def fromProto (participant : Participant) : ParticipantItem :=
  { userId := participant.userId
    displayName :=
      if trimmed participant.displayName = "" then participant.userId else participant.displayName
    avatarUrl := participant.avatarUrl
    role := participant.role
    audioOn := participant.isAudioOn
    videoOn := participant.isVideoOn
    sharing := participant.isSharing
    host := participant.role = 1
    audioSsrc := participant.audioSsrc
    videoSsrc := participant.videoSsrc }

/-- The fields of an item, as they are handed to `upsertParticipant`. -/
def upsertArgs (item : ParticipantItem) : UpsertArgs :=
  { userId := item.userId, displayName := item.displayName, avatarUrl := item.avatarUrl
    role := item.role, audioOn := item.audioOn, videoOn := item.videoOn, sharing := item.sharing
    audioSsrc := item.audioSsrc, videoSsrc := item.videoSsrc }

/-- `lastIndexOf` of a blank and an opening parenthesis. -/
def lastOpenParen (s : List Char) : Option Nat :=
  (List.range s.length).reverse.find? fun i => [' ', '('].isPrefixOf (s.drop i)

def itemFromDescriptor (descriptor : String) : ParticipantItem :=
  let text := (trimmed descriptor).toList
  match lastOpenParen text with
  | some openParen =>
    if 0 < openParen ∧ text.getLast? = some ')' then
      { userId := trimmed (String.ofList ((text.drop (openParen + 2)).take
          (text.length - openParen - 3)))
        displayName := trimmed (String.ofList (text.take openParen))
        avatarUrl := "" }
    else { userId := trimmed descriptor, displayName := trimmed descriptor, avatarUrl := "" }
  | none => { userId := trimmed descriptor, displayName := trimmed descriptor, avatarUrl := "" }

/-- An entry of the list that `joinMeetingFinished` carries. -/
def descriptorOf (p : Participant) : String := p.displayName ++ " (" ++ p.userId ++ ")"

def ParticipantListModel.replaceParticipantsFromDisplayList (participants : List String) :
    ParticipantListModel :=
  .replaceParticipants (participants.map itemFromDescriptor)

/-- The host of a reply to a join: the last participant with the role. -/
def hostOf (participants : List Participant) : String :=
  participants.foldl (fun hostUserId p => if p.role = 1 then p.userId else hostUserId) ""

/-! ## The controller -/

structure MeetingController where
  userId : String
  username : String
  connected : Bool
  loggedIn : Bool
  inMeeting : Bool
  meetingId : String
  meetingTitle : String
  pendingMeetingTitle : String
  currentMeetingHost : Bool
  waitingLeaveResponse : Bool
  audioMuted : Bool
  videoMuted : Bool
  screenSharing : Bool
  audioMuteLocallyControlled : Bool
  videoMuteLocallyControlled : Bool
  assignedAudioSsrc : UInt32
  assignedVideoSsrc : UInt32
  participantModel : ParticipantListModel
  /-- `shouldStartVideoMutedByDefault`. -/
  startVideoMuted : Bool
  deriving DecidableEq

/-- What a controller keeps from an earlier session. -/
structure Account where
  userId : String
  username : String
  pendingMeetingTitle : String
  deriving DecidableEq

/-- What the user and the local media sessions do. -/
inductive MeetingAct where
  | createMeeting (title : String)
  | joinMeeting (meetingId : String)
  | leaveMeeting
  | toggleAudio
  | toggleVideo
  /-- With what the two calls of the session answer. -/
  | toggleScreenSharing (first second : Bool)
  /-- The encoder has failed and the camera does not send. -/
  | videoSessionError
  | logout
  | disconnected
  deriving DecidableEq

namespace MeetingController

/-- A controller that has connected. -/
def new (account : Account) (startVideoMuted : Bool) : MeetingController :=
  { userId := account.userId, username := account.username, connected := true, loggedIn := false
    inMeeting := false, meetingId := "", meetingTitle := ""
    pendingMeetingTitle := account.pendingMeetingTitle, currentMeetingHost := false
    waitingLeaveResponse := false, audioMuted := false, videoMuted := startVideoMuted
    screenSharing := false, audioMuteLocallyControlled := false
    videoMuteLocallyControlled := false, assignedAudioSsrc := 0, assignedVideoSsrc := 0
    participantModel := .new, startVideoMuted }

variable (c : MeetingController)

def upsertParticipant (args : UpsertArgs) : MeetingController :=
  { c with participantModel := c.participantModel.upsertParticipant args }

def setHostUserId (userId : String) : MeetingController :=
  { c with participantModel := c.participantModel.setHostUserId userId }

/-- The first item of the local user. -/
def localItem : Option ParticipantItem :=
  c.participantModel.items.find? fun item => item.userId = c.userId

/-- The display name of a local user without an item. -/
def localName : String := if c.username = "" then "You" else c.username

def ensureLocalParticipant (host : Bool) : MeetingController :=
  if c.userId = "" then c
  else
    let c := match c.localItem with
      | none => c.upsertParticipant
          { userId := c.userId, displayName := c.localName, role := if host then 1 else 0
            audioOn := !c.audioMuted, videoOn := !c.videoMuted, sharing := c.screenSharing
            audioSsrc := c.assignedAudioSsrc, videoSsrc := c.assignedVideoSsrc }
      | some item =>
        if host ∧ item.role ≠ 1 then c.upsertParticipant
          { userId := c.userId, displayName := item.displayName, avatarUrl := item.avatarUrl
            role := 1, audioOn := item.audioOn, videoOn := item.videoOn, sharing := item.sharing
            audioSsrc := if c.assignedAudioSsrc ≠ 0 then c.assignedAudioSsrc else item.audioSsrc
            videoSsrc := if c.assignedVideoSsrc ≠ 0 then c.assignedVideoSsrc else item.videoSsrc }
        else c
    if host then c.setHostUserId c.userId else c

/-- The local user's item is written, and then the host, where it is the local user. -/
def writeLocalItem (args : UpsertArgs) : MeetingController :=
  if c.currentMeetingHost ∨ args.role = 1 then
    (c.upsertParticipant args).setHostUserId c.userId
  else c.upsertParticipant args

def syncLocalParticipantMediaState : MeetingController :=
  if c.userId = "" ∨ (c.localItem = none ∧ c.inMeeting = false) then c
  else c.writeLocalItem
    { userId := c.userId
      displayName := (c.localItem.map (·.displayName)).getD c.localName
      avatarUrl := (c.localItem.map (·.avatarUrl)).getD ""
      role := (c.localItem.map (·.role)).getD (if c.currentMeetingHost then 1 else 0)
      audioOn := !c.audioMuted, videoOn := !c.videoMuted, sharing := c.screenSharing
      audioSsrc := (c.localItem.map (·.audioSsrc)).getD c.assignedAudioSsrc
      videoSsrc := (c.localItem.map (·.videoSsrc)).getD c.assignedVideoSsrc }

/-- `resetMeetingState`, with `resetMediaNegotiation`. -/
def resetMeetingState : MeetingController :=
  let c := { c with assignedAudioSsrc := 0, assignedVideoSsrc := 0 }
  if c.inMeeting = false ∧ c.meetingId = "" ∧ c.meetingTitle = "" ∧
      c.participantModel.items = [] then
    { c with waitingLeaveResponse := false }
  else
    { c with
      inMeeting := false, audioMuted := false, videoMuted := c.startVideoMuted
      audioMuteLocallyControlled := false, videoMuteLocallyControlled := false
      screenSharing := false, waitingLeaveResponse := false, currentMeetingHost := false
      meetingId := "", meetingTitle := ""
      participantModel := c.participantModel.clearParticipants }

/-- What `createMeetingFinished` and `joinMeetingFinished` set in a new meeting. -/
def enter (meetingId meetingTitle : String) (host : Bool) : MeetingController :=
  { c with
    meetingId, meetingTitle, inMeeting := true, audioMuted := false
    videoMuted := c.startVideoMuted, audioMuteLocallyControlled := false
    videoMuteLocallyControlled := false, screenSharing := false, waitingLeaveResponse := false
    currentMeetingHost := host }

/-! ## Messages -/

def createMeetingFinished (success : Bool) (meetingId : String) : MeetingController :=
  if success then
    let c := { c.enter meetingId c.pendingMeetingTitle true with pendingMeetingTitle := "" }
    { c with
      participantModel := c.participantModel.clearParticipants }.ensureLocalParticipant true
  else { c with pendingMeetingTitle := "" }

def joinMeetingFinished (success : Bool) (meetingId title : String) (participants : List String)
    (hostUserId : String) : MeetingController :=
  if success then
    let isHost : Bool := hostUserId ≠ "" ∧ hostUserId = c.userId
    let c := { c.enter meetingId title isHost with
      participantModel := .replaceParticipantsFromDisplayList participants }
    (if hostUserId ≠ "" then c.setHostUserId hostUserId else c).ensureLocalParticipant isHost
  else c

def leaveMeetingFinished (success : Bool) : MeetingController :=
  let wasWaitingLeave := c.waitingLeaveResponse
  let c := { c with waitingLeaveResponse := false }
  if success = false ∨ (wasWaitingLeave = false ∧ c.inMeeting = false) then c
  else c.resetMeetingState

def loginFinished (success : Bool) (userId : String) : MeetingController :=
  if success then { c with userId, loggedIn := true } else { c with loggedIn := false }

/-- `handleSessionKicked`. -/
def handleSessionKicked : MeetingController :=
  { { c with waitingLeaveResponse := false, pendingMeetingTitle := "" }.resetMeetingState with
    userId := "", loggedIn := false, connected := false }

/-- The loop of the branch for `kMeetStateSync`, on the local user's item. -/
def syncLocalItem (participant : ParticipantItem) : MeetingController :=
  let c := { c with
    audioMuted := if c.audioMuteLocallyControlled then c.audioMuted else !participant.audioOn
    videoMuted := if c.videoMuteLocallyControlled then c.videoMuted else !participant.videoOn }
  let c := c.writeLocalItem
    { userId := c.userId, displayName := participant.displayName
      avatarUrl := participant.avatarUrl, role := participant.role, audioOn := !c.audioMuted
      videoOn := !c.videoMuted, sharing := participant.sharing
      audioSsrc := participant.audioSsrc, videoSsrc := participant.videoSsrc }
  { c with screenSharing := participant.sharing }

def meetStateSync (meetingId title hostId : String) (participants : List Participant) :
    MeetingController :=
  let host : Bool := hostId ≠ "" ∧ hostId = c.userId
  let c := { c with
    participantModel := (ParticipantListModel.replaceParticipants
      (participants.map fromProto)).setHostUserId hostId
    meetingId, meetingTitle := title, waitingLeaveResponse := false
    currentMeetingHost := host }.ensureLocalParticipant host
  let c := match c.localItem with
    | some participant => c.syncLocalItem participant
    | none => c
  { c with inMeeting := true }

def meetParticipantJoin (p : Participant) : MeetingController :=
  let participant := fromProto p
  let c := c.upsertParticipant (upsertArgs participant)
  let c :=
    if participant.role = 1 then
      { c.setHostUserId participant.userId with
        currentMeetingHost := participant.userId = c.userId }
    else c
  let c := if participant.userId = c.userId then c.syncLocalParticipantMediaState else c
  { c with inMeeting := true }

def meetParticipantLeave (userId : String) : MeetingController :=
  if c.userId ≠ "" ∧ userId = c.userId then c.resetMeetingState
  else { c with participantModel := c.participantModel.removeParticipant userId }

def meetHostChanged (newHostId : String) : MeetingController :=
  { c.setHostUserId newHostId with
    currentMeetingHost := newHostId ≠ "" ∧ newHostId = c.userId }

def meetMuteAll (muted : Bool) : MeetingController :=
  if c.inMeeting then
    { c with
      audioMuted := muted
      audioMuteLocallyControlled := c.audioMuteLocallyControlled || c.audioMuted != muted
      }.syncLocalParticipantMediaState
  else c

/-- `handleMediaTransportAnswer`, for an answer that is complete. -/
def handleMediaTransportAnswer (meetingId : String) (audioSsrc videoSsrc : UInt32) :
    MeetingController :=
  if c.inMeeting = false ∨ trimmed meetingId ≠ c.meetingId then c
  else
    { c with
      assignedAudioSsrc := if audioSsrc ≠ 0 then audioSsrc else c.assignedAudioSsrc
      assignedVideoSsrc := if videoSsrc ≠ 0 then videoSsrc else c.assignedVideoSsrc }

/-- `handlePayload` and `handleProtobufMessage`. -/
def handlePayload : MeetingMessage → MeetingController
  | .authLoginRsp success userId => c.loginFinished success userId
  | .authKickNotify => c.handleSessionKicked
  | .meetCreateRsp success meetingId => c.createMeetingFinished success meetingId
  | .meetJoinRsp success meetingId title participants =>
    c.joinMeetingFinished success meetingId title (participants.map descriptorOf)
      (hostOf participants)
  | .meetLeaveRsp success => c.leaveMeetingFinished success
  | .meetKickRsp _ | .meetMuteAllRsp _ => c
  | .meetMuteAllReq mute => c.meetMuteAll mute
  | .meetStateSync meetingId title hostId participants =>
    c.meetStateSync meetingId title hostId participants
  | .meetParticipantJoin participant => c.meetParticipantJoin participant
  | .meetParticipantLeave userId _ => c.meetParticipantLeave userId
  | .meetHostChanged newHostId _ => c.meetHostChanged newHostId
  | .mediaAnswer meetingId audioSsrc videoSsrc =>
    c.handleMediaTransportAnswer meetingId audioSsrc videoSsrc

/-! ## The user -/

def leaveMeeting : MeetingController :=
  if (c.inMeeting = false ∧ c.meetingId = "" ∧ c.participantModel.items = []) ∨
      c.waitingLeaveResponse then c
  else if c.connected then { c with waitingLeaveResponse := true }
  else c.resetMeetingState

def toggleScreenSharing (first second : Bool) : MeetingController :=
  if c.inMeeting = false then c
  else if c.screenSharing then
    if first = false then c
    else
      let c := { c with screenSharing := false }
      if second then c.syncLocalParticipantMediaState else c
  else if first ∧ second then { c with screenSharing := true }.syncLocalParticipantMediaState
  else c

def act : MeetingAct → MeetingController
  | .createMeeting title =>
    if c.loggedIn then { c with pendingMeetingTitle := trimmed title } else c
  | .joinMeeting meetingId =>
    if c.loggedIn ∧ trimmed meetingId ≠ "" then { c with pendingMeetingTitle := "" } else c
  | .leaveMeeting => c.leaveMeeting
  | .toggleAudio =>
    if c.inMeeting then
      { c with audioMuted := !c.audioMuted, audioMuteLocallyControlled := true
        }.syncLocalParticipantMediaState
    else c
  | .toggleVideo =>
    if c.inMeeting then
      { c with videoMuted := !c.videoMuted, videoMuteLocallyControlled := true
        }.syncLocalParticipantMediaState
    else c
  | .toggleScreenSharing first second => c.toggleScreenSharing first second
  | .videoSessionError =>
    if c.inMeeting = false ∨ c.screenSharing ∨ c.videoMuted then c
    else
      { c with videoMuted := true, videoMuteLocallyControlled := true
        }.syncLocalParticipantMediaState
  | .logout =>
    { { c with waitingLeaveResponse := false, pendingMeetingTitle := "" }.resetMeetingState with
      username := "", userId := "", loggedIn := false, connected := false }
  | .disconnected =>
    { { c with waitingLeaveResponse := false }.resetMeetingState with connected := false }

end MeetingController

/-! ## A node and its clients -/

structure Conference where
  node : MeetingNode
  clients : Nat → MeetingController

inductive ConferenceOp where
  | accept
  | request (i : Nat) (req : MeetingNode.Request)
  | close (i : Nat)
  | closed (i : Nat) (reason : String) (hashes : String → HashFields)
  /-- The write loop takes a frame from the queue. -/
  | written (i : Nat)
  /-- The client reads the next message. -/
  | read (i : Nat)
  | act (i : Nat) (a : MeetingAct)

namespace Conference

/-- The client of session `i` has the account `accounts i`. -/
def new (hash : String → String) (writeQueueSize : Nat) (accounts : Nat → Account)
    (startVideoMuted : Bool) : Conference :=
  { node := .new hash writeQueueSize, clients := fun i => .new (accounts i) startVideoMuted }

def read (s : Conference) (i : Nat) : Conference :=
  match (s.node.sessions i).inbox with
  | [] => s
  | msg :: rest =>
    { node := s.node.modify i fun c => { c with inbox := rest }
      clients := Function.update s.clients i ((s.clients i).handlePayload msg) }

def step (writeQueueSize : Nat) (s : Conference) : ConferenceOp → Conference
  | .accept => { s with node := s.node.accept }
  | .request i req => { s with node := s.node.handleMessage i req }
  | .close i => if s.node.Accepted i then { s with node := s.node.modify i .close } else s
  | .closed i reason hashes => { s with node := s.node.onSessionClosed i reason hashes }
  | .written i =>
    { s with node := s.node.modify i fun c => { c with free := min writeQueueSize (c.free + 1) } }
  | .read i => if (s.clients i).connected then s.read i else s
  | .act i a => { s with clients := Function.update s.clients i ((s.clients i).act a) }

end Conference

end MeetingSystem.Impl.Client
