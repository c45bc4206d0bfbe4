import Mathlib.Data.List.AList
import Mathlib.Data.String.Basic
import MeetingSystem.Framework.Least

/-!
# The in-memory meeting store

`signaling/store/memory_store.go`. Every method that takes the store's mutex
is one function from the state before it to the state after it and its
result; what a method draws from outside (the random number of a meeting id,
the clock) is an argument. A Go map that is only looked up is a function to
`Option`; one that is also counted or iterated is an `AList`.

`Op` and `step` put the mutating methods together, so that a run of the store
is a list of calls.
-/

namespace MeetingSystem.Impl.Store

open MeetingSystem.Framework

/-! ## Records -/

structure User where
  id : String
  username : String
  passwordHash : String
  displayName : String
  avatarURL : String
  deriving DecidableEq, Repr

structure Meeting where
  id : String
  title : String
  password : String
  hostUserID : String
  maxParticipants : Int
  createdAt : Int
  deriving DecidableEq, Repr

structure Message where
  id : String
  meetingID : String
  senderID : String
  type : Int32
  content : String
  replyToID : String
  timestamp : Int
  deriving DecidableEq, Repr

/-- `protocol.Participant`, of `proto/signaling.proto`. -/
structure Participant where
  userId : String
  displayName : String
  avatarUrl : String
  role : Int32
  isAudioOn : Bool
  isVideoOn : Bool
  isSharing : Bool
  audioSsrc : UInt32 := 0
  videoSsrc : UInt32 := 0
  deriving DecidableEq, Repr

inductive StoreError where
  | userNotFound | invalidPassword | meetingNotFound | meetingFull | meetingPassFailed
  deriving DecidableEq, Repr

def StoreError.text : StoreError → String
  | .userNotFound => "user not found"
  | .invalidPassword => "invalid password"
  | .meetingNotFound => "meeting not found"
  | .meetingFull => "meeting is full"
  | .meetingPassFailed => "meeting password mismatch"

/-- A meeting's participants, by user id. -/
abbrev Members := AList fun _ : String => Participant

/-- A meeting's join sequence numbers, by user id. -/
abbrev JoinOrder := AList fun _ : String => UInt64

/-- The store, without the mutex and the two fields only `Authenticate` and
`GetUserByID` read (`passwordHasher`, `userRepo`). -/
structure MemoryStore where
  users : String → Option User
  userByID : String → Option User
  meetings : String → Option Meeting
  participants : String → Option Members
  joinOrder : String → Option JoinOrder
  meetingMsgs : String → List Message
  meetingSeq : UInt64
  messageSeq : UInt64
  joinSeq : UInt64

/-! ## The initial store -/

/-- The rows of `seedDefaultUsers`: id, user name, raw password, display name. -/
def defaultUsers : List (String × String × String × String) :=
  [("u1001", "demo", "demo", "Demo User"),
   ("u1002", "alice", "alice", "Alice"),
   ("u1003", "bob", "bob", "Bob")]

/-- One round of the loop of `seedDefaultUsers`. `hash` is the stored form of a
raw password: its salted hash, or the raw text where hashing fails. -/
def seedUser (hash : String → String) (s : MemoryStore)
    (raw : String × String × String × String) : MemoryStore :=
  let u : User := { id := raw.1, username := raw.2.1, passwordHash := hash raw.2.2.1,
                    displayName := raw.2.2.2, avatarURL := "" }
  { s with users := Function.update s.users u.username (some u)
           userByID := Function.update s.userByID u.id (some u) }

def seedDefaultUsers (hash : String → String) (s : MemoryStore) : MemoryStore :=
  defaultUsers.foldl (seedUser hash) s

def newMemoryStore (hash : String → String) : MemoryStore :=
  seedDefaultUsers hash
    { users := fun _ => none, userByID := fun _ => none, meetings := fun _ => none,
      participants := fun _ => none, joinOrder := fun _ => none, meetingMsgs := fun _ => [],
      meetingSeq := 0, messageSeq := 0, joinSeq := 0 }

/-! ## Creating, joining and leaving -/

/-- `generateMeetingIDLocked`, with `r` for the result of `rand.Intn(9000)`. -/
def MemoryStore.generateMeetingIDLocked (s : MemoryStore) (r : Fin 9000) : MemoryStore × String :=
  let now := s.meetingSeq + 1
  let seed := r.val + 1000
  let raw := now.toNat % 10000 + seed
  ({ s with meetingSeq := now }, toString (100000 + raw % 900000))

/-- The part of `CreateMeeting` after the meeting id has been generated. -/
def MemoryStore.createMeetingAt (s : MemoryStore) (meetingID title password hostUserID : String)
    (maxParticipants : Int) (now : Int) :
    MemoryStore × Except StoreError (Meeting × Participant) :=
  let meeting : Meeting :=
    { id := meetingID, title, password, hostUserID, maxParticipants, createdAt := now }
  match s.userByID hostUserID with
  | none => (s, .error .userNotFound)
  | some host =>
    let hostParticipant : Participant :=
      { userId := host.id, displayName := host.displayName, avatarUrl := host.avatarURL,
        role := 1, isAudioOn := true, isVideoOn := true, isSharing := false }
    ({ s with
        meetings := Function.update s.meetings meetingID (some meeting)
        participants := Function.update s.participants meetingID
          (some (AList.insert hostUserID hostParticipant ∅))
        joinOrder := Function.update s.joinOrder meetingID
          (some (AList.insert hostUserID (s.joinSeq + 1) ∅))
        joinSeq := s.joinSeq + 1 },
      .ok (meeting, hostParticipant))

def MemoryStore.createMeeting (s : MemoryStore) (title password hostUserID : String)
    (maxParticipants : Int) (r : Fin 9000) (now : Int) :
    MemoryStore × Except StoreError (Meeting × Participant) :=
  let maxParticipants := if maxParticipants ≤ 0 then 16 else maxParticipants
  let (s, meetingID) := generateMeetingIDLocked s r
  createMeetingAt s meetingID title password hostUserID maxParticipants now

/-- The participants of a map in the order the map is iterated. -/
def participantsToList (members : Members) : List Participant :=
  members.entries.map (·.2)

/-- A lookup in `participants` or `joinOrder` that gives the empty map for a
missing key. Writing to the `nil` map Go gives there would panic; the two maps
have an entry wherever `meetings` has one, so it does not come up. -/
def MemoryStore.membersOf (s : MemoryStore) (meetingID : String) : Members :=
  (s.participants meetingID).getD ∅

@[inherit_doc membersOf]
def MemoryStore.joinOrderOf (s : MemoryStore) (meetingID : String) : JoinOrder :=
  (s.joinOrder meetingID).getD ∅

def MemoryStore.joinMeeting (s : MemoryStore) (meetingID password userID : String) :
    MemoryStore × Except StoreError (Meeting × List Participant × Participant) :=
  match s.meetings meetingID with
  | none => (s, .error .meetingNotFound)
  | some meeting =>
    if meeting.password ≠ "" ∧ meeting.password ≠ password then
      (s, .error .meetingPassFailed)
    else
      let members := s.membersOf meetingID
      if (members.keys.length : Int) ≥ meeting.maxParticipants then
        (s, .error .meetingFull)
      else
        match members.lookup userID with
        | some participant => (s, .ok (meeting, participantsToList members, participant))
        | none =>
          match s.userByID userID with
          | none => (s, .error .userNotFound)
          | some user =>
            let participant : Participant :=
              { userId := userID, displayName := user.displayName, avatarUrl := user.avatarURL,
                role := 0, isAudioOn := true, isVideoOn := true, isSharing := false }
            let members := members.insert userID participant
            ({ s with
                participants := Function.update s.participants meetingID (some members)
                joinOrder := Function.update s.joinOrder meetingID
                  (some ((s.joinOrderOf meetingID).insert userID (s.joinSeq + 1)))
                joinSeq := s.joinSeq + 1 },
              .ok (meeting, participantsToList members, participant))

/-- The test of the loop of `pickNextHostParticipant`: the smaller join
sequence number, and of equal ones the smaller user id. -/
def joinedBefore (joinOrder : JoinOrder) (a b : Sigma fun _ : String => Participant) : Bool :=
  let seq := (joinOrder.lookup a.1).getD 0
  let bestSeq := (joinOrder.lookup b.1).getD 0
  decide (seq < bestSeq) || (seq == bestSeq && decide (a.1 < b.1))

def pickNextHostParticipant (members : Members) (joinOrder : JoinOrder) :
    Option (Sigma fun _ : String => Participant) :=
  least (joinedBefore joinOrder) members.entries

/-- The results of `LeaveMeeting`. -/
structure LeaveResult where
  hostChanged : Bool
  newHost : Option Participant
  remaining : Nat
  deriving DecidableEq, Repr

def MemoryStore.leaveMeeting (s : MemoryStore) (meetingID userID : String) :
    MemoryStore × Except StoreError LeaveResult :=
  match s.meetings meetingID with
  | none => (s, .error .meetingNotFound)
  | some meeting =>
    let members := (s.membersOf meetingID).erase userID
    let joinOrder := (s.joinOrderOf meetingID).erase userID
    if members.keys.length = 0 then
      ({ s with
          participants := Function.update s.participants meetingID none
          joinOrder := Function.update s.joinOrder meetingID none
          meetings := Function.update s.meetings meetingID none
          meetingMsgs := Function.update s.meetingMsgs meetingID [] },
        .ok { hostChanged := false, newHost := none, remaining := 0 })
    else
      let s' := { s with
        participants := Function.update s.participants meetingID (some members)
        joinOrder := Function.update s.joinOrder meetingID (some joinOrder) }
      if meeting.hostUserID = userID then
        match pickNextHostParticipant members joinOrder with
        | none => (s', .ok { hostChanged := false, newHost := none, remaining := 0 })
        | some ⟨nextHostID, nextHost⟩ =>
          let nextHost := { nextHost with role := 1 }
          ({ s' with
              participants := Function.update s.participants meetingID
                (some (members.replace nextHostID nextHost))
              meetings := Function.update s.meetings meetingID
                (some { meeting with hostUserID := nextHostID }) },
            .ok { hostChanged := true, newHost := some nextHost,
                  remaining := members.keys.length })
      else
        (s', .ok { hostChanged := false, newHost := none, remaining := members.keys.length })

/-! ## Queries -/

def MemoryStore.isMeetingHost (s : MemoryStore) (meetingID userID : String) : Except StoreError Bool :=
  match s.meetings meetingID with
  | none => .error .meetingNotFound
  | some meeting => .ok (meeting.hostUserID = userID)

def MemoryStore.hasParticipant (s : MemoryStore) (meetingID userID : String) : Except StoreError Bool :=
  match s.participants meetingID with
  | none => .error .meetingNotFound
  | some members => .ok (members.lookup userID).isSome

def MemoryStore.snapshotMeeting (s : MemoryStore) (meetingID : String) :
    Except StoreError (Meeting × List Participant) :=
  match s.meetings meetingID, s.participants meetingID with
  | some meeting, some members => .ok (meeting, participantsToList members)
  | _, _ => .error .meetingNotFound

/-! ## Updating a participant -/

/-- The three `SetParticipant…` methods: `f` on the record of `userID`, which
they change in place. -/
def MemoryStore.updateParticipant (s : MemoryStore) (meetingID userID : String)
    (f : Participant → Participant) : MemoryStore × Except StoreError Unit :=
  match s.participants meetingID with
  | none => (s, .error .meetingNotFound)
  | some members =>
    match members.lookup userID with
    | none => (s, .error .userNotFound)
    | some participant =>
      ({ s with participants := Function.update s.participants meetingID
                  (some (members.replace userID (f participant))) },
        .ok ())

def setMediaSsrc (audioSsrc videoSsrc : UInt32) (p : Participant) : Participant :=
  let p := if audioSsrc ≠ 0 then { p with audioSsrc } else p
  if videoSsrc ≠ 0 then { p with videoSsrc } else p

def setMediaMuted (mediaType : Int32) (muted : Bool) (p : Participant) : Participant :=
  if mediaType = 0 then { p with isAudioOn := !muted }
  else if mediaType = 1 then { p with isVideoOn := !muted }
  else p

def setSharing (sharing : Bool) (p : Participant) : Participant := { p with isSharing := sharing }

def MemoryStore.setParticipantMediaSsrc (s : MemoryStore) (meetingID userID : String)
    (audioSsrc videoSsrc : UInt32) : MemoryStore × Except StoreError Unit :=
  updateParticipant s meetingID userID (setMediaSsrc audioSsrc videoSsrc)

def MemoryStore.setParticipantMediaMuted (s : MemoryStore) (meetingID userID : String)
    (mediaType : Int32) (muted : Bool) : MemoryStore × Except StoreError Unit :=
  updateParticipant s meetingID userID (setMediaMuted mediaType muted)

def MemoryStore.setParticipantSharing (s : MemoryStore) (meetingID userID : String) (sharing : Bool) :
    MemoryStore × Except StoreError Unit :=
  updateParticipant s meetingID userID (setSharing sharing)

/-! ## Messages -/

def MemoryStore.saveMessage (s : MemoryStore) (meetingID senderID : String) (msgType : Int32)
    (content replyToID : String) (nowMs : Int) : MemoryStore × Message :=
  let id := s.messageSeq + 1
  let msg : Message :=
    { id := "m" ++ toString id.toNat, meetingID, senderID, type := msgType, content, replyToID,
      timestamp := nowMs }
  ({ s with messageSeq := id
            meetingMsgs := Function.update s.meetingMsgs meetingID
              (s.meetingMsgs meetingID ++ [msg]) },
    msg)

/-- `ListMessages`, with 0 for an absent `beforeTimestampMs`. -/
def MemoryStore.listMessages (s : MemoryStore) (meetingID : String) (limit : Int)
    (beforeTimestampMs : Int) : List Message :=
  let limit := if limit ≤ 0 then 100 else limit
  let messages := s.meetingMsgs meetingID
  let filtered := if beforeTimestampMs > 0
    then messages.filter fun message => message.timestamp < beforeTimestampMs
    else messages
  filtered.drop (filtered.length - limit.toNat)

/-! ## Runs -/

/-- A call of one of the store's mutating methods. -/
inductive Op where
  | createMeeting (title password hostUserID : String) (maxParticipants : Int) (r : Fin 9000)
      (now : Int)
  | joinMeeting (meetingID password userID : String)
  | leaveMeeting (meetingID userID : String)
  | setParticipantMediaSsrc (meetingID userID : String) (audioSsrc videoSsrc : UInt32)
  | setParticipantMediaMuted (meetingID userID : String) (mediaType : Int32) (muted : Bool)
  | setParticipantSharing (meetingID userID : String) (sharing : Bool)
  | saveMessage (meetingID senderID : String) (msgType : Int32) (content replyToID : String)
      (nowMs : Int)
  deriving DecidableEq

def MemoryStore.step (s : MemoryStore) : Op → MemoryStore
  | .createMeeting title password hostUserID maxParticipants r now =>
    (s.createMeeting title password hostUserID maxParticipants r now).1
  | .joinMeeting meetingID password userID => (s.joinMeeting meetingID password userID).1
  | .leaveMeeting meetingID userID => (s.leaveMeeting meetingID userID).1
  | .setParticipantMediaSsrc meetingID userID audioSsrc videoSsrc =>
    (s.setParticipantMediaSsrc meetingID userID audioSsrc videoSsrc).1
  | .setParticipantMediaMuted meetingID userID mediaType muted =>
    (s.setParticipantMediaMuted meetingID userID mediaType muted).1
  | .setParticipantSharing meetingID userID sharing =>
    (s.setParticipantSharing meetingID userID sharing).1
  | .saveMessage meetingID senderID msgType content replyToID nowMs =>
    (s.saveMessage meetingID senderID msgType content replyToID nowMs).1

end MeetingSystem.Impl.Store
