import MeetingSystem.Impl.Store.MeetingRepo

/-!
# The database-backed meeting store

`repoMeetingStore` of `signaling/store/meeting_lifecycle.go`, with both
repositories configured. A meeting that has no row is looked for in the
fallback store. Numbers for new meetings, row ids and times are arguments.
-/

namespace MeetingSystem.Impl.Store

open MeetingSystem.Framework

/-- The errors of the store: the fallback's own, and those of the repositories
and of reading a user id. -/
inductive LifecycleError where
  | store (err : StoreError)
  | db (err : DbError)
  | userID
  deriving DecidableEq, Repr

structure RepoMeetingStore where
  fallback : MemoryStore
  userRepo : Option UserAuthRepo
  db : Db

def participantFromProfile (userID : String) (profile : Option User) (isHost : Bool) :
    Participant :=
  let displayName := match profile with
    | some user => if user.id ≠ "" then user.displayName else ""
    | none => ""
  { userId := userID
    displayName := if displayName = "" then userID else displayName
    avatarUrl := match profile with
      | some user => if user.id ≠ "" then user.avatarURL else ""
      | none => ""
    role := if isHost then 1 else 0
    isAudioOn := true, isVideoOn := true, isSharing := false }

def meetingFromModel (meeting : MeetingRow) : Meeting :=
  { id := meeting.meetingNo, title := meeting.title, password := meeting.passwordHash
    hostUserID := userIDFromUint64 meeting.hostUserID
    maxParticipants := meeting.maxParticipants, createdAt := meeting.createdAt }

def findParticipantByUserID (participants : List ParticipantRow) (userID : String)
    (lookup : String → Option User) : Option Participant :=
  match userIDToUint64 userID with
  | none => none
  | some internalUserID =>
    (participants.find? fun participant => participant.userID = internalUserID).map fun participant =>
      participantFromProfile userID (lookup userID) (participant.role = 1)

namespace RepoMeetingStore

variable (s : RepoMeetingStore)

def lookupUser (userID : String) : Option User := s.fallback.getUserByID s.userRepo userID

def participantFromModel (participant : ParticipantRow) : Participant :=
  participantFromProfile (userIDFromUint64 participant.userID)
    (s.lookupUser (userIDFromUint64 participant.userID)) (participant.role = 1)

def loadParticipants (meetingID : UInt64) : Except LifecycleError (List Participant) :=
  match s.db.listActiveParticipants meetingID with
  | .error err => .error (.db err)
  | .ok participants => .ok (participants.map s.participantFromModel)

/-- `CreateMeeting`. `meetingNo` is the result of `nextMeetingNo`, `meetingID`
and `participantID` are the ids of the two rows. -/
def createMeeting (meetingNo title password hostUserID : String) (maxParticipants : Int)
    (meetingID participantID : UInt64) (now : Int) :
    RepoMeetingStore × Except LifecycleError (Meeting × Participant) :=
  let maxParticipants := if maxParticipants ≤ 0 then 16 else maxParticipants
  match s.lookupUser hostUserID with
  | none => (s, .error (.store .userNotFound))
  | some hostProfile =>
    match userIDToUint64 hostUserID with
    | none => (s, .error .userID)
    | some hostNumericID =>
      let meetingModel : MeetingRow :=
        { id := 0, meetingNo, title, hostUserID := hostNumericID, passwordHash := password,
          status := 0, maxParticipants, createdAt := 0 }
      match s.db.createMeeting meetingModel meetingID now with
      | .error err => (s, .error (.db err))
      | .ok (db, meetingModel) =>
        let hostParticipant : ParticipantRow :=
          { id := 0, meetingID := meetingModel.id, userID := hostNumericID, role := 1,
            mediaState := 0, joinedAt := now, leftAt := none }
        match db.addParticipant hostParticipant participantID with
        | .error err => ({ s with db }, .error (.db err))
        | .ok db =>
          ({ s with db },
            .ok (meetingFromModel meetingModel,
              participantFromProfile hostUserID (some hostProfile) true))

/-- The part of `JoinMeeting` for a user who is not in the meeting. -/
def joinNew (meetingModel : MeetingRow) (userID : String) (participantID : UInt64) (now : Int) :
    RepoMeetingStore × Except LifecycleError (Meeting × List Participant × Participant) :=
  match s.lookupUser userID with
  | none => (s, .error (.store .userNotFound))
  | some profile =>
    match userIDToUint64 userID with
    | none => (s, .error .userID)
    | some internalUserID =>
      let joined : ParticipantRow :=
        { id := 0, meetingID := meetingModel.id, userID := internalUserID, role := 0,
          mediaState := 0, joinedAt := now, leftAt := none }
      match s.db.addParticipant joined participantID with
      | .error err => (s, .error (.db err))
      | .ok db =>
        match loadParticipants { s with db } meetingModel.id with
        | .error err => ({ s with db }, .error err)
        | .ok list =>
          ({ s with db },
            .ok (meetingFromModel meetingModel, list,
              participantFromProfile userID (some profile) false))

def joinMeeting (meetingID password userID : String) (participantID : UInt64) (now : Int) :
    RepoMeetingStore × Except LifecycleError (Meeting × List Participant × Participant) :=
  match s.db.findByMeetingNo meetingID with
  | .error .recordNotFound =>
    let (fallback, result) := s.fallback.joinMeeting meetingID password userID
    ({ s with fallback }, result.mapError .store)
  | .error err => (s, .error (.db err))
  | .ok meetingModel =>
    let meeting := meetingFromModel meetingModel
    if meeting.password ≠ "" ∧ meeting.password ≠ password then
      (s, .error (.store .meetingPassFailed))
    else
      match s.db.listActiveParticipants meetingModel.id with
      | .error err => (s, .error (.db err))
      | .ok participants =>
        if (participants.length : Int) ≥ meeting.maxParticipants then
          (s, .error (.store .meetingFull))
        else
          match findParticipantByUserID participants userID s.lookupUser with
          | some existing =>
            match s.loadParticipants meetingModel.id with
            | .error err => (s, .error err)
            | .ok list => (s, .ok (meeting, list, existing))
          | none => s.joinNew meetingModel userID participantID now

/-- The part of `LeaveMeeting` after the participant has been marked. -/
def leaveMarked (meetingModel : MeetingRow) (internalUserID : UInt64) :
    RepoMeetingStore × Except LifecycleError LeaveResult :=
  match s.db.listActiveParticipants meetingModel.id with
  | .error err => (s, .error (.db err))
  | .ok active =>
    let remaining := active.length
    if remaining = 0 then
      match s.db.deleteMeeting meetingModel.id with
      | .error err => (s, .error (.db err))
      | .ok db => ({ s with db }, .ok { hostChanged := false, newHost := none, remaining := 0 })
    else if meetingModel.hostUserID ≠ internalUserID then
      (s, .ok { hostChanged := false, newHost := none, remaining })
    else
      match s.db.transferHost meetingModel.id with
      | .error err => (s, .error (.db err))
      | .ok (db, newHost) =>
        ({ s with db },
          .ok { hostChanged := true, newHost := some (s.participantFromModel newHost), remaining })

def leaveMeeting (meetingID userID : String) (now : Int) :
    RepoMeetingStore × Except LifecycleError LeaveResult :=
  match s.db.findByMeetingNo meetingID with
  | .error .recordNotFound =>
    let (fallback, result) := s.fallback.leaveMeeting meetingID userID
    ({ s with fallback }, result.mapError .store)
  | .error err => (s, .error (.db err))
  | .ok meetingModel =>
    match userIDToUint64 userID with
    | none => (s, .error .userID)
    | some internalUserID =>
      match s.db.markParticipantLeft meetingModel.id internalUserID now with
      | .error .recordNotFound =>
        let (fallback, result) := s.fallback.leaveMeeting meetingID userID
        ({ s with fallback }, result.mapError .store)
      | .error err => (s, .error (.db err))
      | .ok db => leaveMarked { s with db } meetingModel internalUserID

def isMeetingHost (meetingID userID : String) : Except LifecycleError Bool :=
  match s.db.findByMeetingNo meetingID with
  | .error .recordNotFound => (s.fallback.isMeetingHost meetingID userID).mapError .store
  | .error err => .error (.db err)
  | .ok meetingModel =>
    match userIDToUint64 userID with
    | none => .error .userID
    | some internalUserID => .ok (meetingModel.hostUserID = internalUserID)

def hasParticipant (meetingID userID : String) : Except LifecycleError Bool :=
  match s.db.findByMeetingNo meetingID with
  | .error .recordNotFound => (s.fallback.hasParticipant meetingID userID).mapError .store
  | .error err => .error (.db err)
  | .ok meetingModel =>
    match s.db.listActiveParticipants meetingModel.id with
    | .error err => .error (.db err)
    | .ok active => .ok (findParticipantByUserID active userID s.lookupUser).isSome

def snapshotMeeting (meetingID : String) : Except LifecycleError (Meeting × List Participant) :=
  match s.db.findByMeetingNo meetingID with
  | .error .recordNotFound => (s.fallback.snapshotMeeting meetingID).mapError .store
  | .error err => .error (.db err)
  | .ok meetingModel =>
    match s.loadParticipants meetingModel.id with
    | .error err => .error err
    | .ok participants => .ok (meetingFromModel meetingModel, participants)

end RepoMeetingStore

/-! ## Runs -/

/-- The store as the server starts it, on new tables. -/
def newMeetingLifecycleStore (fallback : MemoryStore) (userRepo : Option UserAuthRepo) :
    RepoMeetingStore :=
  { fallback, userRepo
    db := { meetings := [], participants := [], lastMeetingID := 0, lastParticipantID := 0 } }

/-- A call of one of the store's mutating methods, or one that its fallback
store gets from others. -/
inductive RepoOp where
  | createMeeting (meetingNo title password hostUserID : String) (maxParticipants : Int)
      (meetingID participantID : UInt64) (now : Int)
  | joinMeeting (meetingID password userID : String) (participantID : UInt64) (now : Int)
  | leaveMeeting (meetingID userID : String) (now : Int)
  | fallback (o : Op)

def RepoMeetingStore.step (s : RepoMeetingStore) : RepoOp → RepoMeetingStore
  | .createMeeting meetingNo title password hostUserID maxParticipants meetingID participantID now =>
    (s.createMeeting meetingNo title password hostUserID maxParticipants meetingID participantID
      now).1
  | .joinMeeting meetingID password userID participantID now =>
    (s.joinMeeting meetingID password userID participantID now).1
  | .leaveMeeting meetingID userID now => (s.leaveMeeting meetingID userID now).1
  | .fallback o => { s with fallback := s.fallback.step o }

end MeetingSystem.Impl.Store
