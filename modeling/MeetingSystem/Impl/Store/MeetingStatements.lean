import MeetingSystem.Impl.Store.MeetingLifecycle

/-!
# Joining and leaving, statement by statement

`JoinMeeting` and `LeaveMeeting` of `repoMeetingStore` as sequences of
statements of the repositories, for calls that run at the same time. A call in
progress carries what it has read; the user table, which the calls only read,
is a parameter.
-/

namespace MeetingSystem.Impl.Store

/-- A call as it is made. -/
inductive MeetingRequest where
  | joinMeeting (meetingID password userID : String)
  | leaveMeeting (meetingID userID : String)
  deriving DecidableEq, Repr

/-- A call before one of its statements. -/
inductive MeetingCall where
  | joinFind (meetingID password userID : String)
  | joinList (meetingModel : MeetingRow) (userID : String)
  | joinAdd (meetingModel : MeetingRow) (internalUserID : UInt64) (self : Participant)
  | joinLoad (meetingModel : MeetingRow) (self : Participant)
  | leaveFind (meetingID userID : String)
  | leaveMark (meetingModel : MeetingRow) (internalUserID : UInt64)
  | leaveList (meetingModel : MeetingRow) (internalUserID : UInt64)
  | leaveDelete (meetingModel : MeetingRow)
  | leaveTransfer (meetingModel : MeetingRow) (remaining : Nat)
  deriving DecidableEq, Repr

/-- How a call ends. `fallback` leaves the rest to the fallback store. -/
inductive MeetingResult where
  | fallback
  | join (result : Except LifecycleError (Meeting × List Participant × Participant))
  | leave (result : Except LifecycleError LeaveResult)

/-- What a statement draws: the time, and the id of a row it inserts. -/
structure StatementDraw where
  now : Int
  participantID : UInt64
  deriving DecidableEq, Repr

def MeetingRequest.entry : MeetingRequest → MeetingCall
  | .joinMeeting meetingID password userID => .joinFind meetingID password userID
  | .leaveMeeting meetingID userID => .leaveFind meetingID userID

section

variable (lookupUser : String → Option User) (db : Db)

/-- `participantFromModel`, with the user table given. -/
def participantFromRow (participant : ParticipantRow) : Participant :=
  participantFromProfile (userIDFromUint64 participant.userID)
    (lookupUser (userIDFromUint64 participant.userID)) (participant.role = 1)

def joinFind (meetingID password userID : String) : Db × (MeetingCall ⊕ MeetingResult) :=
  match db.findByMeetingNo meetingID with
  | .error .recordNotFound => (db, .inr .fallback)
  | .error err => (db, .inr (.join (.error (.db err))))
  | .ok meetingModel =>
    let meeting := meetingFromModel meetingModel
    if meeting.password ≠ "" ∧ meeting.password ≠ password then
      (db, .inr (.join (.error (.store .meetingPassFailed))))
    else (db, .inl (.joinList meetingModel userID))

def joinList (meetingModel : MeetingRow) (userID : String) : Db × (MeetingCall ⊕ MeetingResult) :=
  match db.listActiveParticipants meetingModel.id with
  | .error err => (db, .inr (.join (.error (.db err))))
  | .ok participants =>
    if (participants.length : Int) ≥ (meetingFromModel meetingModel).maxParticipants then
      (db, .inr (.join (.error (.store .meetingFull))))
    else
      match findParticipantByUserID participants userID lookupUser with
      | some existing => (db, .inl (.joinLoad meetingModel existing))
      | none =>
        match lookupUser userID with
        | none => (db, .inr (.join (.error (.store .userNotFound))))
        | some profile =>
          match userIDToUint64 userID with
          | none => (db, .inr (.join (.error .userID)))
          | some internalUserID =>
            (db, .inl (.joinAdd meetingModel internalUserID
              (participantFromProfile userID (some profile) false)))

def joinAdd (meetingModel : MeetingRow) (internalUserID : UInt64) (self : Participant)
    (draw : StatementDraw) : Db × (MeetingCall ⊕ MeetingResult) :=
  let joined : ParticipantRow :=
    { id := 0, meetingID := meetingModel.id, userID := internalUserID, role := 0, mediaState := 0,
      joinedAt := draw.now, leftAt := none }
  match db.addParticipant joined draw.participantID with
  | .error err => (db, .inr (.join (.error (.db err))))
  | .ok db => (db, .inl (.joinLoad meetingModel self))

def joinLoad (meetingModel : MeetingRow) (self : Participant) :
    Db × (MeetingCall ⊕ MeetingResult) :=
  match db.listActiveParticipants meetingModel.id with
  | .error err => (db, .inr (.join (.error (.db err))))
  | .ok participants =>
    (db, .inr (.join (.ok
      (meetingFromModel meetingModel, participants.map (participantFromRow lookupUser), self))))

def leaveFind (meetingID userID : String) : Db × (MeetingCall ⊕ MeetingResult) :=
  match db.findByMeetingNo meetingID with
  | .error .recordNotFound => (db, .inr .fallback)
  | .error err => (db, .inr (.leave (.error (.db err))))
  | .ok meetingModel =>
    match userIDToUint64 userID with
    | none => (db, .inr (.leave (.error .userID)))
    | some internalUserID => (db, .inl (.leaveMark meetingModel internalUserID))

def leaveMark (meetingModel : MeetingRow) (internalUserID : UInt64) (draw : StatementDraw) :
    Db × (MeetingCall ⊕ MeetingResult) :=
  match db.markParticipantLeft meetingModel.id internalUserID draw.now with
  | .error .recordNotFound => (db, .inr .fallback)
  | .error err => (db, .inr (.leave (.error (.db err))))
  | .ok db => (db, .inl (.leaveList meetingModel internalUserID))

def leaveList (meetingModel : MeetingRow) (internalUserID : UInt64) :
    Db × (MeetingCall ⊕ MeetingResult) :=
  match db.listActiveParticipants meetingModel.id with
  | .error err => (db, .inr (.leave (.error (.db err))))
  | .ok active =>
    let remaining := active.length
    if remaining = 0 then (db, .inl (.leaveDelete meetingModel))
    else if meetingModel.hostUserID ≠ internalUserID then
      (db, .inr (.leave (.ok { hostChanged := false, newHost := none, remaining })))
    else (db, .inl (.leaveTransfer meetingModel remaining))

def leaveDelete (meetingModel : MeetingRow) : Db × (MeetingCall ⊕ MeetingResult) :=
  match db.deleteMeeting meetingModel.id with
  | .error err => (db, .inr (.leave (.error (.db err))))
  | .ok db =>
    (db, .inr (.leave (.ok { hostChanged := false, newHost := none, remaining := 0 })))

def leaveTransfer (meetingModel : MeetingRow) (remaining : Nat) :
    Db × (MeetingCall ⊕ MeetingResult) :=
  match db.transferHost meetingModel.id with
  | .error err => (db, .inr (.leave (.error (.db err))))
  | .ok (db, newHost) =>
    (db, .inr (.leave (.ok
      { hostChanged := true, newHost := some (participantFromRow lookupUser newHost), remaining })))

/-- The next statement of a call. -/
def MeetingCall.next (draw : StatementDraw) : MeetingCall → Db × (MeetingCall ⊕ MeetingResult)
  | .joinFind meetingID password userID => Store.joinFind db meetingID password userID
  | .joinList meetingModel userID => Store.joinList lookupUser db meetingModel userID
  | .joinAdd meetingModel internalUserID self =>
    Store.joinAdd db meetingModel internalUserID self draw
  | .joinLoad meetingModel self => Store.joinLoad lookupUser db meetingModel self
  | .leaveFind meetingID userID => Store.leaveFind db meetingID userID
  | .leaveMark meetingModel internalUserID => Store.leaveMark db meetingModel internalUserID draw
  | .leaveList meetingModel internalUserID => Store.leaveList db meetingModel internalUserID
  | .leaveDelete meetingModel => Store.leaveDelete db meetingModel
  | .leaveTransfer meetingModel remaining =>
    Store.leaveTransfer lookupUser db meetingModel remaining

end

end MeetingSystem.Impl.Store
