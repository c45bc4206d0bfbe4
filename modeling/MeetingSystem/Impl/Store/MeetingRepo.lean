import Mathlib.Data.List.Sort
import MeetingSystem.Impl.Store.Users

/-!
# The tables of meetings and participants

`signaling/store/meeting_repo.go` and `participant_repo.go` over a database.
A table is the list of its rows in the order they were inserted. Every SQL
statement succeeds; a transaction is one step. The id that `AUTO_INCREMENT`
gives an inserted row is an argument, as is the time.
-/

namespace MeetingSystem.Impl.Store

open MeetingSystem.Framework

/-- A row of the table `meetings`. -/
structure MeetingRow where
  id : UInt64
  meetingNo : String
  title : String
  hostUserID : UInt64
  passwordHash : String
  status : Int
  maxParticipants : Int
  createdAt : Int
  deriving DecidableEq, Repr

/-- A row of the table `meeting_participants`. -/
structure ParticipantRow where
  id : UInt64
  meetingID : UInt64
  userID : UInt64
  role : Int
  mediaState : Int
  joinedAt : Int
  leftAt : Option Int
  deriving DecidableEq, Repr

/-- The two tables, with the id that each of them gave last. -/
structure Db where
  meetings : List MeetingRow
  participants : List ParticipantRow
  lastMeetingID : UInt64
  lastParticipantID : UInt64

/-- The errors of the two repositories when every statement succeeds. -/
inductive DbError where
  | recordNotFound | invalidData
  deriving DecidableEq, Repr

/-- The condition `meeting_id = ? AND left_at IS NULL`. -/
def ParticipantRow.isActive (meetingID : UInt64) (row : ParticipantRow) : Bool :=
  row.meetingID = meetingID && row.leftAt = none

/-- The order `joined_at ASC, id ASC`. -/
def ParticipantRow.notAfter (a b : ParticipantRow) : Bool :=
  a.joinedAt < b.joinedAt || (a.joinedAt = b.joinedAt && a.id ≤ b.id)

/-- The test of the loop of `pickNextHostCandidate`. -/
def ParticipantRow.before (a b : ParticipantRow) : Bool :=
  a.joinedAt < b.joinedAt || (a.joinedAt = b.joinedAt && a.id < b.id)

def pickNextHostCandidate (participants : List ParticipantRow) : Option ParticipantRow :=
  least ParticipantRow.before participants

namespace Db

variable (db : Db)

/-! ## Meetings -/

def findByMeetingNo (meetingNo : String) : Except DbError MeetingRow :=
  if meetingNo = "" then .error .invalidData
  else
    match db.meetings.find? fun row => row.meetingNo = meetingNo with
    | some row => .ok row
    | none => .error .recordNotFound

/-- `CreateMeeting`: the table and the row with its id. -/
def createMeeting (meeting : MeetingRow) (id : UInt64) (now : Int) : Except DbError (Db × MeetingRow) :=
  if meeting.meetingNo = "" ∨ meeting.title = "" then .error .invalidData
  else
    let row := { meeting with
      id, createdAt := now
      maxParticipants := if meeting.maxParticipants ≤ 0 then 16 else meeting.maxParticipants }
    .ok ({ db with meetings := db.meetings ++ [row], lastMeetingID := id }, row)

def deleteMeeting (meetingID : UInt64) : Except DbError Db :=
  if meetingID = 0 then .error .invalidData
  else .ok { db with
    meetings := db.meetings.filter fun row => row.id ≠ meetingID
    participants := db.participants.filter fun row => row.meetingID ≠ meetingID }

/-! ## Participants -/

def addParticipant (participant : ParticipantRow) (id : UInt64) : Except DbError Db :=
  if participant.meetingID = 0 ∨ participant.userID = 0 then .error .invalidData
  else .ok { db with
    participants := db.participants ++ [{ participant with id, leftAt := none }]
    lastParticipantID := id }

/-- The rows `MarkParticipantLeft` updates. -/
def isActiveOf (meetingID userID : UInt64) (row : ParticipantRow) : Bool :=
  row.isActive meetingID && row.userID = userID

def markParticipantLeft (meetingID userID : UInt64) (now : Int) : Except DbError Db :=
  if meetingID = 0 ∨ userID = 0 then .error .invalidData
  else if db.participants.any (isActiveOf meetingID userID) then
    .ok { db with participants := db.participants.map fun row =>
            if isActiveOf meetingID userID row then { row with leftAt := some now } else row }
  else .error .recordNotFound

/-- The query of `ListActiveParticipants` and `TransferHost`. -/
def selectActive (meetingID : UInt64) : List ParticipantRow :=
  (db.participants.filter (·.isActive meetingID)).insertionSort (·.notAfter ·)

def listActiveParticipants (meetingID : UInt64) : Except DbError (List ParticipantRow) :=
  if meetingID = 0 then .error .invalidData else .ok (db.selectActive meetingID)

/-- `TransferHost`: the tables and the new host. -/
def transferHost (meetingID : UInt64) : Except DbError (Db × ParticipantRow) :=
  if meetingID = 0 then .error .invalidData
  else
    match db.meetings.find? fun row => row.id = meetingID with
    | none => .error .recordNotFound
    | some _ =>
      match pickNextHostCandidate (db.selectActive meetingID) with
      | none => .error .recordNotFound
      | some nextHost =>
        .ok ({ db with
            meetings := db.meetings.map fun row =>
              if row.id = meetingID then { row with hostUserID := nextHost.userID } else row
            participants := db.participants.map fun row =>
              if isActiveOf meetingID nextHost.userID row then { row with role := 1 } else row },
          { nextHost with role := 1 })

end Db

end MeetingSystem.Impl.Store
