import MeetingSystem.Impl.Store.MeetingStatements

/-!
# A call that runs alone

Statement by statement, a call that nothing interrupts does what
`RepoMeetingStore.joinMeeting` or `RepoMeetingStore.leaveMeeting` does in one
step (`alone_joinMeeting`, `alone_leaveMeeting`).
-/

namespace MeetingSystem.Proof.Store

open MeetingSystem.Impl.Store

/-- A call to its end, by at most `fuel` statements. -/
def alone (lookupUser : String → Option User) (draw : StatementDraw) :
    Nat → Db → MeetingCall → Option (Db × MeetingResult)
  | 0, _, _ => none
  | fuel + 1, db, c =>
    match c.next lookupUser db draw with
    | (db, .inl c) => alone lookupUser draw fuel db c
    | (db, .inr result) => some (db, result)

section

variable (s : RepoMeetingStore) (meetingID password userID : String)

/-- The outcome of a join, with the fallback store's where it is left to it. -/
def joinOutcome : Option (Db × MeetingResult) →
    Option (RepoMeetingStore × Except LifecycleError (Meeting × List Participant × Participant))
  | some (db, .join result) => some ({ s with db }, result)
  | some (_, .fallback) =>
    some ({ s with fallback := (s.fallback.joinMeeting meetingID password userID).1 },
      (s.fallback.joinMeeting meetingID password userID).2.mapError .store)
  | _ => none

def leaveOutcome : Option (Db × MeetingResult) →
    Option (RepoMeetingStore × Except LifecycleError LeaveResult)
  | some (db, .leave result) => some ({ s with db }, result)
  | some (_, .fallback) =>
    some ({ s with fallback := (s.fallback.leaveMeeting meetingID userID).1 },
      (s.fallback.leaveMeeting meetingID userID).2.mapError .store)
  | _ => none

theorem alone_joinMeeting (draw : StatementDraw) :
    joinOutcome s meetingID password userID
        (alone s.lookupUser draw 4 s.db (.joinFind meetingID password userID)) =
      some (s.joinMeeting meetingID password userID draw.participantID draw.now) := by
  simp only [alone, MeetingCall.next, joinFind, RepoMeetingStore.joinMeeting]
  cases hfind : s.db.findByMeetingNo meetingID with
  | error err => cases err <;> rfl
  | ok row =>
    dsimp only
    by_cases hpass : (meetingFromModel row).password ≠ "" ∧
        (meetingFromModel row).password ≠ password
    · rw [if_pos hpass, if_pos hpass]
      rfl
    rw [if_neg hpass, if_neg hpass]
    dsimp only [joinList]
    cases hlist : s.db.listActiveParticipants row.id with
    | error err => rfl
    | ok participants =>
      dsimp only
      by_cases hfull : (participants.length : Int) ≥ (meetingFromModel row).maxParticipants
      · rw [if_pos hfull, if_pos hfull]
        rfl
      rw [if_neg hfull, if_neg hfull]
      cases hself : findParticipantByUserID participants userID s.lookupUser with
      | some existing =>
        simp only [RepoMeetingStore.loadParticipants, joinLoad, hlist]
        rfl
      | none =>
        dsimp only [RepoMeetingStore.joinNew]
        cases hprofile : s.lookupUser userID with
        | none => rfl
        | some profile =>
          dsimp only
          cases huser : userIDToUint64 userID with
          | none => rfl
          | some n =>
            dsimp only [joinAdd]
            cases hadd : s.db.addParticipant
                { id := 0, meetingID := row.id, userID := n, role := 0, mediaState := 0,
                  joinedAt := draw.now, leftAt := none } draw.participantID with
            | error err => rfl
            | ok db =>
              dsimp only [joinLoad, RepoMeetingStore.loadParticipants]
              cases hload : db.listActiveParticipants row.id <;> rfl

theorem alone_leaveMeeting (draw : StatementDraw) :
    leaveOutcome s meetingID userID
        (alone s.lookupUser draw 4 s.db (.leaveFind meetingID userID)) =
      some (s.leaveMeeting meetingID userID draw.now) := by
  simp only [alone, MeetingCall.next, leaveFind, RepoMeetingStore.leaveMeeting]
  cases hfind : s.db.findByMeetingNo meetingID with
  | error err => cases err <;> rfl
  | ok row =>
    dsimp only
    cases huser : userIDToUint64 userID with
    | none => rfl
    | some n =>
      dsimp only [leaveMark]
      cases hmark : s.db.markParticipantLeft row.id n draw.now with
      | error err => cases err <;> rfl
      | ok db =>
        dsimp only [leaveList, RepoMeetingStore.leaveMarked]
        cases hlist : db.listActiveParticipants row.id with
        | error err => rfl
        | ok active =>
          dsimp only
          by_cases hempty : active.length = 0
          · rw [if_pos hempty, if_pos hempty]
            dsimp only [leaveDelete]
            cases hdel : db.deleteMeeting row.id <;> rfl
          rw [if_neg hempty, if_neg hempty]
          by_cases hhost : row.hostUserID ≠ n
          · rw [if_pos hhost, if_pos hhost]
            rfl
          rw [if_neg hhost, if_neg hhost]
          dsimp only [leaveTransfer]
          cases htransfer : db.transferHost row.id with
          | error err => rfl
          | ok result => rfl

end

end MeetingSystem.Proof.Store
