import Mathlib.Data.Multiset.MapFold
import MeetingSystem.Impl.Store.MeetingLifecycle
import MeetingSystem.Proof.Store.Users
import MeetingSystem.Spec.Meetings

/-!
# What the callers of a meeting store see

The two implementations of `MeetingLifecycleStore` behind one set of calls.
Users are given by their numbers and appear to the stores under the id of that
number. A reply leaves out the time at which a meeting was created and the
order in which participants are listed.

* `memoryReply`, `repoReply`: the two stores;
* `render`: the reply to an answer of the specification, given the user table.
-/

namespace MeetingSystem.Proof.Store

open MeetingSystem.Framework MeetingSystem.Impl.Store

/-- What the database and the clock contribute to a call. -/
structure Draws where
  now : Int
  meetingID : UInt64
  participantID : UInt64

inductive Reply where
  | failed (err : LifecycleError)
  | created (meeting : Meeting) (host : Participant)
  | joined (meeting : Meeting) (participants : Multiset Participant) (self : Participant)
  | left (result : LeaveResult)
  | bool (b : Bool)
  | snapshot (meeting : Meeting) (participants : Multiset Participant)

/-- A meeting without the time of its creation. -/
def undated (meeting : Meeting) : Meeting := { meeting with createdAt := 0 }

/-! ## The results of the six methods -/

def createReply : Except LifecycleError (Meeting × Participant) → Reply
  | .error err => .failed err
  | .ok (meeting, host) => .created (undated meeting) host

def joinReply : Except LifecycleError (Meeting × List Participant × Participant) → Reply
  | .error err => .failed err
  | .ok (meeting, participants, self) => .joined (undated meeting) participants self

def leaveReply : Except LifecycleError LeaveResult → Reply
  | .error err => .failed err
  | .ok result => .left result

def boolReply : Except LifecycleError Bool → Reply
  | .error err => .failed err
  | .ok b => .bool b

def snapshotReply : Except LifecycleError (Meeting × List Participant) → Reply
  | .error err => .failed err
  | .ok (meeting, participants) => .snapshot (undated meeting) participants

/-! ## The two stores -/

/-- `CreateMeeting` of the in-memory store, with the number of the meeting given. -/
def createMeetingNo (s : MemoryStore) (meetingNo title password hostUserID : String)
    (maxParticipants : Int) (now : Int) :
    MemoryStore × Except StoreError (Meeting × Participant) :=
  s.createMeetingAt meetingNo title password hostUserID
    (if maxParticipants ≤ 0 then 16 else maxParticipants) now

theorem createMeeting_eq (s : MemoryStore) (title password hostUserID : String)
    (maxParticipants : Int) (r : Fin 9000) (now : Int) :
    s.createMeeting title password hostUserID maxParticipants r now =
      createMeetingNo (s.generateMeetingIDLocked r).1 (s.generateMeetingIDLocked r).2 title
        password hostUserID maxParticipants now := rfl

def memoryReply (s : MemoryStore) (d : Draws) : Spec.Call UInt64 → MemoryStore × Reply
  | .create number title password host maxParticipants =>
    let r := createMeetingNo s number title password (userIDFromUint64 host) maxParticipants d.now
    (r.1, createReply (r.2.mapError .store))
  | .join number password user =>
    let r := s.joinMeeting number password (userIDFromUint64 user)
    (r.1, joinReply (r.2.mapError .store))
  | .leave number user =>
    let r := s.leaveMeeting number (userIDFromUint64 user)
    (r.1, leaveReply (r.2.mapError .store))
  | .isHost number user =>
    (s, boolReply ((s.isMeetingHost number (userIDFromUint64 user)).mapError .store))
  | .hasParticipant number user =>
    (s, boolReply ((s.hasParticipant number (userIDFromUint64 user)).mapError .store))
  | .snapshot number => (s, snapshotReply ((s.snapshotMeeting number).mapError .store))

def repoReply (s : RepoMeetingStore) (d : Draws) : Spec.Call UInt64 → RepoMeetingStore × Reply
  | .create number title password host maxParticipants =>
    let r := s.createMeeting number title password (userIDFromUint64 host) maxParticipants
      d.meetingID d.participantID d.now
    (r.1, createReply r.2)
  | .join number password user =>
    let r := s.joinMeeting number password (userIDFromUint64 user) d.participantID d.now
    (r.1, joinReply r.2)
  | .leave number user =>
    let r := s.leaveMeeting number (userIDFromUint64 user) d.now
    (r.1, leaveReply r.2)
  | .isHost number user => (s, boolReply (s.isMeetingHost number (userIDFromUint64 user)))
  | .hasParticipant number user =>
    (s, boolReply (s.hasParticipant number (userIDFromUint64 user)))
  | .snapshot number => (s, snapshotReply (s.snapshotMeeting number))

/-! ## The specification -/

/-- The user table both stores look into. Row ids start at 1. -/
structure TableOk (users : UInt64 → Option User) : Prop where
  id : ∀ n user, users n = some user → user.id = userIDFromUint64 n
  displayName : ∀ n user, users n = some user → user.displayName ≠ ""
  zero : users 0 = none

def roomMeeting (room : Spec.Room UInt64) : Meeting :=
  { id := room.number, title := room.title, password := room.password
    hostUserID := userIDFromUint64 room.roster.leader
    maxParticipants := room.maxParticipants, createdAt := 0 }

section

variable (users : UInt64 → Option User)

def roomParticipant (room : Spec.Room UInt64) (n : UInt64) : Participant :=
  participantFromProfile (userIDFromUint64 n) (users n) (n = room.roster.leader)

def roomParticipants (room : Spec.Room UInt64) : Multiset Participant :=
  (room.roster.members.map (roomParticipant users room) : List Participant)

def refusalError : Spec.Refusal → StoreError
  | .userNotFound => .userNotFound
  | .meetingNotFound => .meetingNotFound
  | .meetingFull => .meetingFull
  | .passwordMismatch => .meetingPassFailed

def leftResult (hostChanged : Bool) : Option (Spec.Room UInt64) → LeaveResult
  | none => { hostChanged := false, newHost := none, remaining := 0 }
  | some rest =>
    { hostChanged
      newHost := if hostChanged then some (roomParticipant users rest rest.roster.leader) else none
      remaining := rest.roster.members.length }

def render : Spec.Answer UInt64 → Reply
  | .refused why => .failed (.store (refusalError why))
  | .created room host => .created (roomMeeting room) (roomParticipant users room host)
  | .joined room user =>
    .joined (roomMeeting room) (roomParticipants users room) (roomParticipant users room user)
  | .left rest hostChanged => .left (leftResult users hostChanged rest)
  | .bool b => .bool b
  | .snapshot room => .snapshot (roomMeeting room) (roomParticipants users room)

def known (n : UInt64) : Bool := (users n).isSome

/-- A store took a call as the specification did: `R` relates the states after
it, and the replies are the same. -/
structure Refines {S : Type*} (R : Spec.State UInt64 → S → Prop)
    (x : Spec.State UInt64 × Spec.Answer UInt64) (y : S × Reply) : Prop where
  rel : R x.1 y.1
  reply : y.2 = render users x.2

end

/-! ## User ids -/

theorem userIDFromUint64_injective : Function.Injective userIDFromUint64 := by
  intro a b h
  have h' := congrArg userIDToUint64 h
  rwa [userIDToUint64_fromUint64, userIDToUint64_fromUint64, Option.some.injEq] at h'

theorem userIDFromUint64_ne_empty (n : UInt64) : userIDFromUint64 n ≠ "" := by
  intro h
  have h' := congrArg utf8 h
  rw [utf8_userIDFromUint64] at h'
  exact List.cons_ne_nil _ _ h'

/-- The record a store makes from a row of the user table. -/
theorem TableOk.profile {users : UInt64 → Option User} (h : TableOk users) {n : UInt64}
    {user : User} (hn : users n = some user) (isHost : Bool) :
    participantFromProfile (userIDFromUint64 n) (some user) isHost =
      { userId := userIDFromUint64 n, displayName := user.displayName, avatarUrl := user.avatarURL,
        role := if isHost then 1 else 0, isAudioOn := true, isVideoOn := true,
        isSharing := false } := by
  have hid : user.id ≠ "" := by
    rw [h.id n user hn]
    exact userIDFromUint64_ne_empty n
  have hname := h.displayName n user hn
  simp only [participantFromProfile, ne_eq, hid, not_false_eq_true, if_true, hname, if_false]

end MeetingSystem.Proof.Store
