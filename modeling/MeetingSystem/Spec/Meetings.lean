import Mathlib.Logic.Function.Basic
import MeetingSystem.Framework.Roster

/-!
# Meetings

What a store of meetings is for. A room has a roster, whose leader is the
host; users enter with the password while there is a place, and the room
closes behind the last one. How users are named and what else is known of
them plays no part.

`step` answers one call. `State.entries` counts how often somebody has
entered a room.
-/

namespace MeetingSystem.Spec

open MeetingSystem.Framework

variable {α : Type*}

structure Room (α : Type*) where
  number : String
  title : String
  password : String
  maxParticipants : Int
  roster : Roster α

structure State (α : Type*) where
  rooms : String → Option (Room α)
  entries : Nat

def State.init : State α := { rooms := fun _ => none, entries := 0 }

/-- A call by a user, or about one. -/
inductive Call (α : Type*) where
  | create (number title password : String) (host : α) (maxParticipants : Int)
  | join (number password : String) (user : α)
  | leave (number : String) (user : α)
  | isHost (number : String) (user : α)
  | hasParticipant (number : String) (user : α)
  | snapshot (number : String)

inductive Refusal where
  | userNotFound | meetingNotFound | meetingFull | passwordMismatch

inductive Answer (α : Type*) where
  | refused (why : Refusal)
  | created (room : Room α) (host : α)
  | joined (room : Room α) (user : α)
  /-- The room without the user, and whether its host changed. -/
  | left (rest : Option (Room α)) (hostChanged : Bool)
  | bool (b : Bool)
  | snapshot (room : Room α)

def State.set (st : State α) (number : String) (room : Option (Room α)) : State α :=
  { st with rooms := Function.update st.rooms number room }

/-- Somebody has entered a room. -/
def State.enter (st : State α) (number : String) (room : Room α) : State α :=
  { st.set number (some room) with entries := st.entries + 1 }

variable [DecidableEq α] (known : α → Bool) (st : State α)

def create (number title password : String) (host : α) (maxParticipants : Int) :
    State α × Answer α :=
  if known host then
    let room : Room α :=
      { number, title, password, roster := .single host
        maxParticipants := if maxParticipants ≤ 0 then 16 else maxParticipants }
    (st.enter number room, .created room host)
  else (st, .refused .userNotFound)

def join (number password : String) (user : α) : State α × Answer α :=
  match st.rooms number with
  | none => (st, .refused .meetingNotFound)
  | some room =>
    if room.password ≠ "" ∧ room.password ≠ password then (st, .refused .passwordMismatch)
    else if (room.roster.members.length : Int) ≥ room.maxParticipants then
      (st, .refused .meetingFull)
    else if h : user ∈ room.roster.members then (st, .joined room user)
    else if known user then
      let room := { room with roster := room.roster.add user h }
      (st.enter number room, .joined room user)
    else (st, .refused .userNotFound)

def leave (number : String) (user : α) : State α × Answer α :=
  match st.rooms number with
  | none => (st, .refused .meetingNotFound)
  | some room =>
    match room.roster.remove user with
    | none => (st.set number none, .left none false)
    | some roster =>
      let rest := { room with roster }
      (st.set number (some rest), .left (some rest) (room.roster.leader = user))

/-- The answer of a query about a room. -/
def query (number : String) (f : Room α → Answer α) : State α × Answer α :=
  match st.rooms number with
  | none => (st, .refused .meetingNotFound)
  | some room => (st, f room)

def step : Call α → State α × Answer α
  | .create number title password host maxParticipants =>
    create known st number title password host maxParticipants
  | .join number password user => join known st number password user
  | .leave number user => leave st number user
  | .isHost number user => query st number fun room => .bool (room.roster.leader = user)
  | .hasParticipant number user =>
    query st number fun room => .bool (user ∈ room.roster.members)
  | .snapshot number => query st number .snapshot

end MeetingSystem.Spec
