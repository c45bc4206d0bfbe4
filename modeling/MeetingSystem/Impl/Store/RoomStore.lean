import Mathlib.Data.List.AList
import Mathlib.Data.String.Basic

/-!
# The rooms in Redis

`UpsertRoom`, `SwitchRoomRoute` and `DeleteRoom` of `signaling/store/redis.go`,
with Redis enabled. A call is a sequence of commands; a `MULTI`/`EXEC`
transaction is one of them. A command that fails changes nothing and ends the
call with an error.

`WATCH` makes a transaction fail if the watched key has been written since:
`version` counts the writes of every `room:` key.
-/

namespace MeetingSystem.Impl.Store

/-- The fields of a hash `room:<meeting id>`. -/
structure RoomHash where
  hostID : Option String := none
  muteAll : Option String := none
  sfuNodeID : Option String := none
  status : Option String := none
  createdAt : Option String := none
  deriving DecidableEq, Repr

/-- The keys that the three operations read or write. `room_member:` keys are
only there or not. -/
structure Redis where
  room : AList fun _ : String => RoomHash
  version : String → Nat
  sfuRoute : String → Option String
  sfuNodeLoad : String → Int
  roomMembers : String → List String
  roomMember : String → String → Bool

def Redis.empty : Redis :=
  { room := ∅, version := fun _ => 0, sfuRoute := fun _ => none, sfuNodeLoad := fun _ => 0
    roomMembers := fun _ => [], roomMember := fun _ _ => false }

/-- A call as it is made. -/
inductive RoomRequest where
  | upsertRoom (meetingID hostUserID sfuNodeID sfuAddr : String)
  | switchRoomRoute (meetingID expectedNodeID nextNodeID nextRoute : String)
  | deleteRoom (meetingID : String)
  deriving DecidableEq, Repr

/-- A call before one of its commands, with what it has read. -/
inductive RoomCall where
  | upsertGet (meetingID hostUserID sfuNodeID sfuAddr : String)
  | upsertExec (meetingID hostUserID sfuNodeID sfuAddr prevNodeID : String)
  | switchWatch (attempt : Nat) (meetingID expectedNodeID nextNodeID nextRoute : String)
  | switchGet (attempt watched : Nat) (meetingID expectedNodeID nextNodeID nextRoute : String)
  | switchExec (attempt watched : Nat) (meetingID expectedNodeID nextNodeID nextRoute : String)
      (currentNodeID : String)
  | deleteGet (meetingID : String)
  | deleteMembers (meetingID nodeID : String)
  | deleteExec (meetingID nodeID : String) (members : List String)
  deriving DecidableEq, Repr

inductive RoomResult where
  | failed
  | upserted
  | switched (b : Bool)
  | deleted
  deriving DecidableEq, Repr

/-- What a command meets: the time of day, and whether it fails. -/
structure RedisDraw where
  unixTime : Int
  fails : Bool
  deriving DecidableEq, Repr

def RoomRequest.entry : RoomRequest → RoomCall
  | .upsertRoom meetingID hostUserID sfuNodeID sfuAddr =>
    if meetingID ≠ "" then .upsertGet meetingID hostUserID sfuNodeID sfuAddr
    else .upsertExec meetingID hostUserID sfuNodeID sfuAddr ""
  | .switchRoomRoute meetingID expectedNodeID nextNodeID nextRoute =>
    .switchWatch 0 meetingID expectedNodeID nextNodeID nextRoute
  | .deleteRoom meetingID =>
    if meetingID ≠ "" then .deleteGet meetingID else .deleteMembers meetingID ""

namespace Redis

variable (r : Redis)

/-! ## Commands -/

/-- `HGET room:<meeting id> sfu_node_id`, with the empty text for a missing one. -/
def sfuNodeIDOf (meetingID : String) : String :=
  ((r.room.lookup meetingID).bind (·.sfuNodeID)).getD ""

def hset (meetingID : String) (f : RoomHash → RoomHash) : Redis :=
  { r with
    room := r.room.insert meetingID (f ((r.room.lookup meetingID).getD {}))
    version := Function.update r.version meetingID (r.version meetingID + 1) }

def delRoom (meetingID : String) : Redis :=
  { r with
    room := r.room.erase meetingID
    version := if meetingID ∈ r.room
      then Function.update r.version meetingID (r.version meetingID + 1) else r.version }

def setRoute (meetingID : String) (route : Option String) : Redis :=
  { r with sfuRoute := Function.update r.sfuRoute meetingID route }

def incrBy (nodeID : String) (n : Int) : Redis :=
  { r with sfuNodeLoad := Function.update r.sfuNodeLoad nodeID (r.sfuNodeLoad nodeID + n) }

/-- A room moves from one node to another, `""` for none. -/
def moveLoad (prevNodeID nextNodeID : String) : Redis :=
  if prevNodeID ≠ nextNodeID then
    let r := if prevNodeID ≠ "" then r.incrBy prevNodeID (-1) else r
    if nextNodeID ≠ "" then r.incrBy nextNodeID 1 else r
  else r

/-! ## Transactions -/

def upsertTx (meetingID hostUserID sfuNodeID sfuAddr prevNodeID : String) (unixTime : Int) : Redis :=
  let r := r.hset meetingID fun _ =>
    { hostID := some hostUserID, muteAll := some "0", sfuNodeID := some sfuNodeID,
      status := some "1", createdAt := some (toString unixTime) }
  let r := if sfuAddr ≠ "" then r.setRoute meetingID (some sfuAddr) else r
  r.moveLoad prevNodeID sfuNodeID

def switchTx (meetingID nextNodeID nextRoute currentNodeID : String) : Redis :=
  let r := r.hset meetingID fun room => { room with sfuNodeID := some nextNodeID }
  let r := r.setRoute meetingID (if nextRoute ≠ "" then some nextRoute else none)
  r.moveLoad currentNodeID nextNodeID

def deleteTx (meetingID nodeID : String) (members : List String) : Redis :=
  let r := { r with roomMembers := Function.update r.roomMembers meetingID [] }
  let r := (r.delRoom meetingID).setRoute meetingID none
  let r := if nodeID ≠ "" then r.incrBy nodeID (-1) else r
  { r with roomMember := fun m u => r.roomMember m u && !(m = meetingID && u ∈ members) }

end Redis

namespace RoomCall

/-- `SwitchRoomRoute` without a meeting id issues no command. -/
def isEmptySwitch : RoomCall → Bool
  | .switchWatch _ meetingID _ _ _ => meetingID = ""
  | _ => false

/-- A command that succeeds, and what the call does next. -/
def command (r : Redis) (unixTime : Int) : RoomCall → Redis × (RoomCall ⊕ RoomResult)
  | .upsertGet meetingID hostUserID sfuNodeID sfuAddr =>
    (r, .inl (.upsertExec meetingID hostUserID sfuNodeID sfuAddr (r.sfuNodeIDOf meetingID)))
  | .upsertExec meetingID hostUserID sfuNodeID sfuAddr prevNodeID =>
    (r.upsertTx meetingID hostUserID sfuNodeID sfuAddr prevNodeID unixTime, .inr .upserted)
  | .switchWatch attempt meetingID expectedNodeID nextNodeID nextRoute =>
    (r, .inl (.switchGet attempt (r.version meetingID) meetingID expectedNodeID nextNodeID nextRoute))
  | .switchGet attempt watched meetingID expectedNodeID nextNodeID nextRoute =>
    let currentNodeID := r.sfuNodeIDOf meetingID
    if expectedNodeID ≠ "" ∧ currentNodeID ≠ expectedNodeID then (r, .inr (.switched false))
    else
      (r, .inl (.switchExec attempt watched meetingID expectedNodeID nextNodeID nextRoute
        currentNodeID))
  | .switchExec attempt watched meetingID expectedNodeID nextNodeID nextRoute currentNodeID =>
    if r.version meetingID = watched then
      (r.switchTx meetingID nextNodeID nextRoute currentNodeID, .inr (.switched true))
    else if attempt + 1 < 3 then
      (r, .inl (.switchWatch (attempt + 1) meetingID expectedNodeID nextNodeID nextRoute))
    else (r, .inr (.switched false))
  | .deleteGet meetingID => (r, .inl (.deleteMembers meetingID (r.sfuNodeIDOf meetingID)))
  | .deleteMembers meetingID nodeID =>
    (r, .inl (.deleteExec meetingID nodeID (r.roomMembers meetingID)))
  | .deleteExec meetingID nodeID members => (r.deleteTx meetingID nodeID members, .inr .deleted)

/-- The next command of a call. -/
def next (r : Redis) (draw : RedisDraw) (c : RoomCall) : Redis × (RoomCall ⊕ RoomResult) :=
  if c.isEmptySwitch then (r, .inr (.switched true))
  else if draw.fails then (r, .inr .failed)
  else c.command r draw.unixTime

end RoomCall

end MeetingSystem.Impl.Store
