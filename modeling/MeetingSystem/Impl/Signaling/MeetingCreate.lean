import MeetingSystem.Impl.Signaling.Login
import MeetingSystem.Impl.Signaling.SfuNodes
import MeetingSystem.Impl.Store.MeetingLifecycle

/-!
# Creating a meeting

`HandleCreate`, `allocateRoomRoute` and `rollbackCreate` of
`signaling/handler/meeting_handler.go`, as far as they touch the meeting store,
Redis and the SFU servers. Which calls fail is an argument (`CreateDraw`); a
call that fails has no effect, except that the database-backed store creates a
meeting with two `INSERT`s. The calls of a roll-back succeed.
-/

namespace MeetingSystem.Impl.Signaling

open MeetingSystem.Framework MeetingSystem.Impl.Store

def errInternal : Int32 := 1002
def errMeetingNotFound : Int32 := 3001

/-! ## The meeting store -/

/-- The two implementations of `MeetingLifecycleStore`. -/
inductive LifecycleStore where
  | memory (s : MemoryStore)
  | repo (s : RepoMeetingStore)

/-- The `INSERT` of `CreateMeeting` that fails. -/
inductive InsertFault where
  | meeting (err : String)
  | participant (err : String)
  deriving DecidableEq, Repr

/-- What `CreateMeeting` draws: the random number, the time, and from the
database the ids of the two rows and which of the `INSERT`s fails. -/
structure StoreDraw where
  rand : Fin 9000
  now : Int
  meetingID : UInt64
  participantID : UInt64
  fault : Option InsertFault

inductive CreateError where
  | lifecycle (err : LifecycleError)
  | sql (err : String)
  deriving DecidableEq, Repr

namespace LifecycleStore

def fallback : LifecycleStore → MemoryStore
  | .memory s => s
  | .repo s => s.fallback

/-- The number of the next meeting. -/
def number (s : LifecycleStore) (d : StoreDraw) : String :=
  (s.fallback.generateMeetingIDLocked d.rand).2

/-- `CreateMeeting` of the database-backed store with an `INSERT` that may fail.
`meeting_no` has a unique index. -/
def createRow (s : RepoMeetingStore) (title password hostUserID : String) (maxParticipants : Int)
    (d : StoreDraw) : RepoMeetingStore × Except CreateError (Meeting × Participant) :=
  match s.lookupUser hostUserID with
  | none => (s, .error (.lifecycle (.store .userNotFound)))
  | some _ =>
    match userIDToUint64 hostUserID with
    | none => (s, .error (.lifecycle .userID))
    | some hostNumericID =>
      let meetingNo := (s.fallback.generateMeetingIDLocked d.rand).2
      let s := { s with fallback := (s.fallback.generateMeetingIDLocked d.rand).1 }
      if s.db.meetings.any fun row => row.meetingNo = meetingNo then
        (s, .error (.sql "Duplicate entry"))
      else
        match d.fault with
        | some (.meeting err) => (s, .error (.sql err))
        | some (.participant err) =>
          let meetingModel : MeetingRow :=
            { id := 0, meetingNo, title, hostUserID := hostNumericID, passwordHash := password,
              status := 0, maxParticipants := if maxParticipants ≤ 0 then 16 else maxParticipants,
              createdAt := 0 }
          match s.db.createMeeting meetingModel d.meetingID d.now with
          | .error err => (s, .error (.lifecycle (.db err)))
          | .ok (db, _) => ({ s with db }, .error (.sql err))
        | none =>
          let (s, result) := s.createMeeting meetingNo title password hostUserID maxParticipants
            d.meetingID d.participantID d.now
          (s, result.mapError .lifecycle)

def createMeeting (s : LifecycleStore) (title password hostUserID : String) (maxParticipants : Int)
    (d : StoreDraw) : LifecycleStore × Except CreateError (Meeting × Participant) :=
  match s with
  | .memory s =>
    let (s, result) := s.createMeeting title password hostUserID maxParticipants d.rand d.now
    (.memory s, result.mapError fun err => .lifecycle (.store err))
  | .repo s =>
    let (s, result) := createRow s title password hostUserID maxParticipants d
    (.repo s, result)

/-- `LeaveMeeting`, of which the roll-back only uses the effect. -/
def leaveMeeting (s : LifecycleStore) (meetingID userID : String) (now : Int) : LifecycleStore :=
  match s with
  | .memory s => .memory (s.leaveMeeting meetingID userID).1
  | .repo s => .repo (s.leaveMeeting meetingID userID now).1

end LifecycleStore

/-! ## The handler -/

/-- What `HandleCreate` reads and writes besides the session. -/
structure Backends where
  store : LifecycleStore
  roomState : RoomState
  fleet : Fleet

structure CreateDraw where
  store : StoreDraw
  /-- The answer of `RegisteredSFUNodes`. -/
  registered : Except String (List SFUNode)
  rankFault : Option String
  rpcAddressForRoute : String → Option String
  /-- The error of `CreateRoom` on the candidate in a place of the list. -/
  createRoomFault : Nat → Option String
  upsertFault : Option String
  addMemberFault : Option String
  unixTime : Int
  leaveTime : Int

structure MeetCreateReq where
  title : String
  password : String
  maxParticipants : Int
  deriving DecidableEq, Repr

structure MeetCreateRsp where
  success : Bool
  error : Option ErrorInfo := none
  meetingId : String := ""
  deriving DecidableEq, Repr

def MeetCreateRsp.failure (code : Int32) (message : String) : MeetCreateRsp :=
  { success := false, error := some { code, message } }

/-- `mapCreateErrorCode`. -/
def mapCreateErrorCode (err : CreateError) : Int32 :=
  if err = .lifecycle (.store .meetingNotFound) then errMeetingNotFound else errInternal

/-- The handler: its configuration, its SFU client if it has one, and the texts
of the store's errors. -/
structure MeetingHandler where
  cfg : SfuConfig
  sfuClient : Option RoutedClient
  errorText : CreateError → String

namespace MeetingHandler

variable (h : MeetingHandler)

/-- The nodes `allocateRoomRoute` starts with. -/
def nodes (r : RoomState) (d : CreateDraw) : Except String (List SFUNode) :=
  match r.effectiveSFUNodes d.registered h.cfg.configured with
  | .error err => .error err
  | .ok resolved => .ok (if resolved.isEmpty then h.cfg.effectiveSFUNodes else resolved)

/-- The loop of `allocateRoomRoute` from the candidate in place `i` on. -/
def allocateFrom (client : RoutedClient) (d : CreateDraw) (meetingID : String) :
    Nat → Backends → Option String → List SFUNode → Backends × Except String (String × String)
  | _, b, lastErr, [] =>
    (b, .error (lastErr.getD ("create sfu room " ++ meetingID ++ ": no available sfu nodes")))
  | i, b, _, candidate :: candidates =>
    let nodeID := candidate.nodeID
    let (fleet, rsp) := b.fleet.createRoom
      (client.clientForRoute d.rpcAddressForRoute candidate.mediaAddress) (d.createRoomFault i) meetingID
    let failed (err : String) :=
      allocateFrom client d meetingID (i + 1)
        { b with fleet, roomState := b.roomState.markSFUNodeFailure nodeID h.cfg.sfuNodeQuarantine }
        (some ("create sfu room " ++ meetingID ++ " on node " ++ nodeID ++ ": " ++ err)) candidates
    match rsp with
    | .disabled => ({ b with fleet }, .ok (nodeID, candidate.mediaAddress))
    | .failed err => failed err
    | .answered false _ => failed "unsuccessful response"
    | .answered true sfuAddress =>
      ({ b with fleet, roomState := b.roomState.clearSFUNodeFailure nodeID },
        .ok (nodeID, if sfuAddress ≠ "" then sfuAddress else candidate.mediaAddress))

/-- The candidates of the loop, or the error of ranking them. -/
def ranked (r : RoomState) (d : CreateDraw) (nodes : List SFUNode) :
    RoomState × Except String (List SFUNode) :=
  match r.rankedSFUNodes d.rankFault nodes with
  | (r, .error err) => (r, .error err)
  | (r, .ok []) => (r, .ok [h.cfg.defaultNode])
  | (r, .ok ranked) => (r, .ok ranked)

/-- `allocateRoomRoute`: the node and the media address, or an error. -/
def allocateRoomRoute (b : Backends) (d : CreateDraw) (meetingID : String) :
    Backends × Except String (String × String) :=
  match h.nodes b.roomState d with
  | .error err =>
    (b, .error ("resolve registered sfu nodes for meeting " ++ meetingID ++ ": " ++ err))
  | .ok nodes =>
    match h.sfuClient with
    | none =>
      match b.roomState.rankedSFUNodes d.rankFault nodes with
      | (roomState, .error err) =>
        ({ b with roomState }, .error ("select sfu node for meeting " ++ meetingID ++ ": " ++ err))
      | (roomState, .ok []) =>
        ({ b with roomState }, .ok (h.cfg.defaultSFUNodeID, h.cfg.defaultSFUAddress))
      | (roomState, .ok (selected :: _)) =>
        ({ b with roomState }, .ok (selected.nodeID, selected.mediaAddress))
    | some client =>
      match h.ranked b.roomState d nodes with
      | (roomState, .error err) =>
        ({ b with roomState }, .error ("rank sfu nodes for meeting " ++ meetingID ++ ": " ++ err))
      | (roomState, .ok ranked) => h.allocateFrom client d meetingID 0 { b with roomState } none ranked

/-- `rollbackCreate`. -/
def rollbackCreate (b : Backends) (meetingID userID : String) (now : Int) : Backends :=
  if meetingID = "" ∨ userID = "" then b
  else
    { b with store := b.store.leaveMeeting meetingID userID now
             roomState := b.roomState.deleteRoom meetingID }

/-- `HandleCreate`, from the decoded payload to the response. The session,
which a success moves into the meeting, is not part of it. -/
def handleCreate (b : Backends) (userID : String) (req : Option MeetCreateReq) (d : CreateDraw) :
    Backends × MeetCreateRsp :=
  match req with
  | none => (b, .failure errInvalidParam "bad request")
  | some req =>
    if req.title = "" then (b, .failure errInvalidParam "bad request")
    else
      match b.store.createMeeting req.title req.password userID req.maxParticipants d.store with
      | (store, .error err) =>
        ({ b with store }, .failure (mapCreateErrorCode err) (h.errorText err))
      | (store, .ok (meeting, hostParticipant)) =>
        match h.allocateRoomRoute { b with store } d meeting.id with
        | (b, .error err) =>
          (rollbackCreate b meeting.id userID d.leaveTime, .failure errInternal err)
        | (b, .ok (sfuNodeID, sfuAddress)) =>
          match b.roomState.upsertRoom d.upsertFault meeting.id hostParticipant.userId sfuNodeID
            sfuAddress d.unixTime with
          | (roomState, some err) =>
            (rollbackCreate { b with roomState } meeting.id userID d.leaveTime,
              .failure errInternal err)
          | (roomState, none) =>
            match roomState.addMember d.addMemberFault meeting.id hostParticipant.userId with
            | (roomState, some err) =>
              (rollbackCreate { b with roomState := roomState.deleteRoom meeting.id } meeting.id userID
                d.leaveTime, .failure errInternal err)
            | (roomState, none) =>
              ({ b with roomState }, { success := true, meetingId := meeting.id })

end MeetingHandler

end MeetingSystem.Impl.Signaling
