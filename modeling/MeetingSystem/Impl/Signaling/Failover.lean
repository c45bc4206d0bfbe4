import MeetingSystem.Impl.Signaling.SfuNodes

/-!
# Moving a room to another SFU node

`recoverPublisherRoute` of `signaling/handler/media_handler.go`: the route of a
meeting has failed, and its room is created on another node. What the SFU
clients and Redis answer is an argument (`RecoverDraw`); the result is what the
call has sent, in order, and what it returns. The recovery counters are left
out.
-/

namespace MeetingSystem.Impl.Signaling

/-- What `AddPublisher` and `DestroyRoom` return: `ErrDisabled`, another error,
or a response that says whether it succeeded. -/
inductive RpcAnswer where
  | disabled
  | failed (err : String)
  | answered (success : Bool)
  deriving DecidableEq, Repr

/-- What the loop meets at one candidate. -/
structure CandidateAnswers where
  createRoom : RpcResult
  addPublisher : RpcAnswer
  destroyRoom : RpcAnswer
  switchRoomRoute : Except String Bool
  /-- The `sfu_node_id` of `RoomMetadata`, if there is a record. -/
  latestMeta : Except String (Option String)
  /-- `AddPublisher` on the route that the room has by then. -/
  retry : RpcAnswer

/-- The stages of a route status. -/
inductive RouteStage where
  | switching | switched | failed
  deriving DecidableEq, Repr

inductive RecoveryEvent where
  /-- `CreateRoom` to the candidate in a place of the list, and whether it succeeded. -/
  | createRoom (place : Nat) (candidate : SFUNode) (maxPublishers : Int) (success : Bool)
  | destroyRoom (candidate : SFUNode)
  | markSFUNodeFailure (nodeID : String)
  | clearSFUNodeFailure (nodeID : String)
  | routeStatus (stage : RouteStage) (message fromNodeID toNodeID route : String)
  deriving DecidableEq, Repr

/-- What a call has done: what it sent, its error, and the node to which it has
routed the room. -/
structure Recovery where
  events : List RecoveryEvent := []
  error : Option String := none
  switchedTo : Option String := none
  deriving DecidableEq, Repr

def Recovery.after (r : Recovery) (events : List RecoveryEvent) : Recovery :=
  { r with events := events ++ r.events }

structure RecoverDraw where
  enabled : Bool
  meetingID : String
  /-- `AddPublisher` with the local lock held. -/
  retry : RpcAnswer
  /-- Whether `acquireDistributedRecoveryLock` has the lock. -/
  acquired : Bool
  /-- `AddPublisher` with the distributed lock held. -/
  lockedRetry : RpcAnswer
  /-- The `sfu_node_id` of `RoomMetadata`, if there is a record. -/
  roomMeta : Except String (Option String)
  /-- `MaxParticipants` of `SnapshotMeeting`. -/
  maxParticipants : Option Int
  /-- The result of `recoveryCandidates`. -/
  ranked : Except String (List SFUNode)
  answers : Nat → CandidateAnswers

/-- The error of an RPC with a response that reports no success. -/
def RpcAnswer.text : RpcAnswer → String
  | .failed err => err
  | _ => "unsuccessful response"

/-- What a failed `DestroyRoom` adds to the error. -/
def rollbackText (nodeID : String) : RpcAnswer → Option String
  | .answered true => none
  | .disabled => some ("rollback destroy room on node " ++ nodeID ++ ": sfu rpc client disabled")
  | answer => some ("rollback destroy room on node " ++ nodeID ++ ": " ++ answer.text)

def joinText (err : String) : Option String → String
  | none => err
  | some more => err ++ "; " ++ more

/-- The latest metadata name a node, and not the candidate. -/
def CandidateAnswers.pointsElsewhere (a : CandidateAnswers) (candidate : SFUNode) : Bool :=
  match a.latestMeta with
  | .ok (some nodeID) => nodeID ≠ "" && nodeID ≠ candidate.nodeID
  | _ => false

/-- The loop of `recoverPublisherRoute` from the candidate in place `i` on;
`fromNodeID` is the node whose route has failed. -/
def recoverFrom (answers : Nat → CandidateAnswers) (maxPublishers : Int) (fromNodeID : String) :
    Nat → Option String → List SFUNode → Recovery
  | _, lastErr, [] =>
    { events := [.routeStatus .failed "SFU media route recovery failed" fromNodeID "" ""]
      error := lastErr }
  | i, lastErr, candidate :: candidates =>
    let next (err : Option String) := recoverFrom answers maxPublishers fromNodeID (i + 1) err candidates
    let nodeID := candidate.nodeID
    if nodeID = "" ∨ candidate.mediaAddress = "" then next lastErr
    else if fromNodeID ≠ "" ∧ nodeID = fromNodeID then next lastErr
    else
      let a := answers i
      let notCreated (err : String) :=
        (next (some ("create recovery room on node " ++ nodeID ++ ": " ++ err))).after
          [.createRoom i candidate maxPublishers false, .markSFUNodeFailure nodeID]
      match a.createRoom with
      | .disabled => { events := [.createRoom i candidate maxPublishers false] }
      | .failed err => notCreated err
      | .answered false _ => notCreated "unsuccessful response"
      | .answered true sfuAddress =>
        let created := RecoveryEvent.createRoom i candidate maxPublishers true
        let notAdded (err : String) :=
          (next (some (joinText ("add publisher on recovery node " ++ nodeID ++ ": " ++ err)
            (rollbackText nodeID a.destroyRoom)))).after
            [created, .destroyRoom candidate, .markSFUNodeFailure nodeID]
        match a.addPublisher with
        | .disabled => { events := [created] }
        | .failed err => notAdded err
        | .answered false => notAdded "unsuccessful response"
        | .answered true =>
          let nextRoute := if sfuAddress ≠ "" then sfuAddress else candidate.mediaAddress
          match a.switchRoomRoute with
          | .error err =>
            (next (some ("update recovery room route to node " ++ nodeID ++ ": " ++ err))).after [created]
          | .ok false =>
            let events :=
              if a.pointsElsewhere candidate then [created, .destroyRoom candidate] else [created]
            let rollbackErr :=
              if a.pointsElsewhere candidate then rollbackText nodeID a.destroyRoom else none
            let err := "room route switched concurrently while failing over to node " ++ nodeID
            match a.retry with
            | .disabled => { events }
            | .answered true => { events }
            | .failed retryErr =>
              (next (some (joinText (err ++ ": " ++ retryErr) rollbackErr))).after events
            | .answered false => (next (some (joinText err rollbackErr))).after events
          | .ok true =>
            { events :=
                [created, .clearSFUNodeFailure nodeID,
                 .routeStatus .switched ("SFU media route switched to " ++ nextRoute) fromNodeID nodeID
                   nextRoute]
              switchedTo := some nodeID }

/-- `recoverPublisherRoute`. -/
def recoverPublisherRoute (d : RecoverDraw) : Recovery :=
  if !d.enabled ∨ d.meetingID = "" then {}
  else if d.retry = .disabled ∨ d.retry = .answered true then {}
  -- another signaling node is at it: one more `AddPublisher`, whatever it answers
  else if !d.acquired then {}
  else if d.lockedRetry = .disabled ∨ d.lockedRetry = .answered true then {}
  else
    match d.roomMeta with
    | .error _ => {}
    | .ok none => {}
    | .ok (some fromNodeID) =>
      let marked : List RecoveryEvent :=
        if fromNodeID ≠ "" then [.markSFUNodeFailure fromNodeID] else []
      let maxPublishers := match d.maxParticipants with
        | some n => if n > 0 then n else 16
        | none => 16
      match d.ranked with
      | .error _ =>
        { events := marked ++
            [.routeStatus .failed "SFU media route recovery failed" fromNodeID "" ""] }
      | .ok [] =>
        { events := marked ++
            [.routeStatus .failed "SFU media route recovery failed: no healthy backup node" fromNodeID
              "" ""] }
      | .ok ranked =>
        (recoverFrom d.answers maxPublishers fromNodeID 0 none ranked).after
          (marked ++ [.routeStatus .switching "Switching SFU media route" fromNodeID "" ""])

end MeetingSystem.Impl.Signaling
