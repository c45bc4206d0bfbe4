import Mathlib.Data.List.Sort
import MeetingSystem.Impl.Store.MessageRepo
import MeetingSystem.Impl.Store.RoomStore

/-!
# SFU nodes as the signaling server sees them

The nodes a room can be placed on: `EffectiveSFUNodes` of `config/config.go`,
`EffectiveSFUNodes` and `RankedSFUNodes` of `store/redis.go`, the client for a
route of `sfu/routed_client.go`, and what the SFU servers answer to
`CreateRoom`. What Redis answers to the queries is an argument.
-/

namespace MeetingSystem.Impl.Signaling

open MeetingSystem.Impl.Store

/-- `config.SFUNode`. -/
structure SFUNode where
  nodeID : String
  mediaAddress : String
  rpcAddress : String
  maxMeetings : Int := 0
  deriving DecidableEq, Repr

/-- The part of `config.Config` about SFU nodes. -/
structure SfuConfig where
  sfuNodes : List SFUNode
  defaultSFUNodeID : String
  defaultSFUAddress : String
  sfuRPCAddr : String
  sfuRouteRPCMap : String → Option String
  sfuNodeQuarantine : Int

namespace SfuConfig

variable (c : SfuConfig)

def defaultNode : SFUNode :=
  { nodeID := c.defaultSFUNodeID, mediaAddress := c.defaultSFUAddress, rpcAddress := c.sfuRPCAddr }

/-- One round of the loop of `EffectiveSFUNodes`. -/
def effectiveSFUNode (node : SFUNode) : Option SFUNode :=
  if node.nodeID = "" ∨ node.mediaAddress = "" then none
  else if node.rpcAddress = "" then
    match c.sfuRouteRPCMap node.mediaAddress with
    | some mapped => some { node with rpcAddress := mapped }
    | none =>
      if node.mediaAddress = c.defaultSFUAddress then some { node with rpcAddress := c.sfuRPCAddr }
      else some node
  else some node

def effectiveSFUNodes : List SFUNode :=
  let nodes := c.sfuNodes.filterMap c.effectiveSFUNode
  if nodes.isEmpty then [c.defaultNode] else nodes

/-- The `configured` of the two callers of the store's `EffectiveSFUNodes`. -/
def configured : List SFUNode :=
  if c.sfuNodes.isEmpty then [] else c.effectiveSFUNodes

end SfuConfig

/-! ## Redis -/

/-- The rooms in Redis, with what is kept there about the nodes. Without Redis
`sfuAllocSeq` is the counter of the process. -/
structure RoomState where
  enabled : Bool
  redis : Redis
  sfuNodeQuarantine : String → Bool
  sfuAllocSeq : UInt64

/-- The last of the nodes with the id of `node` is replaced by it. -/
def replaceLast (node : SFUNode) : List SFUNode → List SFUNode
  | [] => []
  | n :: nodes =>
    if n.nodeID = node.nodeID ∧ nodes.all (fun n => n.nodeID ≠ node.nodeID) then node :: nodes
    else n :: replaceLast node nodes

/-- A registered node goes in the place of the configured one with its id. -/
def mergeSFUNode (merged : List SFUNode) (node : SFUNode) : List SFUNode :=
  if merged.any (fun n => n.nodeID = node.nodeID) then replaceLast node merged else merged ++ [node]

structure SFUNodeRuntime where
  node : SFUNode
  load : Int
  quarantined : Bool
  rotationRank : Nat

def sfuNodePriorityTier (runtime : SFUNodeRuntime) : Nat :=
  let underCapacity := runtime.node.maxMeetings ≤ 0 ∨ runtime.load < runtime.node.maxMeetings
  if !runtime.quarantined ∧ underCapacity then 0
  else if !runtime.quarantined then 1
  else if underCapacity then 2
  else 3

/-- The test of the sort, as the order it sorts by. -/
def SFUNodeRuntime.notAfter (a b : SFUNodeRuntime) : Prop :=
  if sfuNodePriorityTier a ≠ sfuNodePriorityTier b then sfuNodePriorityTier a < sfuNodePriorityTier b
  else if a.load ≠ b.load then a.load < b.load
  else a.rotationRank ≤ b.rotationRank

instance : DecidableRel SFUNodeRuntime.notAfter := fun a b => by
  unfold SFUNodeRuntime.notAfter
  infer_instance

def rotateSFUNodes (nodes : List SFUNode) (start : Nat) : List SFUNode :=
  nodes.drop start ++ nodes.take start

namespace RoomState

variable (r : RoomState)

/-- `EffectiveSFUNodes`. `registered` is the answer of `RegisteredSFUNodes`. -/
def effectiveSFUNodes (registered : Except String (List SFUNode)) (configured : List SFUNode) :
    Except String (List SFUNode) :=
  if !r.enabled then .ok configured
  else
    match registered with
    | .error err => .error err
    | .ok registered =>
      if registered.isEmpty then .ok configured
      else
        .ok ((registered.filter fun node => node.nodeID ≠ "").foldl mergeSFUNode
          (configured.filter fun node => node.nodeID ≠ ""))

/-- `RankedSFUNodes`. `fault` is the error of the first command that fails. -/
def rankedSFUNodes (fault : Option String) (nodes : List SFUNode) :
    RoomState × Except String (List SFUNode) :=
  if nodes.isEmpty then (r, .ok [])
  else
    match r.enabled, fault with
    | true, some err => (r, .error err)
    | enabled, _ =>
      let start := r.sfuAllocSeq.toNat % nodes.length
      let r' := { r with sfuAllocSeq := r.sfuAllocSeq + 1 }
      if !enabled then (r', .ok (rotateSFUNodes nodes start))
      else
        let runtimes := nodes.mapIdx fun i node =>
          { node, load := max (r.redis.sfuNodeLoad node.nodeID) 0
            quarantined := r.sfuNodeQuarantine node.nodeID
            rotationRank := (i + nodes.length - start) % nodes.length : SFUNodeRuntime }
        (r', .ok ((runtimes.insertionSort SFUNodeRuntime.notAfter).map (·.node)))

/-- `MarkSFUNodeFailure`; the key's expiry is not modelled. -/
def markSFUNodeFailure (nodeID : String) (ttl : Int) : RoomState :=
  if !r.enabled ∨ nodeID = "" ∨ ttl ≤ 0 then r
  else { r with sfuNodeQuarantine := Function.update r.sfuNodeQuarantine nodeID true }

def clearSFUNodeFailure (nodeID : String) : RoomState :=
  if !r.enabled ∨ nodeID = "" then r
  else { r with sfuNodeQuarantine := Function.update r.sfuNodeQuarantine nodeID false }

/-- `UpsertRoom` without other calls in between. -/
def upsertRoom (fault : Option String) (meetingID hostUserID sfuNodeID sfuAddr : String)
    (unixTime : Int) : RoomState × Option String :=
  if !r.enabled then (r, none)
  else
    match fault with
    | some err => (r, some err)
    | none =>
      let prevNodeID := if meetingID ≠ "" then r.redis.sfuNodeIDOf meetingID else ""
      ({ r with redis := r.redis.upsertTx meetingID hostUserID sfuNodeID sfuAddr prevNodeID unixTime },
        none)

def addMember (fault : Option String) (meetingID userID : String) : RoomState × Option String :=
  if !r.enabled then (r, none)
  else
    match fault with
    | some err => (r, some err)
    | none =>
      let members := r.redis.roomMembers meetingID
      ({ r with redis := { r.redis with
          roomMembers := Function.update r.redis.roomMembers meetingID
            (if userID ∈ members then members else members ++ [userID])
          roomMember := fun m u => (m = meetingID && u = userID) || r.redis.roomMember m u } },
        none)

/-- `DeleteRoom` without other calls in between and without a failing command. -/
def deleteRoom (meetingID : String) : RoomState :=
  if !r.enabled then r
  else
    let nodeID := if meetingID ≠ "" then r.redis.sfuNodeIDOf meetingID else ""
    { r with redis := r.redis.deleteTx meetingID nodeID (r.redis.roomMembers meetingID) }

end RoomState

/-! ## SFU servers -/

/-- A client is the RPC address it calls, or disabled. -/
structure RoutedClient where
  defaultClient : Option String
  routeClients : String → Option (Option String)

/-- `ClientForRoute`. `rpcAddressForRoute` is what Redis holds for a route. -/
def RoutedClient.clientForRoute (c : RoutedClient) (rpcAddressForRoute : String → Option String)
    (route : String) : Option String :=
  let trimmedRoute := trimSpace route
  match c.routeClients trimmedRoute with
  | some client => client
  | none =>
    if trimmedRoute = "" then c.defaultClient
    else
      match rpcAddressForRoute trimmedRoute with
      | some rpcAddr => if trimSpace rpcAddr ≠ "" then some rpcAddr else c.defaultClient
      | none => c.defaultClient

/-- What a call of the SFU client returns: `ErrDisabled`, another error, or a
response that says whether it succeeded. -/
inductive RpcResult where
  | disabled
  | failed (err : String)
  | answered (success : Bool) (sfuAddress : String)
  deriving DecidableEq, Repr

/-- The rooms on every SFU server and the media address it announces, by RPC
address. -/
structure Fleet where
  rooms : String → List String
  advertisedAddress : String → String

/-- `CreateRoom`: the server does not create a room it has. A call that fails
has no effect. -/
def Fleet.createRoom (f : Fleet) (client : Option String) (fault : Option String)
    (meetingID : String) : Fleet × RpcResult :=
  match client with
  | none => (f, .disabled)
  | some addr =>
    match fault with
    | some err => (f, .failed err)
    | none =>
      if meetingID = "" ∨ meetingID ∈ f.rooms addr then
        (f, .answered false (f.advertisedAddress addr))
      else
        ({ f with rooms := Function.update f.rooms addr (meetingID :: f.rooms addr) },
          .answered true (f.advertisedAddress addr))

end MeetingSystem.Impl.Signaling
