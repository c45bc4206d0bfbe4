import MeetingSystem.Impl.Signaling.SfuNodes

/-!
# The register of SFU nodes and its monitor

What Redis holds about an SFU node besides its load and its quarantine:
`ReportSFUNode`, `ReportSFUNodeStatus`, `ClearSFUNodeStatus` and
`RegisteredSFUNodes` of `store/redis.go`, and the `NodeStatusMonitor` of
`sfu/node_status_monitor.go`, which polls the nodes. Keys do not expire here.
A client is the RPC address it calls, as in `RoutedClient`.
-/

namespace MeetingSystem.Impl.Signaling

/-- The fields of `sfu_node_meta:<node>` that are read again. A number is the
one that `Atoi` gets back. -/
structure SFUNodeMeta where
  mediaAddress : String
  rpcAddress : String
  maxMeetings : Int
  deriving DecidableEq, Repr

/-- What a missing field of a hash reads as. -/
def SFUNodeMeta.blank : SFUNodeMeta := { mediaAddress := "", rpcAddress := "", maxMeetings := 0 }

structure SFUNodeStatus where
  sfuAddress : String
  mediaPort : UInt32
  roomCount : Int
  publisherCount : Int
  packetCount : UInt64
  updatedAtUnix : Int
  deriving DecidableEq, Repr

/-- `RedisRoomStore` with the keys about nodes. A hash that is not there is
`none`; `sfuNodes` is the set `sfu_nodes` in the order of `SMEMBERS`. -/
structure NodeStore where
  roomState : RoomState
  sfuNodes : List String
  sfuNodeMeta : String → Option SFUNodeMeta
  sfuRouteRPC : String → Option String
  sfuNodeStatus : String → Option SFUNodeStatus

namespace NodeStore

variable (r : NodeStore)

/-- `SADD sfu_nodes`. -/
def addSFUNode (nodeID : String) : List String :=
  if nodeID ∈ r.sfuNodes then r.sfuNodes else r.sfuNodes ++ [nodeID]

/-- The transaction of `ReportSFUNode`. -/
def reportTx (node : SFUNode) (status : SFUNodeStatus) : NodeStore :=
  { roomState := { r.roomState with
      redis := { r.roomState.redis with
        sfuNodeLoad :=
          Function.update r.roomState.redis.sfuNodeLoad node.nodeID status.roomCount } }
    sfuNodes := r.addSFUNode node.nodeID
    sfuNodeMeta := Function.update r.sfuNodeMeta node.nodeID
      (some
        { mediaAddress := node.mediaAddress, rpcAddress := node.rpcAddress
          maxMeetings := node.maxMeetings })
    sfuRouteRPC :=
      if node.mediaAddress ≠ "" ∧ node.rpcAddress ≠ "" then
        Function.update r.sfuRouteRPC node.mediaAddress (some node.rpcAddress)
      else r.sfuRouteRPC
    sfuNodeStatus := Function.update r.sfuNodeStatus node.nodeID (some status) }

/-- `ReportSFUNode`. `fault` is the error of the transaction, if it fails. -/
def reportSFUNode (fault : Option String) (unixTime : Int) (node : SFUNode)
    (status : SFUNodeStatus) : NodeStore × Option String :=
  if !r.roomState.enabled ∨ node.nodeID = "" then (r, none)
  else
    match fault with
    | some err => (r, some err)
    | none =>
      let status := if status.updatedAtUnix = 0 then { status with updatedAtUnix := unixTime }
        else status
      (r.reportTx node status, none)

def reportSFUNodeStatus (fault : Option String) (unixTime : Int) (nodeID : String)
    (status : SFUNodeStatus) : NodeStore × Option String :=
  r.reportSFUNode fault unixTime { nodeID, mediaAddress := "", rpcAddress := "", maxMeetings := 0 }
    status

def clearSFUNodeStatus (nodeID : String) : NodeStore :=
  if !r.roomState.enabled ∨ nodeID = "" then r
  else { r with sfuNodeStatus := Function.update r.sfuNodeStatus nodeID none }

/-- The node that is read back from its hash. -/
def registeredSFUNode (nodeID : String) : Option SFUNode :=
  if nodeID = "" then none
  else
    match r.sfuNodeMeta nodeID with
    | none => none
    | some values =>
      if values.mediaAddress = "" ∨ values.rpcAddress = "" then none
      else
        some
          { nodeID, mediaAddress := values.mediaAddress, rpcAddress := values.rpcAddress
            maxMeetings := values.maxMeetings }

/-- `RegisteredSFUNodes`, which takes the nodes without a hash out of the set.
`fault` is the error of the first command that fails. -/
def registeredSFUNodes (fault : Option String) : NodeStore × Except String (List SFUNode) :=
  if !r.roomState.enabled then (r, .ok [])
  else
    match fault with
    | some err => (r, .error err)
    | none =>
      let nodes := r.sfuNodes.filterMap r.registeredSFUNode
      ({ r with
          sfuNodes := r.sfuNodes.filter fun nodeID =>
            nodeID = "" ∨ (r.sfuNodeMeta nodeID).isSome },
        .ok (nodes.insertionSort fun a b => a.nodeID ≤ b.nodeID))

end NodeStore

/-! ## The monitor -/

/-- `GetNodeStatusRsp`. -/
structure GetNodeStatusRsp where
  success : Bool
  sfuAddress : String
  mediaPort : UInt32
  roomCount : UInt32
  publisherCount : UInt32
  packetCount : UInt64
  deriving DecidableEq

structure NodeStatusMonitor where
  cfg : SfuConfig
  sfuStatusPollInterval : Int
  clients : String → Option String

/-- What a poll of one node meets. `rsp` is `none` for an error and for no
response, `fault` is the error of Redis when the status is reported. -/
structure NodePoll where
  rsp : Option GetNodeStatusRsp
  fault : Option String
  unixTime : Int

/-- What a poll meets: the error of Redis when it lists the nodes, and what it
meets at the node at each place of that list. -/
structure Poll where
  listFault : Option String
  nodePoll : Nat → NodePoll

/-- The monitor and the store it writes to. -/
structure Polling where
  monitor : NodeStatusMonitor
  store : NodeStore

namespace NodeStatusMonitor

variable (m : NodeStatusMonitor)

/-- `clientForNode`, which keeps the clients it makes. -/
def clientForNode (node : SFUNode) : NodeStatusMonitor × Option String :=
  if node.nodeID = "" then (m, none)
  else
    match m.clients node.nodeID with
    | some client => (m, some client)
    | none =>
      if node.rpcAddress = "" then (m, none)
      else
        ({ m with clients := Function.update m.clients node.nodeID (some node.rpcAddress) },
          some node.rpcAddress)

/-- `monitorNodes`. -/
def monitorNodes (store : NodeStore) (fault : Option String) : NodeStore × List SFUNode :=
  let configured := m.cfg.configured
  let registered := store.registeredSFUNodes fault
  match registered.1.roomState.effectiveSFUNodes registered.2 configured with
  | .ok (node :: nodes) => (registered.1, node :: nodes)
  | _ =>
    (registered.1, if configured.isEmpty then m.cfg.effectiveSFUNodes else configured)

end NodeStatusMonitor

namespace Polling

def enabled (s : Polling) : Bool :=
  s.store.roomState.enabled ∧ 0 < s.monitor.sfuStatusPollInterval

/-- One round of the loop of `PollOnce`. -/
def pollNode (s : Polling) (polled : SFUNode × NodePoll) : Polling :=
  let node := polled.1
  let (monitor, client) := s.monitor.clientForNode node
  if node.nodeID = "" ∨ client = none then { s with monitor }
  else
    match polled.2.rsp.filter (·.success) with
    | none =>
      let roomState :=
        s.store.roomState.markSFUNodeFailure node.nodeID monitor.cfg.sfuNodeQuarantine
      { monitor, store := { s.store with roomState }.clearSFUNodeStatus node.nodeID }
    | some rsp =>
      let store := (s.store.reportSFUNodeStatus polled.2.fault polled.2.unixTime node.nodeID
        { sfuAddress := rsp.sfuAddress
          mediaPort := rsp.mediaPort
          roomCount := rsp.roomCount.toNat
          publisherCount := rsp.publisherCount.toNat
          packetCount := rsp.packetCount
          updatedAtUnix := polled.2.unixTime }).1
      { monitor, store := { store with
          roomState := store.roomState.clearSFUNodeFailure node.nodeID } }

/-- The nodes that a poll goes through, each with what is met there. -/
def polledNodes (s : Polling) (poll : Poll) : List (SFUNode × NodePoll) :=
  (s.monitor.monitorNodes s.store poll.listFault).2.mapIdx fun i node => (node, poll.nodePoll i)

def pollOnce (s : Polling) (poll : Poll) : Polling :=
  if s.enabled then
    (s.polledNodes poll).foldl pollNode
      { s with store := (s.monitor.monitorNodes s.store poll.listFault).1 }
  else s

end Polling

end MeetingSystem.Impl.Signaling
