import MeetingSystem.Framework.Run
import MeetingSystem.Impl.Signaling.NodeStatusMonitor

/-!
# Polling and the register of nodes

The monitor means to report the status of a node alone, but
`ReportSFUNodeStatus` goes through `ReportSFUNode`, which writes the whole
`sfu_node_meta` hash: with an empty media address, an empty RPC address and no
limit. `registration_polled`: polling keeps the register if and only if no node
with something in its hash answers with success.
-/

namespace MeetingSystem.Proof.Signaling

open MeetingSystem.Framework MeetingSystem.Impl.Signaling

variable {r r' r'' : NodeStore}

/-! ## The property -/

/-- What is registered for a node. -/
def registration (r : NodeStore) (nodeID : String) : SFUNodeMeta :=
  (r.sfuNodeMeta nodeID).getD .blank

structure SameRegister (r r' : NodeStore) : Prop where
  fields : ∀ nodeID, registration r' nodeID = registration r nodeID
  nodes : (r'.registeredSFUNodes none).2 = (r.registeredSFUNodes none).2

/-! ## When it is kept -/

/-- The status of a polled node is reported. -/
def Reported (s : Polling) (polled : SFUNode × NodePoll) : Prop :=
  s.store.roomState.enabled = true ∧ (s.monitor.clientForNode polled.1).2.isSome = true ∧
    (polled.2.rsp.any (·.success)) = true ∧ polled.2.fault = none

/-- Nothing is registered for the node if it answers. -/
def LeavesNode (s : Polling) (polled : SFUNode × NodePoll) : Prop :=
  Reported s polled → registration s.store polled.1.nodeID = .blank

def LeavesRegister (s : Polling) (poll : Poll) : Prop :=
  s.enabled = true →
    Along Polling.pollNode LeavesNode
      { s with store := (s.monitor.monitorNodes s.store poll.listFault).1 } (s.polledNodes poll)

/-! ## The register -/

theorem SameRegister.refl (r : NodeStore) : SameRegister r r := ⟨fun _ => rfl, rfl⟩

theorem SameRegister.trans (h : SameRegister r r') (h' : SameRegister r' r'') :
    SameRegister r r'' :=
  ⟨fun nodeID => (h'.fields nodeID).trans (h.fields nodeID), h'.nodes.trans h.nodes⟩

/-- Something was registered for a node that nothing is registered for any more. -/
def Lost (r r' : NodeStore) : Prop :=
  ∃ nodeID, registration r nodeID ≠ .blank ∧ registration r' nodeID = .blank

/-- What is registered is kept or lost, node by node. -/
def Fades (r r' : NodeStore) : Prop :=
  ∀ nodeID, registration r' nodeID = registration r nodeID ∨ registration r' nodeID = .blank

theorem SameRegister.fades (h : SameRegister r r') : Fades r r' := fun nodeID =>
  .inl (h.fields nodeID)

theorem Fades.trans (h : Fades r r') (h' : Fades r' r'') : Fades r r'' := by
  intro nodeID
  rcases h' nodeID with heq | hblank
  · rw [heq]
    exact h nodeID
  · exact .inr hblank

theorem Lost.not_same (h : Lost r r') : ¬ SameRegister r r' := by
  obtain ⟨nodeID, hne, hblank⟩ := h
  intro hsame
  exact hne ((hsame.fields nodeID).symm.trans hblank)

theorem Lost.of_same (h : SameRegister r r') (h' : Lost r' r'') : Lost r r'' := by
  obtain ⟨nodeID, hne, hblank⟩ := h'
  exact ⟨nodeID, by rwa [← h.fields nodeID], hblank⟩

theorem Lost.fades (h : Lost r r') (h' : Fades r' r'') : Lost r r'' := by
  obtain ⟨nodeID, hne, hblank⟩ := h
  refine ⟨nodeID, hne, ?_⟩
  rcases h' nodeID with heq | hblank'
  · rw [heq, hblank]
  · exact hblank'

/-- The nodes that are read back, in the order of the set. -/
def listedNodes (r : NodeStore) : List SFUNode := r.sfuNodes.filterMap r.registeredSFUNode

theorem SameRegister.of_eq (henabled : r'.roomState.enabled = r.roomState.enabled)
    (hmeta : ∀ nodeID, registration r' nodeID = registration r nodeID)
    (hlisted : listedNodes r' = listedNodes r) : SameRegister r r' := by
  refine ⟨hmeta, ?_⟩
  simp only [NodeStore.registeredSFUNodes, henabled]
  cases r.roomState.enabled with
  | false => rfl
  | true =>
    show Except.ok ((listedNodes r').insertionSort _) = Except.ok ((listedNodes r).insertionSort _)
    rw [hlisted]

/-- What is read back depends on the registration alone. -/
theorem registeredSFUNode_eq (r : NodeStore) (nodeID : String) :
    r.registeredSFUNode nodeID =
      if nodeID = "" ∨ (registration r nodeID).mediaAddress = "" ∨
          (registration r nodeID).rpcAddress = "" then none
      else
        some
          { nodeID, mediaAddress := (registration r nodeID).mediaAddress
            rpcAddress := (registration r nodeID).rpcAddress
            maxMeetings := (registration r nodeID).maxMeetings } := by
  simp only [NodeStore.registeredSFUNode, registration]
  by_cases hid : nodeID = ""
  · simp [hid]
  · rcases Option.eq_none_or_eq_some (r.sfuNodeMeta nodeID) with hm | ⟨values, hm⟩
    · simp [hm, SFUNodeMeta.blank]
    · simp [hm, hid]

theorem registeredSFUNode_congr {nodeID : String}
    (h : registration r' nodeID = registration r nodeID) :
    r'.registeredSFUNode nodeID = r.registeredSFUNode nodeID := by
  rw [registeredSFUNode_eq, registeredSFUNode_eq, h]

theorem registeredSFUNode_blank {nodeID : String} (h : registration r nodeID = .blank) :
    r.registeredSFUNode nodeID = none := by
  rw [registeredSFUNode_eq, h]
  simp [SFUNodeMeta.blank]

/-! ## One node -/

@[simp] theorem clearSFUNodeStatus_frame (r : NodeStore) (nodeID : String) :
    (r.clearSFUNodeStatus nodeID).roomState = r.roomState ∧
      (r.clearSFUNodeStatus nodeID).sfuNodes = r.sfuNodes ∧
      (r.clearSFUNodeStatus nodeID).sfuNodeMeta = r.sfuNodeMeta := by
  simp only [NodeStore.clearSFUNodeStatus]
  split <;> exact ⟨rfl, rfl, rfl⟩

@[simp] theorem markSFUNodeFailure_enabled (r : RoomState) (nodeID : String) (ttl : Int) :
    (r.markSFUNodeFailure nodeID ttl).enabled = r.enabled := by
  simp only [RoomState.markSFUNodeFailure]
  split <;> rfl

@[simp] theorem clearSFUNodeFailure_enabled (r : RoomState) (nodeID : String) :
    (r.clearSFUNodeFailure nodeID).enabled = r.enabled := by
  simp only [RoomState.clearSFUNodeFailure]
  split <;> rfl

/-- A report that Redis does not take. -/
theorem reportSFUNode_failed {r : NodeStore} {fault : Option String}
    (h : ¬ (r.roomState.enabled = true ∧ fault = none)) (now : Int) (node : SFUNode)
    (status : SFUNodeStatus) : (r.reportSFUNode fault now node status).1 = r := by
  simp only [NodeStore.reportSFUNode]
  split
  · rfl
  · rename_i hcall
    cases fault with
    | some err => rfl
    | none => exact absurd ⟨by simpa using (not_or.mp hcall).1, rfl⟩ h

section OneNode

variable {s : Polling} {polled : SFUNode × NodePoll}

theorem clientForNode_named (m : NodeStatusMonitor) {node : SFUNode}
    (h : (m.clientForNode node).2.isSome = true) : node.nodeID ≠ "" := by
  intro hid
  simp [NodeStatusMonitor.clientForNode, hid] at h

theorem pollNode_reported (h : Reported s polled) :
    (s.pollNode polled).store.roomState.enabled = s.store.roomState.enabled ∧
      (s.pollNode polled).store.sfuNodes = s.store.addSFUNode polled.1.nodeID ∧
      (s.pollNode polled).store.sfuNodeMeta =
        Function.update s.store.sfuNodeMeta polled.1.nodeID (some .blank) := by
  obtain ⟨henabled, hclient, hrsp, hfault⟩ := h
  have hid := clientForNode_named s.monitor hclient
  obtain ⟨client, hc⟩ := Option.isSome_iff_exists.mp hclient
  obtain ⟨rsp, hr, hsuccess⟩ := (Option.any_eq_true _ _).mp hrsp
  have hanswer : polled.2.rsp.filter (·.success) = some rsp := by
    rw [hr]
    exact Option.filter_some_pos hsuccess
  simp only [Polling.pollNode, hc, hanswer, hid, hfault, NodeStore.reportSFUNodeStatus,
    NodeStore.reportSFUNode, henabled, RoomState.clearSFUNodeFailure]
  simp [NodeStore.reportTx, SFUNodeMeta.blank, henabled]

theorem pollNode_unreported (h : ¬ Reported s polled) :
    (s.pollNode polled).store.roomState.enabled = s.store.roomState.enabled ∧
      (s.pollNode polled).store.sfuNodes = s.store.sfuNodes ∧
      (s.pollNode polled).store.sfuNodeMeta = s.store.sfuNodeMeta := by
  obtain hc | ⟨client, hc⟩ := Option.eq_none_or_eq_some (s.monitor.clientForNode polled.1).2
  · simp [Polling.pollNode, hc]
  · have hid : polled.1.nodeID ≠ "" := clientForNode_named s.monitor (by rw [hc]; rfl)
    obtain hr | ⟨rsp, hr⟩ := Option.eq_none_or_eq_some (polled.2.rsp.filter (·.success))
    · simp [Polling.pollNode, hc, hr, hid]
    · have hanswer : polled.2.rsp.any (·.success) = true := by
        obtain ⟨hrsp, hsuccess⟩ := Option.filter_eq_some_iff.mp hr
        rw [hrsp]
        exact hsuccess
      have hfailed : ¬ (s.store.roomState.enabled = true ∧ polled.2.fault = none) := fun h' =>
        h ⟨h'.1, by rw [hc]; rfl, hanswer, h'.2⟩
      simp [Polling.pollNode, hc, hr, hid, NodeStore.reportSFUNodeStatus,
        reportSFUNode_failed hfailed]

theorem registration_reported (h : Reported s polled) (nodeID : String) :
    registration (s.pollNode polled).store nodeID =
      if nodeID = polled.1.nodeID then .blank else registration s.store nodeID := by
  rw [registration, (pollNode_reported h).2.2]
  by_cases hid : nodeID = polled.1.nodeID
  · simp [hid]
  · simp [hid, registration]

theorem pollNode_same (h : LeavesNode s polled) :
    SameRegister s.store (s.pollNode polled).store := by
  by_cases hreported : Reported s polled
  · have hblank := h hreported
    have hfields (nodeID : String) :
        registration (s.pollNode polled).store nodeID = registration s.store nodeID := by
      rw [registration_reported hreported]
      split
      · rename_i hid
        rw [hid, hblank]
      · rfl
    obtain ⟨henabled, hset, -⟩ := pollNode_reported hreported
    refine .of_eq henabled hfields ?_
    have hread : (s.pollNode polled).store.registeredSFUNode = s.store.registeredSFUNode :=
      funext fun nodeID => registeredSFUNode_congr (hfields nodeID)
    rw [listedNodes, listedNodes, hset, hread, NodeStore.addSFUNode]
    split
    · rfl
    · simp [registeredSFUNode_blank hblank]
  · obtain ⟨henabled, hset, hmeta⟩ := pollNode_unreported hreported
    have hfields (nodeID : String) :
        registration (s.pollNode polled).store nodeID = registration s.store nodeID := by
      rw [registration, registration, hmeta]
    refine .of_eq henabled hfields ?_
    rw [listedNodes, listedNodes, hset]
    exact List.filterMap_congr fun nodeID _ => registeredSFUNode_congr (hfields nodeID)

theorem pollNode_lost (h : ¬ LeavesNode s polled) : Lost s.store (s.pollNode polled).store := by
  obtain ⟨hreported, hne⟩ := Classical.not_imp.mp h
  exact ⟨polled.1.nodeID, hne, by rw [registration_reported hreported, if_pos rfl]⟩

theorem pollNode_fades (s : Polling) (polled : SFUNode × NodePoll) :
    Fades s.store (s.pollNode polled).store := by
  by_cases h : LeavesNode s polled
  · exact (pollNode_same h).fades
  · obtain ⟨hreported, -⟩ := Classical.not_imp.mp h
    intro nodeID
    rw [registration_reported hreported]
    split
    · exact .inr rfl
    · exact .inl rfl

end OneNode

/-! ## One poll -/

theorem registeredSFUNodes_same (r : NodeStore) (fault : Option String) :
    SameRegister r (r.registeredSFUNodes fault).1 := by
  simp only [NodeStore.registeredSFUNodes]
  split
  · exact .refl r
  · cases fault with
    | some err => exact .refl r
    | none =>
      refine .of_eq rfl (fun _ => rfl) ?_
      show (r.sfuNodes.filter _).filterMap r.registeredSFUNode = _
      rw [List.filterMap_filter]
      refine List.filterMap_congr fun nodeID _ => ?_
      split
      · rfl
      · rename_i hmeta
        simp only [not_or, Option.not_isSome_iff_eq_none, decide_eq_true_eq] at hmeta
        exact (registeredSFUNode_blank (by simp [registration, hmeta.2])).symm

theorem monitorNodes_fst (m : NodeStatusMonitor) (r : NodeStore) (fault : Option String) :
    (m.monitorNodes r fault).1 = (r.registeredSFUNodes fault).1 := by
  simp only [NodeStatusMonitor.monitorNodes]
  split <;> rfl

/-- Before the first node is polled. -/
def listedPolling (s : Polling) (poll : Poll) : Polling :=
  { s with store := (s.monitor.monitorNodes s.store poll.listFault).1 }

theorem listedPolling_same (s : Polling) (poll : Poll) :
    SameRegister s.store (listedPolling s poll).store := by
  simp only [listedPolling, monitorNodes_fst]
  exact registeredSFUNodes_same s.store poll.listFault

theorem pollOnce_enabled {s : Polling} (h : s.enabled = true) (poll : Poll) :
    s.pollOnce poll = run Polling.pollNode (listedPolling s poll) (s.polledNodes poll) :=
  if_pos h

theorem pollOnce_disabled {s : Polling} (h : ¬ s.enabled = true) (poll : Poll) :
    s.pollOnce poll = s := if_neg h

theorem pollOnce_same {s : Polling} {poll : Poll} (h : LeavesRegister s poll) :
    SameRegister s.store (s.pollOnce poll).store := by
  by_cases henabled : s.enabled = true
  · rw [pollOnce_enabled henabled]
    refine (listedPolling_same s poll).trans ?_
    exact Along.same (fun s s' : Polling => SameRegister s.store s'.store) (fun s => .refl s.store)
      .trans (fun s polled => pollNode_same) (h henabled)
  · rw [pollOnce_disabled henabled]
    exact .refl s.store

theorem pollOnce_lost {s : Polling} {poll : Poll} (h : ¬ LeavesRegister s poll) :
    Lost s.store (s.pollOnce poll).store := by
  obtain ⟨henabled, hnodes⟩ := Classical.not_imp.mp h
  rw [pollOnce_enabled henabled]
  refine .of_same (listedPolling_same s poll) ?_
  exact lost_of_not_along (fun s s' : Polling => SameRegister s.store s'.store)
    (fun s s' : Polling => Lost s.store s'.store) (fun s polled => pollNode_same)
    (fun s polled => pollNode_lost) .of_same
    (fun polled hlost => hlost.fades (pollNode_fades _ polled)) hnodes

theorem pollOnce_fades (s : Polling) (poll : Poll) : Fades s.store (s.pollOnce poll).store := by
  by_cases henabled : s.enabled = true
  · rw [pollOnce_enabled henabled]
    exact run_inv (P := fun s' : Polling => Fades s.store s'.store)
      (fun s' polled hs' => hs'.trans (pollNode_fades s' polled)) (listedPolling_same s poll).fades _
  · rw [pollOnce_disabled henabled]
    exact (SameRegister.refl s.store).fades

/-! ## Polling -/

/-- The polls leave what is registered and what is read back of it as they
were if and only if whenever a node answers with success, nothing is registered
for it. -/
theorem registration_polled (s : Polling) (polls : List Poll) :
    SameRegister s.store (run Polling.pollOnce s polls).store ↔
      Along Polling.pollOnce LeavesRegister s polls := by
  constructor
  · intro hsame
    by_contra hpolls
    refine Lost.not_same ?_ hsame
    exact lost_of_not_along (fun s s' : Polling => SameRegister s.store s'.store)
      (fun s s' : Polling => Lost s.store s'.store) (fun s poll => pollOnce_same)
      (fun s poll => pollOnce_lost) .of_same
      (fun poll hlost => hlost.fades (pollOnce_fades _ poll)) hpolls
  · intro hpolls
    exact Along.same (fun s s' : Polling => SameRegister s.store s'.store) (fun s => .refl s.store) .trans
      (fun s poll => pollOnce_same) hpolls

/-! ## A registered node answers -/

def liveNode : SFUNode :=
  { nodeID := "sfu-b", mediaAddress := "media-b:10000", rpcAddress := "rpc-b:9000"
    maxMeetings := 20 }

def emptyNodeStore : NodeStore :=
  { roomState :=
      { enabled := true, redis := .empty, sfuNodeQuarantine := fun _ => false, sfuAllocSeq := 0 }
    sfuNodes := [], sfuNodeMeta := fun _ => none, sfuRouteRPC := fun _ => none
    sfuNodeStatus := fun _ => none }

/-- The node has registered itself, and the monitor knows of no other. -/
def registeredPolling : Polling :=
  { monitor :=
      { cfg :=
          { sfuNodes := [], defaultSFUNodeID := "sfu-a", defaultSFUAddress := "media-a:10000"
            sfuRPCAddr := "rpc-a:9000", sfuRouteRPCMap := fun _ => none, sfuNodeQuarantine := 30 }
        sfuStatusPollInterval := 5, clients := fun _ => none }
    store := (emptyNodeStore.reportSFUNode none 100 liveNode
      { sfuAddress := "media-b:10000", mediaPort := 5004, roomCount := 1, publisherCount := 1
        packetCount := 10, updatedAtUnix := 0 }).1 }

def answeredPoll : Poll :=
  { listFault := none
    nodePoll := fun _ =>
      { rsp := some
          { success := true, sfuAddress := "media-b:10000", mediaPort := 5006, roomCount := 6
            publisherCount := 8, packetCount := 77 }
        fault := none, unixTime := 105 } }

theorem answeredPoll_clears :
    registration registeredPolling.store "sfu-b" =
        { mediaAddress := "media-b:10000", rpcAddress := "rpc-b:9000", maxMeetings := 20 } ∧
      registration (run Polling.pollOnce registeredPolling [answeredPoll]).store "sfu-b" = .blank ∧
      (registeredPolling.store.registeredSFUNodes none).2 = .ok [liveNode] ∧
      ((run Polling.pollOnce registeredPolling [answeredPoll]).store.registeredSFUNodes none).2 =
        .ok [] ∧
      ¬ SameRegister registeredPolling.store
        (run Polling.pollOnce registeredPolling [answeredPoll]).store := by
  have hbefore : registration registeredPolling.store "sfu-b" =
      { mediaAddress := "media-b:10000", rpcAddress := "rpc-b:9000", maxMeetings := 20 } := by
    decide +kernel
  have hafter :
      registration (run Polling.pollOnce registeredPolling [answeredPoll]).store "sfu-b" =
        .blank := by
    decide +kernel
  refine ⟨hbefore, hafter, by decide +kernel, by decide +kernel, Lost.not_same ⟨"sfu-b", ?_, hafter⟩⟩
  rw [hbefore]
  decide

end MeetingSystem.Proof.Signaling
