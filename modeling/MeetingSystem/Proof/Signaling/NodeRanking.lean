import Mathlib.Data.Prod.Lex
import Mathlib.Data.List.Perm.Basic
import Mathlib.Data.Nat.ModEq
import MeetingSystem.Impl.Signaling.SfuNodes

/-!
# The order of the SFU nodes

`RankedSFUNodes` sorts the nodes by their tier, their load and their position in
the list rotated by the counter.

* `ranked_sorted`: the result with Redis;
* `ranked_rotated`: nodes of one tier and one load are rotated, as without Redis;
* `rankings_first`: as many calls as there are such nodes put each of them first once;
* `rankedSFUNodes_order`: all three.
-/

namespace MeetingSystem.Proof.Signaling

open MeetingSystem.Impl.Signaling

/-! ## The order -/

/-- What the nodes are sorted by. -/
def sortKey (runtime : SFUNodeRuntime) : Nat ×ₗ Int ×ₗ Nat :=
  toLex (sfuNodePriorityTier runtime, toLex (runtime.load, runtime.rotationRank))

theorem notAfter_iff (a b : SFUNodeRuntime) : a.notAfter b ↔ sortKey a ≤ sortKey b := by
  unfold SFUNodeRuntime.notAfter sortKey
  rw [Prod.Lex.toLex_le_toLex]
  dsimp only
  rw [Prod.Lex.toLex_le_toLex]
  dsimp only
  split
  · omega
  · split
    · omega
    · omega

instance : Std.Total SFUNodeRuntime.notAfter :=
  ⟨fun a b => by rw [notAfter_iff, notAfter_iff]; exact le_total _ _⟩

instance : IsTrans SFUNodeRuntime SFUNodeRuntime.notAfter :=
  ⟨fun a b c => by rw [notAfter_iff, notAfter_iff, notAfter_iff]; exact le_trans⟩

/-! ## Nodes with what Redis knows of them -/

section
variable (r : RoomState)

def runtimeAt (node : SFUNode) (position : Nat) : SFUNodeRuntime :=
  { node, load := max (r.redis.sfuNodeLoad node.nodeID) 0
    quarantined := r.sfuNodeQuarantine node.nodeID
    rotationRank := position }

/-- The nodes of the rotated list, with their positions in it. -/
def rotatedRuntimes (nodes : List SFUNode) (start : Nat) : List SFUNodeRuntime :=
  (rotateSFUNodes nodes start).mapIdx fun position node => runtimeAt r node position

/-- The ranks that are computed are the positions in the rotated list. -/
theorem runtimes_perm {nodes : List SFUNode} {start : Nat} (hstart : start < nodes.length) :
    (nodes.mapIdx fun i node =>
        runtimeAt r node ((i + nodes.length - start) % nodes.length)).Perm
      (rotatedRuntimes r nodes start) := by
  obtain ⟨front, back, rfl, hfront⟩ : ∃ front back, nodes = front ++ back ∧ front.length = start :=
    ⟨nodes.take start, nodes.drop start, (List.take_append_drop _ _).symm,
      List.length_take_of_le hstart.le⟩
  have hrotate : rotateSFUNodes (front ++ back) start = back ++ front := by
    rw [rotateSFUNodes, List.drop_left' hfront, List.take_left' hfront]
  rw [List.length_append] at *
  rw [rotatedRuntimes, hrotate, List.mapIdx_append, List.mapIdx_append]
  refine List.perm_append_comm.trans (List.Perm.of_eq (congrArg₂ _ ?_ ?_))
  · refine List.mapIdx_eq_mapIdx_iff.mpr fun i hi => congrArg (runtimeAt r _) ?_
    rw [show i + front.length + (front.length + back.length) - start =
      i + (front.length + back.length) by omega, Nat.add_mod_right, Nat.mod_eq_of_lt (by omega)]
  · refine List.mapIdx_eq_mapIdx_iff.mpr fun i hi => congrArg (runtimeAt r _) ?_
    rw [Nat.mod_eq_of_lt (by omega)]
    omega

theorem pairwise_rotationRank (nodes : List SFUNode) (start : Nat) :
    (rotatedRuntimes r nodes start).Pairwise fun a b => a.rotationRank < b.rotationRank := by
  rw [List.pairwise_iff_getElem]
  intro i j hi hj hlt
  simp only [rotatedRuntimes, List.getElem_mapIdx]
  exact hlt

theorem map_node_rotatedRuntimes (nodes : List SFUNode) (start : Nat) :
    (rotatedRuntimes r nodes start).map (·.node) = rotateSFUNodes nodes start := by
  apply List.ext_getElem (by simp [rotatedRuntimes])
  intro i hi hi'
  simp [rotatedRuntimes, runtimeAt]

theorem rotateSFUNodes_perm (nodes : List SFUNode) (start : Nat) :
    (rotateSFUNodes nodes start).Perm nodes :=
  List.perm_append_comm.trans (List.Perm.of_eq (List.take_append_drop _ _))

/-! ## One call -/

/-- The position of the first node of the rotated list. -/
def startOf (nodes : List SFUNode) : Nat := r.sfuAllocSeq.toNat % nodes.length

variable {r} {nodes : List SFUNode}

theorem startOf_lt (hne : nodes ≠ []) : startOf r nodes < nodes.length :=
  Nat.mod_lt _ (List.length_pos_iff.mpr hne)

theorem isEmpty_eq_false (hne : nodes ≠ []) : nodes.isEmpty = false :=
  Bool.eq_false_iff.mpr fun h => hne (List.isEmpty_iff.mp h)

/-- A list sorted as the test of the sort says, without two equal positions, is
sorted strictly. -/
theorem pairwise_sortKey {sorted : List SFUNodeRuntime}
    (hsorted : sorted.Pairwise SFUNodeRuntime.notAfter)
    (hnodup : (sorted.map (·.rotationRank)).Nodup) :
    sorted.Pairwise fun a b => sortKey a < sortKey b := by
  have hranks : sorted.Pairwise fun a b => a.rotationRank ≠ b.rotationRank :=
    List.pairwise_map.mp hnodup
  refine (hsorted.and hranks).imp fun ⟨hle, hne⟩ => lt_of_le_of_ne ((notAfter_iff _ _).mp hle) ?_
  intro heq
  exact hne (congrArg (fun key => (ofLex (ofLex key).2).2) heq)

/-- The result with Redis: all nodes, sorted by tier, load and position. -/
theorem ranked_sorted (henabled : r.enabled = true) (hne : nodes ≠ []) :
    ∃ sorted : List SFUNodeRuntime, sorted.Perm (rotatedRuntimes r nodes (startOf r nodes)) ∧
      sorted.Pairwise (fun a b => sortKey a < sortKey b) ∧
      (r.rankedSFUNodes none nodes).2 = .ok (sorted.map (·.node)) := by
  have hperm := runtimes_perm r (startOf_lt (r := r) hne)
  refine ⟨_, (List.perm_insertionSort SFUNodeRuntime.notAfter _).trans hperm,
    pairwise_sortKey (List.pairwise_insertionSort _ _) ?_, ?_⟩
  · rw [((List.perm_insertionSort _ _).trans hperm).map _ |>.nodup_iff]
    exact (List.pairwise_map.mpr ((pairwise_rotationRank r nodes _).imp fun h => h.ne))
  · unfold RoomState.rankedSFUNodes
    rw [isEmpty_eq_false hne, henabled]
    rfl

/-- The nodes have one tier and one load. -/
def Alike (r : RoomState) (nodes : List SFUNode) : Prop :=
  ∀ a ∈ nodes, ∀ b ∈ nodes,
    sfuNodePriorityTier (runtimeAt r a 0) = sfuNodePriorityTier (runtimeAt r b 0) ∧
      (runtimeAt r a 0).load = (runtimeAt r b 0).load

theorem exists_of_mem_rotated {start : Nat} {a : SFUNodeRuntime}
    (ha : a ∈ rotatedRuntimes r nodes start) :
    ∃ node position, node ∈ nodes ∧ a = runtimeAt r node position := by
  obtain ⟨i, hi, rfl⟩ := List.mem_mapIdx.mp ha
  exact ⟨_, i, (rotateSFUNodes_perm nodes start).mem_iff.mp (List.getElem_mem hi), rfl⟩

/-- Nodes of one tier and one load come in the rotated order. -/
theorem ranked_rotated (henabled : r.enabled = true) (hne : nodes ≠ []) (halike : Alike r nodes) :
    (r.rankedSFUNodes none nodes).2 = .ok (rotateSFUNodes nodes (startOf r nodes)) := by
  obtain ⟨sorted, hperm, hsorted, hresult⟩ := ranked_sorted (r := r) henabled hne
  have hrotated : (rotatedRuntimes r nodes (startOf r nodes)).Pairwise
      fun a b => sortKey a < sortKey b := by
    refine (pairwise_rotationRank r nodes _).imp_of_mem fun {a b} ha hb hlt => ?_
    obtain ⟨x, p, hx, rfl⟩ := exists_of_mem_rotated ha
    obtain ⟨y, q, hy, rfl⟩ := exists_of_mem_rotated hb
    obtain ⟨htier, hload⟩ := halike x hx y hy
    exact Prod.Lex.toLex_lt_toLex.mpr (.inr ⟨htier, Prod.Lex.toLex_lt_toLex.mpr
      (.inr ⟨hload, hlt⟩)⟩)
  have heq : sorted = rotatedRuntimes r nodes (startOf r nodes) :=
    List.Perm.eq_of_pairwise (fun a b _ _ hab hba => absurd hab hba.asymm) hsorted hrotated hperm
  rw [hresult, heq, map_node_rotatedRuntimes]

/-! ## Calls after one another -/

/-- The results of so many calls. -/
def rankings (r : RoomState) (nodes : List SFUNode) : Nat → List (Except String (List SFUNode))
  | 0 => []
  | k + 1 => (r.rankedSFUNodes none nodes).2 :: rankings (r.rankedSFUNodes none nodes).1 nodes k

/-- The node that a result puts first, if it has one. -/
def firstNode : Except String (List SFUNode) → Option SFUNode
  | .ok nodes => nodes.head?
  | .error _ => none

theorem ranked_state (henabled : r.enabled = true) (hne : nodes ≠ []) :
    (r.rankedSFUNodes none nodes).1 = { r with sfuAllocSeq := r.sfuAllocSeq + 1 } := by
  unfold RoomState.rankedSFUNodes
  rw [isEmpty_eq_false hne, henabled]
  rfl

theorem head?_rotateSFUNodes {start : Nat} (hstart : start < nodes.length) :
    (rotateSFUNodes nodes start).head? = nodes[start]? := by
  rw [rotateSFUNodes, List.drop_eq_getElem_cons hstart, List.cons_append, List.head?_cons,
    List.getElem?_eq_getElem hstart]

theorem rankings_first {k : Nat} (henabled : r.enabled = true) (hne : nodes ≠ [])
    (halike : Alike r nodes) (hseq : r.sfuAllocSeq.toNat + k ≤ 2 ^ 64) :
    (rankings r nodes k).map firstNode =
      (List.range k).map fun i => nodes[(r.sfuAllocSeq.toNat + i) % nodes.length]? := by
  induction k generalizing r with
  | zero => rfl
  | succ k ih =>
    have hfirst : firstNode (r.rankedSFUNodes none nodes).2 =
        nodes[r.sfuAllocSeq.toNat % nodes.length]? := by
      rw [ranked_rotated henabled hne halike]
      exact head?_rotateSFUNodes (startOf_lt hne)
    rw [rankings, List.map_cons, hfirst, ranked_state henabled hne, List.range_succ_eq_map,
      List.map_cons, List.map_map]
    refine congrArg₂ _ rfl ?_
    cases k with
    | zero => rfl
    | succ k =>
      have hnext : (r.sfuAllocSeq + 1).toNat = r.sfuAllocSeq.toNat + 1 := by
        rw [UInt64.toNat_add]
        exact Nat.mod_eq_of_lt (by show r.sfuAllocSeq.toNat + 1 < 2 ^ 64; omega)
      rw [@ih { r with sfuAllocSeq := r.sfuAllocSeq + 1 } henabled halike (by
        show (r.sfuAllocSeq + 1).toNat + (k + 1) ≤ 2 ^ 64
        omega)]
      refine List.map_congr_left fun i _ => ?_
      show nodes[((r.sfuAllocSeq + 1).toNat + i) % nodes.length]? =
        nodes[(r.sfuAllocSeq.toNat + (i + 1)) % nodes.length]?
      rw [hnext, Nat.add_assoc, Nat.add_comm 1 i]

/-- As many numbers in a row as there are positions. -/
theorem positions_perm (c n : Nat) :
    ((List.range n).map fun i => (c + i) % n).Perm (List.range n) := by
  have hnodup : ((List.range n).map fun i => (c + i) % n).Nodup := by
    refine List.Nodup.map_on (fun i hi j hj heq => ?_) List.nodup_range
    exact (Nat.ModEq.add_left_cancel' c heq).eq_of_lt_of_lt (List.mem_range.mp hi)
      (List.mem_range.mp hj)
  refine (List.subperm_of_subset hnodup fun p hp => ?_).perm_of_length_le (by simp)
  obtain ⟨i, hi, rfl⟩ := List.mem_map.mp hp
  exact List.mem_range.mpr (Nat.mod_lt _ (Nat.zero_lt_of_lt (List.mem_range.mp hi)))

/-- The result with Redis is sorted by tier, load and position in the rotated
list. Nodes of one tier and one load come in the order without Redis, and as many
calls as there are such nodes put each of them first once. -/
theorem rankedSFUNodes_order (r : RoomState) (nodes : List SFUNode) (henabled : r.enabled = true)
    (hne : nodes ≠ []) (hseq : r.sfuAllocSeq.toNat < 2 ^ 63) (hlen : nodes.length < 2 ^ 63) :
    (∃ sorted : List SFUNodeRuntime, sorted.Perm (rotatedRuntimes r nodes (startOf r nodes)) ∧
      sorted.Pairwise (fun a b => sortKey a < sortKey b) ∧
      (r.rankedSFUNodes none nodes).2 = .ok (sorted.map (·.node)) ∧
      (sorted.map (·.node)).Perm nodes) ∧
    (Alike r nodes →
      (r.rankedSFUNodes none nodes).2 = .ok (rotateSFUNodes nodes (startOf r nodes)) ∧
      ({ r with enabled := false }.rankedSFUNodes none nodes).2 =
        .ok (rotateSFUNodes nodes (startOf r nodes)) ∧
      ∃ positions : List Nat, positions.Perm (List.range nodes.length) ∧
        (rankings r nodes nodes.length).map firstNode = positions.map fun i => nodes[i]?) := by
  constructor
  · obtain ⟨sorted, hperm, hsorted, hresult⟩ := ranked_sorted (r := r) henabled hne
    refine ⟨sorted, hperm, hsorted, hresult, ?_⟩
    have hnodes := hperm.map (·.node)
    rw [map_node_rotatedRuntimes] at hnodes
    exact hnodes.trans (rotateSFUNodes_perm nodes _)
  · intro halike
    refine ⟨ranked_rotated henabled hne halike, ?_, _, positions_perm r.sfuAllocSeq.toNat _, ?_⟩
    · unfold RoomState.rankedSFUNodes
      rw [isEmpty_eq_false hne]
      rfl
    · rw [rankings_first henabled hne halike (by omega), List.map_map]
      rfl

/-- Two nodes without a limit. -/
def twoNodes : List SFUNode :=
  [{ nodeID := "a", mediaAddress := "a:1", rpcAddress := "a:2" },
    { nodeID := "b", mediaAddress := "b:1", rpcAddress := "b:2" }]

def twoNodesState : RoomState :=
  { enabled := true, redis := .empty, sfuNodeQuarantine := fun _ => false
    sfuAllocSeq := 7 }

theorem rankedSFUNodes_order_two :
    ∃ positions : List Nat, positions.Perm (List.range 2) ∧
      (rankings twoNodesState twoNodes 2).map firstNode =
        positions.map fun i => twoNodes[i]? := by
  have halike : Alike twoNodesState twoNodes := by
    intro a ha b hb
    simp only [twoNodes, List.mem_cons, List.not_mem_nil, or_false] at ha hb
    rcases ha with rfl | rfl <;> rcases hb with rfl | rfl <;> exact ⟨rfl, rfl⟩
  exact ((rankedSFUNodes_order twoNodesState twoNodes rfl (by decide) (by decide)
    (by decide)).2 halike).2.2

end

end MeetingSystem.Proof.Signaling
