import MeetingSystem.Framework.Assoc
import MeetingSystem.Framework.Interleave
import MeetingSystem.Impl.Store.RoomStore

/-!
# Load accounting of the SFU nodes

Any number of `UpsertRoom`, `SwitchRoomRoute` and `DeleteRoom` calls, whose
commands interleave. `LoadsOk` says that the load of every node is the number of
rooms on it. A transaction moves the load from the node that the call has read
earlier to the new one, so it is right if the room is still on that node.

`SwitchRoomRoute` watches the room, and its transaction does not go through
otherwise (`Relies`). The other two do not: `LoadsOk` holds in every run in
which no other call has moved the room in between (`Fresh`).
-/

namespace MeetingSystem.Proof.Store

open MeetingSystem.Framework MeetingSystem.Impl.Store

/-! ## The property -/

/-- The number of rooms whose `sfu_node_id` is `n`. -/
def roomsOn (r : Redis) (n : String) : Nat :=
  countValues (fun room => decide (room.sfuNodeID = some n)) r.room

def LoadsOk (r : Redis) : Prop := ∀ n, n ≠ "" → r.sfuNodeLoad n = roomsOn r n

/-- One for the node that is counted. -/
def share (nodeID n : String) : Int := if nodeID = n then 1 else 0

/-- A room is counted for the node it is read to be on. -/
theorem share_sfuNodeIDOf (r : Redis) (m : String) {n : String} (hn : n ≠ "") :
    share (r.sfuNodeIDOf m) n =
      if (r.room.lookup m).any (fun room => decide (room.sfuNodeID = some n)) then 1 else 0 := by
  unfold share Redis.sfuNodeIDOf
  cases r.room.lookup m with
  | none => simp [Ne.symm hn]
  | some room =>
    cases hnode : room.sfuNodeID with
    | none => simp [hnode, Ne.symm hn]
    | some nodeID => simp [hnode]

theorem roomsOn_hset (r : Redis) (m : String) (f : RoomHash → RoomHash) {node : String}
    (hf : ∀ room, (f room).sfuNodeID = some node) {n : String} (hn : n ≠ "") :
    (roomsOn (r.hset m f) n : Int) = roomsOn r n - share (r.sfuNodeIDOf m) n + share node n := by
  have herase := countValues_erase (fun room => decide (room.sfuNodeID = some n)) m r.room
  have hinsert := countValues_insert (fun room => decide (room.sfuNodeID = some n)) m
    (f ((r.room.lookup m).getD {})) r.room
  rw [share_sfuNodeIDOf r m hn]
  unfold roomsOn Redis.hset share
  dsimp only
  rw [hinsert, hf, ← herase]
  simp only [Option.some.injEq, decide_eq_true_eq]
  split_ifs <;> push_cast <;> omega

theorem roomsOn_delRoom (r : Redis) (m : String) {n : String} (hn : n ≠ "") :
    (roomsOn (r.delRoom m) n : Int) = roomsOn r n - share (r.sfuNodeIDOf m) n := by
  have herase := countValues_erase (fun room => decide (room.sfuNodeID = some n)) m r.room
  rw [share_sfuNodeIDOf r m hn]
  unfold roomsOn Redis.delRoom
  dsimp only
  rw [← herase]
  split_ifs <;> push_cast <;> omega

theorem load_incrBy (r : Redis) (node n : String) (k : Int) :
    (r.incrBy node k).sfuNodeLoad n = r.sfuNodeLoad n + k * share node n := by
  unfold Redis.incrBy share
  by_cases h : node = n
  · subst h
    rw [if_pos rfl, Int.mul_one]
    exact Function.update_self ..
  · rw [if_neg h, Int.mul_zero, Int.add_zero]
    exact Function.update_of_ne (Ne.symm h) ..

theorem share_empty {n : String} (hn : n ≠ "") : share "" n = 0 := if_neg (Ne.symm hn)

theorem load_moveLoad (r : Redis) (prev next : String) {n : String} (hn : n ≠ "") :
    (r.moveLoad prev next).sfuNodeLoad n = r.sfuNodeLoad n - share prev n + share next n := by
  unfold Redis.moveLoad
  by_cases hmove : prev = next
  · rw [if_neg (not_not_intro hmove), hmove]
    omega
  rw [if_pos hmove]
  by_cases hprev : prev = "" <;> by_cases hnext : next = "" <;>
    simp only [hprev, hnext, ne_eq, not_true_eq_false, not_false_eq_true, if_true, if_false,
      load_incrBy, share_empty hn] <;>
    omega

@[simp] theorem room_moveLoad (r : Redis) (prev next : String) :
    (r.moveLoad prev next).room = r.room := by
  unfold Redis.moveLoad Redis.incrBy
  split_ifs <;> rfl

@[simp] theorem version_moveLoad (r : Redis) (prev next : String) :
    (r.moveLoad prev next).version = r.version := by
  unfold Redis.moveLoad Redis.incrBy
  split_ifs <;> rfl

/-! ## Transactions -/

section

variable {r : Redis}

/-- The room is written as on `node`, and nothing else is done to the rooms. -/
def WritesNode (r r' : Redis) (m node : String) : Prop :=
  ∃ f : RoomHash → RoomHash, (∀ room, (f room).sfuNodeID = some node) ∧
    r'.room = (r.hset m f).room ∧ r'.version = (r.hset m f).version

theorem WritesNode.roomsOn {r r' : Redis} {m node : String} (h : WritesNode r r' m node) {n : String}
    (hn : n ≠ "") :
    (roomsOn r' n : Int) = Store.roomsOn r n - share (r.sfuNodeIDOf m) n + share node n := by
  obtain ⟨f, hf, hroom, -⟩ := h
  rw [← roomsOn_hset r m f hf hn, Store.roomsOn, hroom]
  rfl

theorem upsertTx_writesNode (r : Redis) (m host node addr prev : String) (t : Int) :
    WritesNode r (r.upsertTx m host node addr prev t) m node := by
  refine ⟨fun _ => ⟨some host, some "0", some node, some "1", some (toString t)⟩, fun _ => rfl,
    ?_, ?_⟩ <;> unfold Redis.upsertTx
  · rw [room_moveLoad]
    split_ifs <;> rfl
  · rw [version_moveLoad]
    split_ifs <;> rfl

theorem switchTx_writesNode (r : Redis) (m node route current : String) :
    WritesNode r (r.switchTx m node route current) m node := by
  refine ⟨fun room => { room with sfuNodeID := some node }, fun _ => rfl, ?_, ?_⟩ <;>
    unfold Redis.switchTx
  · rw [room_moveLoad]
    rfl
  · rw [version_moveLoad]
    rfl

theorem LoadsOk.upsertTx (h : LoadsOk r) {m prev : String} (hprev : prev = r.sfuNodeIDOf m)
    (host node addr : String) (t : Int) : LoadsOk (r.upsertTx m host node addr prev t) := by
  intro n hn
  subst hprev
  have hload : (r.upsertTx m host node addr (r.sfuNodeIDOf m) t).sfuNodeLoad n =
      r.sfuNodeLoad n - share (r.sfuNodeIDOf m) n + share node n := by
    unfold Redis.upsertTx
    rw [load_moveLoad _ _ _ hn]
    split_ifs <;> rfl
  rw [hload, (upsertTx_writesNode ..).roomsOn hn, h n hn]

theorem LoadsOk.switchTx (h : LoadsOk r) {m current : String} (hcurrent : current = r.sfuNodeIDOf m)
    (node route : String) : LoadsOk (r.switchTx m node route current) := by
  intro n hn
  subst hcurrent
  have hload : (r.switchTx m node route (r.sfuNodeIDOf m)).sfuNodeLoad n =
      r.sfuNodeLoad n - share (r.sfuNodeIDOf m) n + share node n :=
    load_moveLoad _ _ _ hn
  rw [hload, (switchTx_writesNode ..).roomsOn hn, h n hn]

theorem LoadsOk.deleteTx (h : LoadsOk r) {m node : String} (hnode : node = r.sfuNodeIDOf m)
    (members : List String) : LoadsOk (r.deleteTx m node members) := by
  intro n hn
  subst hnode
  have hload : (r.deleteTx m (r.sfuNodeIDOf m) members).sfuNodeLoad n =
      r.sfuNodeLoad n - share (r.sfuNodeIDOf m) n := by
    unfold Redis.deleteTx
    dsimp only
    split_ifs with hempty
    · rw [load_incrBy, Int.neg_one_mul]
      rfl
    · rw [not_not.mp hempty, share_empty hn, Int.sub_zero]
      rfl
  have hrooms : (roomsOn (r.deleteTx m (r.sfuNodeIDOf m) members) n : Int) =
      roomsOn r n - share (r.sfuNodeIDOf m) n := by
    rw [← roomsOn_delRoom r m hn]
    unfold Redis.deleteTx roomsOn
    dsimp only
    split_ifs <;> rfl
  rw [hload, hrooms, h n hn]

end

/-! ## What a watch sees -/

/-- Nothing has happened to a room whose version is the same. -/
def Since (r r' : Redis) : Prop :=
  ∀ m, r.version m ≤ r'.version m ∧
    (r'.version m = r.version m → r'.sfuNodeIDOf m = r.sfuNodeIDOf m)

theorem Since.refl (r : Redis) : Since r r := fun _ => ⟨Nat.le_refl _, fun _ => rfl⟩

theorem sfuNodeIDOf_congr {r r' : Redis} (h : r'.room = r.room) (m : String) :
    r'.sfuNodeIDOf m = r.sfuNodeIDOf m := by
  unfold Redis.sfuNodeIDOf
  rw [h]

theorem Since.congr {r r₁ r' : Redis} (h : Since r r₁) (hroom : r'.room = r₁.room)
    (hversion : r'.version = r₁.version) : Since r r' := by
  intro m
  rw [hversion, sfuNodeIDOf_congr hroom]
  exact h m

theorem since_hset (r : Redis) (m : String) (f : RoomHash → RoomHash) : Since r (r.hset m f) := by
  intro m'
  by_cases hm : m' = m
  · subst hm
    have hversion : (r.hset m' f).version m' = r.version m' + 1 := Function.update_self ..
    rw [hversion]
    exact ⟨Nat.le_succ _, fun e => absurd e (Nat.succ_ne_self _)⟩
  · have hversion : (r.hset m f).version m' = r.version m' := Function.update_of_ne hm ..
    rw [hversion]
    refine ⟨Nat.le_refl _, fun _ => ?_⟩
    unfold Redis.sfuNodeIDOf Redis.hset
    rw [AList.lookup_insert_ne hm]

theorem since_delRoom (r : Redis) (m : String) : Since r (r.delRoom m) := by
  intro m'
  have hother : m' ≠ m → (r.delRoom m).sfuNodeIDOf m' = r.sfuNodeIDOf m' := by
    intro hm
    unfold Redis.sfuNodeIDOf Redis.delRoom
    rw [AList.lookup_erase_ne hm]
  by_cases hmem : m ∈ r.room
  · have hversion : (r.delRoom m).version = Function.update r.version m (r.version m + 1) :=
      if_pos hmem
    rw [hversion]
    by_cases hm : m' = m
    · subst hm
      rw [Function.update_self]
      exact ⟨Nat.le_succ _, fun e => absurd e (Nat.succ_ne_self _)⟩
    · rw [Function.update_of_ne hm]
      exact ⟨Nat.le_refl _, fun _ => hother hm⟩
  · have hversion : (r.delRoom m).version = r.version := if_neg hmem
    rw [hversion]
    refine ⟨Nat.le_refl _, fun _ => ?_⟩
    by_cases hm : m' = m
    · subst hm
      unfold Redis.sfuNodeIDOf Redis.delRoom
      rw [AList.lookup_erase, AList.lookup_eq_none.mpr hmem]
    · exact hother hm

theorem WritesNode.since {r r' : Redis} {m node : String} (h : WritesNode r r' m node) :
    Since r r' := by
  obtain ⟨f, -, hroom, hversion⟩ := h
  exact (since_hset r m f).congr hroom hversion

theorem since_deleteTx (r : Redis) (m node : String) (members : List String) :
    Since r (r.deleteTx m node members) := by
  refine (since_delRoom r m).congr ?_ ?_ <;>
    (unfold Redis.deleteTx; dsimp only; split_ifs <;> rfl)

/-! ## Runs -/

abbrev RoomCalls := Pool Redis RoomCall

def RoomCalls.step (p : RoomCalls) (m : Move RoomRequest RedisDraw) : RoomCalls :=
  p.move RoomRequest.entry (fun r draw c => c.next r draw) m

/-- What a call may rely on: if the room has the version that is watched, then
it is on the node that was read. -/
def Relies (r : Redis) : RoomCall → Prop
  | .switchGet _ watched m _ _ _ => watched ≤ r.version m
  | .switchExec _ watched m _ _ _ current =>
    watched ≤ r.version m ∧ (r.version m = watched → current = r.sfuNodeIDOf m)
  | _ => True

theorem Relies.since {r r' : Redis} {c : RoomCall} (h : Relies r c) (hs : Since r r') :
    Relies r' c := by
  cases c with
  | switchGet attempt watched m expected next route => exact Nat.le_trans h (hs m).1
  | switchExec attempt watched m expected next route current =>
    obtain ⟨hle, hread⟩ := h
    obtain ⟨hlater, hsame⟩ := hs m
    refine ⟨Nat.le_trans hle hlater, fun e => ?_⟩
    have hversion : r'.version m = r.version m := by omega
    rw [hsame hversion]
    exact hread (hversion.symm.trans e)
  | upsertGet m host node addr => trivial
  | upsertExec m host node addr prev => trivial
  | switchWatch attempt m expected next route => trivial
  | deleteGet m => trivial
  | deleteMembers m node => trivial
  | deleteExec m node members => trivial

/-- The room is still on the node that an unwatched transaction has read. -/
def Fresh (r : Redis) : RoomCall → Prop
  | .upsertExec m _ _ _ prev => prev = r.sfuNodeIDOf m
  | .deleteExec m node _ => node = r.sfuNodeIDOf m
  | _ => True

/-- What a command leaves behind, for the call itself and for the others. -/
def Leaves (r : Redis) (x : Redis × (RoomCall ⊕ RoomResult)) : Prop :=
  LoadsOk x.1 ∧ Since r x.1 ∧ ∀ c', x.2.getLeft? = some c' → Relies x.1 c'

theorem Leaves.ended {r r' : Redis} (h : LoadsOk r') (hs : Since r r') (res : RoomResult) :
    Leaves r (r', .inr res) := by
  refine ⟨h, hs, fun c' hc' => ?_⟩
  cases hc'

theorem Leaves.read {r : Redis} (h : LoadsOk r) {c' : RoomCall} (hrel : Relies r c') :
    Leaves r (r, .inl c') := by
  refine ⟨h, .refl r, fun c'' hc'' => ?_⟩
  obtain rfl := Option.some.inj hc''
  exact hrel

theorem command_leaves {r : Redis} (h : LoadsOk r) {c : RoomCall} (hrel : Relies r c)
    (hfresh : Fresh r c) (t : Int) : Leaves r (c.command r t) := by
  cases c with
  | upsertGet m host node addr => exact .read h trivial
  | upsertExec m host node addr prev =>
    exact .ended (h.upsertTx hfresh host node addr t) (upsertTx_writesNode ..).since _
  | switchWatch attempt m expected next route => exact .read h (Nat.le_refl (r.version m))
  | switchGet attempt watched m expected next route =>
    dsimp only [RoomCall.command]
    split_ifs with hother
    · exact .ended h (.refl r) _
    · refine .read h ?_
      exact ⟨hrel, fun _ => rfl⟩
  | switchExec attempt watched m expected next route current =>
    dsimp only [RoomCall.command]
    split_ifs with hversion hretry
    · exact .ended (h.switchTx (hrel.2 hversion) next route) (switchTx_writesNode ..).since _
    · exact .read h trivial
    · exact .ended h (.refl r) _
  | deleteGet m => exact .read h trivial
  | deleteMembers m node => exact .read h trivial
  | deleteExec m node members =>
    exact .ended (h.deleteTx hfresh members) (since_deleteTx r m node members) _

theorem next_leaves {r : Redis} (h : LoadsOk r) {c : RoomCall} (hrel : Relies r c)
    (hfresh : Fresh r c) (draw : RedisDraw) : Leaves r (c.next r draw) := by
  unfold RoomCall.next
  split_ifs
  · exact .ended h (.refl r) _
  · exact .ended h (.refl r) _
  · exact command_leaves h hrel hfresh draw.unixTime

/-- Whoever is about to commit an unwatched transaction has read the node the
room is on. -/
def NoneBetween (p : RoomCalls) : Move RoomRequest RedisDraw → Prop
  | .start _ _ => True
  | .step i _ => ∀ c, p.calls i = some c → Fresh p.shared c

theorem entry_relies (r : Redis) (a : RoomRequest) : Relies r a.entry := by
  cases a <;> unfold RoomRequest.entry <;> dsimp only <;> first | trivial | (split_ifs <;> trivial)

theorem loadsOk_step {p : RoomCalls} (h : p.Inv LoadsOk Relies) (m : Move RoomRequest RedisDraw)
    (hok : NoneBetween p m) : (p.step m).Inv LoadsOk Relies := by
  refine h.move m (entry_relies p.shared) fun i draw c hm hc => ?_
  subst hm
  obtain ⟨hloads, hsince, hthis⟩ := next_leaves h.shared (h.calls i c hc) (hok c hc) draw
  exact ⟨hloads, fun c' hc' => hc'.since hsince, hthis⟩

/-- An empty database, and no call in progress. -/
def noRooms : RoomCalls := { shared := .empty, calls := fun _ => none }

theorem noRooms_inv : noRooms.Inv LoadsOk Relies where
  shared _ _ := rfl
  calls i c h := by cases h

/-- In every run in which no other call moves a room between the read and the
commit of an `UpsertRoom` or a `DeleteRoom`, every node has the load of the
rooms that are on it. -/
theorem load_accounting (moves : List (Move RoomRequest RedisDraw))
    (hmoves : Along RoomCalls.step NoneBetween noRooms moves) :
    LoadsOk (run RoomCalls.step noRooms moves).shared :=
  (Along.inv (P := Pool.Inv LoadsOk Relies) (fun _ m hok h => loadsOk_step h m hok) noRooms_inv
    hmoves).shared

instance (r : Redis) : ∀ c, Decidable (Fresh r c)
  | .upsertExec m _ _ _ prev => inferInstanceAs (Decidable (prev = r.sfuNodeIDOf m))
  | .deleteExec m node _ => inferInstanceAs (Decidable (node = r.sfuNodeIDOf m))
  | .upsertGet _ _ _ _ => .isTrue trivial
  | .switchWatch _ _ _ _ _ => .isTrue trivial
  | .switchGet _ _ _ _ _ _ => .isTrue trivial
  | .switchExec _ _ _ _ _ _ _ => .isTrue trivial
  | .deleteGet _ => .isTrue trivial
  | .deleteMembers _ _ => .isTrue trivial

instance (p : RoomCalls) : ∀ m, Decidable (NoneBetween p m)
  | .start _ _ => .isTrue trivial
  | .step i _ => decidable_of_iff _ (p.all_call_iff i)

/-- A room is created on one node; a switch to a second node and another to a
third overlap, and the one that commits last starts again. -/
def overlappingSwitches : List (Move RoomRequest RedisDraw) :=
  [.start 0 (.upsertRoom "100001" "u1001" "sfu-1" "10.0.0.1:5000"), .step 0 ⟨0, false⟩,
   .step 0 ⟨0, false⟩, .start 0 (.switchRoomRoute "100001" "" "sfu-2" "10.0.0.2:5000"),
   .start 1 (.switchRoomRoute "100001" "" "sfu-3" "10.0.0.3:5000"), .step 0 ⟨1, false⟩,
   .step 1 ⟨1, false⟩, .step 0 ⟨1, false⟩, .step 1 ⟨1, false⟩, .step 1 ⟨1, false⟩,
   .step 0 ⟨1, false⟩, .step 0 ⟨1, false⟩, .step 0 ⟨1, false⟩, .step 0 ⟨1, false⟩]

theorem load_accounting_overlappingSwitches :
    LoadsOk (run RoomCalls.step noRooms overlappingSwitches).shared ∧
    (run RoomCalls.step noRooms overlappingSwitches).shared.sfuNodeLoad "sfu-2" = 1 :=
  ⟨load_accounting overlappingSwitches (by decide +kernel), by decide +kernel⟩

/-- Two calls create the room of a meeting at the same time. -/
def twoUpserts : List (Move RoomRequest RedisDraw) :=
  [.start 0 (.upsertRoom "100001" "u1001" "sfu-1" "10.0.0.1:5000"),
   .start 1 (.upsertRoom "100001" "u1001" "sfu-1" "10.0.0.1:5000"),
   .step 0 ⟨0, false⟩, .step 1 ⟨0, false⟩, .step 0 ⟨0, false⟩, .step 1 ⟨0, false⟩]

/-- Both read that the room is on no node yet, and it is counted twice. -/
theorem twoUpserts_countedTwice :
    (run RoomCalls.step noRooms twoUpserts).Quiescent ∧
    ¬ LoadsOk (run RoomCalls.step noRooms twoUpserts).shared := by
  refine ⟨Pool.quiescent_of_lt (fun _ => rfl) (k := 2) (by decide) (by decide +kernel), fun h => ?_⟩
  have hload : (run RoomCalls.step noRooms twoUpserts).shared.sfuNodeLoad "sfu-1" = 2 := by
    decide +kernel
  have hrooms : roomsOn (run RoomCalls.step noRooms twoUpserts).shared "sfu-1" = 1 := by
    decide +kernel
  have hsame := h "sfu-1" (by decide)
  rw [hload, hrooms] at hsame
  exact absurd hsame (by decide)

/-- A room that two calls delete at the same time is counted off twice. -/
example :
    let p := run RoomCalls.step noRooms
      [.start 0 (.upsertRoom "100001" "u1001" "sfu-1" ""), .step 0 ⟨0, false⟩, .step 0 ⟨0, false⟩,
       .start 0 (.deleteRoom "100001"), .start 1 (.deleteRoom "100001"), .step 0 ⟨1, false⟩,
       .step 1 ⟨1, false⟩, .step 0 ⟨1, false⟩, .step 0 ⟨1, false⟩, .step 1 ⟨1, false⟩,
       .step 1 ⟨1, false⟩]
    p.shared.sfuNodeLoad "sfu-1" = -1 := by
  decide +kernel

end MeetingSystem.Proof.Store
