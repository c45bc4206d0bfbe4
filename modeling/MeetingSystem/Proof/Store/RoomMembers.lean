import MeetingSystem.Framework.Run
import MeetingSystem.Impl.Store.RoomMembers

/-!
# The records of the members in Redis

A meeting has the set `room_members:` and one hash `room_member:` for every user
in it. `AddMember`, `RemoveMember` and `DeleteRoom` write the two together, and
`DeleteRoom` finds the hashes through the set. The other calls write a hash
without a look at the set: a report that comes after its user has left creates
the hash again, and nothing deletes it. `neverDangles_iff` says that the records stay
right in the runs whose updates are all for members, and in no others.
-/

namespace MeetingSystem.Proof.Store

open MeetingSystem.Framework MeetingSystem.Impl.Store

/-! ## The properties -/

/-- A user with a record is a member. -/
def Records (k : RoomKeys) : Prop :=
  ∀ m u, k.redis.roomMember m u = true → u ∈ k.redis.roomMembers m

/-- A hash is there when it has a field. -/
def FieldsMatch (k : RoomKeys) : Prop :=
  ∀ m u, k.redis.roomMember m u = true ↔ k.memberFields m u ≠ []

/-- Redis has no key of the meeting `m`. -/
structure NoKeys (k : RoomKeys) (m : String) : Prop where
  room : k.redis.room.lookup m = none
  route : k.redis.sfuRoute m = none
  members : k.redis.roomMembers m = []
  member : ∀ u, k.redis.roomMember m u = false

/-- The calls that may bring the meeting `m` into being. -/
def Creates (m : String) : MemberCall → Prop
  | .addMember m' (some _) => m' = m
  | .upsertRoom m' _ _ _ _ => m' = m
  | _ => False

/-- In every state of a run the records are of members, and once `DeleteRoom` has
run the meeting has no key until it is made again. -/
def NeverDangles (calls : List MemberCall) : Prop :=
  (∀ before after, calls = before ++ after → Records (run RoomKeys.step .empty before)) ∧
    ∀ before between after m, calls = before ++ .deleteRoom m :: between ++ after →
      (∀ c ∈ between, ¬Creates m c) →
      NoKeys (run RoomKeys.step .empty (before ++ .deleteRoom m :: between)) m

/-- The member whose hash an update writes. -/
def written : MemberCall → Option (String × String)
  | .setParticipantMediaMuted m u mediaType _ =>
    if mediaType = 0 ∨ mediaType = 1 then some (m, u) else none
  | .setParticipantSharing m u _ => some (m, u)
  | .setParticipantMediaSsrc m u audioSsrc videoSsrc =>
    if m ≠ "" ∧ u ≠ "" ∧ (audioSsrc ≠ 0 ∨ videoSsrc ≠ 0) then some (m, u) else none
  | .reportParticipantQuality m u _ _ => if m ≠ "" ∧ u ≠ "" then some (m, u) else none
  | _ => none

def Updates : MemberCall → Prop
  | .setParticipantMediaMuted .. | .setParticipantSharing .. | .setParticipantMediaSsrc ..
  | .reportParticipantQuality .. => True
  | _ => False

/-- An update is for a user who is a member when it comes. -/
def WritesMember (k : RoomKeys) (c : MemberCall) : Prop :=
  ∀ m u, written c = some (m, u) → u ∈ k.redis.roomMembers m

/-! ## One update -/

section Update

variable {k : RoomKeys} {m u : String} {fields : HashFields}

/-- What an update does to the keys. -/
theorem step_written {c : MemberCall} (h : written c = some (m, u)) :
    ∃ fields, fields ≠ [] ∧ k.step c = k.hsetMember m u fields := by
  cases c with
  | setParticipantMediaMuted m' u' mediaType muted =>
    obtain ⟨htype, h⟩ := Option.ite_none_right_eq_some.mp h
    obtain ⟨rfl, rfl⟩ := Prod.mk.inj (Option.some.inj h)
    obtain rfl | rfl := htype
    · exact ⟨_, List.cons_ne_nil _ _, rfl⟩
    · exact ⟨_, List.cons_ne_nil _ _, rfl⟩
  | setParticipantSharing m' u' sharing =>
    obtain ⟨rfl, rfl⟩ := Prod.mk.inj (Option.some.inj h)
    exact ⟨_, List.cons_ne_nil _ _, rfl⟩
  | setParticipantMediaSsrc m' u' audioSsrc videoSsrc =>
    obtain ⟨hids, h⟩ := Option.ite_none_right_eq_some.mp h
    obtain ⟨rfl, rfl⟩ := Prod.mk.inj (Option.some.inj h)
    obtain ⟨hm, hu, hssrc⟩ := hids
    show ∃ fields, _ ∧ k.setParticipantMediaSsrc m' u' audioSsrc videoSsrc = _
    rw [RoomKeys.setParticipantMediaSsrc, if_neg (not_or.mpr ⟨hm, hu⟩), if_neg]
    · refine ⟨_, ?_, rfl⟩
      by_cases ha : audioSsrc = 0 <;> simp_all
    · by_cases ha : audioSsrc = 0 <;> simp_all
  | reportParticipantQuality m' u' quality unixTime =>
    obtain ⟨hids, h⟩ := Option.ite_none_right_eq_some.mp h
    obtain ⟨rfl, rfl⟩ := Prod.mk.inj (Option.some.inj h)
    show ∃ fields, _ ∧ k.reportParticipantQuality m' u' quality unixTime = _
    rw [RoomKeys.reportParticipantQuality, if_neg (not_or.mpr hids)]
    exact ⟨_, List.cons_ne_nil _ _, rfl⟩
  | addMember | removeMember | deleteRoom | upsertRoom => exact absurd h nofun

/-- An update that writes nothing. -/
theorem step_unwritten {c : MemberCall} (h : written c = none) (hc : Updates c) :
    k.step c = k := by
  cases c with
  | setParticipantMediaMuted m' u' mediaType muted =>
    have htype : ¬(mediaType = 0 ∨ mediaType = 1) := fun htype =>
      Option.some_ne_none _ (ite_eq_right_iff.mp h htype)
    obtain ⟨haudio, hvideo⟩ := not_or.mp htype
    show k.setParticipantMediaMuted m' u' mediaType muted = k
    rw [RoomKeys.setParticipantMediaMuted, if_neg haudio, if_neg hvideo]
  | setParticipantSharing => exact absurd h nofun
  | setParticipantMediaSsrc m' u' audioSsrc videoSsrc =>
    have hids : ¬(m' ≠ "" ∧ u' ≠ "" ∧ (audioSsrc ≠ 0 ∨ videoSsrc ≠ 0)) := fun hids =>
      Option.some_ne_none _ (ite_eq_right_iff.mp h hids)
    show k.setParticipantMediaSsrc m' u' audioSsrc videoSsrc = k
    rw [RoomKeys.setParticipantMediaSsrc]
    by_cases hempty : m' = "" ∨ u' = ""
    · exact if_pos hempty
    · obtain ⟨hm, hu⟩ := not_or.mp hempty
      have hssrc : audioSsrc = 0 ∧ videoSsrc = 0 := by simpa [hm, hu] using hids
      rw [if_neg hempty, hssrc.1, hssrc.2]
      rfl
  | reportParticipantQuality m' u' quality unixTime =>
    have hids : ¬(m' ≠ "" ∧ u' ≠ "") := fun hids =>
      Option.some_ne_none _ (ite_eq_right_iff.mp h hids)
    show k.reportParticipantQuality m' u' quality unixTime = k
    rw [RoomKeys.reportParticipantQuality, if_pos (not_and_or.mp hids |>.imp not_not.mp not_not.mp)]
  | addMember | removeMember | deleteRoom | upsertRoom => exact hc.elim

theorem records_hsetMember_iff (h : Records k) :
    Records (k.hsetMember m u fields) ↔ u ∈ k.redis.roomMembers m := by
  constructor
  · intro h'
    apply h' m u
    simp [RoomKeys.hsetMember]
  · intro hu m' u' hrecord
    obtain ⟨rfl, rfl⟩ | hold : (m' = m ∧ u' = u) ∨ k.redis.roomMember m' u' = true := by
      simpa [RoomKeys.hsetMember] using hrecord
    · exact hu
    · exact h m' u' hold

theorem noKeys_hsetMember {m' : String} (h : NoKeys k m) (hm : m ≠ m') :
    NoKeys (k.hsetMember m' u fields) m := by
  refine ⟨h.room, h.route, h.members, fun u' => ?_⟩
  simp [RoomKeys.hsetMember, hm, h.member u']

theorem foldl_hset_ne_nil (hash : HashFields) (h : fields ≠ []) :
    fields.foldl .hset hash ≠ [] := by
  obtain ⟨init, last, rfl⟩ := (List.eq_nil_or_concat fields).resolve_left h
  rw [List.concat_eq_append, List.foldl_append]
  exact List.append_ne_nil_of_right_ne_nil _ (List.cons_ne_nil _ _)

theorem fieldsMatch_hsetMember (h : FieldsMatch k) (hfields : fields ≠ []) :
    FieldsMatch (k.hsetMember m u fields) := by
  intro m' u'
  by_cases hmu : m' = m ∧ u' = u
  · simpa [RoomKeys.hsetMember, hmu] using foldl_hset_ne_nil _ hfields
  · have hold := h m' u'
    have hmember : (k.hsetMember m u fields).redis.roomMember m' u' =
        k.redis.roomMember m' u' := by
      show (decide (m' = m) && decide (u' = u) || _) = _
      rw [← Bool.decide_and, decide_eq_false hmu, Bool.false_or]
    have hhash : (k.hsetMember m u fields).memberFields m' u' = k.memberFields m' u' := if_neg hmu
    rw [hmember, hhash]
    exact hold

theorem fieldsMatch_delMembers (h : FieldsMatch k) (users : List String) :
    FieldsMatch (k.delMembers m users) := by
  intro m' u'
  have hold := h m' u'
  by_cases hmu : m' = m ∧ u' ∈ users
  · simp [RoomKeys.delMembers, hmu]
  · have hmember : (k.delMembers m users).redis.roomMember m' u' =
        k.redis.roomMember m' u' := by
      show (_ && !(decide (m' = m) && decide (u' ∈ users))) = _
      rw [← Bool.decide_and, decide_eq_false hmu, Bool.not_false, Bool.and_true]
    have hhash : (k.delMembers m users).memberFields m' u' = k.memberFields m' u' := if_neg hmu
    rw [hmember, hhash]
    exact hold

end Update
/-! ## One call -/

/-- What the transaction of `DeleteRoom` leaves. -/
theorem deleteRoom_keys (k : RoomKeys) (m : String) :
    (k.deleteRoom m).redis.room = k.redis.room.erase m ∧
      (k.deleteRoom m).redis.sfuRoute = Function.update k.redis.sfuRoute m none ∧
      (k.deleteRoom m).redis.roomMembers = Function.update k.redis.roomMembers m [] ∧
      (k.deleteRoom m).redis.roomMember = fun m' u =>
        k.redis.roomMember m' u && !(m' = m && u ∈ k.redis.roomMembers m) := by
  unfold RoomKeys.deleteRoom Redis.deleteTx
  dsimp only
  split_ifs <;> exact ⟨rfl, rfl, rfl, rfl⟩

/-- The loads are keys of the nodes. -/
theorem moveLoad_keys (r : Redis) (prevNodeID nextNodeID : String) :
    (r.moveLoad prevNodeID nextNodeID).room = r.room ∧
      (r.moveLoad prevNodeID nextNodeID).sfuRoute = r.sfuRoute ∧
      (r.moveLoad prevNodeID nextNodeID).roomMembers = r.roomMembers ∧
      (r.moveLoad prevNodeID nextNodeID).roomMember = r.roomMember := by
  unfold Redis.moveLoad
  dsimp only
  split_ifs <;> exact ⟨rfl, rfl, rfl, rfl⟩

/-- `UpsertRoom` has nothing to do with the members. -/
theorem upsertRoom_keys (k : RoomKeys) (m host node addr : String) (t : Int) :
    (k.upsertRoom m host node addr t).redis.roomMembers = k.redis.roomMembers ∧
      (k.upsertRoom m host node addr t).redis.roomMember = k.redis.roomMember ∧
      ∀ m', m' ≠ m →
        (k.upsertRoom m host node addr t).redis.room.lookup m' = k.redis.room.lookup m' ∧
          (k.upsertRoom m host node addr t).redis.sfuRoute m' = k.redis.sfuRoute m' := by
  unfold RoomKeys.upsertRoom Redis.upsertTx
  dsimp only
  generalize (if m ≠ "" then k.redis.sfuNodeIDOf m else "") = prevNodeID
  obtain ⟨hroom, hroute, hmembers, hmember⟩ := moveLoad_keys
    (if addr ≠ "" then (k.redis.hset m _).setRoute m (some addr) else k.redis.hset m _)
    prevNodeID node
  rw [hroom, hroute, hmembers, hmember]
  refine ⟨?_, ?_, fun m' hm => ⟨?_, ?_⟩⟩
  · split_ifs <;> rfl
  · split_ifs <;> rfl
  · split_ifs <;> exact AList.lookup_insert_ne hm
  · split_ifs
    · exact Function.update_of_ne hm ..
    · rfl

section Step

variable {k : RoomKeys} {c : MemberCall}

theorem records_addMember (h : Records k) (m : String) (p : Participant) :
    Records (k.addMember m (some p)) := by
  intro m' u hrecord
  have hset : ∀ l : List String, p.userId ∈ (if p.userId ∈ l then l else l ++ [p.userId]) ∧
      ∀ v ∈ l, v ∈ (if p.userId ∈ l then l else l ++ [p.userId]) := by
    intro l
    split_ifs with hp
    · exact ⟨hp, fun v hv => hv⟩
    · exact ⟨by simp, fun v hv => by simp [hv]⟩
  show u ∈ Function.update k.redis.roomMembers m _ m'
  obtain ⟨rfl, rfl⟩ | hold : (m' = m ∧ u = p.userId) ∨ k.redis.roomMember m' u = true := by
    simpa [RoomKeys.addMember, RoomKeys.hsetMember] using hrecord
  · rw [Function.update_self]
    exact (hset _).1
  · by_cases hm : m' = m
    · rw [hm, Function.update_self]
      exact (hset _).2 u (hm ▸ h m' u hold)
    · rw [Function.update_of_ne hm]
      exact h m' u hold

theorem records_removeMember (h : Records k) (m v : String) : Records (k.removeMember m v) := by
  intro m' u hrecord
  obtain ⟨hold, hother⟩ : k.redis.roomMember m' u = true ∧ (m' ≠ m ∨ u ≠ v) := by
    simpa [RoomKeys.removeMember, RoomKeys.delMembers] using hrecord
  show u ∈ Function.update k.redis.roomMembers m _ m'
  by_cases hm : m' = m
  · rw [hm, Function.update_self]
    have hu : u ≠ v := hother.resolve_left (not_not_intro hm)
    exact List.mem_filter.mpr ⟨hm ▸ h m' u hold, decide_eq_true hu⟩
  · rw [Function.update_of_ne hm]
    exact h m' u hold

theorem records_deleteRoom (h : Records k) (m : String) : Records (k.deleteRoom m) := by
  intro m' u hrecord
  obtain ⟨-, -, hmembers, hmember⟩ := deleteRoom_keys k m
  rw [hmember] at hrecord
  obtain ⟨hold, hother⟩ : k.redis.roomMember m' u = true ∧
      (m' ≠ m ∨ u ∉ k.redis.roomMembers m) := by simpa using hrecord
  have hm : m' ≠ m := fun hm => hother.elim (· hm) (· (hm ▸ h m' u hold))
  rw [hmembers, Function.update_of_ne hm]
  exact h m' u hold

/-- The calls that are no updates write the set and the hashes together. -/
theorem records_step (h : Records k) (hc : written c = none) : Records (k.step c) := by
  cases c with
  | addMember m p =>
    cases p with
    | none => exact h
    | some p => exact records_addMember h m p
  | removeMember m v => exact records_removeMember h m v
  | deleteRoom m => exact records_deleteRoom h m
  | upsertRoom m host node addr t =>
    intro m' u hrecord
    obtain ⟨hmembers, hmember, -⟩ := upsertRoom_keys k m host node addr t
    change (k.upsertRoom m host node addr t).redis.roomMember m' u = true at hrecord
    show u ∈ (k.upsertRoom m host node addr t).redis.roomMembers m'
    rw [hmember] at hrecord
    rw [hmembers]
    exact h m' u hrecord
  | setParticipantMediaMuted | setParticipantSharing | setParticipantMediaSsrc
  | reportParticipantQuality =>
    rw [step_unwritten hc trivial]
    exact h

/-- The two descriptions of a hash agree. -/
theorem fieldsMatch_step (h : FieldsMatch k) : FieldsMatch (k.step c) := by
  cases hc : written c with
  | some mu =>
    obtain ⟨fields, hfields, hstep⟩ := step_written (k := k) hc
    rw [hstep]
    exact fieldsMatch_hsetMember h hfields
  | none =>
    cases c with
    | addMember m p =>
      cases p with
      | none => exact h
      | some p => exact fieldsMatch_hsetMember h (List.cons_ne_nil _ _)
    | removeMember m u => exact fieldsMatch_delMembers h [u]
    | deleteRoom m =>
      intro m' u
      show (k.deleteRoom m).redis.roomMember m' u = true ↔ _
      rw [(deleteRoom_keys k m).2.2.2]
      exact fieldsMatch_delMembers h (k.redis.roomMembers m) m' u
    | upsertRoom m host node addr t =>
      intro m' u
      show (k.upsertRoom m host node addr t).redis.roomMember m' u = true ↔ _
      rw [(upsertRoom_keys k m host node addr t).2.1]
      exact h m' u
    | setParticipantMediaMuted | setParticipantSharing | setParticipantMediaSsrc
    | reportParticipantQuality =>
      rw [step_unwritten hc trivial]
      exact h

theorem records_step_iff (h : Records k) : Records (k.step c) ↔ WritesMember k c := by
  cases hc : written c with
  | none =>
    have hmember : WritesMember k c := fun m u h => absurd (hc.symm.trans h) nofun
    exact iff_of_true (records_step h hc) hmember
  | some mu =>
    obtain ⟨fields, -, hstep⟩ := step_written (k := k) hc
    rw [hstep, records_hsetMember_iff h]
    constructor
    · intro hu m u hmu
      obtain rfl : mu = (m, u) := Option.some.inj (hc.symm.trans hmu)
      exact hu
    · exact fun hmember => hmember mu.1 mu.2 hc

/-- `DeleteRoom` finds the hashes of all members. -/
theorem noKeys_deleteRoom {m : String}
    (h : ∀ u, k.redis.roomMember m u = true → u ∈ k.redis.roomMembers m) :
    NoKeys (k.deleteRoom m) m := by
  obtain ⟨hroom, hroute, hmembers, hmember⟩ := deleteRoom_keys k m
  refine ⟨?_, ?_, ?_, fun u => ?_⟩
  · rw [hroom, AList.lookup_erase]
  · rw [hroute, Function.update_self]
  · rw [hmembers, Function.update_self]
  · rw [hmember]
    show (k.redis.roomMember m u && !(decide (m = m) && decide _)) = false
    cases hold : k.redis.roomMember m u with
    | false => rfl
    | true => simp [h u hold]

theorem noKeys_deleteRoom_ne {m m' : String} (h : NoKeys k m) (hm : m ≠ m') :
    NoKeys (k.deleteRoom m') m := by
  obtain ⟨hroom, hroute, hmembers, hmember⟩ := deleteRoom_keys k m'
  refine ⟨?_, ?_, ?_, fun u => ?_⟩
  · rw [hroom, AList.lookup_erase_ne hm, h.room]
  · rw [hroute, Function.update_of_ne hm, h.route]
  · rw [hmembers, Function.update_of_ne hm, h.members]
  · rw [hmember]
    show (k.redis.roomMember m u && _) = false
    rw [h.member u, Bool.false_and]

theorem noKeys_removeMember {m : String} (h : NoKeys k m) (m' v : String) :
    NoKeys (k.removeMember m' v) m := by
  refine ⟨h.room, h.route, ?_, fun u => ?_⟩
  · show Function.update k.redis.roomMembers m' _ m = []
    by_cases hm : m = m'
    · rw [hm, Function.update_self, ← hm, h.members]
      rfl
    · rw [Function.update_of_ne hm, h.members]
  · show (k.redis.roomMember m u && _) = false
    rw [h.member u, Bool.false_and]

/-- A meeting without keys stays so until someone is added or a room made. -/
theorem noKeys_step {m : String} (h : NoKeys k m) (hc : ¬Creates m c) (hw : WritesMember k c) :
    NoKeys (k.step c) m := by
  cases hwritten : written c with
  | some mu =>
    obtain ⟨fields, -, hstep⟩ := step_written (k := k) hwritten
    have hm : m ≠ mu.1 := by
      rintro rfl
      have hu := hw mu.1 mu.2 hwritten
      rw [h.members] at hu
      exact List.not_mem_nil hu
    rw [hstep]
    exact noKeys_hsetMember h hm
  | none =>
    cases c with
    | addMember m' p =>
      cases p with
      | none => exact h
      | some p =>
        have hm : m ≠ m' := fun hm => hc hm.symm
        refine noKeys_hsetMember ⟨h.room, h.route, ?_, h.member⟩ hm
        exact (Function.update_of_ne hm ..).trans h.members
    | removeMember m' v => exact noKeys_removeMember h m' v
    | deleteRoom m' =>
      by_cases hm : m = m'
      · subst hm
        exact noKeys_deleteRoom fun u hu => absurd ((h.member u).symm.trans hu) nofun
      · exact noKeys_deleteRoom_ne h hm
    | upsertRoom m' host node addr t =>
      have hm : m ≠ m' := fun hm => hc hm.symm
      obtain ⟨hmembers, hmember, hother⟩ := upsertRoom_keys k m' host node addr t
      refine ⟨(hother m hm).1.trans h.room, (hother m hm).2.trans h.route, ?_, fun u => ?_⟩
      · exact (congrFun hmembers m).trans h.members
      · exact (congrFun (congrFun hmember m) u).trans (h.member u)
    | setParticipantMediaMuted | setParticipantSharing | setParticipantMediaSsrc
    | reportParticipantQuality =>
      rw [step_unwritten hwritten trivial]
      exact h

end Step

/-! ## Runs -/

theorem records_empty : Records .empty := fun _ _ h => absurd h nofun

theorem fieldsMatch_run (calls : List MemberCall) :
    FieldsMatch (run RoomKeys.step .empty calls) :=
  run_inv (fun _ _ => fieldsMatch_step) (fun _ _ => iff_of_false nofun (not_not_intro rfl)) calls

theorem records_run {calls : List MemberCall}
    (h : Along RoomKeys.step WritesMember .empty calls) : Records (run RoomKeys.step .empty calls) :=
  have hstep : ∀ k c, WritesMember k c → Records k → Records (RoomKeys.step k c) :=
    fun _ _ hw hr => (records_step_iff hr).mpr hw
  h.inv hstep records_empty

/-- The records are right in all states of a run only if every update is for a
member. -/
theorem along_writesMember {k : RoomKeys} {calls : List MemberCall}
    (h : ∀ before after, calls = before ++ after → Records (run RoomKeys.step k before)) :
    Along RoomKeys.step WritesMember k calls := by
  induction calls generalizing k with
  | nil => trivial
  | cons c calls ih =>
    have hk : Records k := h [] (c :: calls) rfl
    have hc : Records (k.step c) := h [c] calls rfl
    refine ⟨(records_step_iff hk).mp hc, ih ?_⟩
    rintro before after rfl
    exact h (c :: before) after rfl

theorem noKeys_run {k : RoomKeys} {m : String} {calls : List MemberCall} (h : NoKeys k m)
    (hw : Along RoomKeys.step WritesMember k calls) (hc : ∀ c ∈ calls, ¬Creates m c) :
    NoKeys (run RoomKeys.step k calls) m :=
  have hstep : ∀ k c, (WritesMember k c ∧ ¬Creates m c) → NoKeys k m →
      NoKeys (RoomKeys.step k c) m := fun _ _ hok hk => noKeys_step hk hok.2 hok.1
  (hw.and_mem hc).inv hstep h

/-- The keys are right in the runs in which every update that writes is for a
member of that moment, and in no others. -/
theorem neverDangles_iff (calls : List MemberCall) :
    NeverDangles calls ↔ Along RoomKeys.step WritesMember .empty calls := by
  refine ⟨fun h => along_writesMember h.1, fun hw => ⟨?_, ?_⟩⟩
  · rintro before after rfl
    exact records_run (along_append_iff.mp hw).1
  · rintro before between after m rfl hc
    obtain ⟨hbefore, -, hbetween⟩ := along_append_iff.mp (along_append_iff.mp hw).1
    have hrecords := records_run hbefore
    rw [run_append]
    show NoKeys (run RoomKeys.step ((run RoomKeys.step .empty before).deleteRoom m) between) m
    exact noKeys_run (noKeys_deleteRoom (hrecords m)) hbetween hc

/-- The last report of a user comes after the meeting has ended. -/
theorem neverDangles_late :
    ¬NeverDangles [.addMember "m" (some ⟨"u", "", "", 0, true, true, false, 0, 0⟩),
      .deleteRoom "m", .reportParticipantQuality "m" "u" ⟨"0", 1, 1, 1, 1⟩ 0] := by
  intro h
  have hrecord := h.1 _ [] (List.append_nil _).symm "m" "u"
  exact absurd (hrecord (by decide)) (by decide)

end MeetingSystem.Proof.Store
