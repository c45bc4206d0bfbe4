import Mathlib.Data.List.DropRight
import Mathlib.Data.List.Nodup
import MeetingSystem.Framework.Run
import MeetingSystem.Impl.Client.ListModels

/-!
# The list of participants

The host of a meeting is stored twice: as the host id of the model and as a
flag of the host's item. `replaceParticipants` sets both, `setHostUserId` only
the id, and `upsertParticipant` flags a new host without taking the flag from
the old one. `consistent_throughout_iff` says exactly when the two agree.
-/

namespace MeetingSystem.Proof.Client

open MeetingSystem.Framework MeetingSystem.Impl.Client

variable {m : ParticipantListModel}

/-! ## The property -/

/-- The item is the one of the host, if there is a host. -/
def IsHost (hostUserId : String) (item : ParticipantItem) : Prop :=
  hostUserId ≠ "" ∧ item.userId = hostUserId

instance (hostUserId : String) (item : ParticipantItem) : Decidable (IsHost hostUserId item) :=
  inferInstanceAs (Decidable (_ ∧ _))

structure Consistent (m : ParticipantListModel) : Prop where
  distinct : (m.items.map (·.userId)).Nodup
  hosts : ∀ item ∈ m.items, item.host = true ↔ IsHost m.hostUserId item
  oneHost : m.items.countP (·.host) ≤ 1

/-- `replaceParticipants` is given one item for each user. -/
def DistinctIds : ParticipantOp → Prop
  | .replaceParticipants participants => (participants.map (·.userId)).Nodup
  | _ => True

/-! ## When it is kept -/

/-- The flags need not change when the host does. -/
def KeepsHosts (m : ParticipantListModel) : ParticipantOp → Prop
  | .setHostUserId userId =>
    ∀ item ∈ m.items, IsHost m.hostUserId item ↔ IsHost (trimmed userId) item
  | .upsertParticipant args =>
    trimmed args.userId ≠ "" → args.role = 1 → trimmed args.userId ≠ m.hostUserId →
      ∀ item ∈ m.items, ¬ IsHost m.hostUserId item
  | _ => True

instance (m : ParticipantListModel) : ∀ op, Decidable (KeepsHosts m op)
  | .setHostUserId _ => inferInstanceAs (Decidable (∀ item ∈ m.items, _))
  | .upsertParticipant _ =>
    inferInstanceAs (Decidable (_ → _ → _ → ∀ item ∈ m.items, _))
  | .clearParticipants | .replaceParticipants _ | .removeParticipant _ =>
    inferInstanceAs (Decidable True)

/-! ## Trimmed texts and rows -/

theorem trimmed_trimmed (s : String) : trimmed (trimmed s) = trimmed s := by
  have hfirst : ∀ l : List Char, ((l.dropWhile qcharIsSpace).rdropWhile qcharIsSpace).dropWhile
      qcharIsSpace = (l.dropWhile qcharIsSpace).rdropWhile qcharIsSpace := by
    intro l
    rw [List.dropWhile_eq_self_iff]
    intro hlen
    have hfront := List.rdropWhile_prefix qcharIsSpace (l.dropWhile qcharIsSpace)
    rw [hfront.getElem hlen]
    exact List.dropWhile_get_zero_not qcharIsSpace l _
  show String.ofList ((((trimmed s).toList.dropWhile qcharIsSpace)).rdropWhile qcharIsSpace) =
    String.ofList ((s.toList.dropWhile qcharIsSpace).rdropWhile qcharIsSpace)
  have hlist : (trimmed s).toList =
      (s.toList.dropWhile qcharIsSpace).rdropWhile qcharIsSpace := String.toList_ofList
  rw [hlist, hfirst, List.rdropWhile_idempotent]

/-- Nobody has the user id, or one row has it first. -/
theorem indexOf_cases (m : ParticipantListModel) (userId : String) :
    (m.indexOf userId = none ∧ ∀ item ∈ m.items, item.userId ≠ trimmed userId) ∨
      ∃ before old after, m.items = before ++ old :: after ∧ old.userId = trimmed userId ∧
        m.indexOf userId = some before.length := by
  cases h : m.indexOf userId with
  | none =>
    refine .inl ⟨rfl, fun item hitem heq => ?_⟩
    have hno := List.findIdx?_eq_none_iff.mp h item hitem
    simp [heq] at hno
  | some row =>
    obtain ⟨hlt, hrow, -⟩ := List.findIdx?_eq_some_iff_getElem.mp h
    refine .inr ⟨m.items.take row, m.items[row], m.items.drop (row + 1), ?_,
      by simpa using hrow, ?_⟩
    · rw [List.getElem_cons_drop, List.take_append_drop]
    · rw [List.length_take_of_le hlt.le]

/-! ## One operation -/

/-- With distinct ids at most one item is the host's. -/
theorem Consistent.mk' (hdistinct : (m.items.map (·.userId)).Nodup)
    (hhosts : ∀ item ∈ m.items, item.host = true ↔ IsHost m.hostUserId item) : Consistent m := by
  refine ⟨hdistinct, hhosts, ?_⟩
  have hcount : m.items.countP (·.host) ≤ (m.items.map (·.userId)).count m.hostUserId := by
    rw [List.count, List.countP_map]
    refine List.countP_mono_left fun item hitem hhost => ?_
    simpa using ((hhosts item hitem).mp hhost).2
  exact hcount.trans (List.nodup_iff_count_le_one.mp hdistinct _)

/-- The rows after an upsert: the new item and the other users' rows. -/
theorem upsertParticipant_rows {args : UpsertArgs} (hdistinct : (m.items.map (·.userId)).Nodup)
    (huser : trimmed args.userId ≠ "") :
    ((m.upsertParticipant args).items.map (·.userId)).Nodup ∧
      ∀ item, item ∈ (m.upsertParticipant args).items ↔
        item = m.upsertedItem args ∨ item ∈ m.items ∧ item.userId ≠ trimmed args.userId := by
  have hitems : (m.upsertParticipant args).items =
      (m.indexOf (trimmed args.userId)).elim (m.items ++ [m.upsertedItem args])
        fun row => m.items.set row (m.upsertedItem args) := by
    simp only [ParticipantListModel.upsertParticipant, huser, if_false,
      ParticipantListModel.setHostUserId]
    cases m.indexOf (trimmed args.userId) <;>
    · split
      · split <;> rfl
      · rfl
  have hid : (m.upsertedItem args).userId = trimmed args.userId := rfl
  rw [hitems]
  rcases indexOf_cases m (trimmed args.userId) with
    ⟨hrow, hno⟩ | ⟨before, old, after, hsplit, hold, hrow⟩ <;>
    simp only [hrow, Option.elim_none, Option.elim_some] <;> rw [trimmed_trimmed] at *
  · constructor
    · rw [List.map_append, List.nodup_append]
      refine ⟨hdistinct, by simp, fun x hx y hy => ?_⟩
      obtain ⟨item, hitem, rfl⟩ := List.mem_map.mp hx
      rw [show y = trimmed args.userId by simpa [hid] using hy]
      exact hno item hitem
    · intro item
      rw [List.mem_append, List.mem_singleton, or_comm]
      exact or_congr_right ⟨fun h => ⟨h, hno item h⟩, And.left⟩
  · have hset : m.items.set before.length (m.upsertedItem args) =
        before ++ m.upsertedItem args :: after := by
      rw [hsplit, List.set_append_right _ _ le_rfl, Nat.sub_self, List.set_cons_zero]
    have hsame : (before ++ m.upsertedItem args :: after).map (·.userId) =
        m.items.map (·.userId) := by
      simp only [hsplit, List.map_append, List.map_cons, hid, hold]
    rw [hset, hsame]
    refine ⟨hdistinct, fun item => ?_⟩
    rw [hsplit, List.map_append, List.map_cons, List.nodup_middle, List.nodup_cons, hold,
      ← List.map_append, List.mem_map] at hdistinct
    have hother : item ∈ before ++ after → item.userId ≠ trimmed args.userId :=
      fun hmem heq => hdistinct.1 ⟨item, hmem, heq⟩
    simp only [hsplit, List.mem_append, List.mem_cons] at hother ⊢
    grind

theorem upsertParticipant_hostUserId {args : UpsertArgs} (huser : trimmed args.userId ≠ "") :
    (m.upsertParticipant args).hostUserId =
      if args.role = 1 then trimmed args.userId else m.hostUserId := by
  simp only [ParticipantListModel.upsertParticipant, huser, if_false,
    ParticipantListModel.setHostUserId, trimmed_trimmed, ParticipantListModel.upsertedItem]
  grind

theorem removeParticipant_cases (userId : String) :
    m.removeParticipant userId = m ∨
      ∃ before old after, m.items = before ++ old :: after ∧
        m.removeParticipant userId = { items := before ++ after, hostUserId :=
          if old.userId = m.hostUserId then "" else m.hostUserId } := by
  rcases indexOf_cases m (trimmed userId) with ⟨hrow, -⟩ | ⟨before, old, after, hsplit, -, hrow⟩
  · exact .inl (by simp only [ParticipantListModel.removeParticipant, hrow])
  · refine .inr ⟨before, old, after, hsplit, ?_⟩
    have herase : m.items.eraseIdx before.length = before ++ after := by
      rw [hsplit, List.eraseIdx_append_of_length_le le_rfl, Nat.sub_self, List.eraseIdx_cons_zero]
    simp only [ParticipantListModel.removeParticipant, hrow, herase]
    simp [hsplit]

/-! ## What each keeps -/

theorem consistent_new : Consistent .new :=
  ⟨by simp [ParticipantListModel.new], by simp [ParticipantListModel.new],
    by simp [ParticipantListModel.new]⟩

theorem consistent_clear (h : Consistent m) : Consistent m.clearParticipants := by
  unfold ParticipantListModel.clearParticipants
  split
  · exact h
  · exact consistent_new

theorem consistent_replace {participants : List ParticipantItem}
    (h : (participants.map (·.userId)).Nodup) :
    Consistent (.replaceParticipants participants) := by
  apply Consistent.mk'
  · simpa [ParticipantListModel.replaceParticipants, Function.comp_def] using h
  · intro item hitem
    obtain ⟨x, -, rfl⟩ := List.mem_map.mp hitem
    simp [ParticipantListModel.replaceParticipants, IsHost]

theorem consistent_remove (h : Consistent m) (userId : String) :
    Consistent (m.removeParticipant userId) := by
  rcases removeParticipant_cases (m := m) userId with heq | ⟨before, old, after, hsplit, heq⟩
  · rwa [heq]
  have hdistinct := h.distinct
  rw [hsplit, List.map_append, List.map_cons, List.nodup_middle, List.nodup_cons,
    ← List.map_append] at hdistinct
  rw [heq]
  apply Consistent.mk'
  · exact hdistinct.2
  · intro item hitem
    have hother : item.userId ≠ old.userId :=
      fun heq => hdistinct.1 (List.mem_map.mpr ⟨item, hitem, heq⟩)
    have hmem : item ∈ m.items := by
      rw [hsplit]
      simp only [List.mem_append, List.mem_cons] at hitem ⊢
      tauto
    rw [h.hosts item hmem]
    show IsHost m.hostUserId item ↔ IsHost (if _ then _ else _) item
    split
    case isTrue hhost => simp [IsHost, ← hhost, hother]
    case isFalse => rfl

/-- The id alone changes, so the flags are right if no item is concerned. -/
theorem consistent_setHost_iff (h : Consistent m) (userId : String) :
    Consistent (m.setHostUserId userId) ↔ KeepsHosts m (.setHostUserId userId) := by
  have hitems : (m.setHostUserId userId).items = m.items := by
    simp only [ParticipantListModel.setHostUserId]
    split <;> rfl
  have hid : (m.setHostUserId userId).hostUserId = trimmed userId := by
    simp only [ParticipantListModel.setHostUserId]
    split
    case isTrue heq => exact heq
    case isFalse => rfl
  constructor
  · intro h' item hitem
    rw [← h.hosts item hitem, ← hid]
    exact h'.hosts item (by rwa [hitems])
  · intro hkeep
    apply Consistent.mk'
    · rw [hitems]
      exact h.distinct
    · intro item hitem
      rw [hitems] at hitem
      rw [hid, h.hosts item hitem]
      exact hkeep item hitem

theorem consistent_upsert_iff (h : Consistent m) (args : UpsertArgs) :
    Consistent (m.upsertParticipant args) ↔ KeepsHosts m (.upsertParticipant args) := by
  by_cases huser : trimmed args.userId = ""
  · have heq : m.upsertParticipant args = m := by
      simp [ParticipantListModel.upsertParticipant, huser]
    rw [heq]
    exact iff_of_true h fun hne => absurd huser hne
  obtain ⟨hdistinct, hrows⟩ := upsertParticipant_rows h.distinct huser
  have hid := upsertParticipant_hostUserId (m := m) huser
  constructor
  · intro h' _ hrole hnew item hitem hhost
    rw [if_pos hrole] at hid
    have hother : item.userId ≠ trimmed args.userId := fun heq => hnew (heq ▸ hhost.2)
    have hflag := (h'.hosts item ((hrows item).mpr (.inr ⟨hitem, hother⟩))).mp
      ((h.hosts item hitem).mpr hhost)
    exact hother (hid ▸ hflag.2)
  · intro hkeep
    apply Consistent.mk' hdistinct
    intro item hitem
    rw [hid]
    rcases (hrows item).mp hitem with rfl | ⟨hmem, hother⟩
    · simp only [ParticipantListModel.upsertedItem, IsHost, decide_eq_true_eq]
      grind
    · rw [h.hosts item hmem]
      by_cases hrole : args.role = 1
      · by_cases hnew : trimmed args.userId = m.hostUserId
        · rw [if_pos hrole, hnew]
        · rw [if_pos hrole]
          exact iff_of_false (hkeep huser hrole hnew item hmem) fun hhost => hother hhost.2
      · rw [if_neg hrole]

/-! ## Every run -/

theorem consistent_step_iff (op : ParticipantOp) (hop : DistinctIds op) (h : Consistent m) :
    Consistent (m.step op) ↔ KeepsHosts m op := by
  cases op with
  | clearParticipants => exact iff_of_true (consistent_clear h) trivial
  | replaceParticipants participants => exact iff_of_true (consistent_replace hop) trivial
  | upsertParticipant args => exact consistent_upsert_iff h args
  | removeParticipant userId => exact iff_of_true (consistent_remove h userId) trivial
  | setHostUserId userId => exact consistent_setHost_iff h userId

/-- The model is consistent in every state of a run exactly when no step of it
needs a change of a flag that the code does not make. -/
theorem consistent_throughout_iff {ops : List ParticipantOp} (hops : ∀ op ∈ ops, DistinctIds op) :
    (∀ n, Consistent (run ParticipantListModel.step .new (ops.take n))) ↔
      Along ParticipantListModel.step KeepsHosts .new ops :=
  throughout_iff (fun _ op => consistent_step_iff op) consistent_new (.of_mem hops)

/-- The host passes the meeting on to a guest, who then turns the camera off. -/
def hostPassedOn : List ParticipantOp :=
  [.upsertParticipant { userId := "a", displayName := "A", role := 1 },
    .upsertParticipant { userId := "b", displayName := "B" },
    .setHostUserId "b",
    .upsertParticipant { userId := "b", displayName := "B", videoOn := false }]

/-- Now both are the host. -/
theorem hostPassedOn_twoHosts :
    (∀ op ∈ hostPassedOn, DistinctIds op) ∧
      ¬ Consistent (run ParticipantListModel.step .new hostPassedOn) := by
  refine ⟨by simp [hostPassedOn, DistinctIds], fun h => absurd h.oneHost ?_⟩
  decide

/-- A host joins an empty list, changes a device, and a guest leaves. -/
def guestLeaves : List ParticipantOp :=
  [.replaceParticipants [],
    .upsertParticipant { userId := "a", displayName := "A", role := 1 },
    .upsertParticipant { userId := "a ", displayName := "A", role := 1, videoOn := false },
    .removeParticipant "b"]

theorem consistent_throughout_guest :
    (run ParticipantListModel.step .new guestLeaves).hostUserId = "a" ∧
      ∀ n, Consistent (run ParticipantListModel.step .new (guestLeaves.take n)) :=
  ⟨by decide, (consistent_throughout_iff (by simp [guestLeaves, DistinctIds])).mpr (by decide)⟩

end MeetingSystem.Proof.Client
