import MeetingSystem.Impl.Store.MemoryStore
import MeetingSystem.Framework.Assoc
import MeetingSystem.Framework.Run

/-!
# The store's three parallel maps

`meetings`, `participants` and `joinOrder` describe one set of meetings, and
each operation changes the three entries of at most one meeting.

* `MeetingOk`: what the three entries of a live meeting satisfy together, with
  one lemma for each way an operation changes them (`MeetingOk.created`,
  `.joined`, `.left`, `.handedOver`, `.updated`);
* `RepOk`: every id has three such entries or none, kept by every operation
  (`step_repOk`);
* `pickNextHost_spec`: the host hand-over picks the remaining member that
  joined first, in whatever order the map is iterated.
-/

namespace MeetingSystem.Proof.Store

open MeetingSystem.Framework MeetingSystem.Impl.Store

/-! ## One meeting -/

/-- A live meeting and its entries in `participants` and `joinOrder`. -/
structure MeetingOk (mt : Meeting) (ps : Members) (jo : JoinOrder) : Prop where
  nonempty : ps.keys ≠ []
  size : (ps.keys.length : Int) ≤ mt.maxParticipants
  keys : ∀ u, u ∈ ps ↔ u ∈ jo
  host_mem : mt.hostUserID ∈ ps
  role : ∀ u p, ps.lookup u = some p → (p.role = 1 ↔ u = mt.hostUserID)

theorem MeetingOk.created (mt : Meeting) {p : Participant} (q : UInt64)
    (hmax : 0 < mt.maxParticipants) (hp : p.role = 1) :
    MeetingOk mt (AList.insert mt.hostUserID p ∅) (AList.insert mt.hostUserID q ∅) where
  nonempty := by simp
  size := by simp; omega
  keys u := by rw [AList.mem_insert, AList.mem_insert]; simp
  host_mem := by rw [AList.mem_insert]; exact .inl rfl
  role u p' h := by
    obtain rfl : u = mt.hostUserID :=
      ((AList.mem_insert ∅).mp (mem_of_lookup h)).resolve_right (AList.notMem_empty u)
    rw [AList.lookup_insert, Option.some.injEq] at h
    simp [← h, hp]

theorem MeetingOk.joined {mt : Meeting} {ps : Members} {jo : JoinOrder} (h : MeetingOk mt ps jo)
    {u : String} {p : Participant} (q : UInt64) (hroom : (ps.keys.length : Int) < mt.maxParticipants)
    (hu : u ∉ ps) (hp : p.role = 0) : MeetingOk mt (ps.insert u p) (jo.insert u q) where
  nonempty := by simp
  size := by rw [length_keys_insert p hu]; omega
  keys v := by simp [h.keys v]
  host_mem := by simp [h.host_mem]
  role v p' hv := by
    by_cases hvu : v = u
    · subst hvu
      rw [AList.lookup_insert, Option.some.injEq] at hv
      have hne : v ≠ mt.hostUserID := fun e => hu (e ▸ h.host_mem)
      simp [← hv, hp, hne]
    · rw [AList.lookup_insert_ne hvu] at hv
      exact h.role v p' hv

theorem MeetingOk.left {mt : Meeting} {ps : Members} {jo : JoinOrder} (h : MeetingOk mt ps jo)
    {u : String} (hne : (ps.erase u).keys.length ≠ 0) (hu : mt.hostUserID ≠ u) :
    MeetingOk mt (ps.erase u) (jo.erase u) where
  nonempty e := hne (by rw [e]; rfl)
  size := by
    have := length_keys_erase_le u ps
    have := h.size
    omega
  keys v := by simp [h.keys v]
  host_mem := by simp [h.host_mem, hu]
  role v p hv := h.role v p (lookup_of_erase hv).2

theorem MeetingOk.handedOver {mt : Meeting} {ps : Members} {jo : JoinOrder}
    (h : MeetingOk mt ps jo) {u : String} {p : Participant} (hu : u ∈ ps.erase mt.hostUserID)
    (hp : p.role = 1) :
    MeetingOk { mt with hostUserID := u } ((ps.erase mt.hostUserID).replace u p)
      (jo.erase mt.hostUserID) where
  nonempty := by
    rw [AList.keys_replace]
    exact List.ne_nil_of_mem hu
  size := by
    rw [AList.keys_replace]
    have := length_keys_erase_le mt.hostUserID ps
    have := h.size
    simp only
    omega
  keys v := by simp [h.keys v]
  host_mem := by simpa using hu
  role v p' hv := by
    by_cases hvu : v = u
    · subst hvu
      rw [lookup_replace_self p hu, Option.some.injEq] at hv
      simp [← hv, hp]
    · rw [lookup_replace_ne p _ hvu] at hv
      obtain ⟨hvh, hv⟩ := lookup_of_erase hv
      simp [h.role v p' hv, hvh, hvu]

theorem MeetingOk.updated {mt : Meeting} {ps : Members} {jo : JoinOrder} (h : MeetingOk mt ps jo)
    {u : String} {p p' : Participant} (hu : ps.lookup u = some p) (hp : p'.role = p.role) :
    MeetingOk mt (ps.replace u p') jo where
  nonempty := by rw [AList.keys_replace]; exact h.nonempty
  size := by rw [AList.keys_replace]; exact h.size
  keys v := by simp [h.keys v]
  host_mem := by simp [h.host_mem]
  role v p'' hv := by
    by_cases hvu : v = u
    · subst hvu
      rw [lookup_replace_self p' (mem_of_lookup hu), Option.some.injEq] at hv
      rw [← hv, hp]
      exact h.role v p hu
    · rw [lookup_replace_ne p' _ hvu] at hv
      exact h.role v p'' hv

/-! ## The hand-over -/

theorem joinedBefore_false {jo : JoinOrder} {a b : Sigma fun _ : String => Participant} :
    joinedBefore jo a b = false ↔
      (jo.lookup b.1).getD 0 ≤ (jo.lookup a.1).getD 0 ∧
        ((jo.lookup b.1).getD 0 = (jo.lookup a.1).getD 0 → b.1 ≤ a.1) := by
  simp only [joinedBefore, Bool.or_eq_false_iff, decide_eq_false_iff_not, Bool.and_eq_false_iff,
    beq_eq_false_iff_ne, not_lt, UInt64.not_lt]
  refine and_congr_right fun _ => ?_
  rw [or_iff_not_imp_left, not_not, eq_comm]

theorem joinedBefore_strictWeak (jo : JoinOrder) : StrictWeak (joinedBefore jo) where
  asymm a b h := by
    rw [joinedBefore_false]
    simp only [joinedBefore, Bool.or_eq_true, decide_eq_true_eq, Bool.and_eq_true, beq_iff_eq] at h
    rcases h with h | ⟨h, hlt⟩
    · exact ⟨UInt64.le_of_lt h, fun e => absurd (e ▸ h) (UInt64.lt_irrefl _)⟩
    · exact ⟨h ▸ UInt64.le_refl _, fun _ => hlt.le⟩
  negTrans a b c hba hcb := by
    rw [joinedBefore_false] at *
    refine ⟨UInt64.le_trans hba.1 hcb.1, fun e => ?_⟩
    have hab : (jo.lookup a.1).getD 0 = (jo.lookup b.1).getD 0 :=
      UInt64.le_antisymm hba.1 (e ▸ hcb.1)
    exact le_trans (hba.2 hab) (hcb.2 (hab.symm.trans e))

theorem mem_entries_iff {ps : Members} {u : String} {p : Participant} :
    (⟨u, p⟩ : Sigma fun _ : String => Participant) ∈ ps.entries ↔ ps.lookup u = some p :=
  (List.mem_dlookup_iff ps.nodupKeys).symm

/-- The next host is a member, and every member has a larger join sequence
number, or the same one and a user id that is not smaller. -/
theorem pickNextHost_spec {ps : Members} {jo : JoinOrder} {u : String} {p : Participant}
    (h : pickNextHostParticipant ps jo = some ⟨u, p⟩) :
    ps.lookup u = some p ∧ ∀ v ∈ ps, (jo.lookup u).getD 0 ≤ (jo.lookup v).getD 0 ∧
      ((jo.lookup u).getD 0 = (jo.lookup v).getD 0 → u ≤ v) := by
  obtain ⟨hmem, hle⟩ := least_spec (joinedBefore_strictWeak jo) h
  refine ⟨mem_entries_iff.mp hmem, fun v hv => ?_⟩
  obtain ⟨pv, hpv⟩ := lookup_of_mem hv
  exact joinedBefore_false.mp (hle ⟨v, pv⟩ (mem_entries_iff.mpr hpv))

theorem pickNextHost_isSome {ps : Members} (jo : JoinOrder) (h : ps.keys.length ≠ 0) :
    ∃ u p, pickNextHostParticipant ps jo = some ⟨u, p⟩ := by
  have hne : ps.entries ≠ [] := fun e => h (by simp [AList.keys, e])
  obtain ⟨⟨u, p⟩, hr⟩ := least_isSome (joinedBefore jo) hne
  exact ⟨u, p, hr⟩

/-- The choice does not depend on the order in which the map is iterated. -/
theorem pickNextHost_perm {ps ps' : Members} (jo : JoinOrder) (h : ps.entries.Perm ps'.entries) :
    pickNextHostParticipant ps jo = pickNextHostParticipant ps' jo := by
  refine least_perm (joinedBefore_strictWeak jo) h fun a ha b hb hab hba => ?_
  rw [joinedBefore_false] at hab hba
  have hseq := UInt64.le_antisymm hab.1 hba.1
  obtain ⟨u, p⟩ := a
  obtain ⟨v, q⟩ := b
  obtain rfl : u = v := le_antisymm (hba.2 hseq.symm) (hab.2 hseq)
  have hp := mem_entries_iff.mp ha
  rw [mem_entries_iff.mp hb, Option.some.injEq] at hp
  rw [hp]

/-! ## The store -/

/-- The entries of one meeting id in the three maps. -/
inductive RowOk : Option Meeting → Option Members → Option JoinOrder → Prop
  | absent : RowOk none none none
  | live {mt : Meeting} {ps : Members} {jo : JoinOrder} (h : MeetingOk mt ps jo) :
      RowOk (some mt) (some ps) (some jo)

/-- The representation invariant: `meetings`, `participants` and `joinOrder`
have the same keys, and the entries of each key fit together. -/
def RepOk (s : MemoryStore) : Prop :=
  ∀ m, RowOk (s.meetings m) (s.participants m) (s.joinOrder m)

/-- A live meeting has its entries in the other two maps. -/
theorem RepOk.live {s : MemoryStore} (h : RepOk s) {m : String} {mt : Meeting}
    (hm : s.meetings m = some mt) : ∃ ps jo, s.participants m = some ps ∧
      s.joinOrder m = some jo ∧ s.membersOf m = ps ∧ s.joinOrderOf m = jo ∧ MeetingOk mt ps jo := by
  have hr := h m
  rw [hm] at hr
  generalize hps : s.participants m = ps at hr
  generalize hjo : s.joinOrder m = jo at hr
  cases hr with
  | live hok =>
    rename_i ps jo
    exact ⟨ps, jo, rfl, rfl, by simp [MemoryStore.membersOf, hps],
      by simp [MemoryStore.joinOrderOf, hjo], hok⟩

/-- A meeting with participants is live. -/
theorem RepOk.live_of_participants {s : MemoryStore} (h : RepOk s) {m : String} {ps : Members}
    (hm : s.participants m = some ps) : ∃ mt jo, s.meetings m = some mt ∧
      s.joinOrder m = some jo ∧ MeetingOk mt ps jo := by
  have hr := h m
  rw [hm] at hr
  generalize hmt : s.meetings m = mt at hr
  generalize hjo : s.joinOrder m = jo at hr
  cases hr with
  | live hok => exact ⟨_, _, rfl, rfl, hok⟩

/-- An operation that changes the entries of one meeting id only, to entries
that fit together. -/
theorem RepOk.set {s s' : MemoryStore} (h : RepOk s) (m : String)
    (hrow : RowOk (s'.meetings m) (s'.participants m) (s'.joinOrder m))
    (hmt : ∀ m' ≠ m, s'.meetings m' = s.meetings m')
    (hps : ∀ m' ≠ m, s'.participants m' = s.participants m')
    (hjo : ∀ m' ≠ m, s'.joinOrder m' = s.joinOrder m') : RepOk s' := by
  intro m'
  by_cases hm : m' = m
  · subst hm
    exact hrow
  · rw [hmt m' hm, hps m' hm, hjo m' hm]
    exact h m'

theorem newMemoryStore_repOk (hash : String → String) : RepOk (newMemoryStore hash) :=
  fun _ => .absent

theorem createMeetingAt_repOk {s : MemoryStore} (h : RepOk s)
    (meetingID title password hostUserID : String) {maxParticipants : Int} (now : Int)
    (hmax : 0 < maxParticipants) :
    RepOk (s.createMeetingAt meetingID title password hostUserID maxParticipants now).1 := by
  unfold MemoryStore.createMeetingAt
  split
  · exact h
  · refine h.set meetingID ?_ ?_ ?_ ?_
    · simp only [Function.update_self]
      exact .live (.created { hostUserID := hostUserID, .. } _ hmax rfl)
    all_goals intro m' hm; simp [hm]

theorem createMeeting_repOk {s : MemoryStore} (h : RepOk s) (title password hostUserID : String)
    (maxParticipants : Int) (r : Fin 9000) (now : Int) :
    RepOk (s.createMeeting title password hostUserID maxParticipants r now).1 := by
  refine createMeetingAt_repOk (s := (s.generateMeetingIDLocked r).1) h _ _ _ _ _ ?_
  split <;> omega

theorem joinMeeting_repOk {s : MemoryStore} (h : RepOk s) (meetingID password userID : String) :
    RepOk (s.joinMeeting meetingID password userID).1 := by
  unfold MemoryStore.joinMeeting
  split
  · exact h
  rename_i mt hm
  obtain ⟨ps, jo, hps, hjo, hps', hjo', hok⟩ := h.live hm
  simp only [hps', hjo']
  split
  · exact h
  split
  · exact h
  rename_i hroom
  split
  · exact h
  rename_i hu
  split
  · exact h
  refine h.set meetingID ?_ ?_ ?_ ?_
  · simp only [Function.update_self, hm]
    exact .live (hok.joined _ (by omega) (AList.lookup_eq_none.mp hu) rfl)
  all_goals intro m' hm'; simp [hm']

theorem leaveMeeting_repOk {s : MemoryStore} (h : RepOk s) (meetingID userID : String) :
    RepOk (s.leaveMeeting meetingID userID).1 := by
  unfold MemoryStore.leaveMeeting
  split
  · exact h
  rename_i mt hm
  obtain ⟨ps, jo, hps, hjo, hps', hjo', hok⟩ := h.live hm
  simp only [hps', hjo']
  split
  · refine h.set meetingID ?_ ?_ ?_ ?_
    · simp only [Function.update_self]
      exact .absent
    all_goals intro m' hm'; simp [hm']
  rename_i hne
  split
  · rename_i hhost
    subst hhost
    obtain ⟨u, p, hpick⟩ := pickNextHost_isSome (jo.erase mt.hostUserID) hne
    simp only [hpick]
    refine h.set meetingID ?_ ?_ ?_ ?_
    · simp only [Function.update_self]
      exact .live (hok.handedOver (mem_of_lookup (pickNextHost_spec hpick).1) rfl)
    all_goals intro m' hm'; simp [hm']
  · rename_i hhost
    refine h.set meetingID ?_ ?_ ?_ ?_
    · simp only [Function.update_self, hm]
      exact .live (hok.left hne hhost)
    all_goals intro m' hm'; simp [hm']

theorem updateParticipant_repOk {s : MemoryStore} (h : RepOk s) (meetingID userID : String)
    {f : Participant → Participant} (hf : ∀ p, (f p).role = p.role) :
    RepOk (s.updateParticipant meetingID userID f).1 := by
  unfold MemoryStore.updateParticipant
  split
  · exact h
  rename_i ps hps
  obtain ⟨mt, jo, hmt, hjo, hok⟩ := h.live_of_participants hps
  split
  · exact h
  rename_i p hp
  refine h.set meetingID ?_ ?_ ?_ ?_
  · simp only [Function.update_self, hmt, hjo]
    exact .live (hok.updated hp (hf p))
  all_goals intro m' hm'; simp [hm']

theorem setMediaSsrc_role (a v : UInt32) (p : Participant) :
    (setMediaSsrc a v p).role = p.role := by
  unfold setMediaSsrc
  split <;> split <;> rfl

theorem setMediaMuted_role (t : Int32) (b : Bool) (p : Participant) :
    (setMediaMuted t b p).role = p.role := by
  unfold setMediaMuted
  split
  · rfl
  · split <;> rfl

/-- Every operation keeps the representation invariant. -/
theorem step_repOk (s : MemoryStore) (o : Op) (h : RepOk s) : RepOk (s.step o) := by
  cases o with
  | createMeeting => exact createMeeting_repOk h _ _ _ _ _ _
  | joinMeeting => exact joinMeeting_repOk h _ _ _
  | leaveMeeting => exact leaveMeeting_repOk h _ _
  | setParticipantMediaSsrc => exact updateParticipant_repOk h _ _ (setMediaSsrc_role _ _)
  | setParticipantMediaMuted => exact updateParticipant_repOk h _ _ (setMediaMuted_role _ _)
  | setParticipantSharing => exact updateParticipant_repOk h _ _ fun _ => rfl
  | saveMessage => exact h

theorem run_repOk (hash : String → String) (os : List Op) :
    RepOk (run MemoryStore.step (newMemoryStore hash) os) :=
  run_inv step_repOk (newMemoryStore_repOk hash) os

end MeetingSystem.Proof.Store
