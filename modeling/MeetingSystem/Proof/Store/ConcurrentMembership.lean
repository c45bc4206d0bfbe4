import MeetingSystem.Framework.Interleave
import MeetingSystem.Proof.Store.Statements
import MeetingSystem.Proof.Store.Tables

/-!
# Joins and leaves at the same time

Any number of `JoinMeeting` and `LeaveMeeting` calls of the database-backed
store, whose statements interleave. `MembershipOk` is what the tables should
satisfy whenever no call is in progress. A call acts on what it read in an
earlier statement, so it holds where the two statements that act on a meeting's
membership find what the call relies on (`StatementOk`):

* a row is inserted while the meeting still has somebody in it and a place
  left, and no active row of the user;
* who is marked as gone is not the host, or was read as the host.

`CallsInv` is the invariant of such runs: where a meeting has lost its host or
its last member, a call in progress is about to see to it.
-/

namespace MeetingSystem.Proof.Store

open MeetingSystem.Framework MeetingSystem.Impl.Store

/-! ## The property -/

/-- The users with an active row, in the order of the rows. -/
def activeUsers (db : Db) (meetingID : UInt64) : List UInt64 :=
  (activeRows db meetingID).map (·.userID)

/-- A meeting has no more participants than places, no user has two active
rows in it, and its host is in it. -/
structure MeetingRowOk (db : Db) (row : MeetingRow) : Prop where
  places : ((activeUsers db row.id).length : Int) ≤ row.maxParticipants
  distinct : (activeUsers db row.id).Nodup
  host : row.hostUserID ∈ activeUsers db row.id

def MembershipOk (db : Db) : Prop := ∀ row ∈ db.meetings, MeetingRowOk db row

theorem activeUsers_inserted (db : Db) (participant : ParticipantRow) (id j : UInt64) :
    activeUsers (insertedParticipant db participant id) j =
      activeUsers db j ++ if participant.meetingID = j then [participant.userID] else [] := by
  rw [activeUsers, activeRows_insertedParticipant, List.map_append]
  congr 1
  split <;> rfl

theorem activeUsers_marked (db : Db) (i u : UInt64) (now : Int) :
    activeUsers (markedLeft db i u now) i = (activeUsers db i).filter fun n => n ≠ u := by
  rw [activeUsers, activeRows_markedLeft, activeUsers, List.filter_map]
  rfl

theorem activeUsers_marked_ne (db : Db) {i j : UInt64} (u : UInt64) (now : Int) (h : j ≠ i) :
    activeUsers (markedLeft db i u now) j = activeUsers db j := by
  rw [activeUsers, activeRows_markedLeft_ne db u now h, activeUsers]

theorem activeUsers_handedOver (db : Db) (i u j : UInt64) :
    activeUsers (handedOver db i u) j = activeUsers db j := by
  rw [activeUsers, activeRows_handedOver, List.map_map, activeUsers]
  apply List.map_congr_left
  intro row _
  dsimp only [Function.comp]
  split <;> rfl

theorem activeUsers_deleted (db : Db) {i j : UInt64} (h : j ≠ i) :
    activeUsers (deletedMeeting db i) j = activeUsers db j := by
  rw [activeUsers, activeRows_deletedMeeting db h, activeUsers]

/-! ## The calls -/

abbrev Calls := Pool Db MeetingCall

def Calls.step (lookupUser : String → Option User) (p : Calls)
    (m : Move MeetingRequest StatementDraw) : Calls :=
  p.move MeetingRequest.entry (fun db draw c => c.next lookupUser db draw) m

/-- The tables are as a join's checks found them: if the meeting is still there,
somebody is in it, it has a place left, and the user is not in it. -/
def MayJoin (db : Db) (meetingID userID : UInt64) : Prop :=
  ∀ row ∈ db.meetings, row.id = meetingID →
    activeUsers db meetingID ≠ [] ∧ ((activeUsers db meetingID).length : Int) < row.maxParticipants ∧
      userID ∉ activeUsers db meetingID

/-- A user who is the host now was the host when the leave read the meeting. -/
def MayLeave (db : Db) (meetingModel : MeetingRow) (userID : UInt64) : Prop :=
  ∀ row ∈ db.meetings, row.id = meetingModel.id → row.hostUserID = userID →
    meetingModel.hostUserID = userID

def StatementOk (db : Db) : MeetingCall → Prop
  | .joinAdd meetingModel internalUserID _ => MayJoin db meetingModel.id internalUserID
  | .leaveMark meetingModel internalUserID => MayLeave db meetingModel internalUserID
  | _ => True

def Undisturbed (p : Calls) : Move MeetingRequest StatementDraw → Prop
  | .start _ _ => True
  | .step i _ => ∀ c, p.calls i = some c → StatementOk p.shared c

/-! ## The invariant -/

/-- The call will give the meeting a new host, unless it finds it empty. -/
def WillTransfer (meetingID : UInt64) : MeetingCall → Prop
  | .leaveList row n => row.id = meetingID ∧ row.hostUserID = n
  | .leaveTransfer row _ => row.id = meetingID
  | _ => False

/-- The call will delete the meeting, if it finds it empty. -/
def WillClear (meetingID : UInt64) : MeetingCall → Prop
  | .leaveList row _ => row.id = meetingID
  | .leaveDelete row => row.id = meetingID
  | _ => False

structure RowInv (p : Calls) (row : MeetingRow) : Prop where
  places : ((activeUsers p.shared row.id).length : Int) ≤ row.maxParticipants
  distinct : (activeUsers p.shared row.id).Nodup
  host : row.hostUserID ∈ activeUsers p.shared row.id ∨ activeUsers p.shared row.id = [] ∨
    p.Has (WillTransfer row.id)
  empty : activeUsers p.shared row.id = [] → p.Has (WillClear row.id)

structure CallsInv (p : Calls) : Prop where
  ids : (p.shared.meetings.map (·.id)).Nodup
  nonzero : ∀ row ∈ p.shared.meetings, row.id ≠ 0
  rows : ∀ row ∈ p.shared.meetings, RowInv p row

/-- Without calls in progress the invariant is the property. -/
theorem CallsInv.membershipOk {p : Calls} (h : CallsInv p) (hq : p.Quiescent) :
    MembershipOk p.shared := by
  intro row hrow
  obtain ⟨hplaces, hdistinct, hhost, hempty⟩ := h.rows row hrow
  have hne : activeUsers p.shared row.id ≠ [] := fun e => hq.not_has _ (hempty e)
  exact ⟨hplaces, hdistinct, (hhost.resolve_right fun e =>
    e.elim hne (hq.not_has _))⟩

/-- `id` is the primary key of `meetings`, given by `AUTO_INCREMENT`. -/
structure KeysOk (db : Db) : Prop where
  ids : (db.meetings.map (·.id)).Nodup
  nonzero : ∀ row ∈ db.meetings, row.id ≠ 0

theorem callsInv_init {db : Db} (hkeys : KeysOk db) (h : MembershipOk db) :
    CallsInv { shared := db, calls := fun _ => none } where
  ids := hkeys.ids
  nonzero := hkeys.nonzero
  rows row hrow :=
    { places := (h row hrow).places
      distinct := (h row hrow).distinct
      host := .inl (h row hrow).host
      empty := fun e => absurd e (List.ne_nil_of_mem (h row hrow).host) }

/-! ## Statements -/

section

variable {p p' : Calls} {row : MeetingRow}

/-- A meeting whose rows a statement does not touch. -/
theorem RowInv.frame (h : RowInv p row)
    (hactive : activeUsers p'.shared row.id = activeUsers p.shared row.id)
    (htransfer : p.Has (WillTransfer row.id) → p'.Has (WillTransfer row.id))
    (hclear : p.Has (WillClear row.id) → p'.Has (WillClear row.id)) : RowInv p' row where
  places := by rw [hactive]; exact h.places
  distinct := by rw [hactive]; exact h.distinct
  host := by
    rw [hactive]
    exact h.host.imp_right fun e => e.imp_right htransfer
  empty e := hclear (h.empty (hactive ▸ e))

/-- No meeting relies on the call. -/
def NotNeeded (p : Calls) (c : MeetingCall) : Prop :=
  ∀ row ∈ p.shared.meetings, ¬ WillTransfer row.id c ∧ ¬ WillClear row.id c

/-- A call that no meeting relies on moves on, and the tables stay. -/
theorem CallsInv.quiet (h : CallsInv p) {i : Nat}
    (hi : ∀ c, p.calls i = some c → NotNeeded p c)
    (c' : Option MeetingCall) :
    CallsInv { shared := p.shared, calls := Function.update p.calls i c' } where
  ids := h.ids
  nonzero := h.nonzero
  rows row hrow := by
    refine (h.rows row hrow).frame rfl (fun hh => ?_) (fun hh => ?_)
    · exact hh.update fun c hc => (hi c hc row hrow).1
    · exact hh.update fun c hc => (hi c hc row hrow).2

theorem CallsInv.joined (h : CallsInv p) {i : Nat}
    (hi : ∀ c, p.calls i = some c → NotNeeded p c)
    (c' : Option MeetingCall) (participant : ParticipantRow) (rowID : UInt64)
    (hmay : MayJoin p.shared participant.meetingID participant.userID) :
    CallsInv { shared := insertedParticipant p.shared participant rowID
               calls := Function.update p.calls i c' } where
  ids := h.ids
  nonzero := h.nonzero
  rows row hrow := by
    have hquiet := (h.quiet hi c').rows row hrow
    by_cases hm : participant.meetingID = row.id
    · obtain ⟨hne, hroom, hnew⟩ := hmay row hrow hm.symm
      rw [hm] at hne hroom hnew
      have hactive := activeUsers_inserted p.shared participant rowID row.id
      rw [if_pos hm] at hactive
      constructor <;> rw [hactive]
      · rw [List.length_append, List.length_singleton]
        omega
      · exact hquiet.distinct.append (List.nodup_singleton _) (by simpa using hnew)
      · rcases hquiet.host with hhost | hempty | hwill
        · exact .inl (List.mem_append_left _ hhost)
        · exact absurd hempty hne
        · exact .inr (.inr hwill)
      · intro e
        exact absurd (List.append_eq_nil_iff.mp e).2 (List.cons_ne_nil _ _)
    · refine hquiet.frame ?_ id id
      rw [activeUsers_inserted, if_neg hm, List.append_nil]

/-- A user has been marked: the call goes on to list who is left. -/
theorem CallsInv.marked (h : CallsInv p) {i : Nat}
    (hi : ∀ c, p.calls i = some c → NotNeeded p c)
    {meetingModel : MeetingRow} {n : UInt64} (now : Int) (hmay : MayLeave p.shared meetingModel n) :
    CallsInv { shared := markedLeft p.shared meetingModel.id n now
               calls := Function.update p.calls i (some (.leaveList meetingModel n)) } where
  ids := h.ids
  nonzero := h.nonzero
  rows row hrow := by
    have hquiet := (h.quiet hi (some (.leaveList meetingModel n))).rows row hrow
    by_cases hm : row.id = meetingModel.id
    · have hactive : activeUsers (markedLeft p.shared meetingModel.id n now) row.id =
          (activeUsers p.shared row.id).filter fun u => u ≠ n := by
        rw [hm, activeUsers_marked]
      constructor <;> rw [hactive]
      · have hle := List.length_filter_le (fun u => decide (u ≠ n)) (activeUsers p.shared row.id)
        have hplaces := hquiet.places
        dsimp only at hplaces
        omega
      · exact hquiet.distinct.filter _
      · by_cases hhost : row.hostUserID = n
        · exact .inr (.inr (Pool.has_update_self ⟨hm.symm, hmay row hrow hm hhost⟩))
        rcases hquiet.host with hmem | hempty | hwill
        · exact .inl (List.mem_filter.mpr ⟨hmem, decide_eq_true hhost⟩)
        · refine .inr (.inl ?_)
          dsimp only at hempty
          rw [hempty, List.filter_nil]
        · exact .inr (.inr hwill)
      · intro _
        exact Pool.has_update_self hm.symm
    · refine hquiet.frame ?_ id id
      exact activeUsers_marked_ne _ _ _ hm

/-- The leave of call `i` found the meeting empty. -/
theorem CallsInv.listedEmpty (h : CallsInv p) {i : Nat} {meetingModel : MeetingRow} {n : UInt64}
    (hi : p.calls i = some (.leaveList meetingModel n))
    (hempty : activeUsers p.shared meetingModel.id = []) :
    CallsInv { shared := p.shared
               calls := Function.update p.calls i (some (.leaveDelete meetingModel)) } where
  ids := h.ids
  nonzero := h.nonzero
  rows row hrow := by
    have hold := h.rows row hrow
    by_cases hm : row.id = meetingModel.id
    · exact { hold with
              host := .inr (.inl (hm ▸ hempty))
              empty := fun _ => Pool.has_update_self hm.symm }
    · refine hold.frame rfl (fun hh => ?_) (fun hh => ?_) <;> refine hh.update fun c hc hwill => ?_ <;>
        obtain rfl := Option.some.inj (hi.symm.trans hc)
      · exact hm hwill.1.symm
      · exact hm hwill.symm

/-- The leave of call `i` found somebody left, and the user was not the host. -/
theorem CallsInv.listedGuest (h : CallsInv p) {i : Nat} {meetingModel : MeetingRow} {n : UInt64}
    (hi : p.calls i = some (.leaveList meetingModel n))
    (hne : activeUsers p.shared meetingModel.id ≠ []) (hguest : meetingModel.hostUserID ≠ n) :
    CallsInv { shared := p.shared, calls := Function.update p.calls i none } where
  ids := h.ids
  nonzero := h.nonzero
  rows row hrow := by
    have hold := h.rows row hrow
    have htransfer : p.Has (WillTransfer row.id) →
        Pool.Has { shared := p.shared, calls := Function.update p.calls i none }
          (WillTransfer row.id) := by
      intro hh
      refine hh.update fun c hc hwill => ?_
      obtain rfl := Option.some.inj (hi.symm.trans hc)
      exact hguest hwill.2
    refine { hold with host := hold.host.imp_right fun e => e.imp_right htransfer, empty := ?_ }
    intro e
    refine (hold.empty e).update fun c hc hwill => ?_
    obtain rfl := Option.some.inj (hi.symm.trans hc)
    exact hne (hwill ▸ e)

/-- The leave of call `i` found somebody left, and the user was the host. -/
theorem CallsInv.listedHost (h : CallsInv p) {i : Nat} {meetingModel : MeetingRow} {n : UInt64}
    (hi : p.calls i = some (.leaveList meetingModel n))
    (hne : activeUsers p.shared meetingModel.id ≠ []) (remaining : Nat) :
    CallsInv { shared := p.shared
               calls := Function.update p.calls i (some (.leaveTransfer meetingModel remaining)) } where
  ids := h.ids
  nonzero := h.nonzero
  rows row hrow := by
    have hold := h.rows row hrow
    refine { hold with host := ?_, empty := ?_ }
    · by_cases hm : row.id = meetingModel.id
      · exact .inr (.inr (Pool.has_update_self hm.symm))
      refine hold.host.imp_right fun e => e.imp_right fun hh => ?_
      refine hh.update fun c hc hwill => ?_
      obtain rfl := Option.some.inj (hi.symm.trans hc)
      exact hm hwill.1.symm
    · intro e
      refine (hold.empty e).update fun c hc hwill => ?_
      obtain rfl := Option.some.inj (hi.symm.trans hc)
      exact hne (hwill ▸ e)

/-- The meeting is deleted. -/
theorem CallsInv.deleted (h : CallsInv p) {i : Nat} {meetingModel : MeetingRow}
    (hi : p.calls i = some (.leaveDelete meetingModel)) :
    CallsInv { shared := deletedMeeting p.shared meetingModel.id
               calls := Function.update p.calls i none } where
  ids := h.ids.sublist (List.filter_sublist.map _)
  nonzero row hrow := h.nonzero row (List.mem_of_mem_filter hrow)
  rows row hrow := by
    obtain ⟨hmem, hne⟩ := List.mem_filter.mp hrow
    have hne : row.id ≠ meetingModel.id := of_decide_eq_true hne
    refine (h.rows row hmem).frame (activeUsers_deleted _ hne) (fun hh => ?_) (fun hh => ?_) <;>
      refine hh.update fun c hc hwill => ?_ <;> obtain rfl := Option.some.inj (hi.symm.trans hc)
    · exact hwill
    · exact hne hwill.symm

/-- Somebody who is in the meeting has become its host. -/
theorem CallsInv.handedOver (h : CallsInv p) {i : Nat} {meetingModel : MeetingRow} {remaining : Nat}
    (hi : p.calls i = some (.leaveTransfer meetingModel remaining)) {n : UInt64}
    (hn : n ∈ activeUsers p.shared meetingModel.id) :
    CallsInv { shared := handedOver p.shared meetingModel.id n
               calls := Function.update p.calls i none } where
  ids := by
    show (List.map _ (List.map _ _)).Nodup
    rw [List.map_map]
    have hid : (·.id) ∘ (fun row : MeetingRow =>
        if row.id = meetingModel.id then { row with hostUserID := n } else row) = (·.id) := by
      funext row
      dsimp only [Function.comp]
      split <;> rfl
    rw [hid]
    exact h.ids
  nonzero row hrow := by
    obtain ⟨row, hmem, rfl⟩ := List.mem_map.mp hrow
    have := h.nonzero row hmem
    split <;> exact this
  rows row hrow := by
    obtain ⟨row, hmem, rfl⟩ := List.mem_map.mp hrow
    have hold := h.rows row hmem
    have hclear : p.Has (WillClear row.id) →
        Pool.Has { shared := Store.handedOver p.shared meetingModel.id n,
                   calls := Function.update p.calls i none } (WillClear row.id) := by
      intro hh
      refine hh.update fun c hc hwill => ?_
      obtain rfl := Option.some.inj (hi.symm.trans hc)
      exact hwill
    have hactive := activeUsers_handedOver p.shared meetingModel.id n row.id
    by_cases hm : row.id = meetingModel.id
    · rw [if_pos hm]
      constructor <;> dsimp only <;> rw [hactive]
      · exact hold.places
      · exact hold.distinct
      · exact .inl (hm ▸ hn)
      · exact fun e => hclear (hold.empty e)
    · rw [if_neg hm]
      refine hold.frame hactive (fun hh => ?_) hclear
      refine hh.update fun c hc hwill => ?_
      obtain rfl := Option.some.inj (hi.symm.trans hc)
      exact hm hwill.symm

/-- Nobody is left to hand over to, or there is no such meeting. -/
theorem CallsInv.notHandedOver (h : CallsInv p) {i : Nat} {meetingModel : MeetingRow}
    {remaining : Nat} (hi : p.calls i = some (.leaveTransfer meetingModel remaining))
    (hwhy : ∀ row ∈ p.shared.meetings, row.id = meetingModel.id → activeUsers p.shared row.id = []) :
    CallsInv { shared := p.shared, calls := Function.update p.calls i none } where
  ids := h.ids
  nonzero := h.nonzero
  rows row hrow := by
    have hold := h.rows row hrow
    refine { hold with host := ?_, empty := ?_ }
    · by_cases hm : row.id = meetingModel.id
      · exact .inr (.inl (hwhy row hrow hm))
      refine hold.host.imp_right fun e => e.imp_right fun hh => ?_
      refine hh.update fun c hc hwill => ?_
      obtain rfl := Option.some.inj (hi.symm.trans hc)
      exact hm hwill.symm
    · intro e
      refine (hold.empty e).update fun c hc hwill => ?_
      obtain rfl := Option.some.inj (hi.symm.trans hc)
      exact hwill

end

/-! ## Runs -/

theorem listActiveParticipants_length {db : Db} {i : UInt64} {active : List ParticipantRow}
    (h : db.listActiveParticipants i = .ok active) :
    active.length = 0 ↔ activeUsers db i = [] := by
  unfold Db.listActiveParticipants at h
  split at h
  · cases h
  · obtain rfl := Except.ok.inj h
    rw [Db.selectActive, List.length_insertionSort, activeUsers, List.map_eq_nil_iff,
      List.length_eq_zero_iff]
    rfl

variable {lookupUser : String → Option User} {p : Calls}

theorem joinFind_db (db : Db) (meetingID password userID : String) :
    (joinFind db meetingID password userID).1 = db := by
  unfold joinFind
  split
  · rfl
  · rfl
  · dsimp only
    split <;> rfl

theorem joinList_db (db : Db) (meetingModel : MeetingRow) (userID : String) :
    (joinList lookupUser db meetingModel userID).1 = db := by
  unfold joinList
  split
  · rfl
  · split
    · rfl
    · split
      · rfl
      · split
        · rfl
        · split <;> rfl

theorem joinLoad_db (db : Db) (meetingModel : MeetingRow) (self : Participant) :
    (joinLoad lookupUser db meetingModel self).1 = db := by
  unfold joinLoad
  split <;> rfl

theorem leaveFind_db (db : Db) (meetingID userID : String) :
    (leaveFind db meetingID userID).1 = db := by
  unfold leaveFind
  split
  · rfl
  · rfl
  · split <;> rfl

/-- One statement of a call. -/
theorem CallsInv.statement (h : CallsInv p) {i : Nat} {c : MeetingCall} (hc : p.calls i = some c)
    (draw : StatementDraw) (hok : StatementOk p.shared c) :
    CallsInv { shared := (c.next lookupUser p.shared draw).1
               calls := Function.update p.calls i (c.next lookupUser p.shared draw).2.getLeft? } := by
  have hthis : NotNeeded p c → ∀ c', p.calls i = some c' → NotNeeded p c' := by
    intro hnot c' hc'
    obtain rfl := Option.some.inj (hc.symm.trans hc')
    exact hnot
  cases c with
  | joinFind meetingID password userID =>
    show CallsInv { shared := (joinFind _ _ _ _).1, calls := _ }
    rw [joinFind_db]
    exact h.quiet (hthis fun _ _ => ⟨False.elim, False.elim⟩) _
  | joinList meetingModel userID =>
    show CallsInv { shared := (joinList _ _ _ _).1, calls := _ }
    rw [joinList_db]
    exact h.quiet (hthis fun _ _ => ⟨False.elim, False.elim⟩) _
  | joinAdd meetingModel n self =>
    dsimp only [MeetingCall.next, joinAdd, Db.addParticipant]
    split_ifs with hzero
    · exact h.quiet (hthis fun _ _ => ⟨False.elim, False.elim⟩) _
    · exact h.joined (hthis fun _ _ => ⟨False.elim, False.elim⟩) _
        { id := 0, meetingID := meetingModel.id, userID := n, role := 0, mediaState := 0,
          joinedAt := draw.now, leftAt := none } draw.participantID hok
  | joinLoad meetingModel self =>
    show CallsInv { shared := (joinLoad _ _ _ _).1, calls := _ }
    rw [joinLoad_db]
    exact h.quiet (hthis fun _ _ => ⟨False.elim, False.elim⟩) _
  | leaveFind meetingID userID =>
    show CallsInv { shared := (leaveFind _ _ _).1, calls := _ }
    rw [leaveFind_db]
    exact h.quiet (hthis fun _ _ => ⟨False.elim, False.elim⟩) _
  | leaveMark meetingModel n =>
    dsimp only [MeetingCall.next, leaveMark, Db.markParticipantLeft]
    split_ifs with hzero hany
    · exact h.quiet (hthis fun _ _ => ⟨False.elim, False.elim⟩) _
    · exact h.marked (hthis fun _ _ => ⟨False.elim, False.elim⟩) draw.now hok
    · exact h.quiet (hthis fun _ _ => ⟨False.elim, False.elim⟩) _
  | leaveList meetingModel n =>
    dsimp only [MeetingCall.next, leaveList]
    cases hlist : p.shared.listActiveParticipants meetingModel.id with
    | error err =>
      have hzero : meetingModel.id = 0 := by
        unfold Db.listActiveParticipants at hlist
        split at hlist
        · assumption
        · cases hlist
      refine h.quiet (hthis fun row hrow => ⟨fun hw => ?_, fun hw => ?_⟩) _
      · exact h.nonzero row hrow (hw.1.symm.trans hzero)
      · exact h.nonzero row hrow (hw.symm.trans hzero)
    | ok active =>
      have hempty := listActiveParticipants_length hlist
      dsimp only
      split_ifs with hzero hguest
      · exact h.listedEmpty hc (hempty.mp hzero)
      · exact h.listedGuest hc (fun e => hzero (hempty.mpr e)) hguest
      · exact h.listedHost hc (fun e => hzero (hempty.mpr e)) _
  | leaveDelete meetingModel =>
    dsimp only [MeetingCall.next, leaveDelete, Db.deleteMeeting]
    split_ifs with hzero
    · refine h.quiet (hthis fun row hrow => ⟨False.elim, fun hw => ?_⟩) _
      exact h.nonzero row hrow (hw.symm.trans hzero)
    · exact h.deleted hc
  | leaveTransfer meetingModel remaining =>
    dsimp only [MeetingCall.next, leaveTransfer]
    rcases transferHost_cases p.shared meetingModel.id with ⟨err, herr, hwhy⟩ | ⟨row, hrow, hok⟩
    · rw [herr]
      refine h.notHandedOver hc fun row hrow hm => ?_
      rcases hwhy with hzero | hgone | hempty
      · exact absurd (hm.trans hzero) (h.nonzero row hrow)
      · exact absurd hm (hgone row hrow)
      · rw [hm, activeUsers, hempty, List.map_nil]
    · rw [hok]
      exact h.handedOver hc (List.mem_map_of_mem hrow)

/-- One move of the calls. -/
theorem CallsInv.step (h : CallsInv p) (m : Move MeetingRequest StatementDraw)
    (hok : Undisturbed p m) : CallsInv (p.step lookupUser m) := by
  rcases Pool.move_cases MeetingRequest.entry _ m with he | ⟨i, a, rfl, hnone, he⟩ |
    ⟨i, draw, c, rfl, hc, he⟩
  · rw [Calls.step, he]
    exact h
  · rw [Calls.step, he]
    refine h.quiet (fun c hc => ?_) _
    rw [hnone] at hc
    cases hc
  · rw [Calls.step, he]
    exact h.statement hc draw (hok c hc)

/-- No call is in progress, and the tables hold `db`. -/
def atRest (db : Db) : Calls := { shared := db, calls := fun _ => none }

/-- In every run in which the statements find what their calls rely on,
whenever no call is in progress the tables are as they should be. -/
theorem concurrent_membership (lookupUser : String → Option User) {db : Db} (hkeys : KeysOk db)
    (hdb : MembershipOk db) (moves : List (Move MeetingRequest StatementDraw))
    (hmoves : Along (Calls.step lookupUser) Undisturbed (atRest db) moves)
    (hquiet : (run (Calls.step lookupUser) (atRest db) moves).Quiescent) :
    MembershipOk (run (Calls.step lookupUser) (atRest db) moves).shared :=
  (Along.inv (fun _ m hok h => h.step m hok) (callsInv_init hkeys hdb) hmoves).membershipOk hquiet

instance (db : Db) (meetingID userID : UInt64) : Decidable (MayJoin db meetingID userID) :=
  inferInstanceAs (Decidable (∀ row ∈ db.meetings, _))

instance (db : Db) (meetingModel : MeetingRow) (userID : UInt64) :
    Decidable (MayLeave db meetingModel userID) :=
  inferInstanceAs (Decidable (∀ row ∈ db.meetings, _))

instance (db : Db) : ∀ c, Decidable (StatementOk db c)
  | .joinAdd meetingModel n _ => inferInstanceAs (Decidable (MayJoin db meetingModel.id n))
  | .leaveMark meetingModel n => inferInstanceAs (Decidable (MayLeave db meetingModel n))
  | .joinFind _ _ _ => .isTrue trivial
  | .joinList _ _ => .isTrue trivial
  | .joinLoad _ _ => .isTrue trivial
  | .leaveFind _ _ => .isTrue trivial
  | .leaveList _ _ => .isTrue trivial
  | .leaveDelete _ => .isTrue trivial
  | .leaveTransfer _ _ => .isTrue trivial

instance (p : Calls) : ∀ m, Decidable (Undisturbed p m)
  | .start _ _ => .isTrue trivial
  | .step i _ => decidable_of_iff _ (p.all_call_iff i)

/-- The meeting 100001 with `max` places, and user 1001 in it. -/
def oneMeeting (max : Int) : Db :=
  { meetings :=
      [{ id := 1, meetingNo := "100001", title := "standup", hostUserID := 1001, passwordHash := "",
         status := 0, maxParticipants := max, createdAt := 0 }]
    participants :=
      [{ id := 1, meetingID := 1, userID := 1001, role := 1, mediaState := 0, joinedAt := 0,
         leftAt := none }]
    lastMeetingID := 1, lastParticipantID := 1 }

theorem oneMeeting_keysOk (max : Int) : KeysOk (oneMeeting max) where
  ids := List.nodup_singleton _
  nonzero row hrow := by
    obtain rfl := List.mem_singleton.mp hrow
    show (1 : UInt64) ≠ 0
    decide

theorem oneMeeting_membershipOk {max : Int} (h : 1 ≤ max) : MembershipOk (oneMeeting max) := by
  intro row hrow
  obtain rfl := List.mem_singleton.mp hrow
  exact ⟨h, List.nodup_singleton _, List.mem_singleton_self _⟩

theorem atRest_quiescent (db : Db) : (atRest db).Quiescent := fun _ => rfl

/-- Users 1002 and 1003 join at the same time, statement by statement. -/
def twoJoins : List (Move MeetingRequest StatementDraw) :=
  [.start 0 (.joinMeeting "100001" "" "u1002"), .start 1 (.joinMeeting "100001" "" "u1003"),
   .step 0 ⟨1, 2⟩, .step 1 ⟨1, 2⟩, .step 0 ⟨1, 2⟩, .step 1 ⟨1, 2⟩, .step 0 ⟨1, 2⟩, .step 1 ⟨1, 3⟩,
   .step 0 ⟨1, 3⟩, .step 1 ⟨1, 3⟩]

/-- With sixteen places nothing is wrong with it. -/
theorem concurrent_membership_twoJoins :
    MembershipOk (run (Calls.step (newMemoryStore id).userByID) (atRest (oneMeeting 16))
      twoJoins).shared ∧
    activeUsers (run (Calls.step (newMemoryStore id).userByID) (atRest (oneMeeting 16))
      twoJoins).shared 1 = [1001, 1002, 1003] :=
  ⟨concurrent_membership _ (oneMeeting_keysOk 16) (oneMeeting_membershipOk (by decide)) twoJoins
      (by decide +kernel)
      (Pool.quiescent_of_lt (atRest_quiescent _) (k := 2) (by decide) (by decide +kernel)),
    by decide +kernel⟩

/-- With one place left both are let in. -/
theorem twoJoins_lastPlace :
    KeysOk (oneMeeting 2) ∧ MembershipOk (oneMeeting 2) ∧
    (run (Calls.step (newMemoryStore id).userByID) (atRest (oneMeeting 2)) twoJoins).Quiescent ∧
    ¬ MembershipOk (run (Calls.step (newMemoryStore id).userByID) (atRest (oneMeeting 2))
      twoJoins).shared := by
  refine ⟨oneMeeting_keysOk 2, oneMeeting_membershipOk (by decide),
    Pool.quiescent_of_lt (atRest_quiescent _) (k := 2) (by decide) (by decide +kernel), ?_⟩
  intro h
  have hmem : ∃ row ∈ (run (Calls.step (newMemoryStore id).userByID) (atRest (oneMeeting 2))
      twoJoins).shared.meetings, ¬ ((activeUsers (run (Calls.step (newMemoryStore id).userByID)
        (atRest (oneMeeting 2)) twoJoins).shared row.id).length : Int) ≤ row.maxParticipants := by
    decide +kernel
  obtain ⟨row, hrow, hplaces⟩ := hmem
  exact hplaces (h row hrow).places

/-- User 1002 reads the meeting before the host hands it over to them, and
leaves: the host is gone, and user 1003 is still there. -/
example :
    let p := run (Calls.step (newMemoryStore id).userByID)
      (run (Calls.step (newMemoryStore id).userByID) (atRest (oneMeeting 16)) twoJoins)
      [.start 0 (.leaveMeeting "100001" "u1001"), .start 1 (.leaveMeeting "100001" "u1002"),
       .step 1 ⟨2, 3⟩, .step 0 ⟨2, 3⟩, .step 0 ⟨2, 3⟩, .step 0 ⟨2, 3⟩, .step 0 ⟨2, 3⟩, .step 1 ⟨2, 3⟩,
       .step 1 ⟨2, 3⟩]
    p.shared.meetings.map (·.hostUserID) = [1002] ∧ activeUsers p.shared 1 = [1003] := by
  decide +kernel

end MeetingSystem.Proof.Store
