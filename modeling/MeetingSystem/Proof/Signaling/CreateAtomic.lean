import MeetingSystem.Impl.Signaling.MeetingCreate
import MeetingSystem.Proof.Store.Creation
import MeetingSystem.Proof.Store.LoadAccounting
import MeetingSystem.Proof.Store.Tables

/-!
# A meeting that is not created

`HandleCreate` goes through the meeting store, an SFU server and Redis, and
undoes what it has done when one of them fails. The roll-back takes the meeting
out of the store and out of Redis, where nothing else was kept under its
number, but leaves the room on the SFU server. `handleCreate_atomic` says
exactly when a failed call has left everything as it was.
-/

namespace MeetingSystem.Proof.Signaling

open MeetingSystem.Framework MeetingSystem.Impl.Store MeetingSystem.Impl.Signaling
open MeetingSystem.Proof.Store

/-! ## The property -/

/-- The same meetings, whatever the counters of the store say. -/
def SameRecords (s s' : MemoryStore) : Prop :=
  s.meetings = s'.meetings ∧ s.participants = s'.participants ∧ s.joinOrder = s'.joinOrder ∧
    s.meetingMsgs = s'.meetingMsgs

def SameMeetings : LifecycleStore → LifecycleStore → Prop
  | .memory s, .memory s' => SameRecords s s'
  | .repo s, .repo s' => SameRecords s.fallback s'.fallback ∧ s.db.meetings = s'.db.meetings ∧
      s.db.participants = s'.db.participants
  | _, _ => False

/-- The same rooms and the same loads in Redis. -/
def SameRooms (r r' : Redis) : Prop :=
  (∀ m, r.room.lookup m = r'.room.lookup m) ∧ r.sfuRoute = r'.sfuRoute ∧
    r.roomMembers = r'.roomMembers ∧ r.roomMember = r'.roomMember ∧ r.sfuNodeLoad = r'.sfuNodeLoad

structure Unchanged (b b' : Backends) : Prop where
  meetings : SameMeetings b.store b'.store
  rooms : SameRooms b.roomState.redis b'.roomState.redis
  sfuRooms : b.fleet.rooms = b'.fleet.rooms

/-- A call that reports a failure leaves everything as it was. -/
def CreateAtomic (h : MeetingHandler) (b : Backends) (userID : String) (req : Option MeetCreateReq)
    (d : CreateDraw) : Prop :=
  (h.handleCreate b userID req d).2.success = false → Unchanged b (h.handleCreate b userID req d).1

/-! ## The meeting store -/

/-- `CreateMeeting` fails and writes nothing. -/
def Refuses (userID : String) (d : StoreDraw) : LifecycleStore → Prop
  | .memory s => s.userByID userID = none
  | .repo s => s.lookupUser userID = none ∨ userIDToUint64 userID = none ∨
      (∃ row ∈ s.db.meetings, row.meetingNo = (LifecycleStore.repo s).number d) ∨
      ∃ err, d.fault = some (.meeting err)

/-- The meeting has its row, and the host does not get theirs. -/
def HostRowFails (userID : String) (d : StoreDraw) : LifecycleStore → Prop
  | .memory _ => False
  | .repo _ => userIDToUint64 userID = some 0 ∨ ∃ err, d.fault = some (.participant err)

/-- Nothing is kept under the number `m`. A database looks for that itself. -/
def UnusedNumber (m : String) : LifecycleStore → Prop
  | .memory s => s.meetings m = none ∧ s.participants m = none ∧ s.joinOrder m = none ∧
      s.meetingMsgs m = []
  | .repo _ => True

/-- `AUTO_INCREMENT` gives a meeting an id that no row has or refers to. -/
def FreshID (d : StoreDraw) : LifecycleStore → Prop
  | .memory _ => True
  | .repo s => d.meetingID ≠ 0 ∧ (∀ row ∈ s.db.meetings, row.id ≠ d.meetingID) ∧
      ∀ row ∈ s.db.participants, row.meetingID ≠ d.meetingID

theorem SameRecords.refl (s : MemoryStore) : SameRecords s s := ⟨rfl, rfl, rfl, rfl⟩

theorem generate_sameRecords (s : MemoryStore) (r : Fin 9000) :
    SameRecords s (s.generateMeetingIDLocked r).1 := ⟨rfl, rfl, rfl, rfl⟩

theorem SameMeetings.refl (s : LifecycleStore) : SameMeetings s s := by
  cases s with
  | memory s => exact SameRecords.refl s
  | repo s => exact ⟨.refl _, rfl, rfl⟩

theorem number_ne_empty (s : LifecycleStore) (d : StoreDraw) : s.number d ≠ "" := by
  have hnumber : s.number d =
      toString (101000 + (s.fallback.meetingSeq + 1).toNat % 10000 + d.rand.val) :=
    congrArg Prod.snd (generateMeetingIDLocked_eq s.fallback d.rand)
  rw [hnumber]
  exact Nat.repr_ne_empty

/-- An entry that is written and taken out again. -/
theorem update_update_eq_iff {β : Type} {f : String → β} {m : String} {x y : β} :
    f = Function.update (Function.update f m x) m y ↔ f m = y := by
  rw [Function.update_idem]
  exact Function.eq_update_self_iff

section Memory

variable {s : MemoryStore} {userID : String} {d : StoreDraw}

theorem memory_refused (h : s.userByID userID = none) (title password : String) (max : Int) :
    ∃ s' err, (LifecycleStore.memory s).createMeeting title password userID max d = (s', .error err) ∧
      SameMeetings (.memory s) s' := by
  refine ⟨.memory (s.generateMeetingIDLocked d.rand).1, .lifecycle (.store .userNotFound), ?_,
    generate_sameRecords s d.rand⟩
  simp only [LifecycleStore.createMeeting, MemoryStore.createMeeting, MemoryStore.createMeetingAt,
    MemoryStore.generateMeetingIDLocked, h]
  rfl

/-- The host of a new meeting leaves it. -/
theorem leave_createMeetingAt {host : User} (h : s.userByID userID = some host)
    (m title password : String) (max now : Int) :
    ((s.createMeetingAt m title password userID max now).1.leaveMeeting m userID).1 =
      { s with
        meetings := Function.update (Function.update s.meetings m (some
          { id := m, title, password, hostUserID := userID, maxParticipants := max,
            createdAt := now })) m none
        participants := Function.update (Function.update s.participants m (some (AList.insert userID
          { userId := host.id, displayName := host.displayName, avatarUrl := host.avatarURL,
            role := 1, isAudioOn := true, isVideoOn := true, isSharing := false } ∅))) m none
        joinOrder := Function.update (Function.update s.joinOrder m
          (some (AList.insert userID (s.joinSeq + 1) ∅))) m none
        meetingMsgs := Function.update s.meetingMsgs m []
        joinSeq := s.joinSeq + 1 } := by
  have hkeys : ∀ p : Participant,
      ((AList.insert userID p ∅ : Members).erase userID).keys.length = 0 := by
    intro p
    rw [erase_insert_self p (AList.notMem_empty userID)]
    rfl
  simp only [MemoryStore.createMeetingAt, h, MemoryStore.leaveMeeting, MemoryStore.membersOf,
    Function.update_self, Option.getD_some, hkeys, if_true]

theorem memory_created {host : User} (h : s.userByID userID = some host) (title password : String)
    (max : Int) :
    ∃ s' meeting p, (LifecycleStore.memory s).createMeeting title password userID max d =
        (s', .ok (meeting, p)) ∧ meeting.id = (LifecycleStore.memory s).number d ∧
      ∀ now, SameMeetings (.memory s) (s'.leaveMeeting meeting.id userID now) ↔
        UnusedNumber ((LifecycleStore.memory s).number d) (.memory s) := by
  have hgen : (s.generateMeetingIDLocked d.rand).1.userByID userID = some host := h
  refine ⟨.memory ((s.generateMeetingIDLocked d.rand).1.createMeetingAt
    ((LifecycleStore.memory s).number d) title password userID (if max ≤ 0 then 16 else max) d.now).1,
    ⟨(LifecycleStore.memory s).number d, title, password, userID, if max ≤ 0 then 16 else max,
      d.now⟩, ⟨host.id, host.displayName, host.avatarURL, 1, true, true, false, 0, 0⟩, ?_, rfl,
    fun now => ?_⟩
  · simp only [LifecycleStore.createMeeting, MemoryStore.createMeeting, MemoryStore.createMeetingAt,
      MemoryStore.generateMeetingIDLocked, h]
    rfl
  · show SameRecords s (MemoryStore.leaveMeeting _ _ userID).1 ↔ _
    rw [leave_createMeetingAt hgen]
    exact and_congr update_update_eq_iff (and_congr update_update_eq_iff
      (and_congr update_update_eq_iff Function.eq_update_self_iff))

end Memory

section Repo

variable {s : RepoMeetingStore} {userID : String} {d : StoreDraw}

/-- The tables after the first `INSERT`. -/
def insertedMeeting (db : Db) (row : MeetingRow) : Db :=
  { db with meetings := db.meetings ++ [row], lastMeetingID := row.id }

/-- The tables after both `INSERT`s. -/
def createdRows (db : Db) (row : MeetingRow) (host : ParticipantRow) (id : UInt64) : Db :=
  insertedParticipant (insertedMeeting db row) host id

variable {row : MeetingRow} {host : ParticipantRow}

theorem findByMeetingNo_created (hrow : row.meetingNo ≠ "")
    (hnew : ∀ other ∈ s.db.meetings, other.meetingNo ≠ row.meetingNo) (id : UInt64) :
    (createdRows s.db row host id).findByMeetingNo row.meetingNo = .ok row := by
  have hnone : s.db.meetings.find? (fun other => other.meetingNo = row.meetingNo) = none := by
    rw [List.find?_eq_none]
    intro other hother
    simpa using hnew other hother
  show Db.findByMeetingNo { s.db with meetings := s.db.meetings ++ [row], .. } _ = _
  simp only [Db.findByMeetingNo, hrow, if_false, List.find?_append, hnone, Option.none_or,
    List.find?_cons_of_pos, decide_true]

/-- The host of a new meeting leaves it. -/
theorem leave_createdRows (row : MeetingRow) (host : ParticipantRow) {n : UInt64} (hparse : userIDToUint64 userID = some n) (hn : n ≠ 0)
    (hno : row.meetingNo ≠ "") (hnew : ∀ other ∈ s.db.meetings, other.meetingNo ≠ row.meetingNo)
    (hid : row.id ≠ 0) (hids : ∀ other ∈ s.db.meetings, other.id ≠ row.id)
    (hrefs : ∀ other ∈ s.db.participants, other.meetingID ≠ row.id) (hhost : host.meetingID = row.id)
    (huser : host.userID = n) (id : UInt64) (now : Int) :
    let left := (RepoMeetingStore.leaveMeeting { s with db := createdRows s.db row host id }
      row.meetingNo userID now).1
    left.fallback = s.fallback ∧ left.db.meetings = s.db.meetings ∧
      left.db.participants = s.db.participants := by
  have hnobody : activeRows s.db row.id = [] := by
    rw [activeRows, List.filter_eq_nil_iff]
    intro other hother
    simp [ParticipantRow.isActive, hrefs other hother]
  have hactive : activeRows (createdRows s.db row host id) row.id =
      [{ host with id, leftAt := none }] := by
    rw [createdRows, activeRows_insertedParticipant]
    show activeRows s.db row.id ++ _ = _
    rw [hnobody, if_pos hhost]
    rfl
  have hmem : ({ host with id, leftAt := none } : ParticipantRow) ∈
      activeRows (createdRows s.db row host id) row.id := by
    rw [hactive]
    exact List.mem_singleton_self _
  have hmark : (createdRows s.db row host id).markParticipantLeft row.id n now =
      .ok (markedLeft (createdRows s.db row host id) row.id n now) :=
    markParticipantLeft_eq now hid hn hmem huser
  have hempty : (markedLeft (createdRows s.db row host id) row.id n now).selectActive row.id = [] := by
    have hgone : activeRows (markedLeft (createdRows s.db row host id) row.id n now) row.id = [] := by
      rw [activeRows_markedLeft, hactive]
      simp [huser]
    exact (congrArg (List.insertionSort _) hgone).trans rfl
  simp only [RepoMeetingStore.leaveMeeting, findByMeetingNo_created hno hnew, hparse, hmark,
    RepoMeetingStore.leaveMarked, Db.listActiveParticipants, hid, if_false, hempty, List.length_nil,
    if_true, deleteMeeting_eq hid]
  refine ⟨trivial, ?_, ?_⟩
  · show (s.db.meetings ++ [row]).filter (fun other => other.id ≠ row.id) = _
    rw [List.filter_append, List.filter_eq_self.mpr fun other hother => by simpa using hids other hother]
    simp
  · show ((s.db.participants ++ [{ host with id, leftAt := none }]).map _).filter
      (fun other : ParticipantRow => other.meetingID ≠ row.id) = _
    rw [filter_map_ite, List.filter_append, List.filter_eq_self.mpr]
    · simp [hhost]
    · intro other hother
      simp [hrefs other hother, Db.isActiveOf, ParticipantRow.isActive]
    · intro other hother
      have hmeeting : other.meetingID = row.id := by
        simp only [Db.isActiveOf, ParticipantRow.isActive, Bool.and_eq_true, decide_eq_true_eq] at hother
        exact hother.1.1
      simpa using hmeeting

theorem repo_refused (h : Refuses userID d (.repo s)) (title password : String) (max : Int) :
    ∃ s' err, (LifecycleStore.repo s).createMeeting title password userID max d = (s', .error err) ∧
      SameMeetings (.repo s) s' := by
  have hsame : SameMeetings (.repo s)
      (.repo { s with fallback := (s.fallback.generateMeetingIDLocked d.rand).1 }) :=
    ⟨generate_sameRecords s.fallback d.rand, rfl, rfl⟩
  simp only [LifecycleStore.createMeeting, LifecycleStore.createRow]
  cases hlookup : s.lookupUser userID with
  | none => exact ⟨_, _, rfl, .refl _⟩
  | some profile =>
    cases hparse : userIDToUint64 userID with
    | none => exact ⟨_, _, rfl, .refl _⟩
    | some n =>
      by_cases hused : (s.db.meetings.any fun row =>
          row.meetingNo = (s.fallback.generateMeetingIDLocked d.rand).2) = true
      · simp only [hused, if_true]
        exact ⟨_, _, rfl, hsame⟩
      · rcases h with h | h | ⟨row, hrow, hno⟩ | ⟨err, hfault⟩
        · rw [hlookup] at h
          cases h
        · rw [hparse] at h
          cases h
        · exact absurd (List.any_eq_true.mpr ⟨row, hrow, decide_eq_true hno⟩) hused
        · simp only [hused, hfault]
          exact ⟨_, _, rfl, hsame⟩

/-- What is known when the meeting's row can be inserted. -/
theorem not_refuses_repo (h : ¬ Refuses userID d (.repo s)) :
    (∃ profile, s.lookupUser userID = some profile) ∧ (∃ n, userIDToUint64 userID = some n) ∧
      (∀ row ∈ s.db.meetings, row.meetingNo ≠ (s.fallback.generateMeetingIDLocked d.rand).2) ∧
      ∀ err, d.fault ≠ some (.meeting err) := by
  simp only [Refuses, not_or, not_exists, not_and] at h
  obtain ⟨hlookup, hparse, hnew, hfault⟩ := h
  exact ⟨Option.ne_none_iff_exists'.mp hlookup, Option.ne_none_iff_exists'.mp hparse, hnew, hfault⟩

/-- The row of the new meeting. -/
def newRow (s : RepoMeetingStore) (title password : String) (n : UInt64) (max : Int) (d : StoreDraw) :
    MeetingRow :=
  { id := d.meetingID, meetingNo := (s.fallback.generateMeetingIDLocked d.rand).2, title
    hostUserID := n, passwordHash := password, status := 0
    maxParticipants := if max ≤ 0 then 16 else max, createdAt := d.now }

/-- The row of its host. -/
def newHostRow (n : UInt64) (d : StoreDraw) : ParticipantRow :=
  { id := 0, meetingID := d.meetingID, userID := n, role := 1, mediaState := 0, joinedAt := d.now
    leftAt := none }

/-- What `CreateMeeting` does once its meeting can have a row. -/
theorem repo_inserts {profile : User} {n : UInt64} (hlookup : s.lookupUser userID = some profile)
    (hparse : userIDToUint64 userID = some n)
    (hnew : ∀ row ∈ s.db.meetings, row.meetingNo ≠ (s.fallback.generateMeetingIDLocked d.rand).2)
    (hfault : ∀ err, d.fault ≠ some (.meeting err)) (hid : d.meetingID ≠ 0) {title : String}
    (htitle : title ≠ "") (password : String) (max : Int) :
    let row := newRow s title password n max d
    let fallback := (s.fallback.generateMeetingIDLocked d.rand).1
    (n = 0 ∨ (∃ err, d.fault = some (.participant err)) →
      ∃ err, (LifecycleStore.repo s).createMeeting title password userID max d =
        (.repo ⟨fallback, s.userRepo, insertedMeeting s.db row⟩, .error err)) ∧
    (n ≠ 0 → d.fault = none →
      (LifecycleStore.repo s).createMeeting title password userID max d =
        (.repo ⟨fallback, s.userRepo, createdRows s.db row (newHostRow n d) d.participantID⟩,
          .ok (meetingFromModel row, participantFromProfile userID (some profile) true))) := by
  have hnumber : (s.fallback.generateMeetingIDLocked d.rand).2 ≠ "" := number_ne_empty (.repo s) d
  have hused : (s.db.meetings.any fun row =>
      row.meetingNo = (s.fallback.generateMeetingIDLocked d.rand).2) = false := by
    rw [List.any_eq_false]
    intro row hrow
    simpa using hnew row hrow
  have hlookup' : RepoMeetingStore.lookupUser
      ⟨(s.fallback.generateMeetingIDLocked d.rand).1, s.userRepo, s.db⟩ userID = some profile :=
    hlookup
  have hmax : (if (if max ≤ 0 then 16 else max) ≤ 0 then 16 else if max ≤ 0 then 16 else max) =
      if max ≤ 0 then 16 else max := by
    by_cases hm : max ≤ 0 <;> simp [hm]
  simp only [LifecycleStore.createMeeting, LifecycleStore.createRow, hlookup, hparse, hused]
  cases hf : d.fault with
  | some fault =>
    cases fault with
    | meeting err => exact absurd hf (hfault err)
    | participant err =>
      simp only [Db.createMeeting, hnumber, htitle, or_self, if_false, hmax]
      exact ⟨fun _ => ⟨_, rfl⟩, fun _ hnone => absurd hnone (Option.some_ne_none _)⟩
  | none =>
    simp only [RepoMeetingStore.createMeeting, hlookup', hparse, Db.createMeeting, hnumber, htitle,
      or_self, if_false, hmax, Db.addParticipant, hid, false_or]
    by_cases hn : n = 0
    · simp only [hn, if_true]
      exact ⟨fun _ => ⟨_, rfl⟩, fun hn' => absurd rfl hn'⟩
    · simp only [hn, if_false]
      refine ⟨fun h => ?_, fun _ _ => rfl⟩
      obtain ⟨err, herr⟩ := h.resolve_left not_false
      exact absurd herr.symm (Option.some_ne_none _)

/-- The three things `CreateMeeting` can do. -/
theorem store_create (userID : String) (s : LifecycleStore) (hfresh : FreshID d s) {title : String} (htitle : title ≠ "")
    (password : String) (max : Int) :
    (Refuses userID d s ∧ ∃ s' err, s.createMeeting title password userID max d = (s', .error err) ∧
      SameMeetings s s') ∨
    (¬ Refuses userID d s ∧ HostRowFails userID d s ∧
      ∃ s' err, s.createMeeting title password userID max d = (s', .error err) ∧
        ¬ SameMeetings s s') ∨
    (¬ Refuses userID d s ∧ ¬ HostRowFails userID d s ∧
      ∃ s' meeting p, s.createMeeting title password userID max d = (s', .ok (meeting, p)) ∧
        meeting.id = s.number d ∧
        ∀ now, SameMeetings s (s'.leaveMeeting meeting.id userID now) ↔
          UnusedNumber (s.number d) s) := by
  cases s with
  | memory s =>
    cases hhost : s.userByID userID with
    | none => exact .inl ⟨hhost, memory_refused hhost title password max⟩
    | some host =>
      refine .inr (.inr ⟨fun h => ?_, not_false, memory_created hhost title password max⟩)
      rw [Refuses, hhost] at h
      cases h
  | repo s =>
    by_cases href : Refuses userID d (.repo s)
    · exact .inl ⟨href, repo_refused href title password max⟩
    obtain ⟨⟨profile, hlookup⟩, ⟨n, hparse⟩, hnew, hfault⟩ := not_refuses_repo href
    obtain ⟨hid, hids, hrefs⟩ := hfresh
    obtain ⟨hhalf, hfull⟩ := repo_inserts hlookup hparse hnew hfault hid htitle password max
    by_cases hhost : HostRowFails userID d (.repo s)
    · obtain ⟨err, hcreate⟩ := hhalf (hhost.imp_left fun h => Option.some.inj (hparse.symm.trans h))
      refine .inr (.inl ⟨href, hhost, _, err, hcreate, fun hsame => ?_⟩)
      have hlength := congrArg List.length hsame.2.1
      simp [insertedMeeting] at hlength
    · simp only [HostRowFails, hparse, Option.some.injEq, not_or, not_exists] at hhost
      have hnone : d.fault = none := by
        cases hf : d.fault with
        | none => rfl
        | some fault =>
          cases fault with
          | meeting err => exact absurd hf (hfault err)
          | participant err => exact absurd hf (hhost.2 err)
      refine .inr (.inr ⟨href, ?_, _, _, _, hfull hhost.1 hnone, rfl, fun now => ?_⟩)
      · simp only [HostRowFails, hparse, Option.some.injEq, not_or, not_exists]
        exact hhost
      · obtain ⟨hfallback, hmeetings, hparticipants⟩ := leave_createdRows
          (s := ⟨(s.fallback.generateMeetingIDLocked d.rand).1, s.userRepo, s.db⟩)
          (newRow s title password n max d) (newHostRow n d) hparse hhost.1
          (number_ne_empty (.repo s) d) hnew hid hids hrefs rfl rfl d.participantID now
        refine ⟨fun _ => trivial, fun _ => ⟨?_, hmeetings.symm, hparticipants.symm⟩⟩
        exact (congrArg (SameRecords s.fallback) hfallback).mpr (generate_sameRecords s.fallback d.rand)

end Repo

/-! ## Redis -/

theorem SameRooms.refl (r : Redis) : SameRooms r r := ⟨fun _ => rfl, rfl, rfl, rfl, rfl⟩

theorem SameRooms.trans {r₁ r₂ r₃ : Redis} (h : SameRooms r₁ r₂) (h' : SameRooms r₂ r₃) :
    SameRooms r₁ r₃ :=
  ⟨fun m => (h.1 m).trans (h'.1 m), h.2.1.trans h'.2.1, h.2.2.1.trans h'.2.2.1,
    h.2.2.2.1.trans h'.2.2.2.1, h.2.2.2.2.trans h'.2.2.2.2⟩

theorem SameRooms.symm {r r' : Redis} (h : SameRooms r r') : SameRooms r' r :=
  ⟨fun m => (h.1 m).symm, h.2.1.symm, h.2.2.1.symm, h.2.2.2.1.symm, h.2.2.2.2.symm⟩

/-- Nothing is kept under the number `m`. -/
def NoRoom (m : String) (r : Redis) : Prop :=
  r.room.lookup m = none ∧ r.sfuRoute m = none ∧ r.roomMembers m = []

theorem SameRooms.noRoom {r r' : Redis} (h : SameRooms r r') {m : String} (hm : NoRoom m r') :
    NoRoom m r :=
  ⟨(h.1 m).trans hm.1, (congrFun h.2.1 m).trans hm.2.1, (congrFun h.2.2.1 m).trans hm.2.2⟩

theorem NoRoom.sfuNodeIDOf {r : Redis} {m : String} (h : NoRoom m r) : r.sfuNodeIDOf m = "" := by
  rw [Redis.sfuNodeIDOf, h.1]
  rfl

/-- `DeleteRoom` on its own. -/
def deleted (m : String) (r : Redis) : Redis := r.deleteTx m (r.sfuNodeIDOf m) (r.roomMembers m)

theorem deleted_noRoom (m : String) (r : Redis) : NoRoom m (deleted m r) := by
  unfold deleted Redis.deleteTx
  dsimp only
  split_ifs <;>
    exact ⟨AList.lookup_erase _ _, Function.update_self .., Function.update_self ..⟩

theorem NoRoom.deleted {m : String} {r : Redis} (h : NoRoom m r) : SameRooms r (deleted m r) := by
  rw [Signaling.deleted, h.sfuNodeIDOf, h.2.2]
  refine ⟨fun m' => ?_, ?_, ?_, ?_, rfl⟩
  · show _ = (r.room.erase m).lookup m'
    by_cases hm : m' = m
    · rw [hm, AList.lookup_erase, h.1]
    · rw [AList.lookup_erase_ne hm]
  · exact Function.eq_update_self_iff.mpr h.2.1
  · exact Function.eq_update_self_iff.mpr h.2.2
  · funext m' u
    show _ = (r.roomMember m' u && !(decide (m' = m) && decide (u ∈ [])))
    simp

section Upserted

variable (r : Redis) (m host node addr : String) (t : Int)

theorem upsertTx_lookup (m' : String) :
    (r.upsertTx m host node addr "" t).room.lookup m' =
      if m' = m then some ⟨some host, some "0", some node, some "1", some (toString t)⟩
      else r.room.lookup m' := by
  unfold Redis.upsertTx
  rw [room_moveLoad]
  split_ifs with haddr hm hm
  · rw [hm]
    exact AList.lookup_insert _
  · exact AList.lookup_insert_ne hm
  · rw [hm]
    exact AList.lookup_insert _
  · exact AList.lookup_insert_ne hm

theorem upsertTx_sfuNodeIDOf : (r.upsertTx m host node addr "" t).sfuNodeIDOf m = node := by
  rw [Redis.sfuNodeIDOf, upsertTx_lookup, if_pos rfl]
  rfl

/-- The load of a room that was on no node. -/
theorem moveLoad_empty : r.moveLoad "" node = if node ≠ "" then r.incrBy node 1 else r := by
  unfold Redis.moveLoad
  by_cases hnode : node = ""
  · rw [hnode]
    rfl
  · rw [if_pos (Ne.symm hnode), if_neg (not_not_intro rfl)]

theorem upsertTx_rest :
    (r.upsertTx m host node addr "" t).sfuRoute =
        (if addr ≠ "" then Function.update r.sfuRoute m (some addr) else r.sfuRoute) ∧
      (r.upsertTx m host node addr "" t).roomMembers = r.roomMembers ∧
      (r.upsertTx m host node addr "" t).roomMember = r.roomMember ∧
      (r.upsertTx m host node addr "" t).sfuNodeLoad =
        (if node ≠ "" then r.incrBy node 1 else r).sfuNodeLoad := by
  unfold Redis.upsertTx
  rw [moveLoad_empty]
  split_ifs <;> exact ⟨rfl, rfl, rfl, rfl⟩

end Upserted

/-- A room that is written where there was none and deleted again. -/
theorem NoRoom.upserted {m : String} {r : Redis} (h : NoRoom m r) (host node addr : String) (t : Int) :
    SameRooms r (Signaling.deleted m (r.upsertTx m host node addr (r.sfuNodeIDOf m) t)) := by
  obtain ⟨hroute, hmembers, hmember, hload⟩ := upsertTx_rest r m host node addr t
  rw [h.sfuNodeIDOf, Signaling.deleted, upsertTx_sfuNodeIDOf, hmembers, h.2.2]
  have hlookup := upsertTx_lookup r m host node addr t
  generalize r.upsertTx m host node addr "" t = r' at hroute hmembers hmember hload hlookup
  unfold Redis.deleteTx
  refine ⟨fun m' => ?_, ?_, ?_, ?_, ?_⟩
  · have hroom : r.room.lookup m' = (r'.room.erase m).lookup m' := by
      by_cases hm : m' = m
      · rw [hm, AList.lookup_erase, h.1]
      · rw [AList.lookup_erase_ne hm, hlookup, if_neg hm]
    rw [hroom]
    dsimp only
    split_ifs <;> rfl
  · have hnone : r.sfuRoute = Function.update r'.sfuRoute m none := by
      rw [hroute]
      split_ifs
      · exact update_update_eq_iff.mpr h.2.1
      · exact Function.eq_update_self_iff.mpr h.2.1
    refine hnone.trans ?_
    dsimp only
    split_ifs <;> rfl
  · have hnone : r.roomMembers = Function.update r'.roomMembers m [] := by
      rw [hmembers]
      exact Function.eq_update_self_iff.mpr h.2.2
    refine hnone.trans ?_
    dsimp only
    split_ifs <;> rfl
  · rw [← hmember]
    funext m' u
    dsimp only
    split_ifs <;> simp [Redis.setRoute, Redis.delRoom, Redis.incrBy]
  · funext n
    dsimp only
    split_ifs with hnode
    · have hincr : r'.sfuNodeLoad n = r.sfuNodeLoad n + 1 * share node n := by
        rw [hload, if_pos hnode, load_incrBy]
      rw [load_incrBy]
      show _ = r'.sfuNodeLoad n + _
      omega
    · show _ = r'.sfuNodeLoad n
      rw [hload, if_neg hnode]

/-- Nothing is kept under the number `m`, if there is a Redis. -/
def UnusedRoom (m : String) (r : RoomState) : Prop := r.enabled = true → NoRoom m r.redis

section RoomState

variable {r : RoomState} {m : String}

theorem deleteRoom_redis (hm : m ≠ "") (hr : r.enabled = true) :
    (r.deleteRoom m).redis = deleted m r.redis ∧ (r.deleteRoom m).enabled = true := by
  rw [RoomState.deleteRoom, hr, if_neg (by decide), if_pos hm]
  exact ⟨rfl, rfl⟩

theorem deleteRoom_disabled (hr : r.enabled = false) : r.deleteRoom m = r := by
  rw [RoomState.deleteRoom, hr]
  rfl

theorem sameRooms_deleteRoom (hm : m ≠ "") :
    SameRooms r.redis (r.deleteRoom m).redis ↔ UnusedRoom m r := by
  cases hr : r.enabled with
  | false =>
    rw [deleteRoom_disabled hr]
    exact ⟨fun _ h => absurd (hr.symm.trans h) (by decide), fun _ => .refl _⟩
  | true =>
    rw [(deleteRoom_redis hm hr).1]
    exact ⟨fun h _ => h.noRoom (deleted_noRoom m _), fun h => (h hr).deleted⟩

/-- `UpsertRoom`, undone by the two `DeleteRoom`s of the last failure. -/
theorem sameRooms_upserted (hm : m ≠ "") (host node addr : String) (t : Int) :
    SameRooms r.redis
        (((r.upsertRoom none m host node addr t).1.deleteRoom m).deleteRoom m).redis ↔
      UnusedRoom m r := by
  cases hr : r.enabled with
  | false =>
    have hsame : (r.upsertRoom none m host node addr t).1 = r := by
      rw [RoomState.upsertRoom, hr]
      rfl
    rw [hsame, deleteRoom_disabled hr, deleteRoom_disabled hr]
    exact ⟨fun _ h => absurd (hr.symm.trans h) (by decide), fun _ => .refl _⟩
  | true =>
    have hupsert : (r.upsertRoom none m host node addr t).1 =
        { r with redis := r.redis.upsertTx m host node addr (r.redis.sfuNodeIDOf m) t } := by
      rw [RoomState.upsertRoom, hr, if_neg (by decide)]
      dsimp only
      rw [if_pos hm]
    have henabled : (r.upsertRoom none m host node addr t).1.enabled = true := by
      rw [hupsert]
      exact hr
    obtain ⟨hfirst, henabled⟩ := deleteRoom_redis hm henabled
    rw [(deleteRoom_redis hm henabled).1, hfirst]
    constructor
    · intro h _
      exact h.noRoom (deleted_noRoom m _)
    · intro h
      refine SameRooms.trans ?_ (deleted_noRoom m _).deleted
      rw [hupsert]
      exact (h hr).upserted host node addr t

end RoomState

/-! ## SFU servers -/

/-- The first candidate on which `CreateRoom` does not fail: the server on which
it creates a room, or none if its client is disabled. -/
def answering (client : RoutedClient) (d : CreateDraw) (rooms : String → List String) (m : String) :
    Nat → List SFUNode → Option (Option String)
  | _, [] => none
  | i, candidate :: candidates =>
    match client.clientForRoute d.rpcAddressForRoute candidate.mediaAddress with
    | none => some none
    | some addr =>
      if d.createRoomFault i ≠ none ∨ m ∈ rooms addr then answering client d rooms m (i + 1) candidates
      else some (some addr)

/-- Where the room of a new meeting is placed: nowhere, without a room on an SFU
server, or on one. -/
def placement (h : MeetingHandler) (b : Backends) (d : CreateDraw) (m : String) :
    Option (Option String) :=
  match h.nodes b.roomState d with
  | .error _ => none
  | .ok nodes =>
    match h.sfuClient with
    | none => (b.roomState.rankedSFUNodes d.rankFault nodes).2.toOption.map fun _ => none
    | some client =>
      match (h.ranked b.roomState d nodes).2 with
      | .error _ => none
      | .ok ranked => answering client d b.fleet.rooms m 0 ranked

/-- What `allocateRoomRoute` does for a placement. -/
structure Allocated (b b' : Backends) (m : String) (place : Option (Option String))
    (res : Except String (String × String)) : Prop where
  store : b'.store = b.store
  redis : b'.roomState.redis = b.roomState.redis
  enabled : b'.roomState.enabled = b.roomState.enabled
  rooms : b'.fleet.rooms = match place with
    | some (some addr) => Function.update b.fleet.rooms addr (m :: b.fleet.rooms addr)
    | _ => b.fleet.rooms
  ok : (∃ x, res = .ok x) ↔ place ≠ none

theorem markSFUNodeFailure_keeps (r : RoomState) (nodeID : String) (ttl : Int) :
    (r.markSFUNodeFailure nodeID ttl).redis = r.redis ∧
      (r.markSFUNodeFailure nodeID ttl).enabled = r.enabled := by
  unfold RoomState.markSFUNodeFailure
  split_ifs <;> exact ⟨rfl, rfl⟩

theorem clearSFUNodeFailure_keeps (r : RoomState) (nodeID : String) :
    (r.clearSFUNodeFailure nodeID).redis = r.redis ∧
      (r.clearSFUNodeFailure nodeID).enabled = r.enabled := by
  unfold RoomState.clearSFUNodeFailure
  split_ifs <;> exact ⟨rfl, rfl⟩

theorem rankedSFUNodes_keeps (r : RoomState) (fault : Option String) (nodes : List SFUNode) :
    (r.rankedSFUNodes fault nodes).1.redis = r.redis ∧
      (r.rankedSFUNodes fault nodes).1.enabled = r.enabled := by
  unfold RoomState.rankedSFUNodes
  split_ifs
  · exact ⟨rfl, rfl⟩
  · split
    · exact ⟨rfl, rfl⟩
    · dsimp only
      split_ifs <;> exact ⟨rfl, rfl⟩

section Allocation

variable {h : MeetingHandler} {d : CreateDraw} {m : String}

theorem ranked_keeps (r : RoomState) (nodes : List SFUNode) :
    (h.ranked r d nodes).1.redis = r.redis ∧ (h.ranked r d nodes).1.enabled = r.enabled := by
  have hkeeps := rankedSFUNodes_keeps r d.rankFault nodes
  unfold MeetingHandler.ranked
  split
  · rename_i heq
    rwa [heq] at hkeeps
  · rename_i heq
    rwa [heq] at hkeeps
  · rename_i heq
    rwa [heq] at hkeeps

/-- A candidate fails, and the loop goes on with the next one. -/
theorem Allocated.next {b : Backends} {fleet : Fleet} (hfleet : fleet = b.fleet) {nodeID : String}
    {ttl : Int} {b' : Backends} {place : Option (Option String)} {res : Except String (String × String)}
    (hrest : Allocated ⟨b.store, b.roomState.markSFUNodeFailure nodeID ttl, fleet⟩ b' m place res) :
    Allocated b b' m place res where
  store := hrest.store
  redis := hrest.redis.trans (markSFUNodeFailure_keeps ..).1
  enabled := hrest.enabled.trans (markSFUNodeFailure_keeps ..).2
  rooms := by
    rw [hrest.rooms, hfleet]
  ok := hrest.ok

theorem allocateFrom_allocated (hm : m ≠ "") (client : RoutedClient) (candidates : List SFUNode) :
    ∀ (i : Nat) (b : Backends) (lastErr : Option String),
      Allocated b (h.allocateFrom client d m i b lastErr candidates).1 m
        (answering client d b.fleet.rooms m i candidates)
        (h.allocateFrom client d m i b lastErr candidates).2 := by
  induction candidates with
  | nil =>
    intro i b lastErr
    refine ⟨rfl, rfl, rfl, rfl, ?_⟩
    simp [MeetingHandler.allocateFrom, answering]
  | cons candidate candidates ih =>
    intro i b lastErr
    simp only [MeetingHandler.allocateFrom, answering]
    cases hclient : client.clientForRoute d.rpcAddressForRoute candidate.mediaAddress with
    | none =>
      simp only [Fleet.createRoom]
      exact ⟨rfl, rfl, rfl, rfl, by simp⟩
    | some addr =>
      cases hfault : d.createRoomFault i with
      | some err =>
        simp only [Fleet.createRoom]
        rw [if_pos (.inl (Option.some_ne_none err))]
        exact .next rfl (ih ..)
      | none =>
        by_cases hroom : m ∈ b.fleet.rooms addr
        · simp only [Fleet.createRoom, hroom, or_true, if_true]
          exact .next rfl (ih ..)
        · simp only [Fleet.createRoom, hroom, hm, or_self, if_false, ne_eq, not_true_eq_false]
          exact ⟨rfl, (clearSFUNodeFailure_keeps ..).1, (clearSFUNodeFailure_keeps ..).2, rfl, by simp⟩

theorem allocateRoomRoute_allocated (hm : m ≠ "") (b : Backends) :
    Allocated b (h.allocateRoomRoute b d m).1 m (placement h b d m) (h.allocateRoomRoute b d m).2 := by
  unfold MeetingHandler.allocateRoomRoute placement
  cases h.nodes b.roomState d with
  | error err => exact ⟨rfl, rfl, rfl, rfl, by simp⟩
  | ok nodes =>
    cases h.sfuClient with
    | none =>
      have hkeeps := rankedSFUNodes_keeps b.roomState d.rankFault nodes
      dsimp only
      generalize b.roomState.rankedSFUNodes d.rankFault nodes = x at hkeeps
      obtain ⟨r, res⟩ := x
      cases res with
      | error err => exact ⟨rfl, hkeeps.1, hkeeps.2, rfl, by simp [Except.toOption]⟩
      | ok ranked =>
        cases ranked with
        | nil => exact ⟨rfl, hkeeps.1, hkeeps.2, rfl, by simp [Except.toOption]⟩
        | cons selected rest => exact ⟨rfl, hkeeps.1, hkeeps.2, rfl, by simp [Except.toOption]⟩
    | some client =>
      have hkeeps := ranked_keeps (h := h) (d := d) b.roomState nodes
      dsimp only
      generalize h.ranked b.roomState d nodes = x at hkeeps
      obtain ⟨r, res⟩ := x
      cases res with
      | error err => exact ⟨rfl, hkeeps.1, hkeeps.2, rfl, by simp⟩
      | ok ranked =>
        have hloop := allocateFrom_allocated (h := h) (d := d) hm client ranked 0
          { b with roomState := r } none
        exact ⟨hloop.store, hloop.redis.trans hkeeps.1, hloop.enabled.trans hkeeps.2, hloop.rooms,
          hloop.ok⟩

end Allocation

/-! ## The handler -/

theorem upsertRoom_cases (r : RoomState) (fault : Option String) (m host node addr : String) (t : Int) :
    (r.enabled = true ∧ (∃ err, fault = some err ∧ r.upsertRoom fault m host node addr t = (r, some err))) ∨
    ((r.enabled = true → fault = none) ∧
      r.upsertRoom fault m host node addr t = ((r.upsertRoom none m host node addr t).1, none)) := by
  unfold RoomState.upsertRoom
  cases hr : r.enabled with
  | false => exact .inr ⟨fun h => absurd h (by decide), rfl⟩
  | true =>
    cases fault with
    | none => exact .inr ⟨fun _ => rfl, rfl⟩
    | some err => exact .inl ⟨rfl, err, rfl, rfl⟩

theorem upsertRoom_enabled (r : RoomState) (m host node addr : String) (t : Int) :
    (r.upsertRoom none m host node addr t).1.enabled = r.enabled := by
  unfold RoomState.upsertRoom
  split_ifs <;> rfl

theorem addMember_cases (r : RoomState) (fault : Option String) (m u : String) :
    (r.enabled = true ∧ ∃ err, fault = some err ∧ r.addMember fault m u = (r, some err)) ∨
    ((r.enabled = true → fault = none) ∧ ∃ r', r.addMember fault m u = (r', none)) := by
  unfold RoomState.addMember
  cases hr : r.enabled with
  | false => exact .inr ⟨fun h => absurd h (by decide), _, rfl⟩
  | true =>
    cases fault with
    | none => exact .inr ⟨fun _ => rfl, _, rfl⟩
    | some err => exact .inl ⟨rfl, err, rfl, rfl⟩

/-- None of the calls after `CreateMeeting` fails. -/
def Completes (h : MeetingHandler) (b : Backends) (d : CreateDraw) : Prop :=
  placement h b d (b.store.number d.store) ≠ none ∧
    (b.roomState.enabled = true → d.upsertFault = none ∧ d.addMemberFault = none)

/-- Nothing was kept under the number before, and no room has been created on an
SFU server. -/
structure Undoable (h : MeetingHandler) (b : Backends) (d : CreateDraw) : Prop where
  number : UnusedNumber (b.store.number d.store) b.store
  room : UnusedRoom (b.store.number d.store) b.roomState
  sfuRoom : ∀ addr, placement h b d (b.store.number d.store) ≠ some (some addr)

/-- The calls that leave everything as it was if they fail: they fail before the
first write, or not at all, or what they wrote is undone. -/
def CreateUndone (h : MeetingHandler) (b : Backends) (userID : String) (d : CreateDraw) :
    Option MeetCreateReq → Prop
  | none => True
  | some req => req.title = "" ∨ Refuses userID d.store b.store ∨
      (¬ HostRowFails userID d.store b.store ∧ (Completes h b d ∨ Undoable h b d))

section Handler

variable {h : MeetingHandler} {b b₁ : Backends} {d : CreateDraw} {userID : String}
  {res : Except String (String × String)} {store : LifecycleStore}

theorem rooms_eq_iff {m : String} {place : Option (Option String)}
    (halloc : Allocated { b with store } b₁ m place res) :
    b.fleet.rooms = b₁.fleet.rooms ↔ ∀ addr, place ≠ some (some addr) := by
  rw [halloc.rooms]
  cases place with
  | none => simp
  | some server =>
    cases server with
    | none => simp
    | some addr =>
      refine ⟨fun hsame => ?_, fun hno => absurd rfl (hno addr)⟩
      have hcons := Function.eq_update_self_iff.mp hsame
      exact absurd hcons.symm (List.cons_ne_self _ _)

/-- A roll-back after a failure: `roomState` is what the calls have left. -/
theorem unchanged_rollback (huser : userID ≠ "")
    (halloc : Allocated { b with store } b₁ (b.store.number d.store)
      (placement h b d (b.store.number d.store)) res)
    (hstore : ∀ now, SameMeetings b.store (store.leaveMeeting (b.store.number d.store) userID now) ↔
      UnusedNumber (b.store.number d.store) b.store)
    {roomState : RoomState}
    (hrooms : SameRooms b.roomState.redis (roomState.deleteRoom (b.store.number d.store)).redis ↔
      UnusedRoom (b.store.number d.store) b.roomState) (now : Int) :
    Unchanged b (MeetingHandler.rollbackCreate ⟨b₁.store, roomState, b₁.fleet⟩
      (b.store.number d.store) userID now) ↔ Undoable h b d := by
  have hno : ¬ (b.store.number d.store = "" ∨ userID = "") := by
    simp [huser, number_ne_empty]
  rw [MeetingHandler.rollbackCreate, if_neg hno]
  dsimp only
  rw [halloc.store]
  constructor
  · intro hsame
    exact ⟨(hstore now).mp hsame.meetings, hrooms.mp hsame.rooms, (rooms_eq_iff halloc).mp hsame.sfuRooms⟩
  · intro hundo
    exact ⟨(hstore now).mpr hundo.number, hrooms.mpr hundo.room, (rooms_eq_iff halloc).mpr hundo.sfuRoom⟩

/-- What follows `CreateMeeting`. -/
theorem created_atomic (huser : userID ≠ "") {req : MeetCreateReq} (htitle : req.title ≠ "")
    {meeting : Meeting} {host : Participant}
    (hcreate : b.store.createMeeting req.title req.password userID req.maxParticipants d.store =
      (store, .ok (meeting, host)))
    (hid : meeting.id = b.store.number d.store)
    (hstore : ∀ now, SameMeetings b.store (store.leaveMeeting meeting.id userID now) ↔
      UnusedNumber (b.store.number d.store) b.store) :
    CreateAtomic h b userID (some req) d ↔ Completes h b d ∨ Undoable h b d := by
  rw [hid] at hstore
  have hm := number_ne_empty b.store d.store
  have halloc := allocateRoomRoute_allocated (h := h) (d := d) hm { b with store }
  rw [show placement h { b with store } d (b.store.number d.store) =
    placement h b d (b.store.number d.store) from rfl] at halloc
  simp only [CreateAtomic, MeetingHandler.handleCreate, htitle, if_false, hcreate, hid]
  generalize h.allocateRoomRoute { b with store } d (b.store.number d.store) = x at halloc
  obtain ⟨b₁, res⟩ := x
  dsimp only at halloc
  have hplain : SameRooms b.roomState.redis (b₁.roomState.deleteRoom (b.store.number d.store)).redis ↔
      UnusedRoom (b.store.number d.store) b.roomState := by
    have hrooms := sameRooms_deleteRoom (r := b₁.roomState) hm
    rwa [halloc.redis, UnusedRoom, halloc.enabled, halloc.redis] at hrooms
  cases res with
  | error err =>
    have hnone : ¬ Completes h b d := by
      intro hc
      obtain ⟨x, hx⟩ := halloc.ok.mpr hc.1
      cases hx
    rw [or_iff_right hnone, ← unchanged_rollback huser halloc hstore hplain d.leaveTime]
    exact forall_prop_of_true rfl
  | ok route =>
    have hplaced := halloc.ok.mp ⟨_, rfl⟩
    obtain ⟨node, addr⟩ := route
    dsimp only
    rcases upsertRoom_cases b₁.roomState d.upsertFault (b.store.number d.store) host.userId node addr
      d.unixTime with ⟨hon, err, hfault, hres⟩ | ⟨hupsert, hres⟩
    · have hnone : ¬ Completes h b d := by
        intro hc
        have hno := (hc.2 (halloc.enabled ▸ hon)).1
        rw [hfault] at hno
        cases hno
      rw [hres, or_iff_right hnone, ← unchanged_rollback huser halloc hstore hplain d.leaveTime]
      exact forall_prop_of_true rfl
    · rw [hres]
      dsimp only
      have hundone := sameRooms_upserted (r := b₁.roomState) hm host.userId node addr d.unixTime
      rw [halloc.redis, UnusedRoom, halloc.enabled, halloc.redis] at hundone
      have henabled := upsertRoom_enabled b₁.roomState (b.store.number d.store) host.userId node addr
        d.unixTime
      rcases addMember_cases (b₁.roomState.upsertRoom none (b.store.number d.store) host.userId node addr
        d.unixTime).1 d.addMemberFault (b.store.number d.store) host.userId with
        ⟨hon, err, hfault, hres⟩ | ⟨hadd, r', hres⟩
      · have hnone : ¬ Completes h b d := by
          intro hc
          have hno := (hc.2 (halloc.enabled ▸ henabled ▸ hon)).2
          rw [hfault] at hno
          cases hno
        rw [hres, or_iff_right hnone, ← unchanged_rollback huser halloc hstore hundone d.leaveTime]
        exact forall_prop_of_true rfl
      · rw [hres]
        refine ⟨fun _ => .inl ⟨hplaced, fun hon => ?_⟩,
          fun _ hfail => absurd (show true = false from hfail) (by decide)⟩
        have hon₁ : b₁.roomState.enabled = true := halloc.enabled.trans hon
        exact ⟨hupsert hon₁, hadd (henabled.trans hon₁)⟩

end Handler

/-! ## Examples -/

/-- One SFU node, `10.0.0.1:5000` for media and `10.0.0.1:9000` for RPC. -/
def oneNode : MeetingHandler where
  cfg := { sfuNodes := [⟨"sfu-1", "10.0.0.1:5000", "10.0.0.1:9000", 0⟩], defaultSFUNodeID := "sfu-1"
           defaultSFUAddress := "10.0.0.1:5000", sfuRPCAddr := "10.0.0.1:9000"
           sfuRouteRPCMap := fun _ => none, sfuNodeQuarantine := 30 }
  sfuClient := some { defaultClient := some "10.0.0.1:9000", routeClients := fun _ => none }
  errorText _ := ""

/-- Demo users, and no meeting anywhere. -/
def noMeetings : Backends where
  store := .memory (newMemoryStore id)
  roomState := { enabled := true, redis := .empty, sfuNodeQuarantine := fun _ => false, sfuAllocSeq := 0 }
  fleet := { rooms := fun _ => [], advertisedAddress := fun _ => "10.0.0.1:5000" }

/-- The calls that fail: `CreateRoom` and `UpsertRoom`. -/
def faults (createRoom upsert : Option String) : CreateDraw where
  store := { rand := ⟨0, by decide⟩, now := 0, meetingID := 1, participantID := 1, fault := none }
  registered := .ok []
  rankFault := none
  rpcAddressForRoute _ := none
  createRoomFault _ := createRoom
  upsertFault := upsert
  addMemberFault := none
  unixTime := 0
  leaveTime := 0

def standup : MeetCreateReq := { title := "standup", password := "", maxParticipants := 0 }

end MeetingSystem.Proof.Signaling
