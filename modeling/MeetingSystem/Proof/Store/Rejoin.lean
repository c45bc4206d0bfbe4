import MeetingSystem.Framework.Run
import MeetingSystem.Impl.Store.MeetingLifecycle
import MeetingSystem.Proof.Store.Tables

/-!
# Joining again

`JoinMeeting` of somebody who is in the meeting already gives them the meeting as
it is. Both stores look at the number of participants first, and so refuse a full
meeting to its own members: `rejoins_iff`. `Room::AddPublisher` of the SFU has the
two checks in the other order.
-/

namespace MeetingSystem.Proof.Store

open MeetingSystem.Framework MeetingSystem.Impl.Store

/-! ## The property -/

/-- A call succeeds and changes nothing. -/
def Rejoins {S ε α : Type*} (s : S) (r : S × Except ε α) : Prop := (∃ a, r.2 = .ok a) ∧ r.1 = s

def CorrectPassword (meeting : Meeting) (password : String) : Prop :=
  meeting.password = "" ∨ meeting.password = password

/-- The user `u` is one of the `taken` participants of the meeting with the
number `m`. -/
structure MemorySeat (s : MemoryStore) (m u : String) (meeting : Meeting) (taken : Nat) :
    Prop where
  meeting : s.meetings m = some meeting
  member : u ∈ s.membersOf m
  taken : (s.membersOf m).keys.length = taken

/-- The same in the tables. -/
structure RowSeat (db : Db) (row : MeetingRow) (u : String) (meeting : Meeting) (taken : Nat) :
    Prop where
  meeting : meetingFromModel row = meeting
  member : ∃ n, userIDToUint64 u = some n ∧ ∃ seat ∈ activeRows db row.id, seat.userID = n
  taken : (activeRows db row.id).length = taken

/-- The same, of a meeting that has a row or is in the fallback store. -/
def RepoSeat (s : RepoMeetingStore) (m u : String) (meeting : Meeting) (taken : Nat) : Prop :=
  match s.db.findByMeetingNo m with
  | .ok row => RowSeat s.db row u meeting taken
  | .error .recordNotFound => MemorySeat s.fallback m u meeting taken
  | .error .invalidData => False

theorem not_rejoins_error {S ε α : Type*} {s s' : S} {err : ε} :
    ¬Rejoins s (s', (.error err : Except ε α)) := by
  rintro ⟨⟨a, ha⟩, -⟩
  cases ha

theorem rejoins_ok {S ε α : Type*} {s : S} {a : α} : Rejoins s (s, (.ok a : Except ε α)) :=
  ⟨⟨a, rfl⟩, rfl⟩

/-! ## The store in memory -/

theorem memory_rejoins_iff {s : MemoryStore} {m u password : String} {meeting : Meeting}
    {taken : Nat} (h : MemorySeat s m u meeting taken) (hp : CorrectPassword meeting password) :
    Rejoins s (s.joinMeeting m password u) ↔ (taken : Int) < meeting.maxParticipants := by
  have hpass : ¬(meeting.password ≠ "" ∧ meeting.password ≠ password) := by
    rintro ⟨hne, hne'⟩
    exact hp.elim hne hne'
  obtain ⟨p, hlookup⟩ := Option.isSome_iff_exists.mp (AList.lookup_isSome.mpr h.member)
  simp only [MemoryStore.joinMeeting, h.meeting, if_neg hpass, h.taken, hlookup]
  by_cases hfull : (taken : Int) ≥ meeting.maxParticipants
  · rw [if_pos hfull]
    exact iff_of_false not_rejoins_error (not_lt.mpr hfull)
  · rw [if_neg hfull]
    exact iff_of_true rejoins_ok (not_le.mp hfull)

/-! ## The store over the tables -/

/-- The rows of participants have a meeting. -/
def Assigned (db : Db) : Prop := ∀ row ∈ db.participants, row.meetingID ≠ 0

section Assigned

variable {db db' : Db}

theorem Assigned.createMeeting {meeting row : MeetingRow} {id : UInt64} {now : Int}
    (h : Assigned db) (hdb : db.createMeeting meeting id now = .ok (db', row)) : Assigned db' := by
  unfold Db.createMeeting at hdb
  by_cases hempty : meeting.meetingNo = "" ∨ meeting.title = ""
  · rw [if_pos hempty] at hdb
    cases hdb
  · rw [if_neg hempty] at hdb
    obtain ⟨rfl, -⟩ := Prod.mk.inj (Except.ok.inj hdb)
    exact h

theorem Assigned.addParticipant {participant : ParticipantRow} {id : UInt64} (h : Assigned db)
    (hdb : db.addParticipant participant id = .ok db') : Assigned db' := by
  unfold Db.addParticipant at hdb
  split_ifs at hdb with hids
  obtain rfl := Except.ok.inj hdb
  intro row hrow
  obtain hrow | hrow := List.mem_append.mp hrow
  · exact h row hrow
  · rw [List.mem_singleton.mp hrow]
    exact fun hzero => hids (.inl hzero)

theorem Assigned.map {f : ParticipantRow → ParticipantRow} (h : Assigned db)
    (hf : ∀ row, (f row).meetingID = row.meetingID)
    (hdb : db'.participants = db.participants.map f) : Assigned db' := by
  intro row hrow
  rw [hdb] at hrow
  obtain ⟨row', hrow', rfl⟩ := List.mem_map.mp hrow
  rw [hf]
  exact h row' hrow'

theorem Assigned.markParticipantLeft {i u : UInt64} {now : Int} (h : Assigned db)
    (hdb : db.markParticipantLeft i u now = .ok db') : Assigned db' := by
  unfold Db.markParticipantLeft at hdb
  split_ifs at hdb
  obtain rfl := Except.ok.inj hdb
  refine h.map (fun row => ?_) rfl
  split_ifs <;> rfl

theorem Assigned.deleteMeeting {i : UInt64} (h : Assigned db)
    (hdb : db.deleteMeeting i = .ok db') : Assigned db' := by
  unfold Db.deleteMeeting at hdb
  split_ifs at hdb
  obtain rfl := Except.ok.inj hdb
  exact fun row hrow => h row (List.mem_filter.mp hrow).1

theorem Assigned.transferHost {i : UInt64} {newHost : ParticipantRow} (h : Assigned db)
    (hdb : db.transferHost i = .ok (db', newHost)) : Assigned db' := by
  obtain ⟨err, herr, -⟩ | ⟨row, -, hrow⟩ := transferHost_cases db i
  · exact absurd (herr.symm.trans hdb) nofun
  · obtain ⟨rfl, -⟩ := Prod.mk.inj (Except.ok.inj (hrow.symm.trans hdb))
    refine h.map (fun row => ?_) rfl
    split_ifs <;> rfl

end Assigned

section Step

variable {s : RepoMeetingStore}

theorem assigned_createMeeting (h : Assigned s.db) (meetingNo title password u : String)
    (max : Int) (i j : UInt64) (now : Int) :
    Assigned (s.createMeeting meetingNo title password u max i j now).1.db := by
  unfold RepoMeetingStore.createMeeting
  cases s.lookupUser u with
  | none => exact h
  | some profile =>
    cases userIDToUint64 u with
    | none => exact h
    | some n =>
      dsimp only
      split
      · exact h
      · rename_i db row hdb
        have hdb := h.createMeeting hdb
        split
        · exact hdb
        · rename_i db' hadd
          exact hdb.addParticipant hadd

theorem assigned_joinNew (h : Assigned s.db) (row : MeetingRow) (u : String) (i : UInt64)
    (now : Int) : Assigned (s.joinNew row u i now).1.db := by
  unfold RepoMeetingStore.joinNew
  cases s.lookupUser u with
  | none => exact h
  | some profile =>
    cases userIDToUint64 u with
    | none => exact h
    | some n =>
      dsimp only
      split
      · exact h
      · rename_i db hadd
        have hdb := h.addParticipant hadd
        split
        · exact hdb
        · exact hdb

theorem assigned_joinMeeting (h : Assigned s.db) (m password u : String) (i : UInt64) (now : Int) :
    Assigned (s.joinMeeting m password u i now).1.db := by
  unfold RepoMeetingStore.joinMeeting
  split
  · exact h
  · exact h
  · dsimp only
    split_ifs
    · exact h
    · split
      · exact h
      · split_ifs
        · exact h
        · split
          · split
            · exact h
            · exact h
          · exact assigned_joinNew h _ _ _ _

theorem assigned_leaveMarked (h : Assigned s.db) (row : MeetingRow) (n : UInt64) :
    Assigned (s.leaveMarked row n).1.db := by
  unfold RepoMeetingStore.leaveMarked
  split
  · exact h
  · dsimp only
    split_ifs
    · split
      · exact h
      · rename_i db hdb
        exact h.deleteMeeting hdb
    · exact h
    · split
      · exact h
      · rename_i db newHost hdb
        exact h.transferHost hdb

theorem assigned_leaveMeeting (h : Assigned s.db) (m u : String) (now : Int) :
    Assigned (s.leaveMeeting m u now).1.db := by
  unfold RepoMeetingStore.leaveMeeting
  split
  · exact h
  · exact h
  · split
    · exact h
    · split
      · exact h
      · exact h
      · rename_i db hdb
        exact @assigned_leaveMarked { s with db } (h.markParticipantLeft hdb) _ _

theorem assigned_step (h : Assigned s.db) (o : RepoOp) : Assigned (s.step o).db := by
  cases o with
  | createMeeting => exact assigned_createMeeting h _ _ _ _ _ _ _ _
  | joinMeeting => exact assigned_joinMeeting h _ _ _ _ _
  | leaveMeeting => exact assigned_leaveMeeting h _ _ _
  | fallback => exact h

theorem assigned_run (fallback : MemoryStore) (userRepo : Option UserAuthRepo) (ops : List RepoOp) :
    Assigned (run RepoMeetingStore.step (newMeetingLifecycleStore fallback userRepo) ops).db :=
  run_inv (P := fun s : RepoMeetingStore => Assigned s.db) (fun _ o h => assigned_step h o)
    (fun _ hrow => absurd hrow List.not_mem_nil) ops

end Step

section Rejoin

variable {s : RepoMeetingStore} {m u password : String} {meeting : Meeting} {taken : Nat}

/-- A participant is found among the rows of their meeting. -/
theorem findParticipantByUserID_isSome {i n : UInt64} {seat : ParticipantRow}
    (hn : userIDToUint64 u = some n) (hseat : seat ∈ activeRows s.db i) (hu : seat.userID = n) :
    ∃ p, findParticipantByUserID (s.db.selectActive i) u s.lookupUser = some p := by
  have hfind : ((s.db.selectActive i).find? fun row => row.userID = n).isSome := by
    rw [List.find?_isSome]
    exact ⟨seat, mem_selectActive.mpr hseat, decide_eq_true hu⟩
  obtain ⟨row, hrow⟩ := Option.isSome_iff_exists.mp hfind
  simp only [findParticipantByUserID, hn, hrow]
  exact ⟨_, rfl⟩

theorem row_rejoins_iff {row : MeetingRow} (hdb : Assigned s.db)
    (hrow : s.db.findByMeetingNo m = .ok row) (h : RowSeat s.db row u meeting taken)
    (hp : CorrectPassword meeting password) (i : UInt64) (now : Int) :
    Rejoins s (s.joinMeeting m password u i now) ↔ (taken : Int) < meeting.maxParticipants := by
  have hpass : ¬(meeting.password ≠ "" ∧ meeting.password ≠ password) := by
    rintro ⟨hne, hne'⟩
    exact hp.elim hne hne'
  obtain ⟨n, hn, seat, hseat, hu⟩ := h.member
  obtain ⟨p, hfind⟩ := findParticipantByUserID_isSome hn hseat hu
  have hid : row.id ≠ 0 := by
    obtain ⟨hmem, hm, -⟩ := mem_activeRows.mp hseat
    rw [← hm]
    exact hdb seat hmem
  have hlist : s.db.listActiveParticipants row.id = .ok (s.db.selectActive row.id) := if_neg hid
  have hlength : (s.db.selectActive row.id).length = taken :=
    (List.length_insertionSort _ _).trans h.taken
  simp only [RepoMeetingStore.joinMeeting, hrow, h.meeting, if_neg hpass, hlist, hlength, hfind,
    RepoMeetingStore.loadParticipants]
  by_cases hfull : (taken : Int) ≥ meeting.maxParticipants
  · rw [if_pos hfull]
    exact iff_of_false not_rejoins_error (not_lt.mpr hfull)
  · rw [if_neg hfull]
    exact iff_of_true rejoins_ok (not_le.mp hfull)

/-- The fallback store's answer is the answer. -/
theorem fallback_rejoins_iff (hrow : s.db.findByMeetingNo m = .error .recordNotFound) (i : UInt64)
    (now : Int) : Rejoins s (s.joinMeeting m password u i now) ↔
      Rejoins s.fallback (s.fallback.joinMeeting m password u) := by
  simp only [RepoMeetingStore.joinMeeting, hrow]
  obtain ⟨fallback, result⟩ := s.fallback.joinMeeting m password u
  cases result with
  | error err => exact iff_of_false not_rejoins_error not_rejoins_error
  | ok a =>
    constructor
    · rintro ⟨-, hs⟩
      exact ⟨⟨a, rfl⟩, congrArg RepoMeetingStore.fallback hs⟩
    · rintro ⟨-, hs⟩
      obtain rfl : fallback = s.fallback := hs
      exact rejoins_ok

theorem repo_rejoins_iff (hdb : Assigned s.db) (h : RepoSeat s m u meeting taken)
    (hp : CorrectPassword meeting password) (i : UInt64) (now : Int) :
    Rejoins s (s.joinMeeting m password u i now) ↔ (taken : Int) < meeting.maxParticipants := by
  unfold RepoSeat at h
  split at h
  · rename_i row hrow
    exact row_rejoins_iff hdb hrow h hp i now
  · rename_i hrow
    rw [fallback_rejoins_iff hrow]
    exact memory_rejoins_iff h hp
  · exact h.elim

end Rejoin

/-! ## Both stores -/

/-- In every state of either store a participant with the right password gets
back in, with everything as it was, exactly if the meeting has a place left for
somebody else. -/
theorem rejoins_iff {m u password : String} {meeting : Meeting} {taken : Nat}
    (hp : CorrectPassword meeting password) :
    (∀ hash ops, MemorySeat (run MemoryStore.step (newMemoryStore hash) ops) m u meeting taken →
      (Rejoins (run MemoryStore.step (newMemoryStore hash) ops)
        ((run MemoryStore.step (newMemoryStore hash) ops).joinMeeting m password u) ↔
          (taken : Int) < meeting.maxParticipants)) ∧
    ∀ fallback userRepo ops i now,
      RepoSeat (run RepoMeetingStore.step (newMeetingLifecycleStore fallback userRepo) ops) m u
        meeting taken →
      (Rejoins (run RepoMeetingStore.step (newMeetingLifecycleStore fallback userRepo) ops)
        ((run RepoMeetingStore.step (newMeetingLifecycleStore fallback userRepo) ops).joinMeeting m
          password u i now) ↔ (taken : Int) < meeting.maxParticipants) := by
  constructor
  · intro hash ops h
    exact memory_rejoins_iff h hp
  · intro fallback userRepo ops i now h
    exact repo_rejoins_iff (assigned_run fallback userRepo ops) h hp i now

/-! A meeting for `max` people with only its host in it. -/

def aloneMeeting (max : Int) : Meeting :=
  { id := "101001", title := "standup", password := "", hostUserID := "u1001"
    maxParticipants := max, createdAt := 0 }

theorem firstDraw_lt : 0 < 9000 := by decide

def memoryAlone (max : Int) : List Op :=
  [.createMeeting "standup" "" "u1001" max ⟨0, firstDraw_lt⟩ 0]

def repoAlone (max : Int) : List RepoOp :=
  [.createMeeting "101001" "standup" "" "u1001" max 1 1 0]

def memoryAfter (ops : List Op) : MemoryStore := run MemoryStore.step (newMemoryStore id) ops

def repoAfter (ops : List RepoOp) : RepoMeetingStore :=
  run RepoMeetingStore.step (newMeetingLifecycleStore (newMemoryStore id) none) ops

theorem memorySeat_alone :
    ∀ max ∈ [(1 : Int), 2],
      MemorySeat (memoryAfter (memoryAlone max)) "101001" "u1001" (aloneMeeting max) 1 := by
  intro max hmax
  have hseat : ∀ max ∈ [(1 : Int), 2],
      (memoryAfter (memoryAlone max)).meetings "101001" = some (aloneMeeting max) ∧
        "u1001" ∈ (memoryAfter (memoryAlone max)).membersOf "101001" ∧
        ((memoryAfter (memoryAlone max)).membersOf "101001").keys.length = 1 := by
    decide +kernel
  obtain ⟨hmeeting, hmember, htaken⟩ := hseat max hmax
  exact ⟨hmeeting, hmember, htaken⟩

theorem repoSeat_alone :
    ∀ max ∈ [(1 : Int), 2],
      RepoSeat (repoAfter (repoAlone max)) "101001" "u1001" (aloneMeeting max) 1 := by
  intro max hmax
  have htables : ∀ max ∈ [(1 : Int), 2],
      (repoAfter (repoAlone max)).db.meetings = [⟨1, "101001", "standup", 1001, "", 0, max, 0⟩] ∧
        (repoAfter (repoAlone max)).db.participants = [⟨1, 1, 1001, 1, 0, 0, none⟩] := by
    decide +kernel
  obtain ⟨hmeetings, hparticipants⟩ := htables max hmax
  have hrow : (repoAfter (repoAlone max)).db.findByMeetingNo "101001" =
      .ok ⟨1, "101001", "standup", 1001, "", 0, max, 0⟩ := by
    rw [Db.findByMeetingNo, hmeetings]
    rfl
  have hactive : activeRows (repoAfter (repoAlone max)).db 1 = [⟨1, 1, 1001, 1, 0, 0, none⟩] := by
    rw [activeRows, hparticipants]
    rfl
  have hhost : userIDFromUint64 1001 = "u1001" := by decide +kernel
  rw [RepoSeat, hrow]
  refine ⟨?_, ⟨1001, by decide +kernel, ?_⟩, ?_⟩
  · rw [meetingFromModel, hhost]
    rfl
  · rw [hactive]
    exact ⟨_, List.mem_cons_self, rfl⟩
  · rw [hactive]
    rfl

theorem rejoins_host :
    Rejoins (memoryAfter (memoryAlone 2))
        ((memoryAfter (memoryAlone 2)).joinMeeting "101001" "" "u1001") ∧
      Rejoins (repoAfter (repoAlone 2))
        ((repoAfter (repoAlone 2)).joinMeeting "101001" "" "u1001" 2 0) := by
  have hp : CorrectPassword (aloneMeeting 2) "" := .inl rfl
  have hmemory := memorySeat_alone 2 (by decide)
  have hrepo := repoSeat_alone 2 (by decide)
  exact ⟨((rejoins_iff hp).1 id _ hmemory).mpr (by decide),
    ((rejoins_iff hp).2 _ none _ 2 0 hrepo).mpr (by decide)⟩

/-- Its only participant is kept out of a meeting for one. -/
theorem rejoins_full :
    (MemorySeat (memoryAfter (memoryAlone 1)) "101001" "u1001" (aloneMeeting 1) 1 ∧
      ((memoryAfter (memoryAlone 1)).joinMeeting "101001" "" "u1001").2 = .error .meetingFull) ∧
    RepoSeat (repoAfter (repoAlone 1)) "101001" "u1001" (aloneMeeting 1) 1 ∧
      ((repoAfter (repoAlone 1)).joinMeeting "101001" "" "u1001" 2 0).2 =
        .error (.store .meetingFull) :=
  ⟨⟨memorySeat_alone 1 (by decide), by decide +kernel⟩, repoSeat_alone 1 (by decide),
    by decide +kernel⟩

end MeetingSystem.Proof.Store
