import MeetingSystem.Proof.Store.Replies
import MeetingSystem.Proof.Store.Tables

/-!
# The database-backed store refines the specification

A room is in the database as a row of `meetings` and one active row of
`meeting_participants` for each place of its roster, in the roster's order.

* `RepoRel`: the store represents a state of the specification;
* `DbRel.created`, `.joined`, `.left`, `.closed`, `.handedOver`: what the
  statements of a call do to it;
* `repo_create` and the like: every call keeps the relation and is answered as
  the specification says, where row ids increase, the clock does not go back
  and only members leave.
-/

namespace MeetingSystem.Proof.Store

open MeetingSystem.Framework MeetingSystem.Impl.Store

/-! ## The relation -/

/-- The user of a row, and whether the row says it is the host. -/
def seat (row : ParticipantRow) : UInt64 × Bool := (row.userID, row.role = 1)

def rosterSeats (roster : Roster UInt64) : List (UInt64 × Bool) :=
  roster.members.map fun n => (n, n = roster.leader)

structure DbRoom (db : Db) (room : Spec.Room UInt64) (row : MeetingRow) : Prop where
  meeting : undated (meetingFromModel row) = roomMeeting room
  seats : (activeRows db row.id).map seat = rosterSeats room.roster

structure TablesOk (clock : Int) (db : Db) : Prop where
  ids : (db.meetings.map (·.id)).Nodup
  numbers : (db.meetings.map (·.meetingNo)).Nodup
  meetingID : ∀ row ∈ db.meetings, row.id ≠ 0 ∧ row.id ≤ db.lastMeetingID
  participantID : ∀ row ∈ db.participants,
    row.id ≤ db.lastParticipantID ∧ row.meetingID ≤ db.lastMeetingID ∧ row.joinedAt ≤ clock
  userID : ∀ row ∈ db.participants, row.userID ≠ 0
  inOrder : InOrder db.participants

structure DbRel (clock : Int) (st : Spec.State UInt64) (db : Db) : Prop extends
    TablesOk clock db where
  entries : st.entries ≤ db.lastParticipantID.toNat
  live : ∀ row ∈ db.meetings, ∃ room, st.rooms row.meetingNo = some room ∧ DbRoom db room row
  absent : ∀ number, (∀ row ∈ db.meetings, row.meetingNo ≠ number) → st.rooms number = none

structure RepoRel (users : UInt64 → Option User) (clock : Int) (st : Spec.State UInt64)
    (s : RepoMeetingStore) : Prop where
  table : ∀ n, s.lookupUser (userIDFromUint64 n) = users n
  fallback : ∀ number, s.fallback.meetings number = none ∧ s.fallback.participants number = none
  db : DbRel clock st s.db

variable {users : UInt64 → Option User} {clock : Int} {st : Spec.State UInt64} {db : Db}

/-! ## Finding a meeting -/

theorem DbRel.find_none (h : DbRel clock st db) {number : String} (hnumber : number ≠ "")
    (hroom : st.rooms number = none) : db.findByMeetingNo number = .error .recordNotFound := by
  have hfind : db.meetings.find? (fun row => row.meetingNo = number) = none := by
    rw [List.find?_eq_none]
    intro row hrow hno
    obtain ⟨room, hlive, -⟩ := h.live row hrow
    rw [of_decide_eq_true hno, hroom] at hlive
    cases hlive
  rw [Db.findByMeetingNo, if_neg hnumber, hfind]

theorem DbRel.find_some (h : DbRel clock st db) {number : String} (hnumber : number ≠ "")
    {room : Spec.Room UInt64} (hroom : st.rooms number = some room) :
    ∃ row ∈ db.meetings, row.meetingNo = number ∧ db.findByMeetingNo number = .ok row ∧
      DbRoom db room row := by
  cases hfind : db.meetings.find? fun row => row.meetingNo = number with
  | none =>
    rw [List.find?_eq_none] at hfind
    have habsent := h.absent number fun row hrow => by simpa using hfind row hrow
    rw [hroom] at habsent
    cases habsent
  | some row =>
    have hrow := List.mem_of_find?_eq_some hfind
    have hno : row.meetingNo = number := by simpa using List.find?_some hfind
    obtain ⟨room', hlive, hdb⟩ := h.live row hrow
    rw [hno, hroom] at hlive
    obtain rfl := Option.some.inj hlive
    refine ⟨row, hrow, hno, ?_, hdb⟩
    rw [Db.findByMeetingNo, if_neg hnumber, hfind]

/-- Rows with the same number are the same row. -/
theorem TablesOk.eq_of_number (h : TablesOk clock db) {a b : MeetingRow} (ha : a ∈ db.meetings)
    (hb : b ∈ db.meetings) (hab : a.meetingNo = b.meetingNo) : a = b :=
  List.inj_on_of_nodup_map h.numbers ha hb hab

theorem TablesOk.eq_of_id (h : TablesOk clock db) {a b : MeetingRow} (ha : a ∈ db.meetings)
    (hb : b ∈ db.meetings) (hab : a.id = b.id) : a = b :=
  List.inj_on_of_nodup_map h.ids ha hb hab

/-! ## One room -/

section

variable {room : Spec.Room UInt64} {row : MeetingRow}

theorem DbRoom.password (h : DbRoom db room row) :
    (meetingFromModel row).password = room.password :=
  congrArg Meeting.password h.meeting

theorem DbRoom.maxParticipants (h : DbRoom db room row) :
    (meetingFromModel row).maxParticipants = room.maxParticipants :=
  congrArg Meeting.maxParticipants h.meeting

theorem DbRoom.hostUserID (h : DbRoom db room row) : row.hostUserID = room.roster.leader :=
  userIDFromUint64_injective (congrArg Meeting.hostUserID h.meeting)

theorem DbRoom.length (h : DbRoom db room row) :
    (activeRows db row.id).length = room.roster.members.length := by
  have hlen := congrArg List.length h.seats
  rwa [rosterSeats, List.length_map, List.length_map] at hlen

/-- The users of the active rows are the members. -/
theorem DbRoom.userIDs (h : DbRoom db room row) :
    (activeRows db row.id).map (·.userID) = room.roster.members := by
  have hmap := congrArg (List.map Prod.fst) h.seats
  rw [rosterSeats, List.map_map, List.map_map] at hmap
  simpa [Function.comp_def, seat] using hmap

theorem DbRoom.exists_row (h : DbRoom db room row) {n : UInt64} (hn : n ∈ room.roster.members) :
    ∃ p ∈ activeRows db row.id, p.userID = n := by
  rw [← h.userIDs] at hn
  exact List.mem_map.mp hn

/-- A row that is found says who is the host. -/
theorem DbRoom.role (h : DbRoom db room row) {p : ParticipantRow}
    (hp : p ∈ activeRows db row.id) : decide (p.role = 1) = decide (p.userID = room.roster.leader) := by
  have hmem : seat p ∈ rosterSeats room.roster := by
    rw [← h.seats]
    exact List.mem_map_of_mem hp
  obtain ⟨n, -, hn⟩ := List.mem_map.mp hmem
  simp only [seat, Prod.mk.injEq] at hn
  rw [← hn.1, ← hn.2]

theorem DbRoom.mem (h : DbRoom db room row) {p : ParticipantRow} (hp : p ∈ activeRows db row.id) :
    p.userID ∈ room.roster.members := by
  rw [← h.userIDs]
  exact List.mem_map_of_mem hp

theorem DbRoom.find_mem (h : DbRoom db room row) {n : UInt64} (hn : n ∈ room.roster.members)
    {lookup : String → Option User} (htable : lookup (userIDFromUint64 n) = users n) :
    findParticipantByUserID (activeRows db row.id) (userIDFromUint64 n) lookup =
      some (roomParticipant users room n) := by
  obtain ⟨p, hp, hpn⟩ := h.exists_row hn
  obtain ⟨q, hfind⟩ : ∃ q, (activeRows db row.id).find? (fun p => p.userID = n) = some q := by
    rw [← Option.isSome_iff_exists, List.find?_isSome]
    exact ⟨p, hp, by simpa using hpn⟩
  have hq : q.userID = n := by simpa using List.find?_some hfind
  have hrole := h.role (List.mem_of_find?_eq_some hfind)
  rw [hq] at hrole
  simp only [findParticipantByUserID, userIDToUint64_fromUint64, hfind, Option.map_some, htable,
    hrole]
  rfl

theorem DbRoom.find_notMem (h : DbRoom db room row) {n : UInt64} (hn : n ∉ room.roster.members)
    (lookup : String → Option User) :
    findParticipantByUserID (activeRows db row.id) (userIDFromUint64 n) lookup = none := by
  have hfind : (activeRows db row.id).find? (fun p => p.userID = n) = none := by
    rw [List.find?_eq_none]
    intro p hp hpn
    exact hn (of_decide_eq_true hpn ▸ h.mem hp)
  simp only [findParticipantByUserID, userIDToUint64_fromUint64, hfind, Option.map_none]

theorem DbRoom.list (h : DbRoom db room row) {s : RepoMeetingStore}
    (htable : ∀ n, s.lookupUser (userIDFromUint64 n) = users n) :
    ((activeRows db row.id).map s.participantFromModel : List Participant) =
      room.roster.members.map (roomParticipant users room) := by
  rw [← h.userIDs, List.map_map]
  apply List.map_congr_left
  intro p hp
  show participantFromProfile _ (s.lookupUser _) _ = participantFromProfile _ (users _) _
  rw [htable, h.role hp]

theorem DbRoom.congr {db' : Db} (h : DbRoom db room row)
    (hactive : activeRows db' row.id = activeRows db row.id) : DbRoom db' room row where
  meeting := h.meeting
  seats := by rw [hactive, h.seats]

end

/-! ## What a statement keeps -/

theorem TablesOk.insertedMeeting (h : TablesOk clock db) {row : MeetingRow}
    (hid : db.lastMeetingID < row.id) (hno : ∀ r ∈ db.meetings, r.meetingNo ≠ row.meetingNo) :
    TablesOk clock { db with meetings := db.meetings ++ [row], lastMeetingID := row.id } where
  ids := by
    rw [List.map_append, List.nodup_append]
    refine ⟨h.ids, List.nodup_singleton _, fun a ha b hb => ?_⟩
    obtain ⟨r, hr, rfl⟩ := List.mem_map.mp ha
    obtain rfl := List.mem_singleton.mp hb
    exact UInt64.ne_of_lt (UInt64.lt_of_le_of_lt (h.meetingID r hr).2 hid)
  numbers := by
    rw [List.map_append, List.nodup_append]
    refine ⟨h.numbers, List.nodup_singleton _, fun a ha b hb => ?_⟩
    obtain ⟨r, hr, rfl⟩ := List.mem_map.mp ha
    obtain rfl := List.mem_singleton.mp hb
    exact hno r hr
  meetingID r hr := by
    rcases List.mem_append.mp hr with hr | hr
    · exact ⟨(h.meetingID r hr).1, UInt64.le_of_lt (UInt64.lt_of_le_of_lt (h.meetingID r hr).2 hid)⟩
    · obtain rfl := List.mem_singleton.mp hr
      exact ⟨(UInt64.ne_of_lt (UInt64.lt_of_le_of_lt UInt64.zero_le hid)).symm, UInt64.le_refl _⟩
  participantID p hp := by
    obtain ⟨h1, h2, h3⟩ := h.participantID p hp
    exact ⟨h1, UInt64.le_of_lt (UInt64.lt_of_le_of_lt h2 hid), h3⟩
  userID := h.userID
  inOrder := h.inOrder

theorem TablesOk.insertedParticipant (h : TablesOk clock db) {p : ParticipantRow} {id : UInt64}
    (hid : db.lastParticipantID < id) (hm : p.meetingID ≤ db.lastMeetingID) (hu : p.userID ≠ 0)
    (hclock : clock ≤ p.joinedAt) : TablesOk p.joinedAt (insertedParticipant db p id) where
  ids := h.ids
  numbers := h.numbers
  meetingID := h.meetingID
  participantID q hq := by
    rcases List.mem_append.mp hq with hq | hq
    · obtain ⟨h1, h2, h3⟩ := h.participantID q hq
      exact ⟨UInt64.le_of_lt (UInt64.lt_of_le_of_lt h1 hid), h2, h3.trans hclock⟩
    · obtain rfl := List.mem_singleton.mp hq
      exact ⟨UInt64.le_refl _, hm, le_rfl⟩
  userID q hq := by
    rcases List.mem_append.mp hq with hq | hq
    · exact h.userID q hq
    · obtain rfl := List.mem_singleton.mp hq
      exact hu
  inOrder := by
    show List.Pairwise _ (_ ++ _)
    rw [List.pairwise_append]
    refine ⟨h.inOrder, List.pairwise_singleton _ _, fun a ha b hb => ?_⟩
    obtain rfl := List.mem_singleton.mp hb
    obtain ⟨h1, h2, h3⟩ := h.participantID a ha
    exact ⟨UInt64.lt_of_le_of_lt h1 hid, h3.trans hclock⟩

/-- An update of participants that keeps ids and times. -/
theorem TablesOk.mapParticipants (h : TablesOk clock db) {f : ParticipantRow → ParticipantRow}
    (hf : ∀ p, (f p).id = p.id ∧ (f p).meetingID = p.meetingID ∧ (f p).joinedAt = p.joinedAt ∧
      (f p).userID = p.userID) :
    TablesOk clock { db with participants := db.participants.map f } where
  ids := h.ids
  numbers := h.numbers
  meetingID := h.meetingID
  participantID q hq := by
    obtain ⟨p, hp, rfl⟩ := List.mem_map.mp hq
    obtain ⟨h1, h2, h3, -⟩ := hf p
    rw [h1, h2, h3]
    exact h.participantID p hp
  userID q hq := by
    obtain ⟨p, hp, rfl⟩ := List.mem_map.mp hq
    rw [(hf p).2.2.2]
    exact h.userID p hp
  inOrder := by
    show List.Pairwise _ (List.map _ _)
    rw [List.pairwise_map]
    refine h.inOrder.imp fun {a b} hab => ?_
    rw [(hf a).1, (hf b).1, (hf a).2.2.1, (hf b).2.2.1]
    exact hab

/-- An update of meetings that keeps ids and numbers. -/
theorem TablesOk.mapMeetings (h : TablesOk clock db) {f : MeetingRow → MeetingRow}
    (hf : ∀ r, (f r).id = r.id ∧ (f r).meetingNo = r.meetingNo) :
    TablesOk clock { db with meetings := db.meetings.map f } where
  ids := by
    show (List.map _ (List.map _ _)).Nodup
    rw [List.map_map, show (·.id) ∘ f = (·.id) from funext fun r => (hf r).1]
    exact h.ids
  numbers := by
    show (List.map _ (List.map _ _)).Nodup
    rw [List.map_map, show (·.meetingNo) ∘ f = (·.meetingNo) from funext fun r => (hf r).2]
    exact h.numbers
  meetingID r hr := by
    obtain ⟨r, hmem, rfl⟩ := List.mem_map.mp hr
    rw [(hf r).1]
    exact h.meetingID r hmem
  participantID := h.participantID
  userID := h.userID
  inOrder := h.inOrder

theorem TablesOk.markedLeft (h : TablesOk clock db) (i u : UInt64) (now : Int) :
    TablesOk clock (markedLeft db i u now) := by
  apply h.mapParticipants
  intro p
  split <;> exact ⟨rfl, rfl, rfl, rfl⟩

theorem TablesOk.handedOver (h : TablesOk clock db) (i u : UInt64) :
    TablesOk clock (handedOver db i u) := by
  have hm := h.mapMeetings (f := fun row => if row.id = i then { row with hostUserID := u } else row)
    fun r => by split <;> exact ⟨rfl, rfl⟩
  apply hm.mapParticipants
  intro p
  split <;> exact ⟨rfl, rfl, rfl, rfl⟩

theorem TablesOk.deletedMeeting (h : TablesOk clock db) (i : UInt64) :
    TablesOk clock (deletedMeeting db i) where
  ids := h.ids.sublist (List.filter_sublist.map _)
  numbers := h.numbers.sublist (List.filter_sublist.map _)
  meetingID r hr := h.meetingID r (List.mem_of_mem_filter hr)
  participantID p hp := h.participantID p (List.mem_of_mem_filter hp)
  userID p hp := h.userID p (List.mem_of_mem_filter hp)
  inOrder := h.inOrder.sublist List.filter_sublist

theorem TablesOk.mono {clock' : Int} (h : TablesOk clock db) (hle : clock ≤ clock') :
    TablesOk clock' db :=
  { h with
    participantID := fun p hp =>
      ⟨(h.participantID p hp).1, (h.participantID p hp).2.1, (h.participantID p hp).2.2.trans hle⟩ }

/-! ## One room changes -/

/-- A call that changes one room and leaves it in the tables. -/
theorem DbRel.set {clock' : Int} {db' : Db} {room : Spec.Room UInt64} {entries : Nat}
    {row : MeetingRow} (h : DbRel clock st db) (hrow : row ∈ db.meetings)
    (ht : TablesOk clock' db') (hentries : entries ≤ db'.lastParticipantID.toNat)
    (hsame : ∀ r ∈ db'.meetings, r.id = row.id → r.meetingNo = row.meetingNo ∧ DbRoom db' room r)
    (hothers : ∀ r ∈ db'.meetings, r.id ≠ row.id → r ∈ db.meetings)
    (hkept : ∀ r ∈ db.meetings, ∃ r' ∈ db'.meetings, r'.meetingNo = r.meetingNo)
    (hactive : ∀ j ≠ row.id, activeRows db' j = activeRows db j) :
    DbRel clock' { rooms := Function.update st.rooms row.meetingNo (some room), entries } db' where
  toTablesOk := ht
  entries := hentries
  live r hr := by
    dsimp only
    by_cases hid : r.id = row.id
    · obtain ⟨hno, hroom⟩ := hsame r hr hid
      exact ⟨room, by rw [hno, Function.update_self], hroom⟩
    · have hr' := hothers r hr hid
      have hno : r.meetingNo ≠ row.meetingNo := by
        intro e
        exact hid (congrArg MeetingRow.id (h.eq_of_number hr' hrow e))
      obtain ⟨room', hlive, hroom⟩ := h.live r hr'
      exact ⟨room', by rwa [Function.update_of_ne hno], hroom.congr (hactive _ hid)⟩
  absent number hnone := by
    dsimp only
    obtain ⟨r', hr', hno'⟩ := hkept row hrow
    have hne : number ≠ row.meetingNo := fun e => hnone r' hr' (hno'.trans e.symm)
    rw [Function.update_of_ne hne]
    apply h.absent
    intro r hr e
    obtain ⟨r', hr', hno'⟩ := hkept r hr
    exact hnone r' hr' (hno'.trans e)

/-- The row of the host, or of whoever joins. -/
def newParticipant (meetingID userID : UInt64) (role : Int) (now : Int) : ParticipantRow :=
  { id := 0, meetingID, userID, role, mediaState := 0, joinedAt := now, leftAt := none }

theorem DbRel.created (h : DbRel clock st db) (row : MeetingRow) (room : Spec.Room UInt64)
    {n id : UInt64} {now : Int} (hmeeting : undated (meetingFromModel row) = roomMeeting room)
    (hroster : room.roster = .single n) (hid : db.lastMeetingID < row.id)
    (hno : st.rooms row.meetingNo = none) (hpid : db.lastParticipantID < id) (hn : n ≠ 0)
    (hclock : clock ≤ now) :
    DbRel now (st.enter row.meetingNo room)
      (insertedParticipant { db with meetings := db.meetings ++ [row], lastMeetingID := row.id }
        (newParticipant row.id n 1 now) id) where
  toTablesOk := by
    have hfresh : ∀ r ∈ db.meetings, r.meetingNo ≠ row.meetingNo := by
      intro r hr e
      obtain ⟨room', hlive, -⟩ := h.live r hr
      rw [e, hno] at hlive
      cases hlive
    exact (h.toTablesOk.insertedMeeting hid hfresh).insertedParticipant
      (p := newParticipant row.id n 1 now) hpid (UInt64.le_refl _) hn hclock
  entries := by
    have := h.entries
    have := UInt64.lt_iff_toNat_lt.mp hpid
    show st.entries + 1 ≤ id.toNat
    omega
  live r hr := by
    dsimp only [Spec.State.enter, Spec.State.set]
    rcases List.mem_append.mp hr with hr | hr
    · obtain ⟨room', hlive, hroom⟩ := h.live r hr
      have hne : r.meetingNo ≠ row.meetingNo := by
        intro e
        rw [e, hno] at hlive
        cases hlive
      have hidne : row.id ≠ r.id :=
        (UInt64.ne_of_lt (UInt64.lt_of_le_of_lt (h.meetingID r hr).2 hid)).symm
      refine ⟨room', by rwa [Function.update_of_ne hne], hroom.congr ?_⟩
      rw [activeRows_insertedParticipant]
      simp [newParticipant, hidne, activeRows]
    · obtain rfl := List.mem_singleton.mp hr
      refine ⟨room, by rw [Function.update_self], hmeeting, ?_⟩
      have hempty : activeRows db r.id = [] := by
        rw [List.eq_nil_iff_forall_not_mem]
        intro p hp
        obtain ⟨hmem, hpid, -⟩ := mem_activeRows.mp hp
        have hle := (h.participantID p hmem).2.1
        rw [hpid] at hle
        exact UInt64.not_lt.mpr hle hid
      rw [activeRows_insertedParticipant, rosterSeats, hroster]
      have hempty' : activeRows { db with meetings := db.meetings ++ [r], lastMeetingID := r.id }
          r.id = [] := hempty
      rw [hempty']
      simp [newParticipant, seat, Roster.single]
  absent number hnone := by
    dsimp only [Spec.State.enter, Spec.State.set]
    have hne : number ≠ row.meetingNo :=
      fun e => hnone row (List.mem_append_right _ (List.mem_singleton_self row)) e.symm
    rw [Function.update_of_ne hne]
    exact h.absent number fun r hr => hnone r (List.mem_append_left _ hr)

theorem rosterSeats_add (roster : Roster UInt64) {n : UInt64} (hn : n ∉ roster.members) :
    rosterSeats (roster.add n hn) = rosterSeats roster ++ [(n, false)] := by
  have hne := roster.ne_leader hn
  show List.map _ (roster.members ++ [n]) = _
  rw [List.map_append, List.map_singleton]
  show List.map _ _ ++ [(n, decide (n = roster.leader))] = _
  rw [decide_eq_false hne]
  rfl

theorem DbRel.joined {row : MeetingRow} {room : Spec.Room UInt64} {n id : UInt64} {now : Int}
    (h : DbRel clock st db) (hrow : row ∈ db.meetings) (hroom : DbRoom db room row)
    (hn : n ∉ room.roster.members) (hpid : db.lastParticipantID < id) (hn0 : n ≠ 0)
    (hclock : clock ≤ now) :
    DbRel now (st.enter row.meetingNo { room with roster := room.roster.add n hn })
      (insertedParticipant db (newParticipant row.id n 0 now) id) := by
  have ht := h.toTablesOk.insertedParticipant (p := newParticipant row.id n 0 now) hpid
    (h.meetingID row hrow).2 hn0 hclock
  refine h.set hrow ht ?_ ?_ ?_ ?_ ?_
  · have := h.entries
    have := UInt64.lt_iff_toNat_lt.mp hpid
    show st.entries + 1 ≤ id.toNat
    omega
  · intro r hr hid
    obtain rfl := h.eq_of_id hr hrow hid
    refine ⟨rfl, hroom.meeting, ?_⟩
    rw [activeRows_insertedParticipant, List.map_append, hroom.seats, rosterSeats_add]
    simp [newParticipant, seat]
  · exact fun r hr _ => hr
  · exact fun r hr => ⟨r, hr, rfl⟩
  · intro j hj
    rw [activeRows_insertedParticipant]
    simp [newParticipant, hj.symm]

theorem rosterSeats_filter (roster : Roster UInt64) (n : UInt64) :
    (rosterSeats roster).filter (fun p => p.1 ≠ n) =
      (roster.members.erase n).map fun a => (a, decide (a = roster.leader)) := by
  rw [rosterSeats, List.filter_map, roster.nodup.erase_eq_filter]
  congr 1
  apply List.filter_congr
  intro a _
  by_cases ha : a = n <;> simp [ha]

theorem rosterSeats_erase {roster roster' : Roster UInt64} {n b : UInt64} {rest : List UInt64}
    (hrest : roster.members.erase n = b :: rest) (hmembers : roster'.members = b :: rest) :
    (rosterSeats roster).filter (fun p => p.1 ≠ n) =
      roster'.members.map fun a => (a, decide (a = roster.leader)) := by
  rw [rosterSeats_filter, hrest, hmembers]

/-- The active rows after a member has been marked. -/
theorem DbRoom.seats_markedLeft {row : MeetingRow} {room : Spec.Room UInt64} (h : DbRoom db room row)
    (n : UInt64) (now : Int) :
    (activeRows (markedLeft db row.id n now) row.id).map seat =
      (rosterSeats room.roster).filter fun p => p.1 ≠ n := by
  rw [activeRows_markedLeft, ← h.seats, List.filter_map]
  rfl

theorem DbRel.left {row : MeetingRow} {room : Spec.Room UInt64} {roster : Roster UInt64}
    {n : UInt64} {now : Int} (h : DbRel clock st db) (hrow : row ∈ db.meetings)
    (hroom : DbRoom db room row) (hclock : clock ≤ now)
    (hseats : (activeRows (markedLeft db row.id n now) row.id).map seat = rosterSeats roster)
    (hleader : roster.leader = room.roster.leader) :
    DbRel now (st.set row.meetingNo (some { room with roster })) (markedLeft db row.id n now) := by
  refine h.set hrow ((h.toTablesOk.markedLeft row.id n now).mono hclock) h.entries ?_ ?_ ?_ ?_
  · intro r hr hid
    obtain rfl := h.eq_of_id hr hrow hid
    refine ⟨rfl, ?_, hseats⟩
    rw [hroom.meeting, roomMeeting, roomMeeting, hleader]
  · exact fun r hr _ => hr
  · exact fun r hr => ⟨r, hr, rfl⟩
  · exact fun j hj => activeRows_markedLeft_ne db n now hj

theorem DbRel.closed {row : MeetingRow} {n : UInt64} {now : Int} (h : DbRel clock st db)
    (hrow : row ∈ db.meetings) (hclock : clock ≤ now) :
    DbRel now (st.set row.meetingNo none) (deletedMeeting (markedLeft db row.id n now) row.id) where
  toTablesOk := ((h.toTablesOk.markedLeft row.id n now).mono hclock).deletedMeeting row.id
  entries := h.entries
  live r hr := by
    obtain ⟨hmem, hid⟩ := List.mem_filter.mp hr
    have hid : r.id ≠ row.id := of_decide_eq_true hid
    have hno : r.meetingNo ≠ row.meetingNo := by
      intro e
      exact hid (congrArg MeetingRow.id (h.eq_of_number hmem hrow e))
    obtain ⟨room, hlive, hroom⟩ := h.live r hmem
    refine ⟨room, by dsimp only [Spec.State.set]; rwa [Function.update_of_ne hno], hroom.congr ?_⟩
    rw [activeRows_deletedMeeting _ hid, activeRows_markedLeft_ne _ _ _ hid]
  absent number hnone := by
    dsimp only [Spec.State.set]
    by_cases hno : number = row.meetingNo
    · rw [hno, Function.update_self]
    · rw [Function.update_of_ne hno]
      apply h.absent
      intro r hr e
      have hid : r.id ≠ row.id := by
        intro hid
        exact hno (e.symm.trans (congrArg MeetingRow.meetingNo (h.eq_of_id hr hrow hid)))
      exact hnone r (List.mem_filter.mpr ⟨hr, decide_eq_true hid⟩) e

/-- The row of a meeting after the host has been changed. -/
theorem mem_handedOver {i u : UInt64} {r : MeetingRow} (hr : r ∈ (handedOver db i u).meetings) :
    ∃ r' ∈ db.meetings, r'.id = r.id ∧
      r = if r'.id = i then { r' with hostUserID := u } else r' := by
  obtain ⟨r', hmem, rfl⟩ := List.mem_map.mp hr
  refine ⟨r', hmem, ?_, rfl⟩
  split <;> rfl

theorem seat_handedOver (i u : UInt64) {row : ParticipantRow} (hrow : row.isActive i = true) :
    seat (if Db.isActiveOf i u row then { row with role := 1 } else row) =
      (row.userID, row.userID = u || (seat row).2) := by
  by_cases hu : row.userID = u
  · rw [if_pos (isActiveOf_iff.mpr ⟨hrow, hu⟩)]
    simp [seat, hu]
  · rw [if_neg (fun e => hu (isActiveOf_iff.mp e).2)]
    simp [seat, hu]

theorem DbRel.handedOver {row : MeetingRow} {room : Spec.Room UInt64} {roster : Roster UInt64}
    {n b : UInt64} {rest : List UInt64} {now : Int} (h : DbRel clock st db)
    (hrow : row ∈ db.meetings) (hroom : DbRoom db room row) (hclock : clock ≤ now)
    (hlead : room.roster.leader = n) (hrest : room.roster.members.erase n = b :: rest)
    (hmembers : roster.members = b :: rest) (hleader : roster.leader = b) :
    DbRel now (st.set row.meetingNo (some { room with roster }))
      (handedOver (markedLeft db row.id n now) row.id b) := by
  have ht := ((h.toTablesOk.markedLeft row.id n now).mono hclock).handedOver row.id b
  have hold : (activeRows (markedLeft db row.id n now) row.id).map seat =
      roster.members.map fun a => (a, false) := by
    rw [hroom.seats_markedLeft, rosterSeats_erase hrest hmembers]
    apply List.map_congr_left
    intro a ha
    rw [hmembers, ← hrest, hlead.symm] at ha
    rw [decide_eq_false (room.roster.nodup.mem_erase_iff.mp ha).1]
  have hseats : (activeRows (Store.handedOver (markedLeft db row.id n now) row.id b) row.id).map seat =
      rosterSeats roster := by
    rw [activeRows_handedOver, List.map_map]
    calc _ = (activeRows (markedLeft db row.id n now) row.id).map
          ((fun p : UInt64 × Bool => (p.1, p.1 = b || p.2)) ∘ seat) := by
          apply List.map_congr_left
          intro p hp
          exact seat_handedOver row.id b (List.mem_filter.mp hp).2
      _ = rosterSeats roster := by
          rw [← List.map_map, hold, List.map_map, rosterSeats, hleader]
          apply List.map_congr_left
          intro a _
          simp
  refine h.set hrow ht h.entries ?_ ?_ ?_ ?_
  · intro r hr hid
    obtain ⟨r', hmem, hid', rfl⟩ := mem_handedOver hr
    obtain rfl := h.eq_of_id hmem hrow (hid'.trans hid)
    rw [if_pos rfl]
    refine ⟨rfl, ?_, hseats⟩
    have hmeeting := hroom.meeting
    simp only [undated, meetingFromModel, roomMeeting, Meeting.mk.injEq] at hmeeting ⊢
    rw [hleader]
    tauto
  · intro r hr hid
    obtain ⟨r', hmem, hid', rfl⟩ := mem_handedOver hr
    rw [← hid'] at hid
    rwa [if_neg hid]
  · intro r hr
    refine ⟨_, List.mem_map_of_mem hr, ?_⟩
    split <;> rfl
  · intro j hj
    rw [activeRows_handedOver_ne _ _ hj, activeRows_markedLeft_ne _ _ _ hj]

/-! ## The calls -/

variable {s : RepoMeetingStore}

theorem DbRel.mono {clock' : Int} (h : DbRel clock st db) (hle : clock ≤ clock') :
    DbRel clock' st db :=
  { h with toTablesOk := h.toTablesOk.mono hle }

theorem RepoRel.mono {clock' : Int} (h : RepoRel users clock st s) (hle : clock ≤ clock') :
    RepoRel users clock' st s :=
  { h with db := h.db.mono hle }

/-- A call that changes the database only. -/
theorem RepoRel.withDb {clock' : Int} {st' : Spec.State UInt64} {db' : Db}
    (h : RepoRel users clock st s) (hdb : DbRel clock' st' db') :
    RepoRel users clock' st' { s with db := db' } where
  table := h.table
  fallback := h.fallback
  db := hdb

theorem TableOk.ne_zero (hok : TableOk users) {n : UInt64} {user : User}
    (hn : users n = some user) : n ≠ 0 := by
  intro e
  rw [e, hok.zero] at hn
  cases hn

theorem repo_create (hok : TableOk users) (h : RepoRel users clock st s) {d : Draws}
    (hclock : clock ≤ d.now) (hid : s.db.lastMeetingID < d.meetingID)
    (hpid : s.db.lastParticipantID < d.participantID) {number title : String} (password : String)
    (host : UInt64) (maxParticipants : Int) (hnumber : number ≠ "") (htitle : title ≠ "")
    (hfresh : st.rooms number = none) :
    Refines users (RepoRel users d.now)
      (Spec.create (known users) st number title password host maxParticipants)
      (repoReply s d (.create number title password host maxParticipants)) := by
  have htable := h.table host
  cases hhost : users host with
  | none =>
    rw [hhost] at htable
    simp only [Spec.create, known, hhost, repoReply, RepoMeetingStore.createMeeting, htable]
    exact ⟨h.mono hclock, rfl⟩
  | some user =>
    rw [hhost] at htable
    have hmid : d.meetingID ≠ 0 :=
      (UInt64.ne_of_lt (UInt64.lt_of_le_of_lt UInt64.zero_le hid)).symm
    have hmax : ∀ m : Int, (if (if m ≤ 0 then 16 else m) ≤ 0 then 16 else if m ≤ 0 then 16 else m) =
        if m ≤ 0 then 16 else m := by
      intro m
      by_cases hm : m ≤ 0 <;> simp [hm]
    simp only [Spec.create, known, hhost, Option.isSome_some, if_true, repoReply,
      RepoMeetingStore.createMeeting, htable, userIDToUint64_fromUint64, Db.createMeeting, hnumber,
      htitle, or_self, if_false, hmax, Db.addParticipant, hmid, hok.ne_zero hhost]
    generalize (if maxParticipants ≤ 0 then 16 else maxParticipants) = max
    constructor
    · have hdb := h.db.created
        { id := d.meetingID, meetingNo := number, title := title, hostUserID := host,
          passwordHash := password, status := 0, maxParticipants := max, createdAt := d.now }
        { number, title, password, maxParticipants := max, roster := .single host }
        rfl rfl hid hfresh hpid (hok.ne_zero hhost) hclock
      exact h.withDb hdb
    · show Reply.created _ _ = Reply.created _ _
      rw [roomParticipant, hhost]
      simp only [Roster.single, decide_true]
      rfl

theorem repo_join (hok : TableOk users) (h : RepoRel users clock st s) {d : Draws}
    (hclock : clock ≤ d.now) (hpid : s.db.lastParticipantID < d.participantID) {number : String}
    (password : String) (n : UInt64) (hnumber : number ≠ "") :
    Refines users (RepoRel users d.now) (Spec.join (known users) st number password n)
      (repoReply s d (.join number password n)) := by
  cases hroom : st.rooms number with
  | none =>
    simp only [Spec.join, hroom, repoReply, RepoMeetingStore.joinMeeting,
      h.db.find_none hnumber hroom, MemoryStore.joinMeeting, (h.fallback number).1]
    exact ⟨h.mono hclock, rfl⟩
  | some room =>
    obtain ⟨row, hrow, rfl, hfind, hdb⟩ := h.db.find_some hnumber hroom
    have hid := (h.db.meetingID row hrow).1
    have hlist := listActiveParticipants_eq h.db.inOrder hid
    simp only [Spec.join, hroom, repoReply, RepoMeetingStore.joinMeeting, hfind,
      hdb.password, hdb.maxParticipants, hlist, hdb.length]
    by_cases hpass : room.password ≠ "" ∧ room.password ≠ password
    · rw [if_pos hpass, if_pos hpass]
      exact ⟨h.mono hclock, rfl⟩
    rw [if_neg hpass, if_neg hpass]
    by_cases hfull : (room.roster.members.length : Int) ≥ room.maxParticipants
    · rw [if_pos hfull, if_pos hfull]
      exact ⟨h.mono hclock, rfl⟩
    rw [if_neg hfull, if_neg hfull]
    by_cases hn : n ∈ room.roster.members
    · rw [dif_pos hn]
      simp only [hdb.find_mem hn (h.table n), RepoMeetingStore.loadParticipants, hlist,
        hdb.list h.table]
      refine ⟨h.mono hclock, ?_⟩
      show Reply.joined (undated (meetingFromModel row)) _ _ = Reply.joined _ _ _
      rw [hdb.meeting]
      rfl
    rw [dif_neg hn]
    simp only [hdb.find_notMem hn, RepoMeetingStore.joinNew]
    have htable := h.table n
    cases hu : users n with
    | none =>
      rw [hu] at htable
      simp only [known, hu, htable]
      exact ⟨h.mono hclock, rfl⟩
    | some user =>
      rw [hu] at htable
      have hadd : s.db.addParticipant (newParticipant row.id n 0 d.now) d.participantID =
          .ok (insertedParticipant s.db (newParticipant row.id n 0 d.now) d.participantID) :=
        addParticipant_eq _ hid (hok.ne_zero hu)
      have hrel := h.db.joined hrow hdb hn hpid (hok.ne_zero hu) hclock
      have hnew : DbRoom (insertedParticipant s.db (newParticipant row.id n 0 d.now) d.participantID)
          { room with roster := room.roster.add n hn } row := by
        obtain ⟨room', hlive, hdb'⟩ := hrel.live row hrow
        dsimp only [Spec.State.enter, Spec.State.set] at hlive
        rw [Function.update_self] at hlive
        obtain rfl := Option.some.inj hlive
        exact hdb'
      have hlist' := listActiveParticipants_eq hrel.inOrder hid
      simp only [known, hu, htable, Option.isSome_some, if_true, userIDToUint64_fromUint64]
      unfold newParticipant at *
      simp only [hadd, RepoMeetingStore.loadParticipants, hlist']
      constructor
      · exact h.withDb hrel
      · show Reply.joined (undated (meetingFromModel row)) _ _ = Reply.joined _ _ _
        have hself : roomParticipant users { room with roster := room.roster.add n hn } n =
            participantFromProfile (userIDFromUint64 n) (some user) false := by
          rw [roomParticipant, hu]
          show participantFromProfile _ _ (decide (n = room.roster.leader)) = _
          rw [decide_eq_false (room.roster.ne_leader hn)]
        rw [hnew.meeting, hself, roomParticipants, ← hnew.list h.table]
        rfl

theorem repo_leave (h : RepoRel users clock st s) {d : Draws} (hclock : clock ≤ d.now)
    {number : String} {n : UInt64} (hnumber : number ≠ "")
    (hmember : ∀ room, st.rooms number = some room → n ∈ room.roster.members) :
    Refines users (RepoRel users d.now) (Spec.leave st number n)
      (repoReply s d (.leave number n)) := by
  cases hroom : st.rooms number with
  | none =>
    simp only [Spec.leave, hroom, repoReply, RepoMeetingStore.leaveMeeting,
      h.db.find_none hnumber hroom, MemoryStore.leaveMeeting, (h.fallback number).1]
    exact ⟨h.mono hclock, rfl⟩
  | some room =>
    obtain ⟨row, hrow, rfl, hfind, hdb⟩ := h.db.find_some hnumber hroom
    have hid := (h.db.meetingID row hrow).1
    obtain ⟨p, hp, hpn⟩ := hdb.exists_row (hmember room hroom)
    have hn0 : n ≠ 0 := hpn ▸ h.db.userID p (mem_activeRows.mp hp).1
    have hmark := markParticipantLeft_eq d.now hid hn0 hp hpn
    have horder := (h.db.toTablesOk.markedLeft row.id n d.now).inOrder
    have hlist := listActiveParticipants_eq horder hid
    have hseats := hdb.seats_markedLeft n d.now
    simp only [Spec.leave, hroom, repoReply, RepoMeetingStore.leaveMeeting, hfind,
      userIDToUint64_fromUint64, hmark, RepoMeetingStore.leaveMarked, hlist]
    rcases room.roster.remove_cases n with ⟨hempty, hremove⟩ |
      ⟨b, rest, roster, hrest, hremove, hmembers, hleader⟩
    · have hnil : activeRows (markedLeft s.db row.id n d.now) row.id = [] := by
        rw [rosterSeats_filter, hempty] at hseats
        exact List.map_eq_nil_iff.mp hseats
      simp only [hremove, hnil, List.length_nil, if_true, deleteMeeting_eq hid]
      exact ⟨h.withDb (h.db.closed hrow hclock), rfl⟩
    rw [rosterSeats_erase hrest hmembers] at hseats
    have hlen : (activeRows (markedLeft s.db row.id n d.now) row.id).length =
        roster.members.length := by
      have hlen := congrArg List.length hseats
      rwa [List.length_map, List.length_map] at hlen
    have hpos : roster.members.length ≠ 0 := by
      rw [hmembers]
      simp
    simp only [hremove, hlen, if_neg hpos, hdb.hostUserID, ne_eq]
    by_cases hlead : room.roster.leader = n
    · rw [if_pos hlead] at hleader
      rw [if_neg (not_not_intro hlead)]
      obtain ⟨q, rows, hrows, hseat, -⟩ := List.map_eq_cons_iff.mp (hmembers ▸ hseats)
      have hq : q.userID = b := congrArg Prod.fst hseat
      simp only [transferHost_eq horder hid hrow rfl hrows, hq]
      constructor
      · exact h.withDb (h.db.handedOver hrow hdb hclock hlead hrest hmembers hleader)
      · show Reply.left _ = Reply.left _
        have hhost : roomParticipant users { room with roster } b =
            participantFromProfile (userIDFromUint64 b) (users b) true := by
          simp [roomParticipant, hleader]
        have hself : RepoMeetingStore.participantFromModel
            { s with db := markedLeft s.db row.id n d.now } { q with userID := b, role := 1 } =
            participantFromProfile (userIDFromUint64 b) (users b) true := by
          rw [← h.table]
          rfl
        rw [hself, decide_eq_true hlead]
        simp only [leftResult, if_true, hleader, hhost]
    · rw [if_neg hlead] at hleader
      rw [if_pos hlead]
      have hseats' : (activeRows (markedLeft s.db row.id n d.now) row.id).map seat =
          rosterSeats roster := by
        rw [hseats, rosterSeats, hleader]
      refine ⟨h.withDb (h.db.left hrow hdb hclock hseats' hleader), ?_⟩
      show Reply.left _ = Reply.left _
      rw [decide_eq_false hlead]
      rfl

theorem repo_isHost (h : RepoRel users clock st s) {d : Draws} (hclock : clock ≤ d.now)
    {number : String} (n : UInt64) (hnumber : number ≠ "") :
    Refines users (RepoRel users d.now) (Spec.step (known users) st (.isHost number n))
      (repoReply s d (.isHost number n)) := by
  cases hroom : st.rooms number with
  | none =>
    simp only [Spec.step, Spec.query, hroom, repoReply, RepoMeetingStore.isMeetingHost,
      h.db.find_none hnumber hroom, MemoryStore.isMeetingHost, (h.fallback number).1]
    exact ⟨h.mono hclock, rfl⟩
  | some room =>
    obtain ⟨row, hrow, rfl, hfind, hdb⟩ := h.db.find_some hnumber hroom
    simp only [Spec.step, Spec.query, hroom, repoReply, RepoMeetingStore.isMeetingHost, hfind,
      userIDToUint64_fromUint64, hdb.hostUserID]
    exact ⟨h.mono hclock, rfl⟩

theorem repo_hasParticipant (h : RepoRel users clock st s) {d : Draws} (hclock : clock ≤ d.now)
    {number : String} (n : UInt64) (hnumber : number ≠ "") :
    Refines users (RepoRel users d.now) (Spec.step (known users) st (.hasParticipant number n))
      (repoReply s d (.hasParticipant number n)) := by
  cases hroom : st.rooms number with
  | none =>
    simp only [Spec.step, Spec.query, hroom, repoReply, RepoMeetingStore.hasParticipant,
      h.db.find_none hnumber hroom, MemoryStore.hasParticipant, (h.fallback number).2]
    exact ⟨h.mono hclock, rfl⟩
  | some room =>
    obtain ⟨row, hrow, rfl, hfind, hdb⟩ := h.db.find_some hnumber hroom
    have hlist := listActiveParticipants_eq h.db.inOrder (h.db.meetingID row hrow).1
    simp only [Spec.step, Spec.query, hroom, repoReply, RepoMeetingStore.hasParticipant, hfind, hlist]
    refine ⟨h.mono hclock, ?_⟩
    show Reply.bool _ = Reply.bool _
    by_cases hn : n ∈ room.roster.members
    · rw [hdb.find_mem hn (h.table n), decide_eq_true hn]
      rfl
    · rw [hdb.find_notMem hn, decide_eq_false hn]
      rfl

theorem repo_snapshot (h : RepoRel users clock st s) {d : Draws} (hclock : clock ≤ d.now)
    {number : String} (hnumber : number ≠ "") :
    Refines users (RepoRel users d.now) (Spec.step (known users) st (.snapshot number))
      (repoReply s d (.snapshot number)) := by
  cases hroom : st.rooms number with
  | none =>
    simp only [Spec.step, Spec.query, hroom, repoReply, RepoMeetingStore.snapshotMeeting,
      h.db.find_none hnumber hroom, MemoryStore.snapshotMeeting, (h.fallback number).1]
    exact ⟨h.mono hclock, rfl⟩
  | some room =>
    obtain ⟨row, hrow, rfl, hfind, hdb⟩ := h.db.find_some hnumber hroom
    have hlist := listActiveParticipants_eq h.db.inOrder (h.db.meetingID row hrow).1
    simp only [Spec.step, Spec.query, hroom, repoReply, RepoMeetingStore.snapshotMeeting, hfind,
      RepoMeetingStore.loadParticipants, hlist, hdb.list h.table]
    refine ⟨h.mono hclock, ?_⟩
    show Reply.snapshot (undated (meetingFromModel row)) _ = Reply.snapshot _ _
    rw [hdb.meeting]
    rfl

end MeetingSystem.Proof.Store
