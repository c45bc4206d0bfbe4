import MeetingSystem.Impl.Store.MeetingRepo

/-!
# The statements of the repositories

`activeRows` are the rows a meeting's participants have in the table. For each
statement that changes the tables there is the result of its success
(`insertedParticipant`, `markedLeft`, `handedOver`, `deletedMeeting`) and what
it does to the active rows of every meeting.
-/

namespace MeetingSystem.Proof.Store

open MeetingSystem.Framework MeetingSystem.Impl.Store

/-- The rows of the participants who are in a meeting, in the order of their
insertion. -/
def activeRows (db : Db) (meetingID : UInt64) : List ParticipantRow :=
  db.participants.filter (·.isActive meetingID)

theorem mem_activeRows {db : Db} {i : UInt64} {row : ParticipantRow} :
    row ∈ activeRows db i ↔ row ∈ db.participants ∧ row.meetingID = i ∧ row.leftAt = none := by
  simp [activeRows, ParticipantRow.isActive]

theorem isActiveOf_iff {i u : UInt64} {row : ParticipantRow} :
    Db.isActiveOf i u row = true ↔ row.isActive i = true ∧ row.userID = u := by
  simp [Db.isActiveOf]

/-! ## The results -/

def insertedParticipant (db : Db) (participant : ParticipantRow) (id : UInt64) : Db :=
  { db with
    participants := db.participants ++ [{ participant with id, leftAt := none }]
    lastParticipantID := id }

def markedLeft (db : Db) (meetingID userID : UInt64) (now : Int) : Db :=
  { db with participants := db.participants.map fun row =>
      if Db.isActiveOf meetingID userID row then { row with leftAt := some now } else row }

def handedOver (db : Db) (meetingID userID : UInt64) : Db :=
  { db with
    meetings := db.meetings.map fun row =>
      if row.id = meetingID then { row with hostUserID := userID } else row
    participants := db.participants.map fun row =>
      if Db.isActiveOf meetingID userID row then { row with role := 1 } else row }

def deletedMeeting (db : Db) (meetingID : UInt64) : Db :=
  { db with
    meetings := db.meetings.filter fun row => row.id ≠ meetingID
    participants := db.participants.filter fun row => row.meetingID ≠ meetingID }

theorem addParticipant_eq {db : Db} {participant : ParticipantRow} (id : UInt64)
    (hm : participant.meetingID ≠ 0) (hu : participant.userID ≠ 0) :
    db.addParticipant participant id = .ok (insertedParticipant db participant id) := by
  rw [Db.addParticipant, if_neg (by simp [hm, hu])]
  rfl

theorem markParticipantLeft_eq {db : Db} {i u : UInt64} (now : Int) (hi : i ≠ 0) (hu : u ≠ 0)
    {row : ParticipantRow} (hrow : row ∈ activeRows db i) (hrowu : row.userID = u) :
    db.markParticipantLeft i u now = .ok (markedLeft db i u now) := by
  have hany : db.participants.any (Db.isActiveOf i u) = true := by
    obtain ⟨hmem, hact⟩ := List.mem_filter.mp hrow
    exact List.any_eq_true.mpr ⟨row, hmem, isActiveOf_iff.mpr ⟨hact, hrowu⟩⟩
  rw [Db.markParticipantLeft, if_neg (by simp [hi, hu]), if_pos hany]
  rfl

theorem deleteMeeting_eq {db : Db} {i : UInt64} (hi : i ≠ 0) :
    db.deleteMeeting i = .ok (deletedMeeting db i) := by
  rw [Db.deleteMeeting, if_neg hi]
  rfl

/-! ## Their effect on the active rows -/

theorem activeRows_insertedParticipant (db : Db) (participant : ParticipantRow) (id j : UInt64) :
    activeRows (insertedParticipant db participant id) j =
      activeRows db j ++
        if participant.meetingID = j then [{ participant with id, leftAt := none }] else [] := by
  rw [activeRows, insertedParticipant, List.filter_append]
  congr 1
  split
  · rename_i h
    simp [ParticipantRow.isActive, h]
  · rename_i h
    simp [ParticipantRow.isActive, h]

/-- An update that rows outside `p` do not notice and that keeps which rows of
`q` are active. -/
theorem filter_map_ite {p q : ParticipantRow → Bool} {f : ParticipantRow → ParticipantRow}
    (hf : ∀ row, p row = true → q (f row) = false) (rows : List ParticipantRow) :
    (rows.map fun row => if p row then f row else row).filter q =
      rows.filter fun row => q row && !p row := by
  induction rows with
  | nil => rfl
  | cons row rows ih =>
    rw [List.map_cons, List.filter_cons, List.filter_cons, ih]
    by_cases hp : p row = true
    · simp [hp, hf row hp]
    · simp [hp]

theorem activeRows_markedLeft (db : Db) (i u : UInt64) (now : Int) :
    activeRows (markedLeft db i u now) i = (activeRows db i).filter fun row => row.userID ≠ u := by
  rw [activeRows, markedLeft, filter_map_ite, activeRows, List.filter_filter]
  · apply List.filter_congr
    intro row _
    by_cases ha : row.isActive i = true <;> by_cases hu : row.userID = u <;>
      simp [Db.isActiveOf, ha, hu]
  · intro row _
    simp [ParticipantRow.isActive]

theorem activeRows_markedLeft_ne (db : Db) {i j : UInt64} (u : UInt64) (now : Int) (h : j ≠ i) :
    activeRows (markedLeft db i u now) j = activeRows db j := by
  rw [activeRows, markedLeft, filter_map_ite, activeRows]
  · apply List.filter_congr
    intro row _
    by_cases hj : row.meetingID = j
    · simp [Db.isActiveOf, ParticipantRow.isActive, hj, h]
    · simp [ParticipantRow.isActive, hj]
  · intro row _
    simp [ParticipantRow.isActive]

theorem activeRows_handedOver (db : Db) (i u j : UInt64) :
    activeRows (handedOver db i u) j = (activeRows db j).map fun row =>
      if Db.isActiveOf i u row then { row with role := 1 } else row := by
  rw [activeRows, handedOver, List.filter_map, activeRows]
  congr 1
  apply List.filter_congr
  intro row _
  dsimp only [Function.comp]
  split <;> rfl

theorem activeRows_handedOver_ne (db : Db) {i j : UInt64} (u : UInt64) (h : j ≠ i) :
    activeRows (handedOver db i u) j = activeRows db j := by
  rw [activeRows_handedOver]
  conv_rhs => rw [← List.map_id (activeRows db j)]
  apply List.map_congr_left
  intro row hrow
  have hne : row.meetingID ≠ i := fun e => h ((mem_activeRows.mp hrow).2.1.symm.trans e)
  simp [Db.isActiveOf, ParticipantRow.isActive, hne]

theorem activeRows_deletedMeeting (db : Db) {i j : UInt64} (h : j ≠ i) :
    activeRows (deletedMeeting db i) j = activeRows db j := by
  rw [activeRows, deletedMeeting, List.filter_filter, activeRows]
  apply List.filter_congr
  intro row _
  by_cases hj : row.meetingID = j
  · simp [ParticipantRow.isActive, hj, h]
  · simp [ParticipantRow.isActive, hj]

/-! ## Hand-over to any participant -/

theorem mem_selectActive {db : Db} {i : UInt64} {row : ParticipantRow} :
    row ∈ db.selectActive i ↔ row ∈ activeRows db i :=
  List.mem_insertionSort _

/-- `TransferHost` makes somebody who is in the meeting its host, unless there
is no meeting or nobody in it. -/
theorem transferHost_cases (db : Db) (i : UInt64) :
    (∃ err, db.transferHost i = .error err ∧
      (i = 0 ∨ (∀ meeting ∈ db.meetings, meeting.id ≠ i) ∨ activeRows db i = [])) ∨
    ∃ row ∈ activeRows db i,
      db.transferHost i = .ok (handedOver db i row.userID, { row with role := 1 }) := by
  unfold Db.transferHost
  by_cases hi : i = 0
  · rw [if_pos hi]
    exact .inl ⟨_, rfl, .inl hi⟩
  rw [if_neg hi]
  cases hfind : db.meetings.find? fun row => row.id = i with
  | none =>
    refine .inl ⟨_, rfl, .inr (.inl fun meeting hm => ?_)⟩
    simpa using List.find?_eq_none.mp hfind meeting hm
  | some found =>
    dsimp only
    cases hpick : pickNextHostCandidate (db.selectActive i) with
    | none =>
      refine .inl ⟨_, rfl, .inr (.inr ?_)⟩
      by_contra hne
      have hsel : db.selectActive i ≠ [] := by
        obtain ⟨row, hrow⟩ := List.exists_mem_of_ne_nil _ hne
        exact List.ne_nil_of_mem (mem_selectActive.mpr hrow)
      obtain ⟨row, hrow⟩ := least_isSome ParticipantRow.before hsel
      rw [pickNextHostCandidate, hrow] at hpick
      cases hpick
    | some row => exact .inr ⟨row, mem_selectActive.mp (least_mem hpick), rfl⟩

/-! ## The order of the rows -/

/-- Rows were inserted with increasing ids by a clock that does not go back. -/
def InOrder (rows : List ParticipantRow) : Prop :=
  rows.Pairwise fun a b => a.id < b.id ∧ a.joinedAt ≤ b.joinedAt

theorem InOrder.selectActive {db : Db} (h : InOrder db.participants) (i : UInt64) :
    db.selectActive i = activeRows db i := by
  apply List.Pairwise.insertionSort_eq
  refine (h.sublist List.filter_sublist).imp fun {a b} hab => ?_
  rcases Int.lt_or_eq_of_le hab.2 with hlt | heq
  · simp [ParticipantRow.notAfter, hlt]
  · simp [ParticipantRow.notAfter, heq, UInt64.le_of_lt hab.1]

theorem InOrder.pickNextHostCandidate {row : ParticipantRow} {rows : List ParticipantRow}
    (h : InOrder (row :: rows)) : pickNextHostCandidate (row :: rows) = some row := by
  apply least_cons_of_forall
  intro x hx
  obtain ⟨hid, hjoined⟩ := (List.pairwise_cons.mp h).1 x hx
  have hlt : ¬ x.id < row.id := fun e => UInt64.lt_irrefl _ (UInt64.lt_trans hid e)
  simp only [ParticipantRow.before, Bool.or_eq_false_iff, decide_eq_false_iff_not,
    Bool.and_eq_false_iff, not_lt]
  exact ⟨hjoined, .inr hlt⟩

theorem listActiveParticipants_eq {db : Db} (h : InOrder db.participants) {i : UInt64}
    (hi : i ≠ 0) : db.listActiveParticipants i = .ok (activeRows db i) := by
  rw [Db.listActiveParticipants, if_neg hi, h.selectActive]

/-- The participant who joined first becomes the host. -/
theorem transferHost_eq {db : Db} (h : InOrder db.participants) {i : UInt64} (hi : i ≠ 0)
    {meeting : MeetingRow} (hmeeting : meeting ∈ db.meetings) (hid : meeting.id = i)
    {row : ParticipantRow} {rows : List ParticipantRow} (hrows : activeRows db i = row :: rows) :
    db.transferHost i = .ok (handedOver db i row.userID, { row with role := 1 }) := by
  have hpick : Impl.Store.pickNextHostCandidate (db.selectActive i) = some row := by
    have hsub : InOrder (row :: rows) := by
      rw [← hrows]
      exact h.sublist List.filter_sublist
    rw [h.selectActive, hrows, hsub.pickNextHostCandidate]
  obtain ⟨found, hfind⟩ : ∃ found, db.meetings.find? (fun row => row.id = i) = some found := by
    rw [← Option.isSome_iff_exists, List.find?_isSome]
    exact ⟨meeting, hmeeting, by simpa using hid⟩
  rw [Db.transferHost, if_neg hi]
  simp only [hfind, hpick]
  rfl

end MeetingSystem.Proof.Store
