import MeetingSystem.Proof.Store.Creation

/-!
# Who is in a meeting

What `CreateMeeting`, `JoinMeeting` and `LeaveMeeting` do to the set of
participants, for callers that only ask who is in which meeting.

* `IsMember`: the user is a participant of the meeting;
* `StoreOk`: the representation invariant, with what the handlers take for
  granted about ids;
* `createMeetingAt_spec`, `createMeeting_spec`, `joinMeeting_spec`,
  `leaveMeeting_spec`: the operations in these terms.
-/

namespace MeetingSystem.Proof.Store

open MeetingSystem.Framework MeetingSystem.Impl.Store

/-- The user is a participant of the meeting. -/
def IsMember (s : MemoryStore) (m u : String) : Prop := u ∈ s.membersOf m

instance (s : MemoryStore) (m u : String) : Decidable (IsMember s m u) :=
  inferInstanceAs (Decidable (_ ∈ _))

/-- The representation invariant, and: a meeting carries the id it is stored
under, which is not empty, and no user has the empty id. -/
structure StoreOk (s : MemoryStore) : Prop where
  rep : RepOk s
  id : ∀ m mt, s.meetings m = some mt → mt.id = m
  meeting_ne : s.meetings "" = none
  user_ne : s.userByID "" = none

theorem newMemoryStore_storeOk (hash : String → String) : StoreOk (newMemoryStore hash) where
  rep := newMemoryStore_repOk hash
  id _ _ h := by cases h
  meeting_ne := rfl
  user_ne := by simp [newMemoryStore, seedDefaultUsers, defaultUsers, seedUser]

/-- A member's meeting is live. -/
theorem StoreOk.live {s : MemoryStore} (h : StoreOk s) {m u : String} (hu : IsMember s m u) :
    ∃ mt, s.meetings m = some mt := by
  cases hps : s.participants m with
  | none => simp [IsMember, MemoryStore.membersOf, hps] at hu
  | some ps =>
    obtain ⟨mt, _, hmt, _⟩ := h.rep.live_of_participants hps
    exact ⟨mt, hmt⟩

theorem StoreOk.ne_empty {s : MemoryStore} (h : StoreOk s) {m u : String} (hu : IsMember s m u) :
    m ≠ "" := by
  rintro rfl
  obtain ⟨mt, hmt⟩ := h.live hu
  rw [h.meeting_ne] at hmt
  cases hmt

/-! ## Creating -/

theorem newMembers_mem (u v : String) (p : Participant) :
    v ∈ (AList.insert u p ∅ : Members) ↔ v = u := by
  rw [AList.mem_insert]
  simp

/-- What `createMeetingAt` does under an id that is not in use. -/
theorem createMeetingAt_spec {s : MemoryStore} (h : StoreOk s) {m : String} (hm : m ≠ "")
    (hfresh : s.meetings m = none) (title password u : String) {maxParticipants : Int}
    (now : Int) (hmax : 0 < maxParticipants) :
    StoreOk (s.createMeetingAt m title password u maxParticipants now).1 ∧
      match (s.createMeetingAt m title password u maxParticipants now).2 with
      | .ok (meeting, _) => meeting.id = m ∧ u ≠ "" ∧ ∀ m' u',
          IsMember (s.createMeetingAt m title password u maxParticipants now).1 m' u' ↔
            IsMember s m' u' ∨ (m' = m ∧ u' = u)
      | .error _ => (s.createMeetingAt m title password u maxParticipants now).1 = s := by
  have hrep := createMeetingAt_repOk h.rep m title password u now hmax
  revert hrep
  unfold MemoryStore.createMeetingAt
  cases hu : s.userByID u with
  | none => exact fun _ => ⟨h, rfl⟩
  | some host =>
    refine fun hrep => ⟨⟨hrep, fun m' mt hmt => ?_, ?_, h.user_ne⟩, rfl, ?_, fun m' u' => ?_⟩
    · by_cases hm' : m' = m
      · subst hm'
        simp only [Function.update_self, Option.some.injEq] at hmt
        rw [← hmt]
      · simp only [Function.update_of_ne hm'] at hmt
        exact h.id m' mt hmt
    · simp only [Function.update_of_ne hm.symm]
      exact h.meeting_ne
    · rintro rfl
      rw [h.user_ne] at hu
      cases hu
    · by_cases hm' : m' = m
      · subst hm'
        have hnone : ¬ IsMember s m' u' := fun hu' => by
          obtain ⟨mt, hmt⟩ := h.live hu'
          rw [hfresh] at hmt
          cases hmt
        simp only [hnone, false_or, true_and]
        simp only [IsMember, MemoryStore.membersOf, Function.update_self, Option.getD_some]
        exact newMembers_mem u u' _
      · simp [IsMember, MemoryStore.membersOf, hm']

/-- What `createMeeting` does: under a number that is in use, the new meeting
takes the place of the old one. -/
theorem createMeeting_spec {s : MemoryStore} (h : StoreOk s) (title password u : String)
    (maxParticipants : Int) (r : Fin 9000) (now : Int) :
    StoreOk (s.createMeeting title password u maxParticipants r now).1 ∧
      match (s.createMeeting title password u maxParticipants r now).2 with
      | .ok (meeting, _) =>
          meeting.id = (s.generateMeetingIDLocked r).2 ∧ s.userByID u ≠ none ∧
          ∀ m' u', IsMember (s.createMeeting title password u maxParticipants r now).1 m' u' ↔
            (m' = meeting.id ∧ u' = u) ∨ (m' ≠ meeting.id ∧ IsMember s m' u')
      | .error _ => ∀ m' u',
          IsMember (s.createMeeting title password u maxParticipants r now).1 m' u' ↔
            IsMember s m' u' := by
  have hrep := createMeeting_repOk h.rep title password u maxParticipants r now
  have hne : (s.generateMeetingIDLocked r).2 ≠ "" := by
    rw [generateMeetingIDLocked_eq]
    intro he
    have hlist := congrArg String.toList he
    rw [Nat.toString_eq_ofList_toDigits, String.toList_ofList] at hlist
    exact Nat.toDigits_ne_nil hlist
  revert hrep
  unfold MemoryStore.createMeeting MemoryStore.createMeetingAt
  dsimp only
  have hbyID : (s.generateMeetingIDLocked r).1.userByID = s.userByID := rfl
  have hmeetings : (s.generateMeetingIDLocked r).1.meetings = s.meetings := rfl
  have hparticipants : (s.generateMeetingIDLocked r).1.participants = s.participants := rfl
  rw [hbyID]
  cases hu : s.userByID u with
  | none => exact fun hrep => ⟨⟨hrep, h.id, h.meeting_ne, h.user_ne⟩, fun _ _ => Iff.rfl⟩
  | some host =>
    refine fun hrep => ⟨⟨hrep, fun m' mt hmt => ?_, ?_, h.user_ne⟩, rfl,
      Option.some_ne_none host, fun m' u' => ?_⟩
    · by_cases hm' : m' = (s.generateMeetingIDLocked r).2
      · subst hm'
        simp only [Function.update_self, Option.some.injEq] at hmt
        rw [← hmt]
      · simp only [Function.update_of_ne hm', hmeetings] at hmt
        exact h.id m' mt hmt
    · simp only [Function.update_of_ne hne.symm, hmeetings]
      exact h.meeting_ne
    · by_cases hm' : m' = (s.generateMeetingIDLocked r).2
      · subst hm'
        simp only [IsMember, MemoryStore.membersOf, Function.update_self, Option.getD_some,
          true_and, not_true_eq_false, ne_eq, false_and, or_false]
        exact newMembers_mem u u' _
      · simp [IsMember, MemoryStore.membersOf, hm', hparticipants]

/-! ## Joining -/

/-- What `joinMeeting` does. -/
theorem joinMeeting_spec {s : MemoryStore} (h : StoreOk s) (m password u : String) :
    StoreOk (s.joinMeeting m password u).1 ∧
      match (s.joinMeeting m password u).2 with
      | .ok (meeting, _, _) => meeting.id = m ∧ m ≠ "" ∧ ∀ m' u',
          IsMember (s.joinMeeting m password u).1 m' u' ↔ IsMember s m' u' ∨ (m' = m ∧ u' = u)
      | .error _ => (s.joinMeeting m password u).1 = s := by
  have hrep := joinMeeting_repOk h.rep m password u
  revert hrep
  unfold MemoryStore.joinMeeting
  cases hm : s.meetings m with
  | none => exact fun _ => ⟨h, rfl⟩
  | some mt =>
    have hne : m ≠ "" := by
      rintro rfl
      rw [h.meeting_ne] at hm
      cases hm
    dsimp only
    split
    · exact fun _ => ⟨h, rfl⟩
    split
    · exact fun _ => ⟨h, rfl⟩
    split
    · rename_i p hp
      refine fun _ => ⟨h, h.id m mt hm, hne, fun m' u' => ?_⟩
      refine ⟨.inl, fun hor => hor.elim id ?_⟩
      rintro ⟨rfl, rfl⟩
      exact mem_of_lookup hp
    split
    · exact fun _ => ⟨h, rfl⟩
    · refine fun hrep => ⟨⟨hrep, h.id, h.meeting_ne, h.user_ne⟩, h.id m mt hm, hne, fun m' u' => ?_⟩
      by_cases hm' : m' = m
      · subst hm'
        simp only [IsMember, MemoryStore.membersOf, Function.update_self, Option.getD_some,
          AList.mem_insert, true_and]
        exact or_comm
      · simp [IsMember, MemoryStore.membersOf, hm']

/-- A meeting is live if it has a member. -/
theorem StoreOk.live_iff {s : MemoryStore} (h : StoreOk s) (m : String) :
    s.meetings m ≠ none ↔ ∃ u, IsMember s m u := by
  constructor
  · intro hm
    obtain ⟨mt, hmt⟩ := Option.ne_none_iff_exists'.mp hm
    obtain ⟨ps, jo, hps, -, -, -, hok⟩ := h.rep.live hmt
    obtain ⟨u, hu⟩ := List.exists_mem_of_ne_nil _ hok.nonempty
    refine ⟨u, ?_⟩
    rw [IsMember, MemoryStore.membersOf, hps]
    exact hu
  · intro hu
    obtain ⟨u, hu⟩ := hu
    obtain ⟨mt, hmt⟩ := h.live hu
    rw [hmt]
    exact Option.some_ne_none mt

/-- Who can join: a member again, or a user of the store, in a live meeting. -/
theorem joinMeeting_ok {s : MemoryStore} {m password u : String}
    {r : Meeting × List Participant × Participant} (h : (s.joinMeeting m password u).2 = .ok r) :
    s.meetings m ≠ none ∧ (IsMember s m u ∨ s.userByID u ≠ none) := by
  unfold MemoryStore.joinMeeting at h
  cases hmt : s.meetings m with
  | none => simp [hmt] at h
  | some mt =>
    refine ⟨Option.some_ne_none mt, ?_⟩
    cases hp : (s.membersOf m).lookup u with
    | some p => exact .inl (mem_of_lookup hp)
    | none =>
      cases hu : s.userByID u with
      | some user => exact .inr (Option.some_ne_none user)
      | none =>
        simp only [hmt, hp, hu] at h
        split at h
        · cases h
        · split at h
          · cases h
          · cases h

/-! ## Leaving -/

/-- What `leaveMeeting` does; it fails only where the meeting is not live, and
then the user was not in it. -/
theorem leaveMeeting_spec {s : MemoryStore} (h : StoreOk s) (m u : String) :
    StoreOk (s.leaveMeeting m u).1 ∧
      (∀ m' u', IsMember (s.leaveMeeting m u).1 m' u' ↔
        IsMember s m' u' ∧ ¬ (m' = m ∧ u' = u)) ∧
      ∀ e, (s.leaveMeeting m u).2 = .error e → (s.leaveMeeting m u).1 = s := by
  have hrep := leaveMeeting_repOk h.rep m u
  revert hrep
  unfold MemoryStore.leaveMeeting
  cases hm : s.meetings m with
  | none =>
    refine fun _ => ⟨h, fun m' u' => ⟨fun hu => ⟨hu, ?_⟩, And.left⟩, fun _ _ => rfl⟩
    rintro ⟨rfl, rfl⟩
    obtain ⟨mt, hmt⟩ := h.live hu
    rw [hm] at hmt
    cases hmt
  | some mt =>
    have hne : m ≠ "" := by
      rintro rfl
      rw [h.meeting_ne] at hm
      cases hm
    have hmem : ∀ (ps : Members), (∀ v, v ∈ ps ↔ v ∈ (s.membersOf m).erase u) → ∀ m' u',
        u' ∈ (Function.update s.participants m (some ps) m').getD ∅ ↔
          IsMember s m' u' ∧ ¬ (m' = m ∧ u' = u) := by
      intro ps hps m' u'
      by_cases hm' : m' = m
      · subst hm'
        simp only [Function.update_self, Option.getD_some, hps, AList.mem_erase, true_and, IsMember]
        exact and_comm
      · simp [IsMember, MemoryStore.membersOf, hm']
    dsimp only
    split
    · rename_i hlen
      refine fun hrep => ⟨⟨hrep, fun m' mt' hmt' => ?_, ?_, h.user_ne⟩, fun m' u' => ?_,
        fun e he => by cases he⟩
      · by_cases hm' : m' = m
        · simp [hm'] at hmt'
        · simp only [Function.update_of_ne hm'] at hmt'
          exact h.id m' mt' hmt'
      · simp only [Function.update_of_ne hne.symm]
        exact h.meeting_ne
      · rw [← hmem ∅ (fun v => ?_) m' u']
        · by_cases hm' : m' = m <;> simp [IsMember, MemoryStore.membersOf, hm']
        · simp only [AList.notMem_empty, false_iff]
          intro hv
          exact List.ne_nil_of_mem hv (List.length_eq_zero_iff.mp hlen)
    split
    · rename_i hlen hhost
      obtain ⟨w, p, hpick⟩ := pickNextHost_isSome ((s.joinOrderOf m).erase u) hlen
      simp only [hpick]
      refine fun hrep => ⟨⟨hrep, fun m' mt' hmt' => ?_, ?_, h.user_ne⟩, ?_,
        fun e he => by cases he⟩
      · by_cases hm' : m' = m
        · subst hm'
          simp only [Function.update_self, Option.some.injEq] at hmt'
          rw [← hmt']
          exact h.id m' mt hm
        · simp only [Function.update_of_ne hm'] at hmt'
          exact h.id m' mt' hmt'
      · simp only [Function.update_of_ne hne.symm]
        exact h.meeting_ne
      · exact hmem _ fun v => AList.mem_replace
    · exact fun hrep => ⟨⟨hrep, h.id, h.meeting_ne, h.user_ne⟩, hmem _ fun v => Iff.rfl,
        fun e he => by cases he⟩

end MeetingSystem.Proof.Store
