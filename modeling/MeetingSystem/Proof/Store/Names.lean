import MeetingSystem.Proof.Store.Membership

/-!
# What the store says of its participants

* `NamesOk`: a participant carries the id that they are stored under, which is the id of a
  user, kept by every operation;
* `Elsewhere`: an operation on one meeting leaves the users and the other meetings alone;
* `leaveMeeting_gone`: a meeting that nobody remains in is gone.
-/

namespace MeetingSystem.Proof.Store

open MeetingSystem.Framework MeetingSystem.Impl.Store

structure NamesOk (s : MemoryStore) : Prop where
  users : ∀ u user, s.userByID u = some user → user.id = u
  member : ∀ m u p, (s.membersOf m).lookup u = some p → p.userId = u
  known : ∀ m u, IsMember s m u → s.userByID u ≠ none

/-- The stores differ in what they say of the meeting `m` only. -/
structure Elsewhere (s s' : MemoryStore) (m : String) : Prop where
  users : s'.userByID = s.userByID
  meetings : ∀ m' ≠ m, s'.meetings m' = s.meetings m'
  participants : ∀ m' ≠ m, s'.participants m' = s.participants m'

theorem newMemoryStore_namesOk (hash : String → String) : NamesOk (newMemoryStore hash) where
  users u user h := by
    simp only [newMemoryStore, seedDefaultUsers, defaultUsers, List.foldl_cons, List.foldl_nil,
      seedUser, Function.update_apply] at h
    split at h
    · cases h
      simp_all
    · split at h
      · cases h
        simp_all
      · split at h
        · cases h
          simp_all
        · cases h
  member m u p h := by cases h
  known m u h := absurd h (AList.notMem_empty u)

section

variable {s s' : MemoryStore} {m : String}

theorem Elsewhere.refl (s : MemoryStore) (m : String) : Elsewhere s s m where
  users := rfl
  meetings _ _ := rfl
  participants _ _ := rfl

theorem Elsewhere.membersOf (h : Elsewhere s s' m) {m' : String} (hm : m' ≠ m) :
    s'.membersOf m' = s.membersOf m' := by
  rw [MemoryStore.membersOf, MemoryStore.membersOf, h.participants m' hm]

/-- It is enough to look at the meeting that has changed. -/
theorem NamesOk.of_elsewhere (h : NamesOk s) (he : Elsewhere s s' m)
    (hm : ∀ u p, (s'.membersOf m).lookup u = some p → p.userId = u ∧ s.userByID u ≠ none) :
    NamesOk s' where
  users := he.users ▸ h.users
  member m' u p hp := by
    by_cases hm' : m' = m
    · subst hm'
      exact (hm u p hp).1
    · rw [he.membersOf hm'] at hp
      exact h.member m' u p hp
  known m' u hu := by
    rw [he.users]
    by_cases hm' : m' = m
    · subst hm'
      obtain ⟨p, hp⟩ := lookup_of_mem hu
      exact (hm u p hp).2
    · rw [IsMember, he.membersOf hm'] at hu
      exact h.known m' u hu

theorem NamesOk.lookup (h : NamesOk s) {u : String} {p : Participant}
    (hp : (s.membersOf m).lookup u = some p) : p.userId = u ∧ s.userByID u ≠ none :=
  ⟨h.member m u p hp, h.known m u (mem_of_lookup hp)⟩

/-! ## The operations -/

theorem createMeeting_elsewhere (s : MemoryStore) (title password u : String)
    (maxParticipants : Int) (r : Fin 9000) (now : Int) :
    Elsewhere s (s.createMeeting title password u maxParticipants r now).1
      (s.generateMeetingIDLocked r).2 := by
  unfold MemoryStore.createMeeting MemoryStore.createMeetingAt
  dsimp only
  split
  · exact ⟨rfl, fun _ _ => rfl, fun _ _ => rfl⟩
  · refine ⟨rfl, fun m' hm => ?_, fun m' hm => ?_⟩
    · exact Function.update_of_ne hm _ _
    · exact Function.update_of_ne hm _ _

theorem createMeeting_namesOk (h : NamesOk s) (title password u : String)
    (maxParticipants : Int) (r : Fin 9000) (now : Int) :
    NamesOk (s.createMeeting title password u maxParticipants r now).1 := by
  refine h.of_elsewhere (createMeeting_elsewhere s title password u maxParticipants r now) ?_
  intro v p hp
  unfold MemoryStore.createMeeting MemoryStore.createMeetingAt at hp
  dsimp only at hp
  have hbyID : (s.generateMeetingIDLocked r).1.userByID = s.userByID := rfl
  rw [hbyID] at hp
  cases hu : s.userByID u with
  | none =>
    rw [hu] at hp
    exact h.lookup hp
  | some host =>
    simp only [hu, MemoryStore.membersOf, Function.update_self, Option.getD_some] at hp
    by_cases hv : v = u
    · subst hv
      rw [AList.lookup_insert, Option.some.injEq] at hp
      refine ⟨?_, by simp [hu]⟩
      rw [← hp]
      exact h.users v host hu
    · rw [AList.lookup_insert_ne hv, AList.lookup_empty] at hp
      cases hp

/-- A meeting that cannot be created changes none. -/
theorem createMeeting_error {e : StoreError} {title password u : String} {maxParticipants : Int}
    {r : Fin 9000} {now : Int}
    (h : (s.createMeeting title password u maxParticipants r now).2 = .error e) (m : String) :
    Elsewhere s (s.createMeeting title password u maxParticipants r now).1 m := by
  unfold MemoryStore.createMeeting MemoryStore.createMeetingAt at h ⊢
  dsimp only at h ⊢
  split
  · exact ⟨rfl, fun _ _ => rfl, fun _ _ => rfl⟩
  · rename_i host hhost
    rw [hhost] at h
    cases h

/-- A meeting that has been created has the host alone in it. -/
theorem createMeeting_created {s' : MemoryStore} {title password u : String}
    {maxParticipants : Int} {r : Fin 9000} {now : Int} {meeting : Meeting} {host : Participant}
    (h : s.createMeeting title password u maxParticipants r now = (s', .ok (meeting, host))) :
    meeting.id = (s.generateMeetingIDLocked r).2 ∧ meeting.hostUserID = u ∧
      s'.meetings meeting.id = some meeting ∧ s'.membersOf meeting.id = AList.insert u host ∅ ∧
      ∃ user, s.userByID u = some user ∧ host.userId = user.id ∧
        host.displayName = user.displayName ∧ host.role = 1 := by
  unfold MemoryStore.createMeeting MemoryStore.createMeetingAt at h
  dsimp only at h
  split at h
  · cases h
  · rename_i user huser
    cases h
    refine ⟨rfl, rfl, Function.update_self _ _ _, ?_, user, huser, rfl, rfl, rfl⟩
    simp [MemoryStore.membersOf]

theorem joinMeeting_elsewhere (s : MemoryStore) (m password u : String) :
    Elsewhere s (s.joinMeeting m password u).1 m := by
  unfold MemoryStore.joinMeeting
  split
  · exact .refl s m
  dsimp only
  split
  · exact .refl s m
  split
  · exact .refl s m
  split
  · exact .refl s m
  split
  · exact .refl s m
  · exact ⟨rfl, fun _ _ => rfl, fun _ hm => Function.update_of_ne hm _ _⟩

theorem joinMeeting_namesOk (h : NamesOk s) (m password u : String) :
    NamesOk (s.joinMeeting m password u).1 := by
  refine h.of_elsewhere (joinMeeting_elsewhere s m password u) ?_
  intro v p hp
  unfold MemoryStore.joinMeeting at hp
  split at hp
  · exact h.lookup hp
  dsimp only at hp
  split at hp
  · exact h.lookup hp
  split at hp
  · exact h.lookup hp
  split at hp
  · exact h.lookup hp
  split at hp
  · exact h.lookup hp
  · rename_i user huser
    rw [MemoryStore.membersOf] at hp
    simp only [Function.update_self, Option.getD_some] at hp
    by_cases hv : v = u
    · subst hv
      rw [AList.lookup_insert, Option.some.injEq] at hp
      exact ⟨by rw [← hp], by simp [huser]⟩
    · rw [AList.lookup_insert_ne hv] at hp
      exact h.lookup hp

/-- The participant who has joined. -/
theorem joinMeeting_joined (h : NamesOk s) {m password u : String}
    {r : Meeting × List Participant × Participant} (hr : (s.joinMeeting m password u).2 = .ok r) :
    r.2.2.userId = u := by
  unfold MemoryStore.joinMeeting at hr
  split at hr
  · cases hr
  dsimp only at hr
  split at hr
  · cases hr
  split at hr
  · cases hr
  split at hr
  · rename_i p hp
    cases hr
    exact h.member m u p hp
  split at hr
  · cases hr
  · cases hr
    rfl

theorem leaveMeeting_elsewhere (s : MemoryStore) (m u : String) :
    Elsewhere s (s.leaveMeeting m u).1 m := by
  unfold MemoryStore.leaveMeeting
  split
  · exact .refl s m
  dsimp only
  split
  · exact ⟨rfl, fun _ hm => Function.update_of_ne hm _ _,
      fun _ hm => Function.update_of_ne hm _ _⟩
  split
  · split
    · exact ⟨rfl, fun _ _ => rfl, fun _ hm => Function.update_of_ne hm _ _⟩
    · exact ⟨rfl, fun _ hm => Function.update_of_ne hm _ _,
        fun _ hm => Function.update_of_ne hm _ _⟩
  · exact ⟨rfl, fun _ _ => rfl, fun _ hm => Function.update_of_ne hm _ _⟩

theorem leaveMeeting_namesOk (h : NamesOk s) (m u : String) :
    NamesOk (s.leaveMeeting m u).1 := by
  refine h.of_elsewhere (leaveMeeting_elsewhere s m u) ?_
  have herased : ∀ v p, ((s.membersOf m).erase u).lookup v = some p →
      p.userId = v ∧ s.userByID v ≠ none := fun v p hp => h.lookup (lookup_of_erase hp).2
  intro v p hp
  unfold MemoryStore.leaveMeeting at hp
  split at hp
  · exact h.lookup hp
  dsimp only at hp
  split at hp
  · simp [MemoryStore.membersOf] at hp
  split at hp
  · split at hp
    · rw [MemoryStore.membersOf] at hp
      simp only [Function.update_self, Option.getD_some] at hp
      exact herased v p hp
    · rename_i w q hpick
      rw [MemoryStore.membersOf] at hp
      simp only [Function.update_self, Option.getD_some] at hp
      have hw := (pickNextHost_spec hpick).1
      by_cases hv : v = w
      · subst hv
        rw [lookup_replace_self _ (mem_of_lookup hw), Option.some.injEq] at hp
        rw [← hp]
        exact herased v q hw
      · rw [lookup_replace_ne _ _ hv] at hp
        exact herased v p hp
  · rw [MemoryStore.membersOf] at hp
    simp only [Function.update_self, Option.getD_some] at hp
    exact herased v p hp

theorem leaveMeeting_gone {m u : String} {r : LeaveResult}
    (hr : (s.leaveMeeting m u).2 = .ok r) (hzero : r.remaining = 0) :
    (s.leaveMeeting m u).1.meetings m = none := by
  unfold MemoryStore.leaveMeeting at hr ⊢
  split at hr
  · cases hr
  dsimp only at hr ⊢
  split at hr
  · rename_i hlen
    rw [if_pos hlen]
    exact Function.update_self _ _ _
  rename_i hlen
  split at hr
  · split at hr
    · rename_i hpick
      obtain ⟨w, p, hsome⟩ := pickNextHost_isSome ((s.joinOrderOf m).erase u) hlen
      cases hpick.symm.trans hsome
    · cases hr
      exact absurd hzero hlen
  · cases hr
    exact absurd hzero hlen

/-- The last participant takes the meeting along. -/
theorem leaveMeeting_alone {m u : String} {mt : Meeting} {p : Participant}
    (hm : s.meetings m = some mt) (hps : s.membersOf m = AList.insert u p ∅) :
    (s.leaveMeeting m u).1.meetings m = none := by
  have hlen : ((s.membersOf m).erase u).keys.length = 0 := by
    rw [hps, erase_insert_self p (AList.notMem_empty u)]
    rfl
  unfold MemoryStore.leaveMeeting
  rw [hm]
  simp only [hlen, if_true]
  exact Function.update_self _ _ _

theorem updateParticipant_elsewhere (s : MemoryStore) (m u : String)
    (f : Participant → Participant) : Elsewhere s (s.updateParticipant m u f).1 m := by
  unfold MemoryStore.updateParticipant
  split
  · exact .refl s m
  split
  · exact .refl s m
  · exact ⟨rfl, fun _ _ => rfl, fun _ hm => Function.update_of_ne hm _ _⟩

theorem updateParticipant_namesOk (h : NamesOk s) (m u : String) {f : Participant → Participant}
    (hf : ∀ p, (f p).userId = p.userId) : NamesOk (s.updateParticipant m u f).1 := by
  refine h.of_elsewhere (updateParticipant_elsewhere s m u f) ?_
  intro v p hp
  unfold MemoryStore.updateParticipant at hp
  split at hp
  · exact h.lookup hp
  rename_i ps hps
  have hmembers : s.membersOf m = ps := by simp [MemoryStore.membersOf, hps]
  split at hp
  · exact h.lookup hp
  · rename_i q hq
    rw [MemoryStore.membersOf] at hp
    simp only [Function.update_self, Option.getD_some] at hp
    by_cases hv : v = u
    · subst hv
      rw [lookup_replace_self _ (mem_of_lookup hq), Option.some.injEq] at hp
      rw [← hp, hf]
      exact h.lookup (hmembers ▸ hq)
    · rw [lookup_replace_ne _ _ hv] at hp
      exact h.lookup (hmembers ▸ hp)

theorem updateParticipant_storeOk (h : StoreOk s) (m u : String) {f : Participant → Participant}
    (hf : ∀ p, (f p).role = p.role) : StoreOk (s.updateParticipant m u f).1 := by
  have hmeetings : (s.updateParticipant m u f).1.meetings = s.meetings := by
    unfold MemoryStore.updateParticipant
    split
    · rfl
    split <;> rfl
  have husers := (updateParticipant_elsewhere s m u f).users
  exact ⟨updateParticipant_repOk h.rep m u hf, hmeetings ▸ h.id, hmeetings ▸ h.meeting_ne,
    husers ▸ h.user_ne⟩

theorem setMediaSsrc_userId (a v : UInt32) (p : Participant) :
    (setMediaSsrc a v p).userId = p.userId := by
  unfold setMediaSsrc
  split <;> split <;> rfl

theorem setMediaMuted_userId (t : Int32) (b : Bool) (p : Participant) :
    (setMediaMuted t b p).userId = p.userId := by
  unfold setMediaMuted
  split
  · rfl
  · split <;> rfl

end

end MeetingSystem.Proof.Store
