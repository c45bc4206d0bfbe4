import MeetingSystem.Proof.Store.Creation

/-!
# Join sequence numbers

`joinSeq` is a 64-bit counter that wraps. `joinDraws` counts how often a run
has drawn from it, and `Indexed n` ties the numbers of a meeting to distinct
draws among the first `n`: up to `2 ^ 64` draws distinct members of a meeting
therefore have distinct numbers (`Indexed.distinct`), and one draw more can
give the number of the meeting's creator out again (`run_wrap`).

* `memoryStore_representation`: the representation invariant, the distinct
  numbers and the host hand-over, in every reachable state.
-/

namespace MeetingSystem.Proof.Store

open MeetingSystem.Framework MeetingSystem.Impl.Store

/-! ## Draws -/

/-- How often the run of `os` from `s` draws a join sequence number. -/
def joinDraws (s : MemoryStore) : List Op → Nat
  | [] => 0
  | o :: os => (if (s.step o).joinSeq = s.joinSeq then 0 else 1) + joinDraws (s.step o) os

/-- The numbers of a meeting are those of distinct draws among the first `n`. -/
def Indexed (n : Nat) (jo : JoinOrder) : Prop :=
  ∃ idx : String → Nat,
    (∀ u q, jo.lookup u = some q → 1 ≤ idx u ∧ idx u ≤ n ∧ q = UInt64.ofNat (idx u)) ∧
    ∀ u v, u ∈ jo → v ∈ jo → idx u = idx v → u = v

/-- A meeting's numbers are pairwise distinct. -/
def SeqDistinct (s : MemoryStore) : Prop :=
  ∀ m jo u v q, s.joinOrder m = some jo → jo.lookup u = some q → jo.lookup v = some q → u = v

theorem Indexed.empty (n : Nat) : Indexed n ∅ :=
  ⟨fun _ => 0, fun _ _ h => by simp at h, fun u _ h => absurd h (AList.notMem_empty u)⟩

theorem Indexed.sub {n : Nat} {jo jo' : JoinOrder} (h : Indexed n jo)
    (hsub : ∀ u q, jo'.lookup u = some q → jo.lookup u = some q) : Indexed n jo' := by
  obtain ⟨idx, hidx, hinj⟩ := h
  have hmem : ∀ u, u ∈ jo' → u ∈ jo := fun u hu => by
    obtain ⟨q, hq⟩ := lookup_of_mem hu
    exact mem_of_lookup (hsub u q hq)
  exact ⟨idx, fun u q hq => hidx u q (hsub u q hq),
    fun u v hu hv => hinj u v (hmem u hu) (hmem v hv)⟩

theorem Indexed.mono {n n' : Nat} {jo : JoinOrder} (h : Indexed n jo) (hn : n ≤ n') :
    Indexed n' jo := by
  obtain ⟨idx, hidx, hinj⟩ := h
  refine ⟨idx, fun u q hq => ?_, hinj⟩
  obtain ⟨h1, h2, h3⟩ := hidx u q hq
  exact ⟨h1, h2.trans hn, h3⟩

/-- A member who joins gets the next draw. -/
theorem Indexed.insert {n : Nat} {jo : JoinOrder} (h : Indexed n jo) (u : String) :
    Indexed (n + 1) (jo.insert u (UInt64.ofNat (n + 1))) := by
  obtain ⟨idx, hidx, hinj⟩ := h
  have hle : ∀ v ∈ jo, idx v ≤ n := fun v hv => by
    obtain ⟨q, hq⟩ := lookup_of_mem hv
    exact (hidx v q hq).2.1
  refine ⟨Function.update idx u (n + 1), fun v q hq => ?_, fun v w hv hw e => ?_⟩
  · by_cases hvu : v = u
    · subst hvu
      rw [AList.lookup_insert, Option.some.injEq] at hq
      simp [← hq]
    · rw [AList.lookup_insert_ne hvu] at hq
      obtain ⟨h1, h2, h3⟩ := hidx v q hq
      rw [Function.update_of_ne hvu]
      exact ⟨h1, by omega, h3⟩
  · rw [AList.mem_insert] at hv hw
    by_cases hvu : v = u <;> by_cases hwu : w = u
    · rw [hvu, hwu]
    · rw [hvu, Function.update_self, Function.update_of_ne hwu] at e
      have := hle w (hw.resolve_left hwu)
      omega
    · rw [hwu, Function.update_self, Function.update_of_ne hvu] at e
      have := hle v (hv.resolve_left hvu)
      omega
    · rw [Function.update_of_ne hvu, Function.update_of_ne hwu] at e
      exact hinj v w (hv.resolve_left hvu) (hw.resolve_left hwu) e

/-- Among the first `2 ^ 64` draws no number repeats. -/
theorem Indexed.distinct {n : Nat} {jo : JoinOrder} (h : Indexed n jo) (hn : n ≤ 2 ^ 64)
    {u v : String} {q : UInt64} (hu : jo.lookup u = some q) (hv : jo.lookup v = some q) : u = v := by
  obtain ⟨idx, hidx, hinj⟩ := h
  obtain ⟨hu1, hu2, hu3⟩ := hidx u q hu
  obtain ⟨hv1, hv2, hv3⟩ := hidx v q hv
  refine hinj u v (mem_of_lookup hu) (mem_of_lookup hv) ?_
  have e : (UInt64.ofNat (idx u)).toNat = (UInt64.ofNat (idx v)).toNat := by rw [← hu3, ← hv3]
  simp only [UInt64.toNat_ofNat'] at e
  omega

/-! ## What an operation draws -/

/-- An operation draws no number and at most takes members out, or draws the
next number for one member it puts in. -/
inductive JoinEffect (s s' : MemoryStore) : Prop
  | keep (hseq : s'.joinSeq = s.joinSeq)
      (hjo : ∀ m jo', s'.joinOrder m = some jo' → ∃ jo, s.joinOrder m = some jo ∧
        ∀ u q, jo'.lookup u = some q → jo.lookup u = some q)
  | draw (u : String) (hseq : s'.joinSeq = s.joinSeq + 1)
      (hjo : ∀ m jo', s'.joinOrder m = some jo' → s.joinOrder m = some jo' ∨
        ∃ jo, (jo = ∅ ∨ s.joinOrder m = some jo) ∧ jo' = jo.insert u (s.joinSeq + 1))

theorem JoinEffect.refl {s s' : MemoryStore} (hseq : s'.joinSeq = s.joinSeq)
    (hjo : s'.joinOrder = s.joinOrder) : JoinEffect s s' :=
  .keep hseq fun _ jo' h => ⟨jo', hjo ▸ h, fun _ _ hq => hq⟩

theorem createMeeting_joinEffect (s : MemoryStore) (title password hostUserID : String)
    (maxParticipants : Int) (r : Fin 9000) (now : Int) :
    JoinEffect s (s.createMeeting title password hostUserID maxParticipants r now).1 := by
  unfold MemoryStore.createMeeting MemoryStore.generateMeetingIDLocked MemoryStore.createMeetingAt
  simp only
  split
  · exact .refl rfl rfl
  · refine .draw hostUserID rfl fun m jo' h => ?_
    simp only [Function.update_apply] at h
    split at h
    · exact .inr ⟨∅, .inl rfl, (Option.some.inj h).symm⟩
    · exact .inl h

theorem joinMeeting_joinEffect (s : MemoryStore) (meetingID password userID : String) :
    JoinEffect s (s.joinMeeting meetingID password userID).1 := by
  unfold MemoryStore.joinMeeting
  split
  · exact .refl rfl rfl
  split
  · exact .refl rfl rfl
  dsimp only
  split
  · exact .refl rfl rfl
  split
  · exact .refl rfl rfl
  split
  · exact .refl rfl rfl
  refine .draw userID rfl fun m jo' h => ?_
  simp only [Function.update_apply] at h
  split at h
  · rename_i hm
    subst hm
    refine .inr ⟨s.joinOrderOf m, ?_, (Option.some.inj h).symm⟩
    unfold MemoryStore.joinOrderOf
    cases s.joinOrder m with
    | none => exact .inl rfl
    | some jo => exact .inr rfl
  · exact .inl h

theorem leaveMeeting_joinEffect {s : MemoryStore} (hs : RepOk s) (meetingID userID : String) :
    JoinEffect s (s.leaveMeeting meetingID userID).1 := by
  unfold MemoryStore.leaveMeeting
  split
  · exact .refl rfl rfl
  rename_i mt hm
  obtain ⟨ps, jo, hps, hjo, hps', hjo', hok⟩ := hs.live hm
  simp only [hps', hjo']
  have hleft : ∀ m jo', Function.update s.joinOrder meetingID (some (jo.erase userID)) m = some jo' →
      ∃ jo, s.joinOrder m = some jo ∧ ∀ u q, jo'.lookup u = some q → jo.lookup u = some q := by
    intro m jo' h
    simp only [Function.update_apply] at h
    split at h
    · rename_i e
      subst e
      refine ⟨jo, hjo, fun u q hq => ?_⟩
      rw [← Option.some.inj h] at hq
      exact (lookup_of_erase hq).2
    · exact ⟨jo', h, fun _ _ hq => hq⟩
  split
  · refine .keep rfl fun m jo' h => ?_
    simp only [Function.update_apply] at h
    split at h
    · cases h
    · exact ⟨jo', h, fun _ _ hq => hq⟩
  split
  · split
    · exact .keep rfl hleft
    · exact .keep rfl hleft
  · exact .keep rfl hleft

theorem updateParticipant_joinEffect (s : MemoryStore) (meetingID userID : String)
    (f : Participant → Participant) :
    JoinEffect s (s.updateParticipant meetingID userID f).1 := by
  unfold MemoryStore.updateParticipant
  split
  · exact .refl rfl rfl
  · split <;> exact .refl rfl rfl

theorem step_joinEffect {s : MemoryStore} (hs : RepOk s) (o : Op) : JoinEffect s (s.step o) := by
  cases o with
  | createMeeting => exact createMeeting_joinEffect s _ _ _ _ _ _
  | joinMeeting => exact joinMeeting_joinEffect s _ _ _
  | leaveMeeting => exact leaveMeeting_joinEffect hs _ _
  | setParticipantMediaSsrc => exact updateParticipant_joinEffect s _ _ _
  | setParticipantMediaMuted => exact updateParticipant_joinEffect s _ _ _
  | setParticipantSharing => exact updateParticipant_joinEffect s _ _ _
  | saveMessage => exact .refl rfl rfl

/-- After `n` draws the counter stands at `n` and every meeting's numbers are
those of distinct draws. -/
structure Drawn (n : Nat) (s : MemoryStore) : Prop where
  seq : s.joinSeq = UInt64.ofNat n
  index : ∀ m jo, s.joinOrder m = some jo → Indexed n jo

theorem newMemoryStore_drawn (hash : String → String) : Drawn 0 (newMemoryStore hash) :=
  ⟨rfl, fun _ _ h => by cases h⟩

theorem step_drawn {s : MemoryStore} (hs : RepOk s) (o : Op) {n : Nat} (h : Drawn n s) :
    Drawn (n + if (s.step o).joinSeq = s.joinSeq then 0 else 1) (s.step o) := by
  cases step_joinEffect hs o with
  | keep hseq hjo =>
    rw [if_pos hseq, Nat.add_zero]
    refine ⟨hseq.trans h.seq, fun m jo' hm => ?_⟩
    obtain ⟨jo, hjo, hsub⟩ := hjo m jo' hm
    exact (h.index m jo hjo).sub hsub
  | draw u hseq hjo =>
    have hne : (s.step o).joinSeq ≠ s.joinSeq := by
      rw [hseq]
      intro e
      have := congrArg UInt64.toNat e
      simp only [UInt64.toNat_add, UInt64.toNat_one] at this
      have := s.joinSeq.toNat_lt
      omega
    have hnext : s.joinSeq + 1 = UInt64.ofNat (n + 1) := by rw [h.seq, UInt64.ofNat_add]; rfl
    rw [if_neg hne]
    refine ⟨hseq.trans hnext, fun m jo' hm => ?_⟩
    rcases hjo m jo' hm with hm | ⟨jo, hjo, rfl⟩
    · exact (h.index m jo' hm).mono (Nat.le_succ n)
    · rw [hnext]
      rcases hjo with rfl | hjo
      · exact (Indexed.empty n).insert u
      · exact (h.index m jo hjo).insert u

theorem run_drawn {s : MemoryStore} (hs : RepOk s) {n : Nat} (h : Drawn n s) (os : List Op) :
    Drawn (n + joinDraws s os) (run MemoryStore.step s os) := by
  induction os generalizing s n with
  | nil => exact h
  | cons o os ih =>
    rw [joinDraws, ← Nat.add_assoc]
    exact ih (step_repOk s o hs) (step_drawn hs o h)

/-! ## The host leaves -/

/-- When the host of a meeting leaves it and others remain, the remaining
member with the smallest join sequence number (of equal numbers, the smallest
user id) becomes the host, and the call returns its record. -/
def HandsOver (s : MemoryStore) : Prop :=
  ∀ m mt v, s.meetings m = some mt → v ∈ s.membersOf m → v ≠ mt.hostUserID →
    ∃ u p, u ∈ s.membersOf m ∧ u ≠ mt.hostUserID ∧
      (∀ w ∈ s.membersOf m, w ≠ mt.hostUserID →
        ((s.joinOrderOf m).lookup u).getD 0 ≤ ((s.joinOrderOf m).lookup w).getD 0 ∧
        (((s.joinOrderOf m).lookup u).getD 0 = ((s.joinOrderOf m).lookup w).getD 0 → u ≤ w)) ∧
      (s.leaveMeeting m mt.hostUserID).1.meetings m = some { mt with hostUserID := u } ∧
      ((s.leaveMeeting m mt.hostUserID).1.membersOf m).lookup u = some p ∧ p.role = 1 ∧
      (s.leaveMeeting m mt.hostUserID).2 =
        .ok { hostChanged := true, newHost := some p,
              remaining := ((s.membersOf m).erase mt.hostUserID).keys.length }

theorem RepOk.handsOver {s : MemoryStore} (h : RepOk s) : HandsOver s := by
  intro m mt v hm hv hvh
  obtain ⟨ps, jo, hps, hjo, hps', hjo', hok⟩ := h.live hm
  rw [hps'] at hv ⊢
  rw [hjo']
  have hv' : v ∈ ps.erase mt.hostUserID := AList.mem_erase.mpr ⟨hvh, hv⟩
  have hne : (ps.erase mt.hostUserID).keys.length ≠ 0 :=
    fun e => List.ne_nil_of_mem hv' (List.length_eq_zero_iff.mp e)
  obtain ⟨u, p, hpick⟩ := pickNextHost_isSome (jo.erase mt.hostUserID) hne
  obtain ⟨hu, hle⟩ := pickNextHost_spec hpick
  obtain ⟨huh, hups⟩ := AList.mem_erase.mp (mem_of_lookup hu)
  refine ⟨u, { p with role := 1 }, hups, huh, fun w hw hwh => ?_, ?_⟩
  · have := hle w (AList.mem_erase.mpr ⟨hwh, hw⟩)
    rwa [AList.lookup_erase_ne huh, AList.lookup_erase_ne hwh] at this
  · have hr := lookup_replace_self { p with role := 1 } (mem_of_lookup hu)
    simp only [MemoryStore.leaveMeeting, hm, hps', hjo', if_neg hne, if_true, hpick]
    simp only [MemoryStore.membersOf, Function.update_self, Option.getD_some, hr, and_self]

/-! ## Every reachable state -/

/-- In every reachable state the three maps fit together and the host
hand-over picks the member that joined first; and the join sequence numbers of
a meeting are distinct unless more than `2 ^ 64` numbers have been drawn. -/
theorem memoryStore_representation (hash : String → String) (os : List Op) :
    RepOk (run MemoryStore.step (newMemoryStore hash) os) ∧
    (joinDraws (newMemoryStore hash) os ≤ 2 ^ 64 →
      SeqDistinct (run MemoryStore.step (newMemoryStore hash) os)) ∧
    HandsOver (run MemoryStore.step (newMemoryStore hash) os) := by
  have hrep := run_repOk hash os
  have hdrawn := run_drawn (newMemoryStore_repOk hash) (newMemoryStore_drawn hash) os
  rw [Nat.zero_add] at hdrawn
  refine ⟨hrep, fun hn m jo u v q hm hu hv => ?_, hrep.handsOver⟩
  exact (hdrawn.index m jo hm).distinct hn hu hv

/-! ## The counter wraps -/

/-- A user joins a meeting without a password and leaves it again. -/
def comeAndGo (m u : String) : List Op := [.joinMeeting m "" u, .leaveMeeting m u]

/-- Coming and going leaves nothing behind but the number that was drawn. -/
theorem comeAndGo_run {s : MemoryStore} {m u : String} {mt : Meeting} {ps : Members}
    {jo : JoinOrder} {user : User} (hm : s.meetings m = some mt) (hps : s.participants m = some ps)
    (hjo : s.joinOrder m = some jo) (hok : MeetingOk mt ps jo) (hpass : mt.password = "")
    (hroom : (ps.keys.length : Int) < mt.maxParticipants) (hu : u ∉ ps)
    (huser : s.userByID u = some user) :
    run MemoryStore.step s (comeAndGo m u) = { s with joinSeq := s.joinSeq + 1 } := by
  have hlen : ps.keys.length ≠ 0 := fun e => hok.nonempty (List.length_eq_zero_iff.mp e)
  have hhost : mt.hostUserID ≠ u := fun e => hu (e ▸ hok.host_mem)
  have hu' : u ∉ jo := fun e => hu ((hok.keys u).mpr e)
  have hfull : ¬ (ps.keys.length : Int) ≥ mt.maxParticipants := by omega
  simp only [comeAndGo, run_cons, run_nil, MemoryStore.step, MemoryStore.joinMeeting, hm, hpass,
    ne_eq, not_true_eq_false, false_and, if_false, MemoryStore.membersOf, hps, Option.getD_some,
    hfull, AList.lookup_eq_none.mpr hu, huser, MemoryStore.joinOrderOf, hjo,
    MemoryStore.leaveMeeting, Function.update_self, Function.update_idem, erase_insert_self _ hu,
    erase_insert_self _ hu', hlen, hhost]
  rw [← hps, ← hjo, Function.update_eq_self, Function.update_eq_self]

/-- `k` rounds of coming and going draw `k` numbers. -/
theorem comeAndGo_run_replicate (k : Nat) {s : MemoryStore} {m u : String} {mt : Meeting}
    {ps : Members} {jo : JoinOrder} {user : User} (hm : s.meetings m = some mt)
    (hps : s.participants m = some ps) (hjo : s.joinOrder m = some jo) (hok : MeetingOk mt ps jo)
    (hpass : mt.password = "") (hroom : (ps.keys.length : Int) < mt.maxParticipants) (hu : u ∉ ps)
    (huser : s.userByID u = some user) :
    run MemoryStore.step s (List.replicate k (comeAndGo m u)).flatten =
      { s with joinSeq := s.joinSeq + UInt64.ofNat k } := by
  induction k generalizing s with
  | zero => simp
  | succ k ih =>
    rw [List.replicate_succ, List.flatten_cons, run_append,
      comeAndGo_run hm hps hjo hok hpass hroom hu huser, ih (s := { s with joinSeq := s.joinSeq + 1 }) hm hps hjo huser, Nat.add_comm k 1,
      UInt64.ofNat_add, ← UInt64.add_assoc]
    rfl

/-- `u1001` creates a meeting, `u1002` comes and goes `k` times and then stays. -/
def wrapRun (k : Nat) : List Op :=
  .createMeeting "standup" "" "u1001" 16 0 0 ::
    ((List.replicate k (comeAndGo "101001" "u1002")).flatten ++
      [.joinMeeting "101001" "" "u1002"])

theorem run_wrap (k : Nat) :
    ∃ jo, (run MemoryStore.step (newMemoryStore id) (wrapRun k)).joinOrder "101001" = some jo ∧
      jo.lookup "u1001" = some 1 ∧ jo.lookup "u1002" = some (1 + UInt64.ofNat k + 1) := by
  have hid : toString (101000 + ((newMemoryStore id).meetingSeq + 1).toNat % 10000 + 0) =
      "101001" := by decide +kernel
  have hcreate : (newMemoryStore id).step (.createMeeting "standup" "" "u1001" 16 0 0) =
      (MemoryStore.createMeetingAt { newMemoryStore id with meetingSeq := 1 } "101001" "standup" ""
        "u1001" 16 0).1 := by
    simp only [MemoryStore.step, MemoryStore.createMeeting, generateMeetingIDLocked_eq,
      Fin.val_zero, hid]
    rfl
  have hok : RepOk (MemoryStore.createMeetingAt { newMemoryStore id with meetingSeq := 1 } "101001"
      "standup" "" "u1001" 16 0).1 :=
    createMeetingAt_repOk (s := { newMemoryStore id with meetingSeq := 1 })
      (newMemoryStore_repOk id) "101001" "standup" "" "u1001" 0 (by decide)
  obtain ⟨ps, jo, hps, hjo, -, -, hok⟩ := hok.live (m := "101001") rfl
  obtain rfl : AList.insert "u1001" _ ∅ = ps := Option.some.inj hps
  obtain rfl : AList.insert "u1001" 1 ∅ = jo := Option.some.inj hjo
  rw [wrapRun, run_cons, hcreate, run_append,
    comeAndGo_run_replicate k rfl hps hjo hok rfl (by decide) (by decide) rfl]
  exact ⟨_, rfl, rfl, rfl⟩

/-- With `2 ^ 64 - 1` rounds the number of the meeting's creator is drawn again. -/
theorem joinSeq_repeats :
    ¬ SeqDistinct (run MemoryStore.step (newMemoryStore id) (wrapRun (2 ^ 64 - 1))) := by
  intro h
  obtain ⟨jo, hm, h1, h2⟩ := run_wrap (2 ^ 64 - 1)
  have hwrap : 1 + UInt64.ofNat (2 ^ 64 - 1) + 1 = 1 := by decide
  rw [hwrap] at h2
  exact absurd (h "101001" jo "u1001" "u1002" 1 hm h1 h2) (by decide)

end MeetingSystem.Proof.Store
