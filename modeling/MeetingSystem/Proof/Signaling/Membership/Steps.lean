import MeetingSystem.Proof.Signaling.Membership.Invariant
import MeetingSystem.Proof.Signaling.SessionManager

/-!
# The steps of handlers and close callbacks

Every step that is `NotOvertaken` keeps the invariant of sessions and
membership. A handler's places are `plain` if nobody relies on a handler that
is there, and `Inv.goto` moves between such places; the other steps have a
lemma each.
-/

namespace MeetingSystem.Proof.Signaling.Membership

open MeetingSystem.Impl.Store MeetingSystem.Impl.Signaling MeetingSystem.Proof.Store

/-! ## Steps beside the handler of a session

Closing, the close callback and another session's kick change a session whose
handler may be anywhere. -/

theorem HandlerOk.beside {st st' : MemoryStore} {sessions : Nat → SessionTasks} {i : Nat}
    {y : SessionTasks} (h : HandlerOk st sessions (sessions i))
    (sub : ∀ m u, IsMember st' m u → IsMember st m u)
    (hjoined : ∀ m c, (sessions i).handler = .joined m c → (sessions i).closed = false →
      IsMember st m (sessions i).userID → IsMember st' m (sessions i).userID)
    (hh : y.handler = (sessions i).handler) (huser : y.userID = (sessions i).userID)
    (hclosed : y.closed = false → (sessions i).closed = false)
    (hm : y.meetingID = (sessions i).meetingID ∨ y.meetingID = "")
    (hout : Outside (sessions i) → Outside y)
    (hwait : Joining (sessions i).handler → (sessions i).callback = .waiting →
      y.callback = .waiting)
    (hentering : (sessions i).handler = .entering → y.closed = false →
      (sessions i).meetingID ≠ "" → y.meetingID ≠ "")
    (hstate : (sessions i).handler = .kickState i → y.closed = false → y.meetingID = "")
    (holds : ∀ m, IsMember st m (sessions i).userID → Holds y m → Holds (sessions i) m) :
    HandlerOk st' (Function.update sessions i y) y := by
  have hframe := h.frame sub (hold_of_holds sub huser holds) hstate hjoined
  have hempty : (sessions i).meetingID = "" → y.meetingID = "" := fun he =>
    hm.elim (fun hm => hm.trans he) id
  unfold HandlerOk at hframe ⊢
  rw [hh]
  split <;> rename_i heq <;> simp only [heq] at hframe hwait hentering
  · trivial
  · trivial
  · exact ⟨hframe.1, hout hframe.2⟩
  · exact hout hframe
  · exact hout hframe
  · exact ⟨hout hframe.1, hwait trivial hframe.2⟩
  · exact ⟨hout hframe.1, hwait trivial hframe.2⟩
  · exact ⟨⟨hout hframe.1.1, hwait trivial hframe.1.2⟩, hframe.2.1, huser ▸ hframe.2.2.1,
      fun hc => huser ▸ hframe.2.2.2 (hclosed hc)⟩
  · exact fun hc => hentering trivial hc (hframe (hclosed hc))
  · rcases hm with hm | hm
    · exact hm ▸ hframe
    · exact .inr hm
  · intro m hy hmem
    rw [huser] at hmem
    exact hframe m (holds m (sub m _ hmem) hy) hmem
  · exact hempty hframe
  · exact hempty hframe
  all_goals exact hframe

theorem close_inv {s : Server} (h : Inv s) (i : Nat) : Inv (s.close i) := by
  refine h.modify (y := { s.sessions i with toSession := (s.sessions i).toSession.close }) rfl
    (by simp) (fun hc => by simp at hc) (fun hk => h.accepted i (by simpa using hk)) (.inl rfl) ?_
    (fun hc => by simp at hc) (fun _ _ hc => by simp at hc) (fun m _ hm => by simpa [Holds] using hm)
    (fun m _ hm => by simpa [Holds] using hm) (fun m _ hm => by simpa [Engaged] using hm)
  refine (h.handler i).beside (fun _ _ => id) (fun _ _ _ _ => id) rfl (by simp)
    (fun hc => by simp at hc) (.inl (by simp))
    (fun ho => ⟨by simpa using ho.meetingID, fun hc => by simp at hc, ho.leaveRead, ho.leaveStore⟩)
    (fun _ hcb => hcb) (fun _ hc => by simp at hc) (fun _ hc => by simp at hc)
    fun m _ hm => by simpa [Holds] using hm

/-- The close callback has started only if the session is closed. -/
theorem Inv.closed_of_callback {s : Server} (h : Inv s) {i : Nat}
    (hcb : (s.sessions i).callback ≠ .waiting) : (s.sessions i).closed = true := by
  by_contra hc
  exact hcb (h.opened i (by simpa using hc)).waiting

theorem HandlerOk.waiting {st : MemoryStore} {sessions : Nat → SessionTasks} {x : SessionTasks}
    (h : HandlerOk st sessions x) (hj : Joining x.handler) : x.callback = .waiting := by
  unfold HandlerOk at h
  split at h <;> rename_i heq <;> simp only [heq, Joining] at hj
  · exact h.2
  · exact h.2
  · exact h.1.2

theorem HandlerOk.kickState {st : MemoryStore} {sessions : Nat → SessionTasks} {x : SessionTasks}
    (h : HandlerOk st sessions x) {k : Nat} (hk : x.handler = .kickState k)
    (hc : (sessions k).closed = false) : (sessions k).meetingID = "" := by
  simp only [HandlerOk, hk] at h
  exact h hc

/-- A step of the close callback that leaves the store alone. -/
theorem Inv.callback {s : Server} (h : Inv s) {i : Nat} {f : SessionTasks → SessionTasks}
    {y : SessionTasks} (hy : f (s.sessions i) = y) (hyclosed : y.closed = true) (hh : y.handler = (s.sessions i).handler)
    (huser : y.userID = (s.sessions i).userID)
    (hm : y.meetingID = (s.sessions i).meetingID ∨ y.meetingID = "")
    (hnj : ¬ Joining (s.sessions i).handler)
    (hout : Outside (s.sessions i) → y.callback ≠ .leaveRead ∧ ∀ m, y.callback ≠ .leaveStore m)
    (holds : ∀ m, IsMember s.store m (s.sessions i).userID → Holds y m → Holds (s.sessions i) m)
    (keeps : ∀ m, IsMember s.store m (s.sessions i).userID → Holds (s.sessions i) m → Holds y m)
    (hengaged : ∀ m, m ≠ "" → Engaged y m → Engaged (s.sessions i) m) : Inv (s.modify i f) := by
  have hopen : y.closed ≠ false := by simp [hyclosed]
  refine h.modify hy huser (fun hc => absurd hc hopen) (fun hk => h.accepted i ?_) (.inl hh) ?_
    (fun hc => absurd hc hopen) (fun _ _ hc => absurd hc hopen) holds keeps hengaged
  · rw [hh] at hk
    refine hk.imp_right fun hne => ?_
    exact hm.elim (fun hm => hm ▸ hne) fun hm => absurd hm hne
  · refine (h.handler i).beside (fun _ _ => id) (fun _ _ _ _ => id) hh huser
      (fun hc => absurd hc hopen) hm (fun ho => ?_) (fun hj => absurd hj hnj)
      (fun _ hc => absurd hc hopen) (fun _ hc => absurd hc hopen) holds
    exact ⟨hm.elim (fun hm => hm.trans ho.meetingID) id, fun hc => absurd hc hopen, (hout ho).1,
      (hout ho).2⟩

/-- Nobody else's membership is lost when an engaged session takes its user out. -/
theorem Inv.not_lost {s : Server} (h : Inv s) {i k : Nat} {m m' : String}
    (hi : Engaged (s.sessions i) m) (hki : k ≠ i) (hk : Engaged (s.sessions k) m')
    (hmem : IsMember s.store m' (s.sessions k).userID) :
    ¬ (m' = m ∧ (s.sessions k).userID = (s.sessions i).userID) := by
  rintro ⟨rfl, hu⟩
  exact hki (h.unique k i m' (h.store.ne_empty hmem) hu hk hi)

theorem OpenOk.engaged {st : MemoryStore} {sessions : Nat → SessionTasks} {i : Nat}
    {x : SessionTasks} (h : OpenOk st sessions i x) : Engaged x x.meetingID :=
  .inl ⟨rfl, .inl h.waiting⟩

/-- The close callback is past its store call, or found nothing to leave. -/
def Retired (c : Callback) : Prop := c = .leaveReset ∨ c = .remove ∨ c = .done

theorem Holds.of_retired {x y : SessionTasks} {m : String} (h : Holds y m)
    (hc : Retired y.callback) (hh : y.handler = x.handler) : Holds x m := by
  rcases h with ⟨_, hcb⟩ | hj
  · rcases hc with hc | hc | hc <;> simp [hc] at hcb
  · exact .inr (hh ▸ hj)

theorem Engaged.of_retired {x y : SessionTasks} {m : String} (h : Engaged y m)
    (hc : Retired y.callback) (hh : y.handler = x.handler)
    (hm : y.meetingID = x.meetingID ∨ y.meetingID = "") (hne : m ≠ "") : Engaged x m := by
  rcases h with ⟨hym, hcb | hcb | hl⟩ | hcb | hrest
  · rcases hc with hc | hc | hc <;> simp [hc] at hcb
  · rcases hc with hc | hc | hc <;> simp [hc] at hcb
  · rcases hm with hm | hm
    · exact .inl ⟨hm.symm.trans hym, .inr (.inr (hh ▸ hl))⟩
    · exact absurd (hym.symm.trans hm) hne
  · rcases hc with hc | hc | hc <;> simp [hc] at hcb
  · exact .inr (.inr (hh ▸ hrest))

/-- `LeaveMeeting` in the close callback. -/
theorem callbackLeave_inv {s : Server} (h : Inv s) {i : Nat} {m : String}
    (hcb : (s.sessions i).callback = .leaveStore m) {c : Callback}
    (hc : Retired c) :
    Inv ({ s with store := (s.store.leaveMeeting m (s.sessions i).userID).1 }.gotoCallback i c) := by
  obtain ⟨hstore, hmem, -⟩ := leaveMeeting_spec h.store m (s.sessions i).userID
  have hclosed := h.closed_of_callback (i := i) (by simp [hcb])
  have hengaged : Engaged (s.sessions i) m := .inr (.inl hcb)
  have hnj : ¬ Joining (s.sessions i).handler := fun hj => by
    simp [(h.handler i).waiting hj] at hcb
  have hopen : (s.sessions i).closed ≠ false := by simp [hclosed]
  have sub : ∀ m' u, IsMember (s.store.leaveMeeting m (s.sessions i).userID).1 m' u →
      IsMember s.store m' u := fun m' u hu => ((hmem m' u).mp hu).1
  have holds : ∀ m', IsMember s.store m' (s.sessions i).userID →
      Holds { s.sessions i with callback := c } m' → Holds (s.sessions i) m' :=
    fun m' _ hm' => hm'.of_retired (x := s.sessions i) hc rfl
  refine h.put rfl rfl rfl hstore sub rfl id (h.accepted i) ?_ (fun hc => absurd hc hopen)
    (fun k hki hk => ?_) (fun k m' c' hki hj _ hu => ?_) (fun _ _ _ hc => absurd hc hopen) holds
    (fun m' hu hm' => ?_) 
    fun m' hne he => he.of_retired (x := s.sessions i) hc rfl (.inl rfl) hne
  · refine (h.handler i).beside sub (fun _ _ _ hc => absurd hc hopen) rfl rfl
      (fun hc => absurd hc hopen) (.inl rfl)
      (fun ho => ⟨ho.meetingID, fun hc => absurd hc hopen, ?_, fun m' => ?_⟩)
      (fun hj => absurd hj hnj) (fun _ hc => absurd hc hopen) (fun _ hc => absurd hc hopen) holds
    · rcases hc with rfl | rfl | rfl <;> simp
    · rcases hc with rfl | rfl | rfl <;> simp
  · exact (h.opened k hk).frame_quiet (fun _ hu => (hmem _ _).mpr
      ⟨hu, h.not_lost hengaged hki (h.opened k hk).engaged hu⟩) (.inl rfl)
  · exact (hmem m' _).mpr ⟨hu, h.not_lost hengaged hki (.inr (.inr (.inr ⟨c', hj⟩))) hu⟩
  · rcases hm' with ⟨_, hcb' | hcb' | hcb'⟩ | hj
    · simp [hcb] at hcb'
    · simp [hcb] at hcb'
    · rw [hcb, Callback.leaveStore.injEq] at hcb'
      exact absurd ⟨hcb'.symm, rfl⟩ ((hmem m' _).mp hu).2
    · exact .inr hj

/-- The close callback finds nothing to leave, or is done with its store call. -/
theorem Inv.retire {s : Server} (h : Inv s) {i : Nat} {f : SessionTasks → SessionTasks}
    {y : SessionTasks} (hy : f (s.sessions i) = y) (hyclosed : y.closed = true)
    (hh : y.handler = (s.sessions i).handler) (huser : y.userID = (s.sessions i).userID)
    (hm : y.meetingID = (s.sessions i).meetingID ∨ y.meetingID = "")
    (hnj : ¬ Joining (s.sessions i).handler) (hc : Retired y.callback)
    (hnone : (s.sessions i).meetingID = "" ∨ Retired (s.sessions i).callback) :
    Inv (s.modify i f) := by
  refine h.callback hy hyclosed hh huser hm hnj (fun _ => ?_) (fun m _ hx => hx.of_retired hc hh)
    (fun m hu hx => ?_) fun m hne he => he.of_retired hc hh hm hne
  · rcases hc with hc | hc | hc <;> simp [hc]
  · rcases hx with ⟨hxm, hcb⟩ | hj
    · rcases hnone with he | hr
      · exact absurd (hxm.symm.trans he) (h.store.ne_empty hu)
      · rcases hr with hr | hr | hr <;> simp [hr] at hcb
    · exact .inr (hh ▸ hj)

theorem modify_modify (s : Server) (i : Nat) (f g : SessionTasks → SessionTasks) :
    (s.modify i f).modify i g = s.modify i fun x => g (f x) := by
  simp [Server.modify]

theorem callbackStep_inv {s : Server} (h : Inv s) (i : Nat)
    (hok : NotOvertaken s (.callback i)) : Inv (s.callbackStep i) := by
  have hnj : (s.sessions i).callback ≠ .waiting → ¬ Joining (s.sessions i).handler :=
    fun hcb hj => hcb ((h.handler i).waiting hj)
  simp only [Server.callbackStep]
  split <;> rename_i hcb
  · split
    · rename_i hclosed
      split
      · rename_i hm
        exact h.retire rfl hclosed rfl rfl (.inl rfl) (hok hclosed hcb) (.inr (.inl rfl)) (.inl hm)
      · rename_i hm
        refine h.callback rfl hclosed rfl rfl (.inl rfl) (hok hclosed hcb)
          (fun ho => absurd ho.meetingID hm) ?_ ?_ ?_
        · rintro m _ (⟨hm', _⟩ | hj)
          · exact .inl ⟨hm', .inl hcb⟩
          · exact .inr hj
        · rintro m _ (⟨hm', _⟩ | hj)
          · exact .inl ⟨hm', .inr (.inl rfl)⟩
          · exact .inr hj
        · rintro m _ (⟨hm', _⟩ | hc | hrest)
          · exact .inl ⟨hm', .inl hcb⟩
          · cases hc
          · exact .inr (.inr hrest)
    · exact h
  · have hclosed := h.closed_of_callback (i := i) (by simp [hcb])
    have hnj' := hnj (by simp [hcb])
    split
    · rename_i hm
      exact h.retire rfl hclosed rfl rfl (.inl rfl) hnj' (.inr (.inl rfl)) (.inl hm)
    · refine h.callback rfl hclosed rfl rfl (.inl rfl) hnj'
        (fun ho => absurd hcb ho.leaveRead) ?_ ?_ ?_
      · rintro m _ (⟨hm', _⟩ | hj)
        · exact .inl ⟨hm', .inr (.inl hcb)⟩
        · exact .inr hj
      · rintro m _ (⟨hm', _⟩ | hj)
        · exact .inl ⟨hm', .inr (.inr (by rw [hm']))⟩
        · exact .inr hj
      · rintro m _ (⟨hm', _⟩ | hc | hrest)
        · exact .inl ⟨hm', .inr (.inl hcb)⟩
        · exact .inl ⟨Callback.leaveStore.inj hc, .inr (.inl hcb)⟩
        · exact .inr (.inr hrest)
  · split
    · exact callbackLeave_inv h hcb (.inl rfl)
    · exact callbackLeave_inv h hcb (.inr (.inl rfl))
  · have hclosed := h.closed_of_callback (i := i) (by simp [hcb])
    rw [Server.setMeetingID, Server.gotoCallback, modify_modify]
    exact h.retire rfl hclosed rfl rfl (.inr rfl) (hnj (by simp [hcb])) (.inr (.inl rfl))
      (.inr (.inl hcb))
  · have hclosed := h.closed_of_callback (i := i) (by simp [hcb])
    have hdone : Inv (s.gotoCallback i .done) :=
      h.retire rfl hclosed rfl rfl (.inl rfl) (hnj (by simp [hcb])) (.inr (.inr rfl))
        (.inr (.inr (.inl hcb)))
    refine { hdone with byUser := fun k hk hu => byUser_remove (hdone.byUser k hk hu) ?_ }
    rintro rfl
    simp [Server.gotoCallback, Server.modify, hclosed] at hk
  · exact h

/-! ## Steps of a handler that leave the store alone -/

/-- A handler that is here does not stand between the session and the store. -/
def loose : Handler → Bool
  | .joined _ _ | .entering | .leaveReset | .leaveCheck | .leaveState => false
  | _ => true

/-- No other party relies on a handler that is here. -/
def plain : Handler → Bool
  | .kickFind _ _ | .kickCheck _ _ | .kickReset _ | .kickState _ => false
  | h => loose h

theorem loose_of_plain {h : Handler} (hp : plain h = true) : loose h = true := by
  cases h <;> first | rfl | cases hp

theorem quiet_of_plain {h : Handler} (hp : plain h = true) : Quiet h := by
  intro k u m
  refine ⟨?_, ?_⟩
  · rintro (rfl | rfl | rfl) <;> cases hp
  · rintro rfl
    cases hp

theorem Holds.of_eq {x y : SessionTasks} {m : String} (h : Holds y m)
    (hm : y.meetingID = x.meetingID) (hcb : y.callback = x.callback)
    (hj : ∀ c, y.handler = .joined m c → x.handler = .joined m c) : Holds x m := by
  rcases h with ⟨hym, hycb⟩ | ⟨c, hyj⟩
  · exact .inl ⟨hm ▸ hym, hcb ▸ hycb⟩
  · exact .inr ⟨c, hj c hyj⟩

theorem Engaged.of_eq {x y : SessionTasks} {m : String} (h : Engaged y m)
    (hm : y.meetingID = x.meetingID) (hcb : y.callback = x.callback)
    (hread : y.handler = .leaveRead → x.callback = .waiting)
    (hleave : y.handler = .leaveStore m → Engaged x m) (hj : ∀ c, y.handler ≠ .joined m c) :
    Engaged x m := by
  rcases h with ⟨hym, hycb | hycb | hl⟩ | hycb | hl | ⟨c, hyj⟩
  · exact .inl ⟨hm ▸ hym, .inl (hcb ▸ hycb)⟩
  · exact .inl ⟨hm ▸ hym, .inr (.inl (hcb ▸ hycb))⟩
  · exact .inl ⟨hm ▸ hym, .inl (hread hl)⟩
  · exact .inr (.inl (hcb ▸ hycb))
  · exact hleave hl
  · exact absurd hyj (hj c)

theorem OpenOk.goto_loose {st : MemoryStore} {sessions : Nat → SessionTasks} {i : Nat}
    {x : SessionTasks} {hd : Handler} (h : OpenOk st sessions i x) (hx : loose x.handler = true)
    (hl : loose hd = true) : OpenOk st sessions i { x with handler := hd } := by
  refine ⟨h.waiting, fun hm => ?_, fun hst => ?_, fun hst => ?_, fun m hm => ?_⟩
  · refine (h.member hm).imp_right (.inr <| ·.resolve_left fun hr => ?_)
    rw [hr] at hx
    cases hx
  · refine .inl ((h.outside hst).resolve_right fun hr => ?_)
    rw [hr] at hx
    cases hx
  · refine (h.inside hst).imp_right (.inr <| ·.resolve_left ?_)
    rintro (hr | hr) <;> rw [hr] at hx <;> cases hx
  · rcases hm with ⟨c, rfl⟩ | ⟨rfl, _⟩ <;> cases hl

/-- The handler moves on between two loose places. -/
theorem Inv.gotoLoose {s : Server} (h : Inv s) {i : Nat} {hd : Handler} (hacc : s.Accepted i)
    (hx : loose (s.sessions i).handler = true) (hl : loose hd = true)
    (hself : HandlerOk s.store s.sessions { s.sessions i with handler := hd })
    (hread : hd = .leaveRead → (s.sessions i).closed = false)
    (hleave : ∀ m, hd = .leaveStore m →
      (s.sessions i).handler = .leaveRead ∧ (s.sessions i).meetingID = m)
    (hrem : ∀ k, (s.sessions k).closed = false → (s.sessions k).meetingID ≠ "" →
      Removing (s.sessions i).handler k (s.sessions k).userID (s.sessions k).meetingID →
      Removing hd k (s.sessions k).userID (s.sessions k).meetingID)
    (hset : ∀ k, (s.sessions k).closed = false → Settling (s.sessions i).handler k →
      (s.sessions k).state = .inMeeting → (s.sessions k).meetingID = "" → Settling hd k)
    (hkick : ∀ k m, (s.sessions k).closed = false → Entering (s.sessions k) m →
      ¬ Removing hd k (s.sessions k).userID m ∧ hd ≠ .kickState k) :
    Inv (s.goto i hd) := by
  have hnj : ∀ m c, hd ≠ .joined m c := by
    rintro m c rfl
    cases hl
  have hnj' : ∀ m c, (s.sessions i).handler ≠ .joined m c := by
    intro m c hj
    rw [hj] at hx
    cases hx
  have holds : ∀ m, IsMember s.store m (s.sessions i).userID →
      Holds { s.sessions i with handler := hd } m → Holds (s.sessions i) m :=
    fun m _ hm => hm.of_eq rfl rfl fun c hj => absurd hj (hnj m c)
  refine h.put rfl rfl rfl h.store (fun _ _ => id) rfl id (fun _ => hacc) ?_ (fun hc => ?_)
    (fun k _ hc => ?_) (fun _ _ _ _ _ _ => id) (fun t _ ht hc => ?_) holds
    (fun m _ hm => ?_) fun m _ he => ?_
  · exact hself.frame (fun _ _ => id) (hold_of_holds (fun _ _ => id) rfl holds)
      (fun hk hc => hself.kickState hk hc) fun _ _ _ _ => id
  · refine ((h.opened i hc).goto_loose hx hl).frame (fun _ => .inl) (hrem i hc) (hset i hc) fun m hm => ?_
    rcases hm with ⟨c, rfl⟩ | ⟨rfl, _⟩ <;> cases hl
  · exact (h.opened k hc).frame (fun _ => .inl) (hrem k hc) (hset k hc) (hkick k · hc)
  · exact (h.handler t).kickState ht hc
  · exact hm.of_eq rfl rfl fun c hj => absurd hj (hnj' m c)
  · refine he.of_eq rfl rfl (fun hr => (h.opened i (hread hr)).waiting) (fun hr => ?_) (hnj m)
    obtain ⟨hxl, hxm⟩ := hleave m hr
    exact .inl ⟨hxm, .inr (.inr hxl)⟩

/-- The handler moves on, and neither place matters to anyone else. -/
theorem Inv.goto {s : Server} (h : Inv s) {i : Nat} {hd : Handler} (hacc : s.Accepted i)
    (hx : plain (s.sessions i).handler = true) (hp : plain hd = true)
    (hself : HandlerOk s.store s.sessions { s.sessions i with handler := hd })
    (hread : hd = .leaveRead → (s.sessions i).closed = false)
    (hleave : ∀ m, hd = .leaveStore m →
      (s.sessions i).handler = .leaveRead ∧ (s.sessions i).meetingID = m) :
    Inv (s.goto i hd) :=
  h.gotoLoose hacc (loose_of_plain hx) (loose_of_plain hp) hself hread hleave
    (fun _ _ _ hr => absurd hr (quiet_of_plain hx _ _ _).1)
    (fun k _ hs => absurd hs ((quiet_of_plain hx).not_settling k))
    fun k m _ _ => quiet_of_plain hp k _ m

/-- An open session whose state is not `inMeeting` is outside. -/
theorem Inv.outside {s : Server} (h : Inv s) {i : Nat} (hc : (s.sessions i).closed = false)
    (hidle : (s.sessions i).handler = .idle) (hst : (s.sessions i).state ≠ .inMeeting) :
    Outside (s.sessions i) := by
  have hcb := (h.opened i hc).waiting
  refine ⟨((h.opened i hc).outside hst).resolve_right (by simp [hidle]), fun _ => hst, ?_, ?_⟩
  · simp [hcb]
  · simp [hcb]

theorem request_inv {s : Server} (h : Inv s) (i : Nat) (r : Request) : Inv (s.request i r) := by
  simp only [Server.request]
  split
  · rename_i hreq
    obtain ⟨hacc, hc, hidle⟩ := hreq
    have hcb := (h.opened i hc).waiting
    have hplain : plain (s.sessions i).handler = true := by rw [hidle]; rfl
    have hidle_inv : Inv (s.goto i .idle) := h.goto hacc hplain rfl trivial (by simp) (by simp)
    split
    · rename_i hst
      cases r <;> simp only [Server.firstStep]
      case login u =>
        split
        · exact hidle_inv
        · rename_i hu
          refine h.goto hacc hplain rfl ⟨hu, ?_⟩ (by simp) (by simp)
          have ho := h.outside hc hidle (by rintro he; simp [isStateAllowed, he] at hst)
          exact ⟨ho.meetingID, ho.state, ho.leaveRead, ho.leaveStore⟩
      case create =>
        split
        · exact hidle_inv
        · refine h.goto hacc hplain rfl ⟨?_, hcb⟩ (by simp) (by simp)
          have ho := h.outside hc hidle (by rintro he; simp [isStateAllowed, he] at hst)
          exact ⟨ho.meetingID, ho.state, ho.leaveRead, ho.leaveStore⟩
      case join =>
        split
        · exact hidle_inv
        · refine h.goto hacc hplain rfl ⟨?_, hcb⟩ (by simp) (by simp)
          have ho := h.outside hc hidle (by rintro he; simp [isStateAllowed, he] at hst)
          exact ⟨ho.meetingID, ho.state, ho.leaveRead, ho.leaveStore⟩
      case leave => exact h.goto hacc hplain rfl trivial (fun _ => hc) (by simp)
      case kick u =>
        split
        · exact hidle_inv
        · rename_i hu
          exact h.goto hacc hplain rfl hu (by simp) (by simp)
    · exact close_inv h i
  · exact h

theorem Outside.open_ok {st : MemoryStore} {sessions : Nat → SessionTasks} {i : Nat}
    {x : SessionTasks} (ho : Outside x) (hc : x.closed = false) (hcb : x.callback = .waiting)
    (hl : loose x.handler = true) : OpenOk st sessions i x := by
  refine ⟨hcb, fun hm => absurd ho.meetingID hm, fun _ => .inl ho.meetingID,
    fun hst => absurd hst (ho.state hc), fun m hm => ?_⟩
  rcases hm with ⟨c, hj⟩ | ⟨hj, _⟩ <;> rw [hj] at hl <;> cases hl

/-- A login moves on in a session that is outside and stays so. -/
theorem Inv.login {s : Server} (h : Inv s) {i : Nat} {f : SessionTasks → SessionTasks}
    {y : SessionTasks} (hy : f (s.sessions i) = y) (hacc : s.Accepted i)
    (hx : plain (s.sessions i).handler = true) (ho : Outside (s.sessions i)) (ho' : Outside y)
    (huser : y.userID = (s.sessions i).userID) (hclosed : y.closed = (s.sessions i).closed)
    (hcb : y.callback = (s.sessions i).callback)
    (hh : y.handler = .loginMeeting ∨ y.handler = .idle) : Inv (s.modify i f) := by
  have hm : y.meetingID = (s.sessions i).meetingID := ho'.meetingID.trans ho.meetingID.symm
  have hp : plain y.handler = true := by rcases hh with hh | hh <;> rw [hh] <;> rfl
  have hnj : ∀ m c, y.handler ≠ .joined m c := by
    rcases hh with hh | hh <;> simp [hh]
  have hnj' : ∀ m c, (s.sessions i).handler ≠ .joined m c := fun m c hj => by
    rw [hj] at hx
    cases hx
  refine h.modify hy huser (fun hc => hclosed ▸ hc) (fun _ => hacc)
    (.inr ⟨quiet_of_plain hx, quiet_of_plain hp⟩) ?_ (fun hc => ?_) (fun _ _ _ => ho'.meetingID)
    (fun m _ hm' => hm'.of_eq hm hcb fun c hj => absurd hj (hnj m c))
    (fun m _ hm' => hm'.of_eq hm.symm hcb.symm fun c hj => absurd hj (hnj' m c))
    fun m _ he => he.of_eq hm hcb ?_ ?_ (hnj m)
  · rcases hh with hh | hh <;> simp only [HandlerOk, hh]
    exact ho'
  · exact ho'.open_ok hc (hcb.trans (h.opened i (hclosed ▸ hc)).waiting) (loose_of_plain hp)
  · rcases hh with hh | hh <;> simp [hh]
  · rcases hh with hh | hh <;> simp [hh]

/-- The join names the meeting it has added its user to. -/
theorem joined_inv {s : Server} (h : Inv s) {i : Nat} {m : String} {created : Bool}
    (hj : (s.sessions i).handler = .joined m created) :
    Inv ((s.setMeetingID i m).goto i .entering) := by
  have hok := h.handler i
  simp only [HandlerOk, hj] at hok
  obtain ⟨⟨ho, hcb⟩, hm, -, hmem⟩ := hok
  have hentering : Entering (s.sessions i) m := .inl ⟨created, hj⟩
  rw [Server.setMeetingID, Server.goto, modify_modify]
  refine h.modify rfl rfl id (fun _ => h.accepted i (.inl (by simp [hj]))) (.inr ⟨?_, ?_⟩) ?_
    (fun hc => ⟨hcb, fun _ => .inl (hmem hc), fun _ => .inr rfl, fun hst => absurd hst (ho.state hc),
      fun m' hm' => ?_⟩) (fun t ht hc => absurd ht ((h.opened i hc).unkicked m hentering t).2)
    ?_ ?_ ?_
  · simp [Quiet, Removing, hj]
  · simp [Quiet, Removing]
  · exact fun _ => hm
  · obtain ⟨c, hc'⟩ | ⟨-, rfl⟩ := hm'
    · cases hc'
    · exact (h.opened i hc).unkicked m hentering
  · rintro m' _ (⟨rfl, _⟩ | ⟨c, hc⟩)
    · exact .inr ⟨created, hj⟩
    · cases hc
  · rintro m' hu (⟨hm', _⟩ | ⟨c, hc⟩)
    · exact absurd (hm'.symm.trans ho.meetingID) (h.store.ne_empty hu)
    · rw [hj] at hc
      exact .inl ⟨(Handler.joined.inj hc).1, .inl hcb⟩
  · rintro m' _ (⟨rfl, _⟩ | hc | hc | ⟨c, hc⟩)
    · exact .inr (.inr (.inr ⟨created, hj⟩))
    · exact absurd hc (ho.leaveStore m')
    · cases hc
    · cases hc

theorem entering_inv {s : Server} (h : Inv s) {i : Nat}
    (hx : (s.sessions i).handler = .entering) :
    Inv ((s.setState i .inMeeting).goto i .idle) := by
  have hm := h.handler i
  simp only [HandlerOk, hx] at hm
  rw [Server.setState, Server.goto, modify_modify]
  refine h.modify rfl rfl id (fun _ => h.accepted i (.inl (by simp [hx]))) (.inr ⟨?_, ?_⟩) trivial
    (fun hc => ⟨(h.opened i hc).waiting, fun hne => ?_, fun hst => absurd rfl hst,
      fun _ => .inl (hm hc), fun m' hm' => ?_⟩) (fun t ht hc => (h.handler t).kickState ht hc)
    (fun m _ hm' => hm'.of_eq rfl rfl (by simp)) (fun m _ hm' => hm'.of_eq rfl rfl (by simp [hx]))
    fun m _ he => he.of_eq rfl rfl (by simp) (by simp) (by simp)
  · simp [Quiet, Removing, hx]
  · simp [Quiet, Removing]
  · exact ((h.opened i hc).member hne).imp_right (.inr <| ·.resolve_left (by simp [hx]))
  · rcases hm' with ⟨c, hc'⟩ | ⟨hc', -⟩ <;> cases hc'

/-- The last steps of `leave`, after which the session names no meeting. -/
theorem Inv.leaveEnd {s : Server} (h : Inv s) {i : Nat} {f : SessionTasks → SessionTasks}
    {y : SessionTasks} (hy : f (s.sessions i) = y)
    (hx : (s.sessions i).handler = .leaveReset ∨ (s.sessions i).handler = .leaveCheck ∨
      (s.sessions i).handler = .leaveState)
    (hym : y.meetingID = "") (huser : y.userID = (s.sessions i).userID)
    (hclosed : y.closed = (s.sessions i).closed) (hcb : y.callback = (s.sessions i).callback)
    (hh : y.handler = .leaveCheck ∨ y.handler = .leaveState ∨
      y.handler = .idle ∧ y.state ≠ .inMeeting) : Inv (s.modify i f) := by
  have hacc : s.Accepted i := h.accepted i (.inl (by rcases hx with hx | hx | hx <;> simp [hx]))
  have hsafe : ResetSafe s.store (s.sessions i) := by
    have hok := h.handler i
    intro m hm hu
    rcases hx with hx | hx | hx <;> simp only [HandlerOk, hx] at hok
    · exact hok m hm hu
    all_goals
      rcases hm with ⟨hm, _⟩ | ⟨c, hj⟩
      · exact h.store.ne_empty hu (hm.symm.trans hok)
      · simp [hx] at hj
  have hq : Quiet (s.sessions i).handler := by
    rcases hx with hx | hx | hx <;> simp [Quiet, Removing, hx]
  have hq' : Quiet y.handler := by
    rcases hh with hh | hh | ⟨hh, _⟩ <;> simp [Quiet, Removing, hh]
  have hnj : ∀ m c, y.handler ≠ .joined m c := by
    rcases hh with hh | hh | ⟨hh, _⟩ <;> simp [hh]
  refine h.modify hy huser (fun hc => hclosed ▸ hc) (fun _ => hacc) (.inr ⟨hq, hq'⟩) ?_
    (fun hc => ⟨hcb.trans (h.opened i (hclosed ▸ hc)).waiting, fun hm => absurd hym hm,
      fun _ => .inl hym, fun hst => ?_, fun m hm => ?_⟩) (fun _ _ _ => hym)
    (fun m hu hm => ?_) (fun m hu hm => absurd hu (hsafe m hm)) fun m hne he => ?_
  · rcases hh with hh | hh | ⟨hh, _⟩ <;> simp only [HandlerOk, hh] <;> exact hym
  · rcases hh with hh | hh | ⟨_, hh⟩
    · exact .inr (.inl (.inl hh))
    · exact .inr (.inl (.inr hh))
    · exact absurd hst hh
  · rcases hm with ⟨c, hj⟩ | ⟨hj, _⟩
    · exact absurd hj (hnj m c)
    · rcases hh with hh | hh | ⟨hh, _⟩ <;> simp [hh] at hj
  · rcases hm with ⟨hm, _⟩ | ⟨c, hj⟩
    · exact absurd (hm.symm.trans hym) (h.store.ne_empty hu)
    · exact absurd hj (hnj m c)
  · rcases he with ⟨hm, _⟩ | hc | hl | ⟨c, hj⟩
    · exact absurd (hm.symm.trans hym) hne
    · exact .inr (.inl (hcb ▸ hc))
    · rcases hh with hh | hh | ⟨hh, _⟩ <;> simp [hh] at hl
    · exact absurd hj (hnj m c)

/-! ## The part of a kick after its store call -/

theorem kickFind_inv {s : Server} (h : Inv s) {i : Nat} {m u : String}
    (hx : (s.sessions i).handler = .kickFind m u) (hok : ∀ k, s.manager.getByUser u = some k →
      Holds (s.sessions k) m → (s.sessions k).userID = u) :
    Inv (match s.manager.getByUser u with
      | some k => s.goto i (.kickCheck m k)
      | none => s.goto i .idle) := by
  have hself := h.handler i
  simp only [HandlerOk, hx] at hself
  obtain ⟨⟨hm, hu⟩, hmem⟩ := hself
  have hacc : s.Accepted i := h.accepted i (.inl (by simp [hx]))
  have hl : loose (s.sessions i).handler = true := by rw [hx]; rfl
  have hfound : ∀ k, (s.sessions k).closed = false →
      Removing (s.sessions i).handler k (s.sessions k).userID (s.sessions k).meetingID →
      s.manager.getByUser u = some k ∧ (s.sessions k).meetingID = m := by
    intro k hc hr
    simp only [Removing, hx, Handler.kickFind.injEq, reduceCtorEq, or_false] at hr
    have hby := h.byUser k hc (hr.2 ▸ hu)
    rw [← hr.2] at hby
    exact ⟨hby, hr.1.symm⟩
  have hset : ∀ k, ¬ Settling (s.sessions i).handler k := by simp [Settling, hx]
  split
  · rename_i k hk
    refine h.gotoLoose hacc hl rfl ⟨hm, fun hh => hok k hk hh ▸ hmem⟩ (by simp) (by simp)
      (fun l hc _ hr => ?_) (fun l _ hs => absurd hs (hset l)) fun l m' hc he => ⟨?_, (by simp)⟩
    · obtain ⟨hl, hlm⟩ := hfound l hc hr
      obtain rfl : k = l := Option.some.inj (hk.symm.trans hl)
      exact .inr (.inl (by rw [hlm]))
    · simp only [Removing, reduceCtorEq, Handler.kickCheck.injEq, false_or, or_false, not_and]
      rintro rfl rfl
      have huser := hok k hk (he.holds (h.opened k hc).waiting)
      exact ((h.opened k hc).unkicked m he i).1 (.inl (by rw [hx, huser]))
  · rename_i hnone
    refine h.gotoLoose hacc hl rfl trivial (by simp) (by simp) (fun l hc _ hr => ?_)
      (fun l _ hs => absurd hs (hset l)) fun l m' _ _ => by simp [Removing]
    rw [(hfound l hc hr).1] at hnone
    cases hnone

theorem kickCheck_inv {s : Server} (h : Inv s) {i k : Nat} {m : String}
    (hx : (s.sessions i).handler = .kickCheck m k) :
    Inv (if (s.sessions k).meetingID = m then s.goto i (.kickReset k) else s.goto i .idle) := by
  have hself := h.handler i
  simp only [HandlerOk, hx] at hself
  obtain ⟨hm, hsafe⟩ := hself
  have hacc : s.Accepted i := h.accepted i (.inl (by simp [hx]))
  have hl : loose (s.sessions i).handler = true := by rw [hx]; rfl
  have hset : ∀ k, ¬ Settling (s.sessions i).handler k := by simp [Settling, hx]
  have hnj : (s.sessions k).meetingID = m → ∀ m' c, (s.sessions k).handler ≠ .joined m' c := by
    intro hkm m' c hj
    have hkok := h.handler k
    simp only [HandlerOk, hj] at hkok
    exact hm (hkm.symm.trans hkok.1.1.meetingID)
  split
  · rename_i hkm
    refine h.gotoLoose hacc hl rfl (fun m' hm' => ?_) (by simp) (by simp) (fun l _ _ hr => ?_)
      (fun l _ hs => absurd hs (hset l)) fun l m' hc he => ⟨?_, (by simp)⟩
    · obtain rfl : m = m' := by
        rcases hm' with ⟨hm', _⟩ | ⟨c, hj⟩
        · exact hkm.symm.trans hm'
        · exact absurd hj (hnj hkm m' c)
      exact hsafe hm'
    · simp only [Removing, hx, reduceCtorEq, Handler.kickCheck.injEq, false_or, or_false] at hr
      exact .inr (.inr (by rw [hr.2]))
    · simp only [Removing, reduceCtorEq, Handler.kickReset.injEq, false_or]
      rintro rfl
      obtain rfl : m = m' := by
        rcases he with ⟨c, hj⟩ | ⟨_, hm'⟩
        · exact absurd hj (hnj hkm m' c)
        · exact hkm.symm.trans hm'
      exact ((h.opened k hc).unkicked m he i).1 (.inr (.inl hx))
  · rename_i hkm
    refine h.gotoLoose hacc hl rfl trivial (by simp) (by simp) (fun l _ _ hr => ?_)
      (fun l _ hs => absurd hs (hset l)) fun l m' _ _ => by simp [Removing]
    simp only [Removing, hx, reduceCtorEq, Handler.kickCheck.injEq, false_or, or_false] at hr
    exact absurd (hr.2 ▸ hr.1.symm) hkm

/-- A kick resets the meeting of the session it has found. -/
theorem kickReset_inv {s : Server} (h : Inv s) {i k : Nat}
    (hx : (s.sessions i).handler = .kickReset k) :
    Inv ((s.setMeetingID k "").goto i (.kickState k)) := by
  have hsafe := h.handler i
  simp only [HandlerOk, hx] at hsafe
  have hnot : (s.sessions k).closed = false → ∀ m, ¬ Entering (s.sessions k) m := fun hc m hm =>
    ((h.opened k hc).unkicked m hm i).1 (.inr (.inr hx))
  have hreset : Inv (s.setMeetingID k "") := by
    have holds : ∀ m, IsMember s.store m (s.sessions k).userID →
        Holds { s.sessions k with meetingID := "" } m → Holds (s.sessions k) m := by
      rintro m hu (⟨hm, _⟩ | hj)
      · exact absurd hm.symm (h.store.ne_empty hu)
      · exact .inr hj
    refine h.modify rfl rfl id (fun hk => h.accepted k (hk.imp_right fun hne => absurd rfl hne))
      (.inl rfl) ?_ (fun hc => ⟨(h.opened k hc).waiting, fun hm => absurd rfl hm, fun _ => .inl rfl,
        fun _ => .inr (.inr ⟨i, .inl hx⟩), fun m hm => ?_⟩) (fun _ _ _ => rfl) holds
      (fun m hu hm => absurd hu (hsafe m hm)) fun m hne he => ?_
    · exact (h.handler k).beside (fun _ _ => id) (fun _ _ _ _ => id) rfl rfl id (.inr rfl)
        (fun ho => ⟨rfl, ho.state, ho.leaveRead, ho.leaveStore⟩) (fun _ hcb => hcb)
        (fun he hc _ => absurd (.inr ⟨he, rfl⟩) (hnot hc _)) (fun _ _ => rfl) holds
    · rcases hm with hj | ⟨he, _⟩
      · exact absurd (.inl hj) (hnot hc m)
      · exact absurd (.inr ⟨he, rfl⟩) (hnot hc _)
    · rcases he with ⟨hm, _⟩ | hrest
      · exact absurd hm.symm hne
      · exact .inr hrest
  have hk : (s.setMeetingID k "").sessions k = { s.sessions k with meetingID := "" } := by
    simp [Server.setMeetingID, Server.modify]
  have hx' : ((s.setMeetingID k "").sessions i).handler = .kickReset k := by
    by_cases hik : i = k
    · rw [hik, hk, ← hx, hik]
    · rw [← hx]
      simp [Server.setMeetingID, Server.modify, hik]
  refine hreset.gotoLoose (h.accepted i (.inl (by simp [hx]))) (by rw [hx']; rfl) rfl
    (fun _ => by rw [hk]) (by simp) (by simp) (fun l _ hne hr => ?_) (fun l _ hs _ _ => ?_)
    fun l m hc he => ⟨by simp [Removing], ?_⟩
  · simp only [Removing, hx', reduceCtorEq, Handler.kickReset.injEq, false_or] at hr
    rw [← hr, hk] at hne
    exact absurd rfl hne
  · simp only [Settling, hx', Handler.kickReset.injEq, reduceCtorEq, or_false] at hs
    exact .inr (by rw [hs])
  · rintro ⟨⟩
    exact ((hreset.opened k hc).unkicked m he i).1 (.inr (.inr hx'))

theorem kickState_inv {s : Server} (h : Inv s) {i k : Nat}
    (hx : (s.sessions i).handler = .kickState k) :
    Inv ((s.setState k .authenticated).goto i .idle) := by
  have hm : (s.sessions k).closed = false → (s.sessions k).meetingID = "" :=
    (h.handler i).kickState hx
  have hset : Inv (s.setState k .authenticated) := by
    refine h.modify rfl rfl id (h.accepted k) (.inl rfl) ?_ (fun hc => ?_)
      (fun t ht hc => (h.handler t).kickState ht hc) (fun _ _ hm => hm) (fun _ _ hm => hm)
      fun _ _ he => he
    · exact (h.handler k).beside (fun _ _ => id) (fun _ _ _ _ => id) rfl rfl id (.inl rfl)
        (fun ho => ⟨ho.meetingID, fun _ => (by simp), ho.leaveRead, ho.leaveStore⟩) (fun _ hcb => hcb)
        (fun _ _ hne => hne) (fun ht hc => (h.handler k).kickState ht hc) fun _ _ hm => hm
    · exact ⟨(h.opened k hc).waiting, (h.opened k hc).member, fun _ => .inl (hm hc), (by simp),
        (h.opened k hc).unkicked⟩
  have hk : (s.setState k .authenticated).sessions k =
      { s.sessions k with state := .authenticated } := by
    simp [Server.setState, Server.modify]
  have hx' : ((s.setState k .authenticated).sessions i).handler = .kickState k := by
    by_cases hik : i = k
    · rw [hik, hk, ← hx, hik]
    · rw [← hx]
      simp [Server.setState, Server.modify, hik]
  refine hset.gotoLoose (h.accepted i (.inl (by simp [hx]))) (by rw [hx']; rfl) rfl trivial (by simp)
    (by simp) (fun l _ _ hr => ?_) (fun l _ hs hst _ => ?_) fun l m _ _ => by simp [Removing]
  · simp [Removing, hx'] at hr
  · simp only [Settling, hx', reduceCtorEq, Handler.kickState.injEq, false_or] at hs
    rw [← hs, hk] at hst
    cases hst

/-! ## Steps of a handler that write the store -/

/-- `LeaveMeeting` in `leave`. -/
theorem leaveStore_inv {s : Server} (h : Inv s) {i : Nat} {m : String}
    (hx : (s.sessions i).handler = .leaveStore m) :
    Inv (s.leaveMeeting i m (s.sessions i).userID .leaveReset) := by
  obtain ⟨hstore, hmem, herr⟩ := leaveMeeting_spec h.store m (s.sessions i).userID
  have hm := h.handler i
  simp only [HandlerOk, hx] at hm
  have hacc : s.Accepted i := h.accepted i (.inl (by simp [hx]))
  have hengaged : Engaged (s.sessions i) m := .inr (.inr (.inl hx))
  have hq : Quiet (s.sessions i).handler := by simp [Quiet, Removing, hx]
  have hq' : Quiet .leaveReset := by simp [Quiet, Removing]
  have hl : loose (s.sessions i).handler = true := by rw [hx]; rfl
  simp only [Server.leaveMeeting]
  split
  · refine h.put rfl rfl rfl hstore (fun m' u hu => ((hmem m' u).mp hu).1) rfl id (fun _ => hacc) ?_
      (fun hc => ?_) (fun k hki hk => ?_) (fun k m' c hki hj _ hu => ?_)
      (fun t _ ht hc => (h.handler t).kickState ht hc) (fun m' _ hm' => hm'.of_eq rfl rfl (by simp))
      (fun m' _ hm' => hm'.of_eq rfl rfl (by simp [hx]))
      fun m' _ he => he.of_eq rfl rfl (by simp) (by simp) (by simp)
    · rintro m' (⟨hm', _⟩ | ⟨c, hj⟩) hu
      · rcases hm with hm | hm
        · exact ((hmem m' _).mp hu).2 ⟨hm'.symm.trans hm, rfl⟩
        · exact hstore.ne_empty hu (hm'.symm.trans hm)
      · cases hj
    · have hloose : OpenOk s.store s.sessions i { s.sessions i with handler := .idle } :=
        (h.opened i hc).goto_loose hl rfl
      have hself : OpenOk (s.store.leaveMeeting m (s.sessions i).userID).1 s.sessions i
          { s.sessions i with handler := .leaveReset } := by
        refine ⟨hloose.waiting, fun _ => .inr (.inl rfl), fun hst => ?_, fun hst => ?_,
          fun m' he => ?_⟩
        · exact (hloose.outside hst).imp_right (by simp)
        · exact (hloose.inside hst).imp_right (.inr <| ·.resolve_left (by simp))
        · rcases he with ⟨c, hj⟩ | ⟨hj, _⟩ <;> cases hj
      exact hself.frame_quiet (fun _ => id) (.inr ⟨hq, hq'⟩)
    · exact (h.opened k hk).frame_quiet (fun _ hu => (hmem _ _).mpr
        ⟨hu, h.not_lost hengaged hki (h.opened k hk).engaged hu⟩) (.inr ⟨hq, hq'⟩)
    · exact (hmem m' _).mpr ⟨hu, h.not_lost hengaged hki (.inr (.inr (.inr ⟨c, hj⟩))) hu⟩
  · rename_i e he
    rw [herr e he]
    exact h.goto hacc (by rw [hx]; rfl) rfl trivial (by simp) (by simp)

/-- `rollbackCreate` takes the user out again. -/
theorem rollbackCreate_inv {s : Server} (h : Inv s) {i : Nat} {m : String}
    (hx : (s.sessions i).handler = .joined m true) : Inv (s.rollbackCreate i m) := by
  have hok := h.handler i
  simp only [HandlerOk, hx] at hok
  obtain ⟨⟨ho, hcb⟩, hm, hu, -⟩ := hok
  obtain ⟨hstore, hmem, -⟩ := leaveMeeting_spec h.store m (s.sessions i).userID
  have hengaged : Engaged (s.sessions i) m := .inr (.inr (.inr ⟨true, hx⟩))
  have hq : Quiet (s.sessions i).handler := by simp [Quiet, Removing, hx]
  have hq' : Quiet .idle := by simp [Quiet, Removing]
  have hinv : Inv ({ s with store := (s.store.leaveMeeting m (s.sessions i).userID).1 }.goto i
      .idle) := by
    refine h.put rfl rfl rfl hstore (fun m' u hu => ((hmem m' u).mp hu).1) rfl id
      (fun hk => h.accepted i (.inl (by simp [hx]))) trivial (fun hc => ?_) (fun k hki hk => ?_)
      (fun k m' c hki hj _ hu => ?_) (fun t _ ht hc => (h.handler t).kickState ht hc)
      (fun m' _ hm' => hm'.of_eq rfl rfl (by simp)) (fun m' hu' hm' => ?_)
      fun m' _ he => he.of_eq rfl rfl (by simp) (by simp) (by simp)
    · exact Outside.open_ok ⟨ho.meetingID, ho.state, ho.leaveRead, ho.leaveStore⟩ hc hcb rfl
    · exact (h.opened k hk).frame_quiet (fun _ hu => (hmem _ _).mpr
        ⟨hu, h.not_lost hengaged hki (h.opened k hk).engaged hu⟩) (.inr ⟨hq, hq'⟩)
    · exact (hmem m' _).mpr ⟨hu, h.not_lost hengaged hki (.inr (.inr (.inr ⟨c, hj⟩))) hu⟩
    · rcases hm' with hm' | ⟨c, hj⟩
      · exact .inl hm'
      · rw [hx, Handler.joined.injEq] at hj
        exact absurd ⟨hj.1.symm, rfl⟩ ((hmem m' _).mp hu').2
  rw [Server.rollbackCreate, if_neg (by simp [hm, hu]), Server.leaveMeeting]
  dsimp only
  split <;> exact hinv

/-- `LeaveMeeting` in a kick. -/
theorem kickLeave_inv {s : Server} (h : Inv s) {i : Nat} {m u : String}
    (hx : (s.sessions i).handler = .kickLeave m u)
    (hok : ∀ k, (s.sessions k).closed = false → (s.sessions k).userID = u →
      ¬ Entering (s.sessions k) m) : Inv (s.leaveMeeting i m u (.kickFind m u)) := by
  obtain ⟨hstore, hmem, herr⟩ := leaveMeeting_spec h.store m u
  have hself := h.handler i
  simp only [HandlerOk, hx] at hself
  have hacc : s.Accepted i := h.accepted i (.inl (by simp [hx]))
  have hq : Quiet (s.sessions i).handler := by simp [Quiet, Removing, hx]
  have hl : loose (s.sessions i).handler = true := by rw [hx]; rfl
  have hframe : ∀ k z, OpenOk s.store s.sessions k z →
      (∀ m', Entering z m' → Entering (s.sessions k) m') → z.userID = (s.sessions k).userID →
      (s.sessions k).closed = false →
      OpenOk (s.store.leaveMeeting m u).1
        (Function.update s.sessions i { s.sessions i with handler := .kickFind m u }) k z := by
    intro k z hz hent hzu hc
    refine hz.frame (fun _ hu => ?_) (fun _ hr => absurd hr (hq _ _ _).1)
      (fun hs => absurd hs (hq.not_settling k)) fun m' he => ⟨?_, (by simp)⟩
    · by_cases hlost : z.meetingID = m ∧ z.userID = u
      · exact .inr (.inl (by rw [hlost.1, hlost.2]))
      · exact .inl ((hmem _ _).mpr ⟨hu, hlost⟩)
    · simp only [Removing, Handler.kickFind.injEq, reduceCtorEq, or_false, not_and]
      rintro rfl rfl
      exact hok k hc hzu.symm (hent m he)
  simp only [Server.leaveMeeting]
  split
  · refine h.put rfl rfl rfl hstore (fun m' u' hu => ((hmem m' u').mp hu).1) rfl id (fun _ => hacc)
      ⟨hself, fun hu => ((hmem m u).mp hu).2 ⟨rfl, rfl⟩⟩ (fun hc => ?_) (fun k _ hc => ?_)
      (fun k m' c _ hj hc hu => (hmem m' _).mpr ⟨hu, ?_⟩)
      (fun t _ ht hc => (h.handler t).kickState ht hc) (fun m' _ hm' => hm'.of_eq rfl rfl (by simp))
      (fun m' _ hm' => hm'.of_eq rfl rfl (by simp [hx]))
      fun m' _ he => he.of_eq rfl rfl (by simp) (by simp) (by simp)
    · refine hframe i _ ((h.opened i hc).goto_loose hl rfl) (fun m' he => ?_) rfl hc
      rcases he with ⟨c, hj⟩ | ⟨hj, _⟩ <;> cases hj
    · exact hframe k _ (h.opened k hc) (fun _ => id) rfl hc
    · rintro ⟨rfl, hu⟩
      exact hok k hc hu (.inl ⟨c, hj⟩)
  · rename_i e he
    rw [herr e he]
    exact h.goto hacc (by rw [hx]; rfl) rfl trivial (by simp) (by simp)

/-- Another handler, after session `i` has added its user to `m`. -/
theorem HandlerOk.enter {s : Server} {i : Nat} {m : String} {c : Bool} {st : MemoryStore}
    {x : SessionTasks} (h : HandlerOk s.store s.sessions x) (hmay : MayEnter s i m)
    (ho : Outside (s.sessions i)) (hstore : StoreOk st)
    (hmem : ∀ m' u, IsMember st m' u ↔
      IsMember s.store m' u ∨ (m' = m ∧ u = (s.sessions i).userID))
    {t : Nat} (ht : x = s.sessions t) (hti : t ≠ i) :
    HandlerOk st (Function.update s.sessions i { s.sessions i with handler := .joined m c }) x := by
  have hother : ∀ k m', k ≠ i → (Holds (s.sessions k) m' → ¬ IsMember s.store m' (s.sessions k).userID) →
      Holds (s.sessions k) m' → ¬ IsMember st m' (s.sessions k).userID := by
    intro k m' hki hk hh hu
    rcases (hmem m' _).mp hu with hu | ⟨rfl, hu⟩
    · exact hk hh hu
    · exact hmay.alone k hki hu hh.engaged
  have hself : ∀ m', Holds { s.sessions i with handler := .joined m c } m' →
      IsMember st m' (s.sessions i).userID → m' = m := by
    rintro m' (⟨hm', _⟩ | ⟨c', hj⟩) hu
    · exact absurd (hm'.symm.trans ho.meetingID) (hstore.ne_empty hu)
    · exact (Handler.joined.inj hj).1.symm
  have hkick : ¬ Removing x.handler i (s.sessions i).userID m := ht ▸ hmay.unkicked t
  unfold HandlerOk at h ⊢
  split <;> rename_i heq <;> simp only [heq] at h <;> try exact h
  · exact ⟨h.1, h.2.1, h.2.2.1, fun hc => (hmem _ _).mpr (.inl (h.2.2.2 hc))⟩
  · subst ht
    exact fun m' hm' => hother t m' hti (h m') hm'
  · refine ⟨h.1, fun hu => ?_⟩
    rcases (hmem _ _).mp hu with hu | ⟨rfl, rfl⟩
    · exact h.2 hu
    · exact hkick (.inl heq)
  · rename_i m' k
    refine ⟨h.1, fun hh hu => ?_⟩
    by_cases hki : k = i
    · subst hki
      rw [Function.update_self] at hh hu
      obtain rfl := hself m' hh hu
      exact hkick (.inr (.inl heq))
    · rw [Function.update_of_ne hki] at hh hu
      exact hother k m' hki h.2 hh hu
  · rename_i k
    intro m' hh hu
    by_cases hki : k = i
    · subst hki
      exact hkick (.inr (.inr heq))
    · rw [Function.update_of_ne hki] at hh hu
      exact hother k m' hki (h m') hh hu
  · rename_i k
    by_cases hki : k = i
    · subst hki
      rw [Function.update_self]
      exact h
    · rw [Function.update_of_ne hki]
      exact h

/-- A create or a join adds the user to the meeting. -/
theorem Inv.enter {s : Server} (h : Inv s) {i : Nat} {m : String} {c : Bool} {st : MemoryStore}
    (hp : plain (s.sessions i).handler = true) (hacc : s.Accepted i)
    (ho : Outside (s.sessions i)) (hcb : (s.sessions i).callback = .waiting)
    (hmay : MayEnter s i m) (hm : m ≠ "") (hcu : c = true → (s.sessions i).userID ≠ "")
    (hstore : StoreOk st)
    (hmem : ∀ m' u, IsMember st m' u ↔
      IsMember s.store m' u ∨ (m' = m ∧ u = (s.sessions i).userID)) :
    Inv ({ s with store := st }.goto i (.joined m c)) := by
  have hat : (({ s with store := st }.goto i (.joined m c)).sessions i) =
      { s.sessions i with handler := .joined m c } := Function.update_self ..
  have hne : ∀ k, k ≠ i → ({ s with store := st }.goto i (.joined m c)).sessions k = s.sessions k :=
    fun k hk => Function.update_of_ne hk ..
  have huser : ∀ k, (({ s with store := st }.goto i (.joined m c)).sessions k).userID =
      (s.sessions k).userID := by
    intro k
    by_cases hk : k = i
    · rw [hk, hat]
    · rw [hne k hk]
  have hengaged : ∀ m', m' ≠ "" → Engaged { s.sessions i with handler := .joined m c } m' →
      m' = m := by
    rintro m' hne (⟨hm', _⟩ | hc | hl | ⟨c', hj⟩)
    · exact absurd (hm'.symm.trans ho.meetingID) hne
    · exact absurd hc (ho.leaveStore m')
    · cases hl
    · exact (Handler.joined.inj hj).1.symm
  refine ⟨hstore, fun k hk => ?_, fun k hc hu => ?_, fun k => ?_, fun k hc => ?_, fun m' u hu => ?_,
    fun k l m' hm' hu hk hl => ?_⟩
  · by_cases hki : k = i
    · exact hki ▸ hacc
    · rw [hne k hki] at hk
      exact h.accepted k hk
  · rw [huser] at hu ⊢
    refine h.byUser k ?_ hu
    by_cases hki : k = i
    · rw [hki, hat] at hc
      exact hki ▸ hc
    · rwa [hne k hki] at hc
  · by_cases hki : k = i
    · rw [hki, hat]
      exact ⟨⟨⟨ho.meetingID, ho.state, ho.leaveRead, ho.leaveStore⟩, hcb⟩, hm, hcu,
        fun _ => (hmem m _).mpr (.inr ⟨rfl, rfl⟩)⟩
    · rw [hne k hki]
      exact (h.handler k).enter hmay ho hstore hmem rfl hki
  · by_cases hki : k = i
    · subst hki
      rw [hat] at hc ⊢
      refine ⟨hcb, fun hm' => absurd ho.meetingID hm', fun _ => .inl ho.meetingID,
        fun hst => absurd hst (ho.state hc), fun m' he t => ?_⟩
      obtain rfl : m' = m := by
        rcases he with ⟨c', hj⟩ | ⟨hj, _⟩
        · exact (Handler.joined.inj hj).1.symm
        · cases hj
      by_cases htk : t = k
      · rw [htk, hat]
        simp [Removing]
      · rw [hne t htk]
        exact ⟨hmay.unkicked t, hmay.settled hc t⟩
    · rw [hne k hki] at hc ⊢
      refine (h.opened k hc).frame_quiet (fun _ hu => (hmem _ _).mpr (.inl hu))
        (.inr ⟨quiet_of_plain hp, ?_⟩)
      simp [Quiet, Removing]
  · rcases (hmem m' u).mp hu with hu | ⟨rfl, rfl⟩
    · obtain ⟨k, rfl, hk⟩ := h.holder m' u hu
      refine ⟨k, huser k, ?_⟩
      by_cases hki : k = i
      · subst hki
        rw [hat]
        rcases hk with hk | ⟨c', hj⟩
        · exact .inl hk
        · rw [hj] at hp
          cases hp
      · rwa [hne k hki]
    · exact ⟨i, huser i, by rw [hat]; exact .inr ⟨c, rfl⟩⟩
  · refine h.unique_changed hne (fun t n hti hn ht hself => ?_) k l m' hm' hu hk hl
    rw [huser] at ht
    rw [hat] at hself
    obtain rfl := hengaged n hn hself
    exact hmay.alone t hti ht.symm

theorem createMeeting_inv {s : Server} (h : Inv s) {i : Nat} {title password : String}
    {maxParticipants : Int} {env : Server.Env}
    (hx : (s.sessions i).handler = .createStore title password maxParticipants)
    (hmay : MayEnter s i env.meetingID) :
    Inv (s.createMeeting i env title password maxParticipants) := by
  have hok := h.handler i
  simp only [HandlerOk, hx] at hok
  have hacc : s.Accepted i := h.accepted i (.inl (by simp [hx]))
  have hp : plain (s.sessions i).handler = true := by rw [hx]; rfl
  simp only [Server.createMeeting]
  split
  · exact h
  · rename_i hfresh
    rw [not_or] at hfresh
    have hmax : 0 < if maxParticipants ≤ 0 then 16 else maxParticipants := by split <;> omega
    obtain ⟨hstore, hres⟩ := createMeetingAt_spec h.store hfresh.1 (by simpa using hfresh.2) title
      password (s.sessions i).userID env.now hmax
    split <;> rename_i heq <;> simp only [heq] at hres
    · obtain ⟨hid, hu, hmem⟩ := hres
      rw [hid]
      exact h.enter hp hacc hok.1 hok.2 hmay hfresh.1 (fun _ => hu) hstore hmem
    · rw [hres]
      exact h.goto hacc hp rfl trivial (by simp) (by simp)

theorem joinMeeting_inv {s : Server} (h : Inv s) {i : Nat} {m password : String}
    (hx : (s.sessions i).handler = .joinStore m password) (hmay : MayEnter s i m) :
    Inv (s.joinMeeting i m password) := by
  have hok := h.handler i
  simp only [HandlerOk, hx] at hok
  have hacc : s.Accepted i := h.accepted i (.inl (by simp [hx]))
  have hp : plain (s.sessions i).handler = true := by rw [hx]; rfl
  obtain ⟨hstore, hres⟩ := joinMeeting_spec h.store m password (s.sessions i).userID
  simp only [Server.joinMeeting]
  split <;> rename_i heq <;> simp only [heq] at hres
  · obtain ⟨hid, hm, hmem⟩ := hres
    rw [hid]
    exact h.enter hp hacc hok.1 hok.2 hmay hm (by simp) hstore hmem
  · rw [hres]
    exact h.goto hacc hp rfl trivial (by simp) (by simp)

/-! ## Logging in -/

/-- `BindUser`, when no other session of the user is open. -/
theorem Inv.bind {s s' : Server} (h : Inv s) {i : Nat} {u : String}
    (hx : (s.sessions i).handler = .loginBind u)
    (halone : ∀ k, k ≠ i → (s.sessions k).closed = false → (s.sessions k).userID ≠ u)
    (hs : s'.sessions = Function.update s.sessions i
      { s.sessions i with userID := u, handler := .loginState })
    (hman : s'.manager.byUser = Function.update s.manager.byUser u (some i))
    (hstore : s'.store = s.store) (hnext : s'.nextID = s.nextID) : Inv s' := by
  have hok := h.handler i
  simp only [HandlerOk, hx] at hok
  obtain ⟨hu, ho⟩ := hok
  have hat : s'.sessions i = { s.sessions i with userID := u, handler := .loginState } := by
    rw [hs, Function.update_self]
  have hne : ∀ k, k ≠ i → s'.sessions k = s.sessions k := fun k hk => by
    rw [hs, Function.update_of_ne hk]
  have ho' : Outside (s'.sessions i) := by
    rw [hat]
    exact ⟨ho.meetingID, ho.state, ho.leaveRead, ho.leaveStore⟩
  have hengaged : ∀ m, m ≠ "" → ¬ Engaged (s'.sessions i) m := by
    rintro m hm (⟨hm', _⟩ | hc | hl | ⟨c, hj⟩)
    · exact hm (hm'.symm.trans ho'.meetingID)
    · exact ho'.leaveStore m hc
    · rw [hat] at hl
      cases hl
    · rw [hat] at hj
      cases hj
  refine ⟨hstore ▸ h.store, fun k hk => ?_, fun k hc hku => ?_, fun k => ?_, fun k hc => ?_,
    fun m v hv => ?_, fun k l m hm hkl hk hl => ?_⟩
  · have hacc : s.Accepted k := by
      by_cases hki : k = i
      · exact hki ▸ h.accepted i (.inl (by simp [hx]))
      · rw [hne k hki] at hk
        exact h.accepted k hk
    exact ⟨hacc.1, hnext ▸ hacc.2⟩
  · rw [hman]
    by_cases hki : k = i
    · rw [hki, hat, Function.update_self]
    · rw [hne k hki] at hc hku ⊢
      rw [Function.update_of_ne (halone k hki hc)]
      exact h.byUser k hc hku
  · by_cases hki : k = i
    · rw [hki, hat, HandlerOk]
      exact ⟨ho.meetingID, ho.state, ho.leaveRead, ho.leaveStore⟩
    · rw [hne k hki, hs, hstore]
      refine (h.handler k).frame (fun _ _ => id) (fun m hm hv => ?_) (fun _ _ => ho.meetingID)
        fun _ _ _ _ => id
      rw [← hat] at hm
      exact absurd hm.engaged (hengaged m (h.store.ne_empty hv))
  · by_cases hki : k = i
    · subst hki
      refine ho'.open_ok hc ?_ (by rw [hat]; rfl)
      rw [hat] at hc ⊢
      exact (h.opened k hc).waiting
    · rw [hne k hki] at hc ⊢
      rw [hs, hstore]
      refine (h.opened k hc).frame_quiet (fun _ => id) (.inr ⟨?_, ?_⟩)
      · simp [Quiet, Removing, hx]
      · simp [Quiet, Removing]
  · rw [hstore] at hv
    obtain ⟨k, rfl, hk⟩ := h.holder m v hv
    have hki : k ≠ i := by
      rintro rfl
      rcases hk with ⟨hm, _⟩ | ⟨c, hj⟩
      · exact h.store.ne_empty hv (hm.symm.trans ho.meetingID)
      · rw [hx] at hj
        cases hj
    exact ⟨k, by rw [hne k hki], by rwa [hne k hki]⟩
  · exact h.unique_changed hne (fun _ m _ hm _ hi => absurd hi (hengaged m hm)) k l m hm hkl hk hl

theorem loginBind_inv {s : Server} (h : Inv s) {i : Nat} {u : String}
    (hx : (s.sessions i).handler = .loginBind u) : Inv ((s.bindUser i u).goto i .loginState) := by
  have hok := h.handler i
  simp only [HandlerOk, hx] at hok
  simp only [Server.bindUser]
  cases hold : (s.manager.bindUser i u).2 with
  | none =>
    refine h.bind hx (fun k hki hc hku => ?_) ?_ ?_ rfl rfl
    · have := bindUser_old i (hku ▸ h.byUser k hc (hku ▸ hok.1)) hki
      rw [hold] at this
      cases this
    · simp [Server.goto, Server.setUserID, Server.modify]
    · rfl
  | some k =>
    have hki := bindUser_old_ne hold
    refine (close_inv h k).bind (i := i) (u := u) ?_ (fun l hli hc hlu => ?_) ?_ rfl rfl rfl
    · simp [Server.close, Server.modify, hki.symm, hx]
    · have hlk : l ≠ k := by
        rintro rfl
        simp [Server.close, Server.modify] at hc
      simp only [Server.close, Server.modify, Function.update_of_ne hlk] at hc hlu
      have := bindUser_old i (hlu ▸ h.byUser l hc (hlu ▸ hok.1)) hli
      rw [hold, Option.some.injEq] at this
      exact hlk this.symm
    · simp only [Server.goto, Server.setUserID, Server.close, Server.modify,
        Function.update_of_ne hki, Function.update_of_ne hki.symm, Function.update_self]
      rw [Function.update_comm hki.symm, Function.update_idem]

end MeetingSystem.Proof.Signaling.Membership
