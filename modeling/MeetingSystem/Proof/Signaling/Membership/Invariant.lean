import MeetingSystem.Impl.Signaling.Server
import MeetingSystem.Proof.Store.Membership

/-!
# Sessions and membership

At rest, a user should be a participant of a meeting exactly if an open session
of the user is in it (`Consistent`). The handlers and the close callback write
the store and the session in separate steps, and `NotOvertaken` says that a
step does not fall between two such writes of another party.

* `Inv`: what holds between the steps: `HandlerOk` for every place a handler
  can be at, `OpenOk` for every open session, a session that accounts for every
  membership (`Holds`), and at most one session that may yet end it (`Engaged`);
* `Inv.consistent`: at rest this is consistency;
* `Inv.put`, `Inv.modify`: a step that changes one session.
-/

namespace MeetingSystem.Proof.Signaling.Membership

open MeetingSystem.Impl.Store MeetingSystem.Impl.Signaling MeetingSystem.Proof.Store

/-! ## What is claimed, and when it holds -/

/-- No handler and no close callback is in progress. -/
def AtRest (s : Server) : Prop :=
  ∀ i, (s.sessions i).handler = .idle ∧
    ((s.sessions i).closed = true → (s.sessions i).callback = .done)

/-- The session is open, bound to the user and in the meeting. -/
structure InMeeting (x : SessionTasks) (u m : String) : Prop where
  isOpen : x.closed = false
  userID : x.userID = u
  state : x.state = .inMeeting
  meetingID : x.meetingID = m

/-- The participants of a meeting are the users of the open sessions in it. -/
def Consistent (s : Server) : Prop :=
  ∀ u m, IsMember s.store m u ↔ ∃ i, s.Accepted i ∧ InMeeting (s.sessions i) u m

/-- The session accounts for its user's membership of the meeting: it names
the meeting, and its close callback has yet to take the user out, or its join
is about to name it. -/
def Holds (x : SessionTasks) (m : String) : Prop :=
  (x.meetingID = m ∧
    (x.callback = .waiting ∨ x.callback = .leaveRead ∨ x.callback = .leaveStore m)) ∨
  ∃ created, x.handler = .joined m created

/-- The session may yet take its user out of the meeting. -/
def Engaged (x : SessionTasks) (m : String) : Prop :=
  (x.meetingID = m ∧
    (x.callback = .waiting ∨ x.callback = .leaveRead ∨ x.handler = .leaveRead)) ∨
  x.callback = .leaveStore m ∨ x.handler = .leaveStore m ∨ ∃ created, x.handler = .joined m created

/-- The session's join has written the store, and not yet its state. -/
def Entering (x : SessionTasks) (m : String) : Prop :=
  (∃ created, x.handler = .joined m created) ∨ (x.handler = .entering ∧ x.meetingID = m)

/-- The handler has kicked user `u` out of `m` and is about to make session `k`
of the user forget it. -/
def Removing (h : Handler) (k : Nat) (u m : String) : Prop :=
  h = .kickFind m u ∨ h = .kickCheck m k ∨ h = .kickReset k

/-- Session `i` may add its user to `m`: no other session of the user may yet
take the user out again, and no kick that is in progress takes it for the
session it has to reset. -/
structure MayEnter (s : Server) (i : Nat) (m : String) : Prop where
  alone : ∀ k, k ≠ i → (s.sessions k).userID = (s.sessions i).userID → ¬ Engaged (s.sessions k) m
  unkicked : ∀ t, ¬ Removing (s.sessions t).handler i (s.sessions i).userID m
  settled : (s.sessions i).closed = false → ∀ t, (s.sessions t).handler ≠ .kickState i

/-- A create or a join is in progress that may yet name a meeting. -/
def Joining : Handler → Prop
  | .createStore _ _ _ | .joinStore _ _ | .joined _ _ => True
  | _ => False

/-- The step does not overtake a handler between two of its writes.

* A create or a join adds the user only if the session `MayEnter`.
* A kick does not take a user out whose open session is entering the meeting,
  and the session it finds for a user is that user's, if it holds the meeting.
* The close callback does not start while a create or a join is in progress,
  which it is from when its request has been read. -/
def NotOvertaken (s : Server) : Server.Op → Prop
  | .handler i env =>
    match (s.sessions i).handler with
    | .createStore _ _ _ => MayEnter s i env.meetingID
    | .joinStore m _ => MayEnter s i m
    | .kickLeave m u => ∀ k, (s.sessions k).closed = false → (s.sessions k).userID = u →
        ¬ Entering (s.sessions k) m
    | .kickFind m u => ∀ k, s.manager.getByUser u = some k → Holds (s.sessions k) m →
        (s.sessions k).userID = u
    | _ => True
  | .callback i => (s.sessions i).closed = true → (s.sessions i).callback = .waiting →
      ¬ Joining (s.sessions i).handler
  | _ => True

/-! ## The invariant -/

/-- The session is in no meeting, and its close callback will find that. -/
structure Outside (x : SessionTasks) : Prop where
  meetingID : x.meetingID = ""
  state : x.closed = false → x.state ≠ .inMeeting
  leaveRead : x.callback ≠ .leaveRead
  leaveStore : ∀ m, x.callback ≠ .leaveStore m

/-- No membership depends on the meeting the session names. -/
def ResetSafe (st : MemoryStore) (x : SessionTasks) : Prop :=
  ∀ m, Holds x m → ¬ IsMember st m x.userID

/-- What holds while the handler of `x` is where it is; `sessions` are all
sessions. -/
def HandlerOk (st : MemoryStore) (sessions : Nat → SessionTasks) (x : SessionTasks) : Prop :=
  match x.handler with
  | .idle | .leaveRead => True
  | .loginBind u => u ≠ "" ∧ Outside x
  | .loginState | .loginMeeting => Outside x
  | .createStore _ _ _ | .joinStore _ _ => Outside x ∧ x.callback = .waiting
  | .joined m created => (Outside x ∧ x.callback = .waiting) ∧ m ≠ "" ∧
      (created = true → x.userID ≠ "") ∧ (x.closed = false → IsMember st m x.userID)
  | .entering => x.closed = false → x.meetingID ≠ ""
  | .leaveStore m => x.meetingID = m ∨ x.meetingID = ""
  | .leaveReset => ResetSafe st x
  | .leaveCheck | .leaveState => x.meetingID = ""
  | .kickRead u => u ≠ ""
  | .kickHost m u | .kickHas m u | .kickLeave m u => m ≠ "" ∧ u ≠ ""
  | .kickFind m u => (m ≠ "" ∧ u ≠ "") ∧ ¬ IsMember st m u
  | .kickCheck m k => m ≠ "" ∧ (Holds (sessions k) m → ¬ IsMember st m (sessions k).userID)
  | .kickReset k => ResetSafe st (sessions k)
  | .kickState k => (sessions k).closed = false → (sessions k).meetingID = ""

/-- The kick is about to correct the state of session `k`. -/
def Settling (h : Handler) (k : Nat) : Prop := h = .kickReset k ∨ h = .kickState k

/-- What ties an open session to the store and to the handlers in progress. -/
structure OpenOk (st : MemoryStore) (sessions : Nat → SessionTasks) (i : Nat) (x : SessionTasks) :
    Prop where
  waiting : x.callback = .waiting
  /-- It names a meeting its user is in, or is about to forget it. -/
  member : x.meetingID ≠ "" → IsMember st x.meetingID x.userID ∨ x.handler = .leaveReset ∨
    ∃ t, Removing (sessions t).handler i x.userID x.meetingID
  /-- Its state agrees with the meeting it names, or is about to. -/
  outside : x.state ≠ .inMeeting → x.meetingID = "" ∨ x.handler = .entering
  inside : x.state = .inMeeting → x.meetingID ≠ "" ∨
    (x.handler = .leaveCheck ∨ x.handler = .leaveState) ∨ ∃ t, Settling (sessions t).handler i
  unkicked : ∀ m, Entering x m → ∀ t, ¬ Removing (sessions t).handler i x.userID m ∧
    (sessions t).handler ≠ .kickState i

structure Inv (s : Server) : Prop where
  store : StoreOk s.store
  accepted : ∀ i, (s.sessions i).handler ≠ .idle ∨ (s.sessions i).meetingID ≠ "" → s.Accepted i
  byUser : ∀ i, (s.sessions i).closed = false → (s.sessions i).userID ≠ "" →
    s.manager.byUser (s.sessions i).userID = some i
  handler : ∀ i, HandlerOk s.store s.sessions (s.sessions i)
  opened : ∀ i, (s.sessions i).closed = false → OpenOk s.store s.sessions i (s.sessions i)
  /-- Every member has a session that accounts for it. -/
  holder : ∀ m u, IsMember s.store m u → ∃ i, (s.sessions i).userID = u ∧ Holds (s.sessions i) m
  unique : ∀ i k m, m ≠ "" → (s.sessions i).userID = (s.sessions k).userID →
    Engaged (s.sessions i) m → Engaged (s.sessions k) m → i = k

/-- At rest the invariant is consistency. -/
theorem Inv.consistent {s : Server} (h : Inv s) (hrest : AtRest s) : Consistent s := by
  have hidle : ∀ i, (s.sessions i).handler = .idle := fun i => (hrest i).1
  intro u m
  constructor
  · intro hu
    obtain ⟨i, hiu, hi⟩ := h.holder m u hu
    have hm := h.store.ne_empty hu
    rcases hi with ⟨him, hcb⟩ | ⟨c, hj⟩
    · have hopen : (s.sessions i).closed = false := by
        by_contra hc
        rw [(hrest i).2 (by simpa using hc)] at hcb
        simp at hcb
      have hin : (s.sessions i).state = .inMeeting := by
        by_contra hst
        rcases (h.opened i hopen).outside hst with he | he
        · exact hm (him ▸ he)
        · rw [hidle] at he
          cases he
      exact ⟨i, h.accepted i (.inr (him ▸ hm)), hopen, hiu, hin, him⟩
    · rw [hidle] at hj
      cases hj
  · rintro ⟨i, _, hopen, rfl, hin, rfl⟩
    have hne : (s.sessions i).meetingID ≠ "" := by
      rcases (h.opened i hopen).inside hin with he | he | ⟨t, he⟩
      · exact he
      · simp [hidle] at he
      · simp [Settling, hidle] at he
    rcases (h.opened i hopen).member hne with he | he | ⟨t, he⟩
    · exact he
    · rw [hidle] at he
      cases he
    · simp [Removing, hidle] at he

/-! ## One session changes -/

theorem Holds.engaged {x : SessionTasks} {m : String} (h : Holds x m) : Engaged x m := by
  rcases h with ⟨hm, hcb | hcb | hcb⟩ | hj
  · exact .inl ⟨hm, .inl hcb⟩
  · exact .inl ⟨hm, .inr (.inl hcb)⟩
  · exact .inr (.inl hcb)
  · exact .inr (.inr (.inr hj))

theorem Entering.holds {x : SessionTasks} {m : String} (h : Entering x m)
    (hcb : x.callback = .waiting) : Holds x m :=
  h.elim .inr fun h => .inl ⟨h.2, .inl hcb⟩

/-- The handler of another session is not concerned by a change of `sessions i`
that drops memberships and adds nothing to what `i` holds. -/
theorem HandlerOk.frame {st st' : MemoryStore} {sessions : Nat → SessionTasks} {i : Nat}
    {x y : SessionTasks} (h : HandlerOk st sessions x)
    (sub : ∀ m u, IsMember st' m u → IsMember st m u)
    (hold : ∀ m, Holds y m → IsMember st' m y.userID →
      Holds (sessions i) m ∧ IsMember st m (sessions i).userID)
    (hstate : x.handler = .kickState i → y.closed = false → y.meetingID = "")
    (hjoined : ∀ m c, x.handler = .joined m c → x.closed = false → IsMember st m x.userID →
      IsMember st' m x.userID) :
    HandlerOk st' (Function.update sessions i y) x := by
  have hsafe : ∀ k m, (Holds (sessions k) m → ¬ IsMember st m (sessions k).userID) →
      Holds (Function.update sessions i y k) m →
      ¬ IsMember st' m (Function.update sessions i y k).userID := by
    intro k m hk hh hmem
    by_cases hki : k = i
    · subst hki
      rw [Function.update_self] at hh hmem
      exact hk (hold m hh hmem).1 (hold m hh hmem).2
    · rw [Function.update_of_ne hki] at hh hmem
      exact hk hh (sub m _ hmem)
  unfold HandlerOk at h ⊢
  split <;> rename_i heq <;> simp only [heq] at h <;> try exact h
  · rename_i m c
    exact ⟨h.1, h.2.1, h.2.2.1, fun hc => hjoined m c heq hc (h.2.2.2 hc)⟩
  · exact fun m hm hmem => h m hm (sub m _ hmem)
  · exact ⟨h.1, fun hmem => h.2 (sub _ _ hmem)⟩
  · exact ⟨h.1, hsafe _ _ h.2⟩
  · exact fun m => hsafe _ m (h m)
  · rename_i k
    by_cases hki : k = i
    · subst hki
      rw [Function.update_self]
      exact hstate heq
    · rw [Function.update_of_ne hki]
      exact h

theorem hold_of_holds {st st' : MemoryStore} {x y : SessionTasks}
    (sub : ∀ m u, IsMember st' m u → IsMember st m u) (huser : y.userID = x.userID)
    (holds : ∀ m, IsMember st m x.userID → Holds y m → Holds x m) (m : String) (hy : Holds y m)
    (hu : IsMember st' m y.userID) : Holds x m ∧ IsMember st m x.userID := by
  have hu' := sub m _ (huser ▸ hu)
  exact ⟨holds m hu' hy, hu'⟩

/-- The handler is not in the part of a kick that follows its store call. -/
def Quiet (h : Handler) : Prop := ∀ k u m, ¬ Removing h k u m ∧ h ≠ .kickState k

theorem Quiet.not_settling {h : Handler} (hq : Quiet h) (k : Nat) : ¬ Settling h k := by
  rintro (hk | hk)
  · exact (hq k "" "").1 (.inr (.inr hk))
  · exact (hq k "" "").2 hk

/-- What an open session relies on, after session `i` has changed to `y`. -/
theorem OpenOk.frame {st st' : MemoryStore} {sessions : Nat → SessionTasks} {i k : Nat}
    {x y : SessionTasks} (h : OpenOk st sessions k x)
    (hmem : x.meetingID ≠ "" → IsMember st x.meetingID x.userID →
      IsMember st' x.meetingID x.userID ∨ Removing y.handler k x.userID x.meetingID)
    (hrem : x.meetingID ≠ "" → Removing (sessions i).handler k x.userID x.meetingID →
      Removing y.handler k x.userID x.meetingID)
    (hset : Settling (sessions i).handler k → x.state = .inMeeting → x.meetingID = "" →
      Settling y.handler k)
    (hkick : ∀ m, Entering x m → ¬ Removing y.handler k x.userID m ∧ y.handler ≠ .kickState k) :
    OpenOk st' (Function.update sessions i y) k x := by
  have hat : (Function.update sessions i y i).handler = y.handler := by rw [Function.update_self]
  refine ⟨h.waiting, fun hm => ?_, h.outside, fun hst => ?_, fun m hm t => ?_⟩
  · rcases h.member hm with hmem' | hr | ⟨t, ht⟩
    · exact (hmem hm hmem').imp_right fun hr => .inr ⟨i, hat ▸ hr⟩
    · exact .inr (.inl hr)
    · refine .inr (.inr ?_)
      by_cases hti : t = i
      · exact ⟨i, hat ▸ hrem hm (hti ▸ ht)⟩
      · exact ⟨t, by rwa [Function.update_of_ne hti]⟩
  · by_cases hm : x.meetingID = ""
    · refine .inr ((h.inside hst).resolve_left (not_not_intro hm) |>.imp_right ?_)
      rintro ⟨t, ht⟩
      by_cases hti : t = i
      · exact ⟨i, hat ▸ hset (hti ▸ ht) hst hm⟩
      · exact ⟨t, by rwa [Function.update_of_ne hti]⟩
    · exact .inl hm
  · by_cases hti : t = i
    · rw [hti, hat]
      exact hkick m hm
    · rw [Function.update_of_ne hti]
      exact h.unkicked m hm t

/-- The same, where the change is not part of a kick. -/
theorem OpenOk.frame_quiet {st st' : MemoryStore} {sessions : Nat → SessionTasks} {i k : Nat}
    {x y : SessionTasks} (h : OpenOk st sessions k x)
    (hmem : x.meetingID ≠ "" → IsMember st x.meetingID x.userID →
      IsMember st' x.meetingID x.userID)
    (hh : y.handler = (sessions i).handler ∨ Quiet (sessions i).handler ∧ Quiet y.handler) :
    OpenOk st' (Function.update sessions i y) k x := by
  rcases hh with hh | ⟨hq, hq'⟩
  · refine h.frame (fun hm hmem' => .inl (hmem hm hmem')) (fun _ => ?_) (fun hs _ _ => ?_)
      fun m hm => ?_
    · rw [hh]
      exact id
    · rwa [hh]
    · rw [hh]
      exact h.unkicked m hm i
  · exact h.frame (fun hm hmem' => .inl (hmem hm hmem')) (fun _ hr => absurd hr (hq _ _ _).1)
      (fun hs => absurd hs (hq.not_settling k)) fun m _ => hq' k _ m

/-- A session that has changed is engaged in no meeting that another session of
its user is engaged in. -/
theorem Inv.unique_changed {s s' : Server} {i : Nat} (h : Inv s)
    (hne : ∀ k, k ≠ i → s'.sessions k = s.sessions k)
    (halone : ∀ k m, k ≠ i → m ≠ "" → (s'.sessions i).userID = (s.sessions k).userID →
      Engaged (s'.sessions i) m → ¬ Engaged (s.sessions k) m) :
    ∀ k l m, m ≠ "" → (s'.sessions k).userID = (s'.sessions l).userID →
      Engaged (s'.sessions k) m → Engaged (s'.sessions l) m → k = l := by
  intro k l m hm hu hk hl
  by_cases hki : k = i <;> by_cases hli : l = i
  · exact hki.trans hli.symm
  · rw [hki] at hu hk
    rw [hne l hli] at hu hl
    exact absurd hl (halone l m hli hm hu hk)
  · rw [hli] at hu hl
    rw [hne k hki] at hu hk
    exact absurd hk (halone k m hki hm hu.symm hl)
  · rw [hne k hki] at hu hk
    rw [hne l hli] at hu hl
    exact h.unique k l m hm hu hk hl

/-- A step that changes session `i` to `y` and only drops memberships. -/
theorem Inv.put {s s' : Server} {i : Nat} {y : SessionTasks} (h : Inv s)
    (hs : s'.sessions = Function.update s.sessions i y)
    (hman : s'.manager.byUser = s.manager.byUser) (hnext : s'.nextID = s.nextID)
    (hstore : StoreOk s'.store) (sub : ∀ m u, IsMember s'.store m u → IsMember s.store m u)
    (huser : y.userID = (s.sessions i).userID)
    (hclosed : y.closed = false → (s.sessions i).closed = false)
    (hacc : y.handler ≠ .idle ∨ y.meetingID ≠ "" → s.Accepted i)
    (hself : HandlerOk s'.store s'.sessions y)
    (hopen : y.closed = false → OpenOk s'.store s'.sessions i y)
    (hothers : ∀ k, k ≠ i → (s.sessions k).closed = false →
      OpenOk s'.store s'.sessions k (s.sessions k))
    (hjoined : ∀ k m c, k ≠ i → (s.sessions k).handler = .joined m c →
      (s.sessions k).closed = false → IsMember s.store m (s.sessions k).userID →
      IsMember s'.store m (s.sessions k).userID)
    (hstate : ∀ t, t ≠ i → (s.sessions t).handler = .kickState i → y.closed = false →
      y.meetingID = "")
    (holds : ∀ m, IsMember s.store m (s.sessions i).userID → Holds y m → Holds (s.sessions i) m)
    (keeps : ∀ m, IsMember s'.store m (s.sessions i).userID → Holds (s.sessions i) m → Holds y m)
    (hengaged : ∀ m, m ≠ "" → Engaged y m → Engaged (s.sessions i) m) : Inv s' := by
  have hat : s'.sessions i = y := by rw [hs, Function.update_self]
  have hne : ∀ k, k ≠ i → s'.sessions k = s.sessions k := fun k hk => by
    rw [hs, Function.update_of_ne hk]
  have huser' : ∀ k, (s'.sessions k).userID = (s.sessions k).userID := by
    intro k
    by_cases hk : k = i
    · rw [hk, hat, huser]
    · rw [hne k hk]
  have hengaged' : ∀ k m, m ≠ "" → Engaged (s'.sessions k) m → Engaged (s.sessions k) m := by
    intro k m hm
    by_cases hk : k = i
    · rw [hk, hat]
      exact hengaged m hm
    · rw [hne k hk]
      exact id
  refine ⟨hstore, fun k hk => ?_, fun k hc hu => ?_, fun k => ?_, fun k hc => ?_, fun m u hmem => ?_,
    fun k l m hm hu hk hl => ?_⟩
  · have hacc' : s.Accepted k := by
      by_cases hki : k = i
      · rw [hki, hat] at hk
        exact hki ▸ hacc hk
      · rw [hne k hki] at hk
        exact h.accepted k hk
    exact ⟨hacc'.1, hnext ▸ hacc'.2⟩
  · rw [huser'] at hu ⊢
    rw [hman]
    refine h.byUser k ?_ hu
    by_cases hki : k = i
    · rw [hki, hat] at hc
      exact hki ▸ hclosed hc
    · rwa [hne k hki] at hc
  · by_cases hki : k = i
    · rw [hki, hat]
      exact hself
    · rw [hne k hki, hs]
      exact (h.handler k).frame sub (hold_of_holds sub huser holds) (hstate k hki)
        fun m c => hjoined k m c hki
  · by_cases hki : k = i
    · subst hki
      rw [hat] at hc ⊢
      exact hopen hc
    · rw [hne k hki] at hc ⊢
      exact hothers k hki hc
  · obtain ⟨k, rfl, hk⟩ := h.holder m u (sub m u hmem)
    refine ⟨k, huser' k, ?_⟩
    by_cases hki : k = i
    · subst hki
      rw [hat]
      exact keeps m hmem hk
    · rwa [hne k hki]
  · rw [huser', huser'] at hu
    exact h.unique k l m hm hu (hengaged' k m hm hk) (hengaged' l m hm hl)

/-- A step that changes session `i` only and is not part of a kick. -/
theorem Inv.modify {s : Server} (h : Inv s) {i : Nat} {f : SessionTasks → SessionTasks}
    {y : SessionTasks} (hy : f (s.sessions i) = y)
    (huser : y.userID = (s.sessions i).userID)
    (hclosed : y.closed = false → (s.sessions i).closed = false)
    (hacc : y.handler ≠ .idle ∨ y.meetingID ≠ "" → s.Accepted i)
    (hh : y.handler = (s.sessions i).handler ∨ Quiet (s.sessions i).handler ∧ Quiet y.handler)
    (hself : HandlerOk s.store (Function.update s.sessions i y) y)
    (hopen : y.closed = false → OpenOk s.store s.sessions i y)
    (hstate : ∀ t, (s.sessions t).handler = .kickState i → y.closed = false → y.meetingID = "")
    (holds : ∀ m, IsMember s.store m (s.sessions i).userID → Holds y m → Holds (s.sessions i) m)
    (keeps : ∀ m, IsMember s.store m (s.sessions i).userID → Holds (s.sessions i) m → Holds y m)
    (hengaged : ∀ m, m ≠ "" → Engaged y m → Engaged (s.sessions i) m) : Inv (s.modify i f) := by
  subst hy
  exact h.put rfl rfl rfl h.store (fun _ _ => id) huser hclosed hacc hself
    (fun hc => (hopen hc).frame_quiet (fun _ => id) hh)
    (fun k _ hc => (h.opened k hc).frame_quiet (fun _ => id) hh) (fun _ _ _ _ _ _ => id)
    (fun t _ => hstate t) holds keeps hengaged

end MeetingSystem.Proof.Signaling.Membership
