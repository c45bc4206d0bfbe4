import MeetingSystem.Impl.Signaling.Presence
import MeetingSystem.Proof.Signaling.SessionManager
import MeetingSystem.Framework.Run

/-!
# One login across nodes

At rest, a user should have at most one open session over all nodes, named by
the presence record (`SingleLogin`), and closing a session should not delete
the record of another (`ClearsOwn`). The code compares session numbers, which
are only unique within a node, and a login does not notice another one that
reads the record before it has written it; `NoClash` says that a step meets
neither. The invariant is that every open session is `Accounted` for: named by
the record, about to be closed by an event or by a login in progress, or about
to be written to the record by its own login.

* `singleLogin_of_noClash`: both properties along every run of steps that meet
  `NoClash`;
* `sameNumberRun_two_logins`: two logins one after another whose sessions have
  the same number.
-/

namespace MeetingSystem.Proof.Signaling

open MeetingSystem.Framework MeetingSystem.Impl.Signaling

variable {Node : Type} [DecidableEq Node]

/-! ## What is claimed, and when it holds -/

/-- An open session bound to the user. -/
def BoundOpen (u : String) (s : Cluster Node) (σ : Node × Nat) : Prop :=
  (s.sessions σ).session.userID = u ∧ (s.sessions σ).session.closed = false

/-- The presence record names the session. -/
def Names (p : SessionPresence Node) (σ : Node × Nat) : Prop :=
  p.nodeID = σ.1 ∧ p.sessionID = σ.2

/-- With no login in progress and no event in flight, at most one open session
is bound to the user, and the presence record names it. -/
def SingleLogin (u : String) (s : Cluster Node) : Prop :=
  (∀ σ, (s.sessions σ).login = .idle) → s.inFlight = [] →
    (∀ σ τ, BoundOpen u s σ → BoundOpen u s τ → σ = τ) ∧
    ∀ σ, BoundOpen u s σ → ∃ p, s.presence = some p ∧ Names p σ

/-- A close callback deletes the presence record only if its own session wrote
it. -/
def ClearsOwn (u : String) (s : Cluster Node) : Cluster.Op Node → Prop
  | .onSessionClosed σ => ∀ p, s.presence = some p →
      (s.step u (.onSessionClosed σ)).presence ≠ some p → Names p σ
  | _ => True

/-- The login is between its read of the presence record, which gave
`existing`, and its write. -/
def InWindow (existing : Option (SessionPresence Node)) (l : LoginStep Node) : Prop :=
  l = .read existing ∨ l = .bound existing

/-- The record does not carry this session's number for another node. -/
def NoForeignNumber (s : Cluster Node) (σ : Node × Nat) : Prop :=
  ∀ p, s.presence = some p → p.sessionID = σ.2 → p.nodeID = σ.1

/-- No login reads the record while another is between its read and its write,
and no login and no close callback meets a record that carries its session
number for another node. -/
def NoClash (s : Cluster Node) : Cluster.Op Node → Prop
  | .loginRead σ => (∀ τ e, ¬ InWindow e (s.sessions τ).login) ∧ NoForeignNumber s σ
  | .onSessionClosed σ => NoForeignNumber s σ
  | _ => True

/-! ## The invariant -/

/-- The event that closes a session. -/
def kickOf (u : String) (σ : Node × Nat) : UserNodeEvent Node := ⟨σ.1, u, σ.2, true⟩

/-- The record names the session, or an event in flight or a login in progress
is about to close it, or its own login is about to write the record. -/
inductive Accounted (u : String) (s : Cluster Node) (σ : Node × Nat) : Prop
  | named {p : SessionPresence Node} (h : s.presence = some p) (hp : Names p σ)
  | kicked (h : kickOf u σ ∈ s.inFlight)
  | displaced {τ : Node × Nat} {p : SessionPresence Node}
      (h : (s.sessions τ).login = .written (some p)) (hp : Names p σ) (hu : p.userID = u)
      (hnode : τ.1 ≠ σ.1) (hid : τ.2 ≠ σ.2)
  | writing {e : Option (SessionPresence Node)} (h : (s.sessions σ).login = .bound e)

structure Inv (u : String) (s : Cluster Node) : Prop where
  id_ne : ∀ σ, (s.sessions σ).login ≠ .idle → σ.2 ≠ 0
  bound_user : ∀ σ e, (s.sessions σ).login = .bound e → (s.sessions σ).session.userID = u
  bound_id : ∀ σ, (s.sessions σ).session.userID = u → σ.2 ≠ 0
  presence_user : ∀ p, s.presence = some p → p.userID = u
  byUser : ∀ σ, BoundOpen u s σ → (s.managers σ.1).byUser u = some σ.2
  window : ∀ σ τ e e', InWindow e (s.sessions σ).login → InWindow e' (s.sessions τ).login → σ = τ
  foreign : ∀ τ p, InWindow (some p) (s.sessions τ).login → p.sessionID = τ.2 → p.nodeID = τ.1
  current : ∀ τ e p, InWindow e (s.sessions τ).login → s.presence = some p → e = some p
  alone : ∀ τ e σ, (s.sessions τ).login = .bound e → BoundOpen u s σ → σ.1 = τ.1 → σ = τ
  accounted : ∀ σ, BoundOpen u s σ → Accounted u s σ

omit [DecidableEq Node] in
theorem init_inv {u : String} (hu : u ≠ "") : Inv u (Cluster.init : Cluster Node) := by
  constructor <;> simp [Cluster.init, newSession, BoundOpen, InWindow, Ne.symm hu]

/-! ## Steps that open nothing -/

/-- What a step that binds no session and lets no login into its window may do:
logins move on outside the window, sessions close, the record is deleted, and
what was accounted for still is. -/
structure Shrinks (u : String) (s s' : Cluster Node) : Prop where
  login : ∀ τ, (s'.sessions τ).login = (s.sessions τ).login ∨
    ((∀ e, ¬ InWindow e (s'.sessions τ).login) ∧ ((s'.sessions τ).login ≠ .idle → τ.2 ≠ 0))
  user : ∀ τ, (s'.sessions τ).session.userID = (s.sessions τ).session.userID
  closed : ∀ τ, (s'.sessions τ).session.closed = false → (s.sessions τ).session.closed = false
  presence : ∀ p, s'.presence = some p → s.presence = some p
  byUser : ∀ τ, BoundOpen u s' τ → (s.managers τ.1).byUser u = some τ.2 →
    (s'.managers τ.1).byUser u = some τ.2
  accounted : ∀ τ, BoundOpen u s' τ → BoundOpen u s τ → Accounted u s τ → Accounted u s' τ

omit [DecidableEq Node] in
theorem Inv.shrink {u : String} {s s' : Cluster Node} (h : Inv u s) (hs : Shrinks u s s') :
    Inv u s' := by
  have hwin : ∀ τ e, InWindow e (s'.sessions τ).login →
      (s'.sessions τ).login = (s.sessions τ).login := fun τ e he =>
    (hs.login τ).resolve_right fun hn => hn.1 e he
  have hwin' : ∀ τ e, InWindow e (s'.sessions τ).login → InWindow e (s.sessions τ).login :=
    fun τ e he => hwin τ e he ▸ he
  have hopen : ∀ τ, BoundOpen u s' τ → BoundOpen u s τ := fun τ hτ =>
    ⟨(hs.user τ).symm.trans hτ.1, hs.closed τ hτ.2⟩
  have hbound : ∀ τ e, (s'.sessions τ).login = .bound e → (s.sessions τ).login = .bound e :=
    fun τ e he => (hwin τ e (.inr he)).symm.trans he
  exact
    { id_ne := fun τ hτ => (hs.login τ).elim (fun e => h.id_ne τ (e ▸ hτ)) fun hn => hn.2 hτ
      bound_user := fun τ e he => (hs.user τ).trans (h.bound_user τ e (hbound τ e he))
      bound_id := fun τ hτ => h.bound_id τ ((hs.user τ).symm.trans hτ)
      presence_user := fun p hp => h.presence_user p (hs.presence p hp)
      byUser := fun τ hτ => hs.byUser τ hτ (h.byUser τ (hopen τ hτ))
      window := fun σ τ e e' hσ hτ => h.window σ τ e e' (hwin' σ e hσ) (hwin' τ e' hτ)
      foreign := fun τ p hτ => h.foreign τ p (hwin' τ _ hτ)
      current := fun τ e p hτ hp => h.current τ e p (hwin' τ e hτ) (hs.presence p hp)
      alone := fun τ e σ hτ hσ => h.alone τ e σ (hbound τ e hτ) (hopen σ hσ)
      accounted := fun τ hτ => hs.accounted τ hτ (hopen τ hτ) (h.accounted τ (hopen τ hτ)) }

/-! ## One step -/

@[simp] theorem modify_self (s : Cluster Node) (σ : Node × Nat)
    (f : NodeSession Node → NodeSession Node) : (s.modify σ f).sessions σ = f (s.sessions σ) := by
  simp [Cluster.modify]

theorem modify_ne (s : Cluster Node) {σ τ : Node × Nat} (f : NodeSession Node → NodeSession Node)
    (h : τ ≠ σ) : (s.modify σ f).sessions τ = s.sessions τ := by
  simp [Cluster.modify, h]

/-- A property of one session's record that `f` keeps. -/
theorem modify_view {α : Type} (s : Cluster Node) (σ : Node × Nat)
    {f : NodeSession Node → NodeSession Node} (g : NodeSession Node → α)
    (h : g (f (s.sessions σ)) = g (s.sessions σ)) (τ : Node × Nat) :
    g ((s.modify σ f).sessions τ) = g (s.sessions τ) := by
  by_cases hτ : τ = σ
  · subst hτ
    rw [modify_self, h]
  · rw [modify_ne s f hτ]

omit [DecidableEq Node] in
theorem Accounted.mono {u : String} {s s' : Cluster Node} {τ : Node × Nat} (h : Accounted u s τ)
    (hp : ∀ p, s.presence = some p → Names p τ → s'.presence = some p)
    (hf : kickOf u τ ∈ s.inFlight → kickOf u τ ∈ s'.inFlight)
    (hw : ∀ ρ p, (s.sessions ρ).login = .written (some p) →
      (s'.sessions ρ).login = .written (some p))
    (hb : ∀ e, (s.sessions τ).login = .bound e → (s'.sessions τ).login = .bound e) :
    Accounted u s' τ := by
  cases h with
  | named h hn => exact .named (hp _ h hn) hn
  | kicked h => exact .kicked (hf h)
  | displaced h hn hu hnode hid => exact .displaced (hw _ _ h) hn hu hnode hid
  | writing h => exact .writing (hb _ h)

theorem accept_shrinks (u : String) (s : Cluster Node) (n : Node) : Shrinks u s (s.accept n) where
  login _ := .inl rfl
  user _ := rfl
  closed _ h := h
  presence _ h := h
  byUser τ _ h := by
    simp only [Cluster.accept, Function.update_apply]
    split
    · rename_i hn
      rw [← hn]
      exact h
    · exact h
  accounted _ _ _ h := h.mono (fun _ h _ => h) id (fun _ _ h => h) fun _ h => h

/-- A step of one login outside its window, or of one session's callback. -/
theorem modify_shrinks {u : String} {s : Cluster Node} {σ : Node × Nat}
    {f : NodeSession Node → NodeSession Node}
    (hlogin : (f (s.sessions σ)).login = (s.sessions σ).login ∨
      ((∀ e, ¬ InWindow e (s.sessions σ).login) ∧ (∀ e, ¬ InWindow e (f (s.sessions σ)).login) ∧
        (∀ p, (s.sessions σ).login ≠ .written (some p)) ∧ σ.2 ≠ 0))
    (huser : (f (s.sessions σ)).session.userID = (s.sessions σ).session.userID)
    (hclosed : (f (s.sessions σ)).session.closed = false → (s.sessions σ).session.closed = false) :
    Shrinks u s (s.modify σ f) where
  login τ := by
    by_cases hτ : τ = σ
    · subst hτ
      rw [modify_self]
      exact hlogin.imp id fun h => ⟨h.2.1, fun _ => h.2.2.2⟩
    · exact .inl (by rw [modify_ne s f hτ])
  user := modify_view s σ (·.session.userID) huser
  closed τ h := by
    by_cases hτ : τ = σ
    · subst hτ
      rw [modify_self] at h
      exact hclosed h
    · rwa [modify_ne s f hτ] at h
  presence _ h := h
  byUser _ _ h := h
  accounted τ _ _ h := by
    have hkeep : ∀ ρ l, (s.sessions ρ).login = l → (∃ p, l = .written (some p)) ∨
        (∃ e, l = .bound e) → ((s.modify σ f).sessions ρ).login = l := by
      intro ρ l hl hkind
      by_cases hρ : ρ = σ
      · subst hρ
        rw [modify_self]
        rcases hlogin with h | ⟨h, -, hw, -⟩
        · exact h.trans hl
        · rcases hkind with ⟨p, rfl⟩ | ⟨e, rfl⟩
          · exact absurd hl (hw p)
          · exact absurd (.inr hl) (h e)
      · rw [modify_ne s f hρ, hl]
    exact h.mono (fun _ h _ => h) id (fun ρ p h => hkeep ρ _ h (.inl ⟨p, rfl⟩))
      fun e h => hkeep τ _ h (.inr ⟨e, rfl⟩)

theorem loginStart_inv {u : String} {s : Cluster Node} (h : Inv u s) (σ : Node × Nat) :
    Inv u (s.loginStart σ) := by
  simp only [Cluster.loginStart]
  split
  · rename_i hstart
    obtain ⟨hacc, -, hidle, -⟩ := hstart
    refine h.shrink (modify_shrinks (.inr ⟨?_, ?_, ?_, Nat.pos_iff_ne_zero.mp hacc.1⟩) rfl id)
    · simp [hidle, InWindow]
    · simp [InWindow]
    · simp [hidle]
  · exact h

theorem closeSession_inv {u : String} {s : Cluster Node} (h : Inv u s) (σ : Node × Nat) :
    Inv u (s.closeSession σ) :=
  h.shrink (modify_shrinks (.inl rfl) (Session.close_userID _) (by simp))

omit [DecidableEq Node] in
/-- A close callback deletes the record only if it names the session. -/
theorem compareDelete_of_noForeignNumber {s : Cluster Node} {σ : Node × Nat}
    (hok : NoForeignNumber s σ) {p : SessionPresence Node} (hp : s.presence = some p) :
    Cluster.compareDelete s.presence σ.2 = some p ∨
      Cluster.compareDelete s.presence σ.2 = none ∧ Names p σ := by
  rw [hp, Cluster.compareDelete]
  split
  · rename_i hid
    exact .inr ⟨rfl, hok p hp hid, hid⟩
  · exact .inl rfl

theorem onSessionClosed_inv {u : String} {s : Cluster Node} (h : Inv u s) (σ : Node × Nat)
    (hok : NoForeignNumber s σ) : Inv u (s.onSessionClosed σ) := by
  simp only [Cluster.onSessionClosed]
  split
  · rename_i hclosed
    refine Inv.shrink ?_ (modify_shrinks (.inl rfl) rfl id)
    split
    · exact h
    · refine h.shrink ⟨fun _ => .inl rfl, fun _ => rfl, fun _ h => h, fun p hp => ?_,
        fun _ _ h => h, fun τ hτ _ ha => ?_⟩
      · cases hs : s.presence with
        | none => simp [Cluster.compareDelete, hs] at hp
        | some q =>
          rcases compareDelete_of_noForeignNumber hok hs with hq | ⟨hq, -⟩
          · exact hq.symm.trans hp
          · simp [hq] at hp
      · refine ha.mono (fun p hp hn => ?_) id (fun _ _ h => h) fun _ h => h
        rcases compareDelete_of_noForeignNumber hok hp with hq | ⟨-, hσ⟩
        · exact hq
        · have hτσ : τ = σ := Prod.ext (hn.1.symm.trans hσ.1) (hn.2.symm.trans hσ.2)
          subst hτσ
          exact absurd hτ.2 (by simp [hclosed.1])
  · exact h

theorem remove_inv {u : String} {s : Cluster Node} (h : Inv u s) (σ : Node × Nat) :
    Inv u (s.remove σ) := by
  simp only [Cluster.remove]
  split
  · rename_i hcl
    refine Inv.shrink ?_ (modify_shrinks (.inl rfl) rfl id)
    refine h.shrink ⟨fun _ => .inl rfl, fun _ => rfl, fun _ h => h, fun _ h => h, fun τ hτ hby => ?_,
      fun τ hτ _ ha => ha.mono (fun _ h _ => h) id (fun _ _ h => h) fun _ h => h⟩
    simp only [Function.update_apply]
    split
    · rename_i hn
      rw [← hn]
      refine byUser_remove hby fun hid => ?_
      have hτσ : τ = σ := Prod.ext hn hid
      subst hτσ
      exact absurd hτ.2 (by simp [hcl.1])
    · exact hby
  · exact h

/-- The kick of a login reaches the session it displaces. -/
theorem loginPublish_inv {u : String} {s : Cluster Node} (h : Inv u s) (σ : Node × Nat) :
    Inv u (s.loginPublish σ) := by
  simp only [Cluster.loginPublish]
  split
  · rename_i existing hlogin
    refine h.shrink ⟨fun τ => ?_, fun τ => ?_, fun τ hτ => ?_, fun _ h => h, fun _ _ h => h,
      fun τ hτ hopen ha => ?_⟩
    · by_cases hτ : τ = σ
      · subst hτ
        refine .inr ⟨?_, ?_⟩ <;> simp [InWindow]
      · exact .inl (by rw [modify_ne _ _ hτ])
    · exact modify_view { s with inFlight := _ } σ (·.session.userID) rfl τ
    · rwa [modify_view { s with inFlight := _ } σ (·.session.closed) rfl τ] at hτ
    · have hkeep : ∀ ρ ≠ σ, ((Cluster.modify
          { s with inFlight := s.inFlight ++ Cluster.kickRemoteExistingSession existing σ.1 σ.2 }
          σ fun x => { x with login := .idle }).sessions ρ).login = (s.sessions ρ).login :=
        fun ρ hρ => by rw [modify_ne _ _ hρ]
      cases ha with
      | named h hn => exact .named h hn
      | kicked h => exact .kicked (List.mem_append_left _ h)
      | displaced hw hn hu hnode hid =>
        rename_i ρ p
        by_cases hρ : ρ = σ
        · subst hρ
          rw [hlogin, LoginStep.written.injEq] at hw
          subst hw
          have hp0 : p.sessionID ≠ 0 := hn.2 ▸ h.bound_id τ hopen.1
          refine .kicked (List.mem_append_right _ ?_)
          rw [Cluster.kickRemoteExistingSession, if_neg (by
            rintro (h1 | h1 | h1)
            · exact hnode (h1.symm.trans hn.1)
            · exact hp0 h1
            · exact hid (h1.symm.trans hn.2))]
          simp [kickOf, hn.1, hn.2, hu]
        · exact .displaced ((hkeep ρ hρ).trans hw) hn hu hnode hid
      | writing hb =>
        refine .writing ((hkeep τ ?_).trans hb)
        rintro rfl
        rw [hlogin] at hb
        cases hb
  · exact h

/-- An event closes the session it was published for, if that is still open. -/
theorem deliver_inv {u : String} {s : Cluster Node} (hu : u ≠ "") (h : Inv u s)
    (event : UserNodeEvent Node) : Inv u (s.deliver event) := by
  simp only [Cluster.deliver]
  split
  · let s₁ : Cluster Node := { s with inFlight := s.inFlight.erase event }
    let target := (event.targetNodeID, event.targetSessionID)
    have hform : s₁.onUserNodeEvent event = s₁ ∨
        s₁.onUserNodeEvent event = s₁.closeSession target := by
      simp only [Cluster.onUserNodeEvent]
      split
      · exact .inl rfl
      split
      · exact .inl rfl
      split
      · exact .inr rfl
      · exact .inl rfl
    have hkick : ∀ τ, event = kickOf u τ → BoundOpen u s τ →
        s₁.onUserNodeEvent event = s₁.closeSession τ := by
      rintro τ rfl hτ
      have hby : (s₁.managers τ.1).byUser u = some τ.2 := h.byUser τ hτ
      simp [Cluster.onUserNodeEvent, kickOf, hu, h.bound_id τ hτ.1, SessionManager.getByUser, hby]
    have hview : ∀ τ, ((s₁.onUserNodeEvent event).sessions τ).login = (s.sessions τ).login ∧
        ((s₁.onUserNodeEvent event).sessions τ).session.userID = (s.sessions τ).session.userID ∧
        (((s₁.onUserNodeEvent event).sessions τ).session.closed = false →
          (s.sessions τ).session.closed = false) := by
      intro τ
      rcases hform with hf | hf <;> rw [hf]
      · exact ⟨rfl, rfl, id⟩
      · have hcl := modify_shrinks (u := u) (s := s₁) (σ := target)
          (f := fun x => { x with session := x.session.close }) (.inl rfl)
          (Session.close_userID _) (by simp)
        exact ⟨modify_view s₁ target (·.login) rfl τ, hcl.user τ, hcl.closed τ⟩
    have hrest : (s₁.onUserNodeEvent event).presence = s.presence ∧
        (s₁.onUserNodeEvent event).managers = s.managers ∧
        (s₁.onUserNodeEvent event).inFlight = s.inFlight.erase event := by
      rcases hform with hf | hf <;> rw [hf] <;> exact ⟨rfl, rfl, rfl⟩
    refine h.shrink ⟨fun τ => .inl (hview τ).1, fun τ => (hview τ).2.1, fun τ => (hview τ).2.2,
      fun p hp => hrest.1.symm.trans hp, fun τ _ hby => by rw [hrest.2.1]; exact hby, fun τ hτ hopen ha => ?_⟩
    refine ha.mono (fun p hp _ => hrest.1.trans hp) (fun hk => ?_)
      (fun ρ p hw => (hview ρ).1.trans hw) fun e hb => (hview τ).1.trans hb
    have hne : kickOf u τ ≠ event := by
      intro he
      rw [hkick τ he.symm hopen] at hτ
      exact absurd hτ.2 (by simp [Cluster.closeSession])
    rw [hrest.2.2]
    exact (List.mem_erase_of_ne hne).mpr hk
  · exact h

/-! ## The steps of a login between its read and its write -/

theorem loginRead_inv {u : String} {s : Cluster Node} (h : Inv u s) (σ : Node × Nat)
    (hfree : ∀ τ e, ¬ InWindow e (s.sessions τ).login) (hok : NoForeignNumber s σ) :
    Inv u (s.loginRead σ) := by
  simp only [Cluster.loginRead]
  split
  · rename_i hstarted
    generalize hs' : (s.modify σ fun x => { x with login := .read s.presence }) = s'
    have hself : (s'.sessions σ).login = .read s.presence := by rw [← hs', modify_self]
    have hne : ∀ τ, τ ≠ σ → s'.sessions τ = s.sessions τ := fun τ hτ => by
      rw [← hs', modify_ne s _ hτ]
    have hsess : ∀ τ, (s'.sessions τ).session = (s.sessions τ).session := fun τ => by
      rw [← hs']
      exact modify_view s σ (·.session) rfl τ
    have hpres : s'.presence = s.presence := by rw [← hs']; rfl
    have hman : s'.managers = s.managers := by rw [← hs']; rfl
    have hfl : s'.inFlight = s.inFlight := by rw [← hs']; rfl
    have hopen : ∀ τ, BoundOpen u s' τ → BoundOpen u s τ := fun τ hτ => by
      rwa [BoundOpen, hsess τ] at hτ
    have honly : ∀ τ e, InWindow e (s'.sessions τ).login → τ = σ ∧ e = s.presence := by
      intro τ e he
      by_cases hτ : τ = σ
      · subst hτ
        rw [hself, InWindow] at he
        exact ⟨rfl, by simpa [eq_comm] using he⟩
      · rw [hne τ hτ] at he
        exact absurd he (hfree τ e)
    have hbound : ∀ τ e, (s'.sessions τ).login ≠ .bound e := by
      intro τ e he
      rw [(honly τ e (.inr he)).1, hself] at he
      cases he
    refine ⟨fun τ hτ => ?_, fun τ e he => absurd he (hbound τ e), fun τ hτ => h.bound_id τ ?_,
      fun p hp => h.presence_user p (hpres ▸ hp), fun τ hτ => hman ▸ h.byUser τ (hopen τ hτ),
      fun ρ τ e e' hρ hτ => (honly ρ e hρ).1.trans (honly τ e' hτ).1.symm, fun τ p hτ => ?_,
      fun τ e p hτ hp => ?_, fun τ e _ he => absurd he (hbound τ e), fun τ hτ => ?_⟩
    · by_cases hτσ : τ = σ
      · subst hτσ
        exact h.id_ne τ (by simp [hstarted])
      · exact h.id_ne τ (by rwa [hne τ hτσ] at hτ)
    · rwa [hsess τ] at hτ
    · obtain ⟨rfl, he⟩ := honly τ _ hτ
      exact hok p he.symm
    · rw [(honly τ e hτ).2, ← hpres, hp]
    · refine (h.accounted τ (hopen τ hτ)).mono (fun p hp _ => hpres ▸ hp) (fun hk => hfl ▸ hk)
        (fun ρ p hw => ?_) fun e hb => absurd (.inr hb) (hfree τ e)
      rw [hne ρ (by rintro rfl; rw [hstarted] at hw; cases hw), hw]
  · exact h

/-- `BindUser` on a node on which no other session is open and bound. -/
theorem Inv.bind {u : String} {s s' : Cluster Node} {σ : Node × Nat}
    {e : Option (SessionPresence Node)} (h : Inv u s) (hread : (s.sessions σ).login = .read e)
    (halone : ∀ τ, BoundOpen u s τ → τ.1 = σ.1 → τ = σ)
    (hne : ∀ τ, τ ≠ σ → s'.sessions τ = s.sessions τ)
    (hlogin : (s'.sessions σ).login = .bound e) (huser : (s'.sessions σ).session.userID = u)
    (hman : ∀ n, (s'.managers n).byUser u = if n = σ.1 then some σ.2 else (s.managers n).byUser u)
    (hpres : s'.presence = s.presence) (hfl : s'.inFlight = s.inFlight) : Inv u s' := by
  have hopen : ∀ τ, τ ≠ σ → BoundOpen u s' τ → BoundOpen u s τ := fun τ hτ h => by
    rwa [BoundOpen, hne τ hτ] at h
  have hwin : ∀ τ e', InWindow e' (s'.sessions τ).login → InWindow e' (s.sessions τ).login := by
    intro τ e' he
    by_cases hτ : τ = σ
    · subst hτ
      have hee : e = e' := by simpa [hlogin, InWindow] using he
      exact .inl (hee ▸ hread)
    · rwa [hne τ hτ] at he
  have hσwin : InWindow e (s.sessions σ).login := .inl hread
  have hσid : σ.2 ≠ 0 := h.id_ne σ (by simp [hread])
  refine ⟨fun τ hτ => ?_, fun τ e' he => ?_, fun τ hτ => ?_, fun p hp => h.presence_user p (hpres ▸ hp),
    fun τ hτ => ?_, fun ρ τ e₁ e₂ hρ hτ => h.window ρ τ e₁ e₂ (hwin ρ e₁ hρ) (hwin τ e₂ hτ),
    fun τ p hτ => h.foreign τ p (hwin τ _ hτ),
    fun τ e' p hτ hp => h.current τ e' p (hwin τ e' hτ) (hpres ▸ hp), fun τ e' ρ hτ hρ hn => ?_,
    fun τ hτ => ?_⟩
  · by_cases hτσ : τ = σ
    · rwa [hτσ]
    · exact h.id_ne τ (by rwa [hne τ hτσ] at hτ)
  · by_cases hτσ : τ = σ
    · rw [hτσ, huser]
    · rw [hne τ hτσ] at he ⊢
      exact h.bound_user τ e' he
  · by_cases hτσ : τ = σ
    · rwa [hτσ]
    · exact h.bound_id τ (by rwa [hne τ hτσ] at hτ)
  · rw [hman]
    by_cases hτσ : τ = σ
    · simp [hτσ]
    · have hopen' := hopen τ hτσ hτ
      rw [if_neg fun hn => hτσ (halone τ hopen' hn)]
      exact h.byUser τ hopen'
  · have hτσ : τ = σ := h.window τ σ e' e (hwin τ e' (.inr hτ)) hσwin
    subst hτσ
    by_cases hρ' : ρ = τ
    · exact hρ'
    · exact halone ρ (hopen ρ hρ' hρ) hn
  · by_cases hτσ : τ = σ
    · exact .writing (hτσ ▸ hlogin)
    · refine (h.accounted τ (hopen τ hτσ hτ)).mono (fun p hp _ => hpres ▸ hp) (fun hk => hfl ▸ hk)
        (fun ρ p hw => ?_) fun e' hb => by rw [hne τ hτσ, hb]
      rw [hne ρ (by rintro rfl; rw [hread] at hw; cases hw), hw]

/-- `BindUser` closes the session it displaces, so that no other session of the
node stays open. -/
theorem loginBind_inv {u : String} {s : Cluster Node} (h : Inv u s) (σ : Node × Nat) :
    Inv u (s.loginBind u σ) := by
  simp only [Cluster.loginBind]
  split
  · rename_i e hread
    have hman : ∀ n, (Function.update s.managers σ.1 ((s.managers σ.1).bindUser σ.2 u).1 n).byUser u =
        if n = σ.1 then some σ.2 else (s.managers n).byUser u := by
      intro n
      simp only [Function.update_apply]
      split
      · exact bindUser_fst_byUser _ _ _
      · rfl
    cases hold : ((s.managers σ.1).bindUser σ.2 u).2 with
    | none =>
      refine h.bind hread (fun τ hτ hn => ?_) (fun τ hτ => ?_) ?_ ?_ hman rfl rfl
      · by_contra hne
        have hby := h.byUser τ hτ
        rw [hn] at hby
        have := bindUser_old σ.2 hby fun hi => hne (Prod.ext hn hi)
        rw [hold] at this
        cases this
      · rw [modify_ne _ _ hτ]
      · rw [modify_self]
      · rw [modify_self]
    | some i =>
      have hiσ : (σ.1, i) ≠ σ := fun hi => bindUser_old_ne hold (congrArg Prod.snd hi)
      refine (closeSession_inv h (σ.1, i)).bind (σ := σ) (e := e) ?_ (fun τ hτ hn => ?_)
        (fun τ hτ => ?_) ?_ ?_ hman rfl rfl
      · rw [Cluster.closeSession, modify_ne _ _ hiσ.symm, hread]
      · by_contra hne
        have hτi : τ ≠ (σ.1, i) := by
          rintro rfl
          exact absurd hτ.2 (by simp [Cluster.closeSession])
        rw [Cluster.closeSession, BoundOpen, modify_ne _ _ hτi] at hτ
        have hby := h.byUser τ hτ
        rw [hn] at hby
        have := bindUser_old σ.2 hby fun hi => hne (Prod.ext hn hi)
        rw [hold, Option.some.injEq] at this
        exact hτi (Prod.ext hn this.symm)
      · simp only [Cluster.closeSession]
        by_cases hτi : τ = (σ.1, i)
        · subst hτi
          rw [modify_self, modify_self, modify_ne _ _ hτ]
        · rw [modify_ne _ _ hτi, modify_ne _ _ hτi, modify_ne _ _ hτ]
      · simp only [Cluster.closeSession]
        rw [modify_ne _ _ hiσ.symm, modify_self]
      · simp only [Cluster.closeSession]
        rw [modify_ne _ _ hiσ.symm, modify_self]
  · exact h

omit [DecidableEq Node] in
/-- The login writes the record: the session the record named until now is the
one it has read, and it will kick that. -/
theorem Inv.write {u : String} {s s' : Cluster Node} {σ : Node × Nat}
    {e : Option (SessionPresence Node)} {q : SessionPresence Node} (h : Inv u s)
    (hb : (s.sessions σ).login = .bound e) (hne : ∀ τ, τ ≠ σ → s'.sessions τ = s.sessions τ)
    (hself : (s'.sessions σ).login = .written e)
    (huser : ∀ τ, (s'.sessions τ).session.userID = (s.sessions τ).session.userID)
    (hclosed : ∀ τ, (s'.sessions τ).session.closed = (s.sessions τ).session.closed)
    (hman : s'.managers = s.managers) (hfl : s'.inFlight = s.inFlight)
    (hpres : s'.presence = some q) (hqσ : Names q σ) (hqu : q.userID = u) : Inv u s' := by
  have hopen : ∀ τ, BoundOpen u s' τ → BoundOpen u s τ := fun τ hτ =>
    ⟨(huser τ).symm.trans hτ.1, (hclosed τ).symm.trans hτ.2⟩
  have hnowin : ∀ τ e', ¬ InWindow e' (s'.sessions τ).login := by
    intro τ e' he
    by_cases hτ : τ = σ
    · rw [hτ, hself] at he
      simp [InWindow] at he
    · rw [hne τ hτ] at he
      exact hτ (h.window τ σ e' e he (.inr hb))
  refine ⟨fun τ hτ => ?_, fun τ e' he => absurd (.inr he) (hnowin τ e'),
    fun τ hτ => h.bound_id τ ((huser τ).symm.trans hτ), fun p hp => ?_,
    fun τ hτ => hman ▸ h.byUser τ (hopen τ hτ), fun ρ _ e₁ _ hρ => absurd hρ (hnowin ρ e₁),
    fun τ p hτ => absurd hτ (hnowin τ _), fun τ e' _ hτ => absurd hτ (hnowin τ e'),
    fun τ e' _ hτ => absurd (.inr hτ) (hnowin τ e'), fun τ hτ => ?_⟩
  · by_cases hτσ : τ = σ
    · exact hτσ ▸ h.id_ne σ (by simp [hb])
    · exact h.id_ne τ (by rwa [hne τ hτσ] at hτ)
  · rw [hpres, Option.some.injEq] at hp
    rw [← hp, hqu]
  · by_cases hτσ : τ = σ
    · exact .named hpres (hτσ ▸ hqσ)
    · cases h.accounted τ (hopen τ hτ) with
      | named hp hn =>
        rename_i p
        have hep := h.current σ e p (.inr hb) hp
        have hnode : σ.1 ≠ τ.1 := fun hn' => hτσ (h.alone σ e τ hb (hopen τ hτ) hn'.symm)
        refine .displaced (hep ▸ hself) hn (h.presence_user p hp) hnode fun hid => hnode ?_
        exact (h.foreign σ p (.inr (hep ▸ hb)) (hn.2.trans hid.symm)).symm.trans hn.1
      | kicked hk => exact .kicked (hfl ▸ hk)
      | displaced hw hn hu' hnode hid =>
        rename_i ρ p
        have hρ : ρ ≠ σ := by
          rintro rfl
          rw [hb] at hw
          cases hw
        exact .displaced (by rw [hne ρ hρ, hw]) hn hu' hnode hid
      | writing hb' => exact absurd (h.window τ σ _ e (.inr hb') (.inr hb)) hτσ

theorem loginWrite_inv {u : String} {s : Cluster Node} (hu : u ≠ "") (h : Inv u s)
    (σ : Node × Nat) : Inv u (s.loginWrite σ) := by
  simp only [Cluster.loginWrite]
  split
  · rename_i e hb
    have hσu := h.bound_user σ e hb
    have hσid : σ.2 ≠ 0 := h.id_ne σ (by simp [hb])
    rw [if_neg (by rw [modify_self]; simp [hσu, hu, hσid])]
    refine h.write hb (fun τ hτ => ?_) ?_ (fun τ => ?_) (fun τ => ?_) rfl rfl rfl ⟨rfl, rfl⟩ ?_
    · dsimp only
      exact modify_ne s _ hτ
    · rw [modify_self]
    · dsimp only
      exact modify_view s σ (·.session.userID) rfl τ
    · dsimp only
      exact modify_view s σ (·.session.closed) rfl τ
    · rw [modify_self]
      exact hσu
  · exact h

/-! ## Runs -/

theorem step_inv {u : String} (hu : u ≠ "") (s : Cluster Node) (o : Cluster.Op Node)
    (hok : NoClash s o) (h : Inv u s) : Inv u (s.step u o) := by
  cases o with
  | accept n => exact h.shrink (accept_shrinks u s n)
  | loginStart σ => exact loginStart_inv h σ
  | loginRead σ => exact loginRead_inv h σ hok.1 hok.2
  | loginBind σ => exact loginBind_inv h σ
  | loginWrite σ => exact loginWrite_inv hu h σ
  | loginPublish σ => exact loginPublish_inv h σ
  | close σ =>
    simp only [Cluster.step]
    split
    · exact closeSession_inv h σ
    · exact h
  | onSessionClosed σ => exact onSessionClosed_inv h σ hok
  | remove σ => exact remove_inv h σ
  | deliver event => exact deliver_inv hu h event

omit [DecidableEq Node] in
theorem Inv.singleLogin {u : String} {s : Cluster Node} (h : Inv u s) : SingleLogin u s := by
  intro hidle hfl
  have hnamed : ∀ σ, BoundOpen u s σ → ∃ p, s.presence = some p ∧ Names p σ := by
    intro σ hσ
    cases h.accounted σ hσ with
    | named hp hn => exact ⟨_, hp, hn⟩
    | kicked hk => simp [hfl] at hk
    | displaced hw => rw [hidle] at hw; cases hw
    | writing hb => rw [hidle] at hb; cases hb
  refine ⟨fun σ τ hσ hτ => ?_, hnamed⟩
  obtain ⟨p, hp, hpσ⟩ := hnamed σ hσ
  obtain ⟨q, hq, hqτ⟩ := hnamed τ hτ
  rw [hp, Option.some.injEq] at hq
  subst hq
  exact Prod.ext (hpσ.1.symm.trans hqτ.1) (hpσ.2.symm.trans hqτ.2)

theorem clearsOwn_of_noClash (u : String) (s : Cluster Node) (o : Cluster.Op Node)
    (hok : NoClash s o) : ClearsOwn u s o := by
  cases o with
  | onSessionClosed σ =>
    intro p hp hdel
    simp only [Cluster.step, Cluster.onSessionClosed] at hdel
    split at hdel
    · split at hdel
      · exact absurd hp hdel
      · exact ((compareDelete_of_noForeignNumber hok hp).resolve_left hdel).2
    · exact absurd hp hdel
  | _ => trivial

/-- In every run in which no login reads the presence record inside another
login's window and no login or close callback meets its own session number
under another node, at most one open session is bound to the user whenever the
cluster is at rest, the record names it, and no close callback deletes the
record of another session. -/
theorem singleLogin_of_noClash {u : String} (hu : u ≠ "") {os : List (Cluster.Op Node)}
    (h : Along (Cluster.step u) NoClash Cluster.init os) :
    SingleLogin u (run (Cluster.step u) Cluster.init os) ∧
      Along (Cluster.step u) (ClearsOwn u) Cluster.init os :=
  ⟨(h.inv (step_inv hu) (init_inv hu)).singleLogin, h.mono (clearsOwn_of_noClash u)⟩

/-! ## Two runs -/

/-- The steps of a login. -/
def loginOps (σ : Node × Nat) : List (Cluster.Op Node) :=
  [.loginStart σ, .loginRead σ, .loginBind σ, .loginWrite σ, .loginPublish σ]

/-- The user logs in on one node and then on another, where the session has
another number, and the first session is kicked. -/
def kickRun : List (Cluster.Op String) :=
  .accept "a" :: .accept "b" :: .accept "b" ::
    (loginOps ("a", 1) ++ loginOps ("b", 2) ++ [.deliver ⟨"a", "u1001", 1, true⟩])

theorem kickRun_noClash : Along (Cluster.step "u1001") NoClash Cluster.init kickRun := by
  simp only [kickRun, loginOps, List.cons_append, List.nil_append, Along, NoClash, true_and,
    and_true]
  refine ⟨⟨fun τ e => ?_, fun p hp => ?_⟩, fun τ e => ?_, fun p hp => ?_⟩
  · by_cases ha : τ = ("a", 1)
    · subst ha
      simp [Cluster.step, Cluster.accept, Cluster.init, Cluster.loginStart, Cluster.modify,
        Cluster.Accepted, newSession, InWindow]
    · simp [Cluster.step, Cluster.accept, Cluster.init, Cluster.loginStart, Cluster.modify,
        Cluster.Accepted, newSession, InWindow, ha]
  · cases hp
  · by_cases ha : τ = ("a", 1)
    · subst ha
      rintro (h | h) <;> cases h
    by_cases hb : τ = ("b", 2)
    · subst hb
      rintro (h | h) <;> cases h
    · simp [Cluster.step, Cluster.accept, Cluster.init, Cluster.loginStart, Cluster.loginRead,
        Cluster.loginBind, Cluster.loginWrite, Cluster.loginPublish, Cluster.modify,
        Cluster.Accepted, newSession, SessionManager.bindUser, SessionManager.new,
        SessionManager.add, Cluster.kickRemoteExistingSession, InWindow, ha, hb]
  · obtain rfl := Option.some.inj hp
    decide

theorem singleLogin_kickRun :
    SingleLogin "u1001" (run (Cluster.step "u1001") Cluster.init kickRun) ∧
      Along (Cluster.step "u1001") (ClearsOwn "u1001") Cluster.init kickRun :=
  singleLogin_of_noClash (by decide) kickRun_noClash

/-- The user logs in on one node and then on another, where the session happens
to have the same number. -/
def sameNumberRun : List (Cluster.Op String) :=
  .accept "a" :: .accept "b" :: (loginOps ("a", 1) ++ loginOps ("b", 1))

theorem sameNumberRun_idle (σ : String × Nat) :
    ((run (Cluster.step "u1001") Cluster.init sameNumberRun).sessions σ).login = .idle := by
  by_cases ha : σ = ("a", 1)
  · subst ha
    decide +kernel
  by_cases hb : σ = ("b", 1)
  · subst hb
    decide +kernel
  simp [sameNumberRun, loginOps, run, Cluster.step, Cluster.accept, Cluster.init,
    Cluster.loginStart, Cluster.loginRead, Cluster.loginBind, Cluster.loginWrite,
    Cluster.loginPublish, Cluster.modify, Cluster.Accepted, newSession, SessionManager.bindUser,
    SessionManager.new, SessionManager.add, Cluster.kickRemoteExistingSession, ha, hb]

/-- Then no kick is published, and both sessions stay open. -/
theorem sameNumberRun_two_logins :
    ¬ SingleLogin "u1001" (run (Cluster.step "u1001") Cluster.init sameNumberRun) := by
  intro h
  have hone := (h sameNumberRun_idle (by decide +kernel)).1 ("a", 1) ("b", 1)
    ⟨by decide +kernel, by decide +kernel⟩ ⟨by decide +kernel, by decide +kernel⟩
  exact absurd hone (by decide)

end MeetingSystem.Proof.Signaling
