import MeetingSystem.Framework.Run
import MeetingSystem.Impl.Signaling.Server
import MeetingSystem.Proof.Signaling.SessionManager

/-!
# The user index of the session manager

`byUser` should lead to a session that is in the session table and bound to
that user. `BindUser` adds an entry without a look at the session: a second
login as another user leaves the entry of the first one behind, and a login
that has passed the router binds a session that has been closed and removed
meanwhile (`relogin_stale`).

`index_sound`: these are the only ways; in every run that avoids them,
`GetByUser` and `DeliverUserFrame` reach the user's own session.
-/

namespace MeetingSystem.Proof.Signaling

open MeetingSystem.Framework MeetingSystem.Impl.Signaling

variable {s s' : Server}

/-! ## The statement -/

/-- The session is in the table and bound to the user. -/
def HasUser (s : Server) (i : Nat) (u : String) : Prop :=
  s.manager.sessions i = true ∧ (s.sessions i).userID = u

/-- What the index promises to those who look a user up. -/
structure IndexSound (s : Server) : Prop where
  byUser : ∀ u i, s.manager.byUser u = some i → HasUser s i u
  getByUser : ∀ u i, s.manager.getByUser u = some i → HasUser s i u
  deliver : ∀ u target frame i, s.manager.deliverUserFrame u target frame = some i → HasUser s i u

/-- A login binds a session that is still in the table and that the index does
not have for another user. -/
def BindsFresh (s : Server) : Server.Op → Prop
  | .handler i _ => ∀ u, (s.sessions i).handler = .loginBind u →
      s.manager.sessions i = true ∧
        ∀ v, s.manager.byUser v = some i → v = u
  | _ => True

/-! ## What most steps leave alone -/

/-- The manager and the users of the sessions are the same, and no handler has
come to `BindUser`. -/
structure SameIndex (s s' : Server) : Prop where
  manager : s'.manager = s.manager
  user : ∀ j, (s'.sessions j).userID = (s.sessions j).userID
  handler : ∀ j u, (s'.sessions j).handler = .loginBind u → (s.sessions j).handler = .loginBind u

theorem SameIndex.refl (s : Server) : SameIndex s s := ⟨rfl, fun _ => rfl, fun _ _ h => h⟩

theorem SameIndex.trans {s'' : Server} (h : SameIndex s s') (h' : SameIndex s' s'') :
    SameIndex s s'' :=
  ⟨h'.manager.trans h.manager, fun j => (h'.user j).trans (h.user j),
    fun j u hu => h.handler j u (h'.handler j u hu)⟩

theorem SameIndex.modify (s : Server) (i : Nat) {f : SessionTasks → SessionTasks}
    (hu : (f (s.sessions i)).userID = (s.sessions i).userID)
    (hh : ∀ u, (f (s.sessions i)).handler = .loginBind u → (s.sessions i).handler = .loginBind u) :
    SameIndex s (s.modify i f) := by
  refine ⟨rfl, fun j => ?_, fun j u => ?_⟩
  · by_cases hj : j = i
    · subst hj
      simp only [Server.modify, Function.update_self, hu]
    · simp only [Server.modify, Function.update_of_ne hj]
  · by_cases hj : j = i
    · subst hj
      simp only [Server.modify, Function.update_self]
      exact hh u
    · simp only [Server.modify, Function.update_of_ne hj]
      exact id

theorem sameIndex_goto (s : Server) (i : Nat) {h : Handler} (hh : ∀ u, h ≠ .loginBind u) :
    SameIndex s (s.goto i h) :=
  SameIndex.modify s i rfl fun u hu => absurd hu (hh u)

theorem sameIndex_gotoCallback (s : Server) (i : Nat) (c : Callback) :
    SameIndex s (s.gotoCallback i c) :=
  SameIndex.modify s i rfl fun _ hu => hu

theorem sameIndex_setMeetingID (s : Server) (i : Nat) (m : String) :
    SameIndex s (s.setMeetingID i m) :=
  SameIndex.modify s i rfl fun _ hu => hu

theorem sameIndex_setState (s : Server) (i : Nat) (state : SessionState) :
    SameIndex s (s.setState i state) :=
  SameIndex.modify s i rfl fun _ hu => hu

theorem sameIndex_close (s : Server) (i : Nat) : SameIndex s (s.close i) :=
  SameIndex.modify s i (Session.close_userID _) fun _ hu => hu

/-- A call of the store changes nothing else. -/
theorem sameIndex_store (s : Server) (store : Impl.Store.MemoryStore) :
    SameIndex s { s with store } :=
  ⟨rfl, fun _ => rfl, fun _ _ h => h⟩

theorem sameIndex_leaveMeeting (s : Server) (i : Nat) (m u : String) {next : Handler}
    (hn : ∀ u, next ≠ .loginBind u) : SameIndex s (s.leaveMeeting i m u next) := by
  simp only [Server.leaveMeeting]
  split
  · exact (sameIndex_store s _).trans (sameIndex_goto _ i hn)
  · exact (sameIndex_store s _).trans (sameIndex_goto _ i (by simp))

theorem sameIndex_createMeeting (s : Server) (i : Nat) (env : Server.Env) (title password : String)
    (n : Int) : SameIndex s (s.createMeeting i env title password n) := by
  simp only [Server.createMeeting]
  split
  · exact .refl s
  · split <;> exact (sameIndex_store s _).trans (sameIndex_goto _ i (by simp))

theorem sameIndex_joinMeeting (s : Server) (i : Nat) (m password : String) :
    SameIndex s (s.joinMeeting i m password) := by
  simp only [Server.joinMeeting]
  split <;> exact (sameIndex_store s _).trans (sameIndex_goto _ i (by simp))

theorem sameIndex_rollbackCreate (s : Server) (i : Nat) (m : String) :
    SameIndex s (s.rollbackCreate i m) := by
  simp only [Server.rollbackCreate]
  split
  · exact sameIndex_goto s i (by simp)
  · exact sameIndex_leaveMeeting s i m _ (by simp)

/-- Of the handlers' steps, only `BindUser` touches the index. -/
theorem sameIndex_handlerStep {i : Nat} (env : Server.Env)
    (h : ∀ u, (s.sessions i).handler ≠ .loginBind u) : SameIndex s (s.handlerStep i env) := by
  simp only [Server.handlerStep]
  cases hh : (s.sessions i).handler with
  | loginBind u => exact absurd hh (h u)
  | idle => exact .refl s
  | loginState => exact (sameIndex_setState s i _).trans (sameIndex_goto _ i (by simp))
  | loginMeeting => exact (sameIndex_setMeetingID s i _).trans (sameIndex_goto _ i (by simp))
  | createStore title password n => exact sameIndex_createMeeting s i env title password n
  | joinStore m password => exact sameIndex_joinMeeting s i m password
  | joined m created =>
    dsimp only
    split
    · exact sameIndex_rollbackCreate s i m
    · exact (sameIndex_setMeetingID s i m).trans (sameIndex_goto _ i (by simp))
  | entering => exact (sameIndex_setState s i _).trans (sameIndex_goto _ i (by simp))
  | leaveRead =>
    dsimp only
    split <;> exact sameIndex_goto s i (by simp)
  | leaveStore m => exact sameIndex_leaveMeeting s i m _ (by simp)
  | leaveReset => exact (sameIndex_setMeetingID s i _).trans (sameIndex_goto _ i (by simp))
  | leaveCheck =>
    dsimp only
    split <;> exact sameIndex_goto s i (by simp)
  | leaveState => exact (sameIndex_setState s i _).trans (sameIndex_goto _ i (by simp))
  | kickRead target =>
    dsimp only
    split <;> exact sameIndex_goto s i (by simp)
  | kickHost m target =>
    dsimp only
    split <;> exact sameIndex_goto s i (by simp)
  | kickHas m target =>
    dsimp only
    split <;> exact sameIndex_goto s i (by simp)
  | kickLeave m target => exact sameIndex_leaveMeeting s i m target (by simp)
  | kickFind m target =>
    dsimp only
    split <;> exact sameIndex_goto s i (by simp)
  | kickCheck m k =>
    dsimp only
    split <;> exact sameIndex_goto s i (by simp)
  | kickReset k => exact (sameIndex_setMeetingID s k _).trans (sameIndex_goto _ i (by simp))
  | kickState k => exact (sameIndex_setState s k _).trans (sameIndex_goto _ i (by simp))

/-! ## The invariant -/

/-- Every entry leads to the user's session, and none is made for the empty
user id, for which `Remove` would not look. -/
structure Indexed (s : Server) : Prop where
  entry : ∀ u i, s.manager.byUser u = some i → HasUser s i u
  named : s.manager.byUser "" = none
  login : ∀ i u, (s.sessions i).handler = .loginBind u → u ≠ ""

theorem Indexed.same (h : Indexed s) (hs : SameIndex s s') : Indexed s' := by
  refine ⟨fun u i hu => ?_, ?_, fun i u hu => h.login i u (hs.handler i u hu)⟩
  · rw [hs.manager] at hu
    obtain ⟨hin, huser⟩ := h.entry u i hu
    exact ⟨by rw [hs.manager]; exact hin, (hs.user i).trans huser⟩
  · rw [hs.manager]
    exact h.named

theorem Indexed.accept (h : Indexed s) : Indexed s.accept := by
  refine ⟨fun u i hu => ?_, h.named, h.login⟩
  obtain ⟨hin, huser⟩ := h.entry u i hu
  refine ⟨?_, huser⟩
  show Function.update s.manager.sessions (s.nextID + 1) true i = true
  by_cases hi : i = s.nextID + 1
  · rw [hi, Function.update_self]
  · rw [Function.update_of_ne hi]
    exact hin

/-- `HandleLogin` refuses the empty user id before it calls `BindUser`. -/
theorem firstStep_login {r : Request} {u : String} (h : Server.firstStep r = .loginBind u) :
    u ≠ "" := by
  cases r with
  | login v =>
    simp only [Server.firstStep] at h
    split at h
    · cases h
    · rename_i hv
      obtain rfl := Handler.loginBind.inj h
      exact hv
  | create | join | kick =>
    simp only [Server.firstStep] at h
    split at h <;> cases h
  | leave => cases h

theorem Indexed.request (h : Indexed s) (i : Nat) (r : Request) : Indexed (s.request i r) := by
  simp only [Server.request]
  split
  · split
    · refine ⟨fun u j hu => ?_, h.named, fun j u hu => ?_⟩
      · obtain ⟨hin, huser⟩ := h.entry u j hu
        refine ⟨hin, ?_⟩
        by_cases hj : j = i
        · subst hj
          simp only [Server.goto, Server.modify, Function.update_self]
          exact huser
        · simp only [Server.goto, Server.modify, Function.update_of_ne hj]
          exact huser
      · by_cases hj : j = i
        · subst hj
          simp only [Server.goto, Server.modify, Function.update_self] at hu
          exact firstStep_login hu
        · simp only [Server.goto, Server.modify, Function.update_of_ne hj] at hu
          exact h.login j u hu
    · exact h.same (sameIndex_close s i)
  · exact h

/-- The callback removes the session with the user it is bound to. -/
theorem Indexed.remove (h : Indexed s) (i : Nat) :
    Indexed { s with manager := s.manager.remove i (s.sessions i).userID } := by
  refine ⟨fun u j hu => ?_, ?_, h.login⟩
  · obtain ⟨hbefore, hgone⟩ := byUser_of_remove hu
    obtain ⟨hin, huser⟩ := h.entry u j hbefore
    have hj : j ≠ i := by
      intro hj
      subst hj
      refine hgone huser.symm (fun hempty => ?_) rfl
      rw [← huser, hempty, h.named] at hbefore
      cases hbefore
    exact ⟨(sessions_remove _ _ hj).trans hin, huser⟩
  · cases hnone : (s.manager.remove i (s.sessions i).userID).byUser "" with
    | none => rfl
    | some j => exact absurd (byUser_of_remove hnone).1 (by rw [h.named]; simp)

theorem Indexed.callbackStep (h : Indexed s) (i : Nat) : Indexed (s.callbackStep i) := by
  simp only [Server.callbackStep]
  cases hc : (s.sessions i).callback with
  | waiting =>
    dsimp only
    split
    · split <;> exact h.same (sameIndex_gotoCallback s i _)
    · exact h
  | leaveRead =>
    dsimp only
    split <;> exact h.same (sameIndex_gotoCallback s i _)
  | leaveStore m =>
    dsimp only
    split <;> exact h.same ((sameIndex_store s _).trans (sameIndex_gotoCallback _ i _))
  | leaveReset =>
    exact h.same ((sameIndex_setMeetingID s i _).trans (sameIndex_gotoCallback _ i _))
  | remove => exact (h.remove i).same (sameIndex_gotoCallback _ i _)
  | done => exact h

/-- `BindUser` on a session in the table that the index has for no other user. -/
theorem Indexed.bindUser (h : Indexed s) {i : Nat} {u : String} (hne : u ≠ "")
    (hin : s.manager.sessions i = true) (hown : ∀ v, s.manager.byUser v = some i → v = u) :
    Indexed (s.bindUser i u) := by
  have hset : Indexed
      ({ s with manager := (s.manager.bindUser i u).1 }.setUserID i u) := by
    refine ⟨fun v j hv => ?_, ?_, fun j v hv => ?_⟩
    · by_cases hvu : v = u
      · subst hvu
        have hj : i = j := Option.some.inj ((bindUser_fst_byUser s.manager i v).symm.trans hv)
        subst hj
        refine ⟨hin, ?_⟩
        simp only [Server.setUserID, Server.modify, Function.update_self]
      · have hold : s.manager.byUser v = some j :=
          (bindUser_byUser_ne s.manager i hvu).symm.trans hv
        obtain ⟨hjin, huser⟩ := h.entry v j hold
        have hji : j ≠ i := by
          intro hji
          subst hji
          exact hvu (hown v hold)
        refine ⟨hjin, ?_⟩
        simp only [Server.setUserID, Server.modify, Function.update_of_ne hji]
        exact huser
    · exact (bindUser_byUser_ne s.manager i (Ne.symm hne)).trans h.named
    · refine h.login j v ?_
      by_cases hji : j = i
      · subst hji
        simpa only [Server.setUserID, Server.modify, Function.update_self] using hv
      · simpa only [Server.setUserID, Server.modify, Function.update_of_ne hji] using hv
  simp only [Server.bindUser]
  split
  · exact hset.same (sameIndex_close _ _)
  · exact hset

theorem indexed_step {o : Server.Op} (hok : BindsFresh s o) (h : Indexed s) :
    Indexed (s.step o) := by
  cases o with
  | accept => exact h.accept
  | request i r => exact h.request i r
  | handler i env =>
    by_cases hlogin : ∃ u, (s.sessions i).handler = .loginBind u
    · obtain ⟨u, hu⟩ := hlogin
      obtain ⟨hin, hown⟩ := hok u hu
      have hstep : s.step (.handler i env) = (s.bindUser i u).goto i .loginState := by
        simp only [Server.step, Server.handlerStep, hu]
      rw [hstep]
      exact (h.bindUser (h.login i u hu) hin hown).same (sameIndex_goto _ i (by simp))
    · exact h.same (sameIndex_handlerStep env fun u hu => hlogin ⟨u, hu⟩)
  | close i =>
    simp only [Server.step]
    split
    · exact h.same (sameIndex_close s i)
    · exact h
  | callback i => exact h.callbackStep i

theorem indexed_init (hash : String → String) : Indexed (Server.init hash) := by
  refine ⟨fun u i hu => ?_, rfl, fun i u hu => ?_⟩
  · cases hu
  · cases hu

theorem Indexed.sound (h : Indexed s) : IndexSound s := by
  refine ⟨h.entry, h.entry, fun u target frame i hi => ?_⟩
  simp only [SessionManager.deliverUserFrame] at hi
  split at hi
  · cases hi
  · split at hi
    · cases hi
    · rename_i j hj
      split at hi
      · cases hi
      · obtain rfl := Option.some.inj hi
        exact h.entry u j hj

/-- In every run in which each login binds a session that is still in the
table and that the index has for no other user, the index is sound. -/
theorem index_sound (hash : String → String) (os : List Server.Op)
    (h : Along Server.step BindsFresh (Server.init hash) os) :
    IndexSound (run Server.step (Server.init hash) os) := by
  have hinv : Indexed (run Server.step (Server.init hash) os) :=
    Along.inv (fun s o hok hs => indexed_step hok hs) (indexed_init hash) h
  exact hinv.sound

/-! ## Runs -/

/-- `BindsFresh` where the index is sound: only the entry of the session's own
user can lead to it. -/
def bindsFreshHere (s : Server) : Server.Op → Bool
  | .handler i _ =>
    match (s.sessions i).handler with
    | .loginBind u =>
      s.manager.sessions i ∧
        (s.manager.byUser (s.sessions i).userID = some i → (s.sessions i).userID = u)
    | _ => true
  | _ => true

theorem bindsFresh_of_here {o : Server.Op} (h : Indexed s) (ho : bindsFreshHere s o = true) :
    BindsFresh s o := by
  cases o with
  | handler i env =>
    intro u hu
    simp only [bindsFreshHere, hu, decide_eq_true_eq] at ho
    refine ⟨ho.1, fun v hv => ?_⟩
    have huser := (h.entry v i hv).2
    rw [huser] at ho
    exact ho.2 hv
  | _ => trivial

def idleEnv : Server.Env := { meetingID := "", now := 0, routed := true }

/-- `u` logs in on session `i`. -/
def signIn (i : Nat) (u : String) : List Server.Op :=
  [.request i (.login u), .handler i idleEnv, .handler i idleEnv, .handler i idleEnv]

/-- A second login of the same user displaces the first, whose callback runs
late; then the first user's second session logs in again. -/
def displaceRun : List Server.Op :=
  [.accept, .accept] ++ signIn 1 "u1001" ++ signIn 2 "u1001" ++ [.callback 1, .callback 1] ++
    signIn 2 "u1001"

theorem index_sound_displaceRun :
    (run Server.step (Server.init id) displaceRun).manager.getByUser "u1001" = some 2 ∧
    IndexSound (run Server.step (Server.init id) displaceRun) := by
  refine ⟨by decide +kernel, index_sound id displaceRun ?_⟩
  have hhere : Along Server.step (fun s o => bindsFreshHere s o = true) (Server.init id)
      displaceRun := by
    decide +kernel
  exact Along.of_inv (P := Indexed)
    (fun s o hok h => indexed_step (bindsFresh_of_here h hok) h)
    (fun s o hok h => bindsFresh_of_here h hok) (indexed_init id) hhere

/-- A session logs in as another user. -/
def reloginRun : List Server.Op := [.accept] ++ signIn 1 "u1001" ++ signIn 1 "u1002"

/-- A session is closed and removed while its login is being authenticated. -/
def lateRun : List Server.Op :=
  [.accept, .request 1 (.login "u1001"), .close 1, .callback 1, .callback 1, .handler 1 idleEnv]

theorem relogin_stale :
    ¬ IndexSound (run Server.step (Server.init id) reloginRun) ∧
    ¬ IndexSound (run Server.step (Server.init id) lateRun) := by
  constructor
  · intro h
    have huser := (h.getByUser "u1001" 1 (by decide +kernel)).2
    revert huser
    decide +kernel
  · intro h
    have hin := (h.getByUser "u1001" 1 (by decide +kernel)).1
    revert hin
    decide +kernel

end MeetingSystem.Proof.Signaling
