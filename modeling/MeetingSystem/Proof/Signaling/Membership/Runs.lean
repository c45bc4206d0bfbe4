import MeetingSystem.Proof.Signaling.Membership.Steps
import MeetingSystem.Framework.Run

/-!
# Runs of the signaling server

* `consistent_of_notOvertaken`: after every run of steps that are
  `NotOvertaken`, the server is `Consistent` whenever it is at rest;
* `overtakenRun_not_consistent`: a create that is overtaken by the close of its
  session leaves a participant without a session.
-/

namespace MeetingSystem.Proof.Signaling.Membership

open MeetingSystem.Framework MeetingSystem.Impl.Store MeetingSystem.Impl.Signaling
open MeetingSystem.Proof.Store

/-! ## Runs -/

theorem handlerStep_inv {s : Server} (h : Inv s) (i : Nat) (env : Server.Env)
    (hok : NotOvertaken s (.handler i env)) : Inv (s.handlerStep i env) := by
  have hself := h.handler i
  simp only [Server.handlerStep]
  cases hx : (s.sessions i).handler <;> simp only [NotOvertaken, hx] at hok <;>
    simp only [HandlerOk, hx] at hself <;> dsimp only
  case idle => exact h
  all_goals have hacc : s.Accepted i := h.accepted i (.inl (by simp [hx]))
  all_goals have hidle : plain (s.sessions i).handler = true → Inv (s.goto i .idle) :=
    fun hp => h.goto hacc hp rfl trivial (by simp) (by simp)
  all_goals simp only [hx] at hidle
  case loginBind => exact loginBind_inv h hx
  case loginState =>
    rw [Server.setState, Server.goto, modify_modify]
    exact h.login rfl hacc (by rw [hx]; rfl) hself
      ⟨hself.meetingID, fun _ => (by simp), hself.leaveRead, hself.leaveStore⟩ rfl rfl rfl (.inl rfl)
  case loginMeeting =>
    rw [Server.setMeetingID, Server.goto, modify_modify]
    exact h.login rfl hacc (by rw [hx]; rfl) hself
      ⟨rfl, hself.state, hself.leaveRead, hself.leaveStore⟩ rfl rfl rfl (.inr rfl)
  case createStore => exact createMeeting_inv h hx hok
  case joinStore => exact joinMeeting_inv h hx hok
  case joined =>
    split
    · rename_i hc
      rw [hc.1] at hx
      exact rollbackCreate_inv h hx
    · exact joined_inv h hx
  case entering => exact entering_inv h hx
  case leaveRead =>
    split
    · exact hidle rfl
    · exact h.goto hacc (by rw [hx]; rfl) rfl (.inl rfl) (by simp)
        fun m hm => ⟨hx, Handler.leaveStore.inj hm⟩
  case leaveStore => exact leaveStore_inv h hx
  case leaveReset =>
    rw [Server.setMeetingID, Server.goto, modify_modify]
    exact h.leaveEnd rfl (.inl hx) rfl rfl rfl rfl (.inl rfl)
  case leaveCheck =>
    split
    · exact h.leaveEnd rfl (.inr (.inl hx)) hself rfl rfl rfl (.inr (.inl rfl))
    · rename_i hst
      rw [not_not] at hst
      exact h.leaveEnd rfl (.inr (.inl hx)) hself rfl rfl rfl (.inr (.inr ⟨rfl, by simp [hst]⟩))
  case leaveState =>
    rw [Server.setState, Server.goto, modify_modify]
    exact h.leaveEnd rfl (.inr (.inr hx)) hself rfl rfl rfl (.inr (.inr ⟨rfl, (by simp)⟩))
  case kickRead =>
    split
    · exact hidle rfl
    · rename_i hm
      rw [not_or] at hm
      exact h.goto hacc (by rw [hx]; rfl) rfl ⟨hm.1, hself⟩ (by simp) (by simp)
  case kickHost =>
    split
    · exact h.goto hacc (by rw [hx]; rfl) rfl hself (by simp) (by simp)
    · exact hidle rfl
  case kickHas =>
    split
    · exact h.goto hacc (by rw [hx]; rfl) rfl hself (by simp) (by simp)
    · exact hidle rfl
  case kickLeave => exact kickLeave_inv h hx hok
  case kickFind => exact kickFind_inv h hx hok
  case kickCheck => exact kickCheck_inv h hx
  case kickReset => exact kickReset_inv h hx
  case kickState => exact kickState_inv h hx

theorem accept_inv {s : Server} (h : Inv s) : Inv s.accept :=
  { h with accepted := fun i hi => ⟨(h.accepted i hi).1, Nat.le_succ_of_le (h.accepted i hi).2⟩ }

/-- Every step that overtakes nobody keeps the invariant. -/
theorem step_inv (s : Server) (o : Server.Op) (hok : NotOvertaken s o) (h : Inv s) :
    Inv (s.step o) := by
  cases o with
  | accept => exact accept_inv h
  | request i r => exact request_inv h i r
  | handler i env => exact handlerStep_inv h i env hok
  | close i =>
    simp only [Server.step]
    split
    · exact close_inv h i
    · exact h
  | callback i => exact callbackStep_inv h i hok

theorem init_inv (hash : String → String) : Inv (Server.init hash) := by
  have hnone : ∀ m u, ¬ IsMember (newMemoryStore hash) m u := fun m u hu => by
    obtain ⟨mt, hmt⟩ := (newMemoryStore_storeOk hash).live hu
    cases hmt
  refine ⟨newMemoryStore_storeOk hash, fun i hi => ?_, fun i _ hu => absurd rfl hu, fun i => trivial,
    fun i _ => ⟨rfl, fun hm => absurd rfl hm, fun _ => .inl rfl, (fun h => by cases h), fun m hm => ?_⟩,
    fun m u hu => absurd hu (hnone m u), fun i k m hm _ he => ?_⟩
  · rcases hi with hi | hi <;> exact absurd rfl hi
  · rcases hm with ⟨c, hj⟩ | ⟨hj, _⟩ <;> cases hj
  · rcases he with ⟨he, _⟩ | he | he | ⟨c, he⟩
    · exact absurd he.symm hm
    all_goals cases he

/-- In every run in which no step overtakes a handler between two of its
writes, the participants of every meeting are the users of the open sessions in
it whenever the server is at rest. -/
theorem consistent_of_notOvertaken {hash : String → String} {os : List Server.Op}
    (h : Along Server.step NotOvertaken (Server.init hash) os)
    (hrest : AtRest (run Server.step (Server.init hash) os)) :
    Consistent (run Server.step (Server.init hash) os) :=
  (h.inv step_inv (init_inv hash)).consistent hrest

/-! ## Two runs of one session -/

/-- A step of session 1, with its handler in a login or a create, that reaches
no other session. -/
def solo (s : Server) : Server.Op → Bool
  | .accept => true
  | .request i _ | .close i | .callback i => i = 1
  | .handler i _ => i = 1 && match (s.sessions 1).handler with
    | .loginBind u => s.manager.byUser u = none
    | .createStore _ _ _ => (s.sessions 1).userID ≠ ""
    | .loginState | .loginMeeting | .joined _ _ | .entering => true
    | _ => false

/-- No session but 1 has done anything. -/
def Alone (s : Server) : Prop := ∀ k, k ≠ 1 → s.sessions k = (Server.init id).sessions k

theorem modify_alone {s : Server} (h : Alone s) (f : SessionTasks → SessionTasks) :
    Alone (s.modify 1 f) := fun k hk => (Function.update_of_ne hk ..).trans (h k hk)

theorem leaveMeeting_alone {s : Server} (h : Alone s) (m u : String) (hd : Handler) :
    Alone (s.leaveMeeting 1 m u hd) := by
  have hst : Alone { s with store := (s.store.leaveMeeting m u).1 } := h
  simp only [Server.leaveMeeting]
  split <;> exact modify_alone hst _

theorem createMeeting_alone {s : Server} (h : Alone s) (env : Server.Env) (title password : String)
    (maxParticipants : Int) : Alone (s.createMeeting 1 env title password maxParticipants) := by
  have hst : ∀ st, Alone { s with store := st } := fun _ => h
  simp only [Server.createMeeting]
  split
  · exact h
  · split <;> exact modify_alone (hst _) _

theorem bindUser_alone {s : Server} (h : Alone s) {u : String} (hu : s.manager.byUser u = none) :
    Alone (s.bindUser 1 u) := by
  have hman : ∀ manager, Alone { s with manager } := fun _ => h
  simp only [Server.bindUser, SessionManager.bindUser, hu]
  exact modify_alone (hman _) _

theorem solo_alone (s : Server) (o : Server.Op) (hs : solo s o = true) (h : Alone s) :
    Alone (s.step o) := by
  cases o with
  | accept => exact h
  | request i r =>
    obtain rfl : i = 1 := by simpa [solo] using hs
    simp only [Server.step, Server.request]
    split
    · split <;> exact modify_alone h _
    · exact h
  | close i =>
    obtain rfl : i = 1 := by simpa [solo] using hs
    simp only [Server.step]
    split
    · exact modify_alone h _
    · exact h
  | callback i =>
    obtain rfl : i = 1 := by simpa [solo] using hs
    have hman : ∀ manager, Alone { s with manager } := fun _ => h
    have hst : ∀ st, Alone { s with store := st } := fun _ => h
    simp only [Server.step, Server.callbackStep]
    split
    · split
      · split <;> exact modify_alone h _
      · exact h
    · split <;> exact modify_alone h _
    · split <;> exact modify_alone (hst _) _
    · exact modify_alone (modify_alone h _) _
    · exact modify_alone (hman _) _
    · exact h
  | handler i env =>
    simp only [solo, Bool.and_eq_true, decide_eq_true_eq] at hs
    obtain ⟨rfl, hs⟩ := hs
    simp only [Server.step, Server.handlerStep]
    cases hx : (s.sessions 1).handler <;> simp only [hx, Bool.false_eq_true] at hs <;> dsimp only
    · exact modify_alone (bindUser_alone h (by simpa using hs)) _
    · exact modify_alone (modify_alone h _) _
    · exact modify_alone (modify_alone h _) _
    · exact createMeeting_alone h _ _ _ _
    · split
      · simp only [Server.rollbackCreate]
        split
        · exact modify_alone h _
        · exact leaveMeeting_alone h _ _ _
      · exact modify_alone (modify_alone h _) _
    · exact modify_alone (modify_alone h _) _

/-- Such a step overtakes nobody, unless the close callback starts in the
middle of the create. -/
theorem solo_notOvertaken (s : Server) (o : Server.Op)
    (hs : solo s o = true ∧ (o = .callback 1 → (s.sessions 1).handler = .idle)) (h : Alone s) :
    NotOvertaken s o := by
  obtain ⟨hs, hcb⟩ := hs
  cases o with
  | accept | request | close => trivial
  | callback i =>
    obtain rfl : i = 1 := by simpa [solo] using hs
    simp [NotOvertaken, hcb, Joining]
  | handler i env =>
    simp only [solo, Bool.and_eq_true, decide_eq_true_eq] at hs
    obtain ⟨rfl, hs⟩ := hs
    have hidle : ∀ k, k ≠ 1 → (s.sessions k).handler = .idle := fun k hk => by rw [h k hk]; rfl
    simp only [NotOvertaken]
    cases hx : (s.sessions 1).handler <;> simp only [hx, Bool.false_eq_true] at hs
    case createStore =>
      refine ⟨fun k hk hu => ?_, fun t => ?_, fun _ t => ?_⟩
      · rw [h k hk] at hu
        exact absurd hu.symm (by simpa [Server.init, newSession] using hs)
      · by_cases ht : t = 1
        · simp [ht, hx, Removing]
        · simp [hidle t ht, Removing]
      · by_cases ht : t = 1
        · simp [ht, hx]
        · simp [hidle t ht]
    all_goals trivial

/-- A step of the handler of session 1, in which `CreateMeeting` draws the id
100001. -/
def next : Server.Op := .handler 1 { meetingID := "100001", now := 0, routed := true }

/-- A user logs in and starts to create a meeting. -/
def createOps : List Server.Op :=
  [.accept, .request 1 (.login "u1001"), next, next, next, .request 1 (.create "standup" "" 0)]

/-- The close callback of session 1. -/
def callbackOps : List Server.Op := List.replicate 5 (.callback 1)

/-- The meeting is created, and then the session is closed. -/
def createRun : List Server.Op := createOps ++ [next, next, next, .close 1] ++ callbackOps

/-- The session is closed, and its callback runs, between the two writes of the
create. -/
def overtakenRun : List Server.Op :=
  createOps ++ [next, .close 1] ++ callbackOps ++ [next, next]

theorem atRest_of_solo {os : List Server.Op}
    (h : Along Server.step (fun s o => solo s o = true) (Server.init id) os)
    (hidle : ((run Server.step (Server.init id) os).sessions 1).handler = .idle)
    (hdone : ((run Server.step (Server.init id) os).sessions 1).callback = .done) :
    AtRest (run Server.step (Server.init id) os) := by
  have halone := h.inv solo_alone fun _ _ => rfl
  intro i
  by_cases hi : i = 1
  · subst hi
    exact ⟨hidle, fun _ => hdone⟩
  · rw [halone i hi]
    exact ⟨rfl, (fun h => by cases h)⟩

theorem consistent_createRun :
    AtRest (run Server.step (Server.init id) createRun) ∧
      Consistent (run Server.step (Server.init id) createRun) := by
  have hrest : AtRest (run Server.step (Server.init id) createRun) :=
    atRest_of_solo (by decide +kernel) (by decide +kernel) (by decide +kernel)
  have hsolo : Along Server.step (fun s o => solo s o = true ∧
      (o = .callback 1 → (s.sessions 1).handler = .idle)) (Server.init id) createRun := by
    decide +kernel
  refine ⟨hrest, consistent_of_notOvertaken ?_ hrest⟩
  exact hsolo.of_inv (P := Alone) (fun s o hs => solo_alone s o hs.1) solo_notOvertaken
    fun _ _ => rfl

/-- The user stays a participant, and no open session is left. -/
theorem overtakenRun_not_consistent :
    AtRest (run Server.step (Server.init id) overtakenRun) ∧
      ¬ Consistent (run Server.step (Server.init id) overtakenRun) := by
  have hsolo : Along Server.step (fun s o => solo s o = true) (Server.init id) overtakenRun := by
    decide +kernel
  refine ⟨atRest_of_solo hsolo (by decide +kernel) (by decide +kernel), fun h => ?_⟩
  have hmem : IsMember (run Server.step (Server.init id) overtakenRun).store "100001" "u1001" := by
    decide +kernel
  obtain ⟨i, -, hi⟩ := (h "u1001" "100001").mp hmem
  by_cases hi1 : i = 1
  · subst hi1
    exact absurd hi.isOpen (by decide +kernel)
  · have huser := hi.userID
    rw [hsolo.inv solo_alone (fun _ _ => rfl) i hi1] at huser
    simp [Server.init, newSession] at huser

end MeetingSystem.Proof.Signaling.Membership
