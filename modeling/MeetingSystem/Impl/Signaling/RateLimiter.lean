import MeetingSystem.Framework.FixedWindow
import MeetingSystem.Impl.Signaling.Login

/-!
# The login rate limiter

`signaling/auth/rate_limiter.go`, and the part of `HandleLogin` before `handleLogin`
of `Login`: the call of the limiter. All nodes count in one Redis, in which a key
is gone when the clock has passed its expiry time; times there are milliseconds.
-/

namespace MeetingSystem.Impl.Signaling

open MeetingSystem.Framework

structure RateLimiter where
  /-- There is a limiter, and it has a client. -/
  enabled : Bool
  limit : Int64
  /-- In nanoseconds. -/
  window : Int64
  keyPrefix : String
  deriving DecidableEq, Repr

def newRateLimiter (client : Bool) (limit window : Int64) : RateLimiter :=
  { enabled := client, limit, window, keyPrefix := "rate_limit:" }

/-- The counters with their expiry times. -/
abbrev Counters := String → Option (Window Nat)

/-- The fate of a script: it is run and the reply comes back, the reply is lost, or
it is not run. -/
inductive ScriptOutcome where
  | answered
  | lost
  | failed
  deriving DecidableEq, Repr

/-- `INCR` and, for a new key, `PEXPIRE`, which deletes the key if the time is 0. The
value is a signed number of 64 bits, which `INCR` does not take over its bound. -/
def incrScript (ms now : Nat) (w : Option (Window Nat)) : Option (Window Nat) × Option Nat :=
  match Window.current now w with
  | some x =>
    if x.count + 1 < 2 ^ 63 then (some { x with count := x.count + 1 }, some (x.count + 1))
    else (some x, none)
  | none => (if ms = 0 then none else some { count := 1, expires := now + ms }, some 1)

namespace RateLimiter

variable (r : RateLimiter)

/-- `window.Milliseconds()`. -/
def milliseconds : Nat := (r.window.toInt.tdiv 1000000).toNat

/-- `Allow`: the counters after it, whether the caller may go on and the count, or an
error. -/
def allow (counters : Counters) (key : String) (now : Nat) (outcome : ScriptOutcome) :
    Counters × Option (Bool × Int) :=
  if !r.enabled || r.limit ≤ 0 || r.window ≤ 0 then (counters, some (true, 0))
  else
    let redisKey := r.keyPrefix ++ key
    let (w, result) := incrScript r.milliseconds now (counters redisKey)
    match outcome with
    | .failed => (counters, none)
    | .lost => (Function.update counters redisKey w, none)
    | .answered =>
      (Function.update counters redisKey w,
        result.map fun (n : Nat) => (decide (¬ r.limit.toInt < n), (n : Int)))

end RateLimiter

/-- The requests that `HandleLogin` does not turn down at once. -/
def AuthLoginReq.wellFormed (req : AuthLoginReq) : Bool :=
  req.username ≠ "" && (req.passwordHash ≠ "" || req.resumeToken ≠ "")

/-- `HandleLogin` with the limiter, which it goes on without if it fails. -/
def AuthHandler.handleLoginLimited (h : AuthHandler) (limiter : RateLimiter) (counters : Counters)
    (clock : Nat) (outcome : ScriptOutcome) (id : Nat) (now now' : Int64) (s : AuthHandler.Login)
    (req : Option AuthLoginReq) : Counters × AuthHandler.Login × Option Nat × AuthLoginRsp :=
  match req.filter AuthLoginReq.wellFormed with
  | none => (counters, h.handleLogin id none now now' s req)
  | some r =>
    let (counters, allowed) := limiter.allow counters ("login:" ++ r.username) clock outcome
    (counters, h.handleLogin id (allowed.map (·.1)) now now' s (some r))

/-! ## Many nodes -/

/-- A request with the session that it comes on, the clocks and what Redis does. -/
structure LoginAttempt (N : Type) where
  node : N
  session : Nat
  req : Option AuthLoginReq
  clock : Nat
  outcome : ScriptOutcome
  now : Int64
  now' : Int64

/-- The nodes' sessions, their managers and the counters of all of them. -/
structure LoginNodes (N : Type) where
  counters : Counters
  managers : N → SessionManager
  sessions : N × Nat → Session

def LoginNodes.init {N : Type} : LoginNodes N :=
  { counters := fun _ => none, managers := fun _ => .new, sessions := fun _ => newSession }

/-- A request on one of the nodes, and the response to it. -/
def LoginNodes.attempt {N : Type} [DecidableEq N] (handlers : N → AuthHandler)
    (limiter : RateLimiter) (s : LoginNodes N) (a : LoginAttempt N) :
    LoginNodes N × AuthLoginRsp :=
  let (counters, login, displaced, rsp) :=
    (handlers a.node).handleLoginLimited limiter s.counters a.clock a.outcome a.session a.now
      a.now' { manager := s.managers a.node, session := s.sessions (a.node, a.session) } a.req
  let sessions := Function.update s.sessions (a.node, a.session) login.session
  -- `BindUser` closes the session that it displaces
  let sessions := match displaced with
    | some id => Function.update sessions (a.node, id) (sessions (a.node, id)).close
    | none => sessions
  ({ counters, managers := Function.update s.managers a.node login.manager, sessions }, rsp)

end MeetingSystem.Impl.Signaling
