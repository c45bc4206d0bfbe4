import MeetingSystem.Impl.Signaling.Session
import MeetingSystem.Impl.Signaling.Token
import MeetingSystem.Impl.Store.Users

/-!
# Logging in

`HandleLogin` and `authenticate` of `signaling/handler/auth_handler.go`, from
the request to the response, as far as they touch the session and the session
manager. The presence record and the kick of a session on another node that
follow are in `Presence`.
-/

namespace MeetingSystem.Impl.Signaling

open MeetingSystem.Framework MeetingSystem.Impl.Store

/-- `protocol.AuthLoginReqBody`, the fields that are read. -/
structure AuthLoginReq where
  username : String
  passwordHash : String
  resumeToken : String
  deriving DecidableEq, Repr

structure ErrorInfo where
  code : Int32
  message : String
  deriving DecidableEq, Repr

structure AuthLoginRsp where
  success : Bool
  error : Option ErrorInfo := none
  token : Bytes := []
  userId : String := ""
  displayName : String := ""
  avatarUrl : String := ""
  deriving DecidableEq, Repr

def errInvalidParam : Int32 := 1001
def errAuthFailed : Int32 := 2001
def errRateLimited : Int32 := 2003

def AuthLoginRsp.failure (code : Int32) (message : String) : AuthLoginRsp :=
  { success := false, error := some { code, message } }

structure AuthHandler where
  store : MemoryStore
  userRepo : Option UserAuthRepo
  idKey : IDKey
  tokens : TokenManager

namespace AuthHandler

variable (h : AuthHandler)

/-- The user a token was issued to, if it has the name `username`. The bytes of
a user's id are a text, so a subject that is none belongs to nobody. -/
def userOfToken (now : Int64) (username token : String) : Option User := do
  let userID ← h.tokens.verify now (utf8 token)
  let user ← h.store.getUserByID h.userRepo (← ofUtf8 userID)
  if user.username ≠ username then none else some user

/-- `authenticate` and `authenticateWithToken`. -/
def authenticate (now : Int64) (username passwordHash resumeToken : String) : Option User :=
  if resumeToken ≠ "" then h.userOfToken now username resumeToken
  else
    match h.store.authenticate h.userRepo h.idKey username passwordHash with
    | .ok user => some user
    -- older clients put the token where the password goes
    | .error _ => h.userOfToken now username passwordHash

/-- A session with the manager that holds it. -/
structure Login where
  manager : SessionManager
  session : Session

/-- `HandleLogin` on session `id`: the state after it, the session it displaces
and the response. `req` is the decoded payload, `allowed` what the rate limiter
answers (`none` when it fails), `now` and `now'` the times at which the token is
checked and the new one issued. -/
def handleLogin (id : Nat) (allowed : Option Bool) (now now' : Int64) (s : Login)
    (req : Option AuthLoginReq) : Login × Option Nat × AuthLoginRsp :=
  match req with
  | none => (s, none, .failure errInvalidParam "bad request")
  | some req =>
    if req.username = "" ∨ (req.passwordHash = "" ∧ req.resumeToken = "") then
      (s, none, .failure errInvalidParam "bad request")
    else if allowed = some false then
      (s, none, .failure errRateLimited "too many login attempts")
    else
      match h.authenticate now req.username req.passwordHash req.resumeToken with
      | none => (s, none, .failure errAuthFailed "invalid username or password")
      | some user =>
        match h.tokens.generate now' user.id with
        | none => (s, none, .failure errInvalidParam "token generation failed")
        | some token =>
          let (manager, old) := s.manager.bindUser id user.id
          ({ manager, session := { s.session with userID := user.id, state := .authenticated,
                                                  meetingID := "" } },
            old,
            { success := true, token, userId := user.id, displayName := user.displayName,
              avatarUrl := user.avatarURL })

end AuthHandler

end MeetingSystem.Impl.Signaling
