import MeetingSystem.Impl.Signaling.Login
import MeetingSystem.Proof.Signaling.Tokens

/-!
# Whom a login binds a session to

`authenticate` takes a password or a token, and a token in either of its two
fields. `PasswordVerified` and `TokenVerified` say what has been shown for the
user it returns; `login_sound` is about the whole of `HandleLogin`.
-/

namespace MeetingSystem.Proof.Signaling

open MeetingSystem.Framework MeetingSystem.Impl.Store MeetingSystem.Impl.Signaling
open MeetingSystem.Proof.Store

/-- The string a request presents: the token if there is one. -/
def presented (req : AuthLoginReq) : String :=
  if req.resumeToken ≠ "" then req.resumeToken else req.passwordHash

/-- `u` is the user stored with the request's name, and the presented password
has been verified against the hash stored there. -/
def PasswordVerified (h : AuthHandler) (req : AuthLoginReq) (u : String) : Prop :=
  req.resumeToken = "" ∧ ∃ user, StoredUnder h.store h.userRepo req.username user ∧ user.id = u ∧
    verifyPassword h.idKey user.passwordHash req.passwordHash = true ∧
    (user.username = req.username ∨
      ∃ repo, h.userRepo = some repo ∧ repo.sameName user.username req.username)

/-- The presented string carries the signature of content that was issued for
`u` and has not expired, and `u` has the request's name. -/
def TokenVerified (h : AuthHandler) (issued : Content → Prop) (now : Int64) (req : AuthLoginReq)
    (u : String) : Prop :=
  ∃ c user, issued c ∧ Carries h.tokens (utf8 (presented req)) c.bytes ∧ c.subject = u ∧
    now ≤ c.exp ∧ h.store.getUserByID h.userRepo u = some user ∧ user.id = u ∧
    user.username = req.username

variable {h : AuthHandler} {now : Int64}

theorem storedUnder_username (hs : UsersOk h.store) {name : String} {user : User}
    (hstored : StoredUnder h.store h.userRepo name user) :
    user.username = name ∨
      ∃ repo, h.userRepo = some repo ∧ repo.sameName user.username name := by
  generalize hrepo : h.userRepo = userRepo at hstored
  cases hstored with
  | table hfind => exact .inr ⟨_, rfl, UserAuthRepo.findByUsername_same _ _ _ hfind⟩
  | memory _ huser => exact .inl (hs.username _ _ huser)

theorem userOfToken_eq_some {username token : String} {user : User}
    (hu : h.userOfToken now username token = some user) :
    ∃ userID, h.tokens.verify now (utf8 token) = some (utf8 userID) ∧
      h.store.getUserByID h.userRepo userID = some user ∧ user.username = username := by
  unfold AuthHandler.userOfToken at hu
  simp only [Option.bind_eq_bind, Option.bind_eq_some_iff] at hu
  obtain ⟨sub, hverify, userID, hutf8, user', hget, hu⟩ := hu
  split at hu
  · cases hu
  · rename_i hname
    rw [not_not] at hname
    obtain rfl := Option.some.inj hu
    exact ⟨userID, by rw [hverify, utf8_ofUtf8 hutf8], hget, hname⟩

theorem userOfToken_sound (hs : UsersOk h.store) {issued : Content → Prop}
    (hcanon : ∀ c, issued c → Canonical c.subject) {req : AuthLoginReq}
    (hunforged : ∀ payload, Carries h.tokens (utf8 (presented req)) payload →
      ∃ c, issued c ∧ c.bytes = payload) {user : User}
    (hu : h.userOfToken now req.username (presented req) = some user) :
    TokenVerified h issued now req user.id := by
  obtain ⟨userID, hverify, hget, hname⟩ := userOfToken_eq_some hu
  obtain ⟨c, hc, hcarries, hsub, hexp⟩ := verify_sound hcanon hunforged hverify
  obtain rfl : userID = c.subject := utf8_inj.mp hsub
  obtain ⟨n, hn⟩ := hcanon c hc
  have hid : user.id = c.subject := by
    rw [hn] at hget ⊢
    exact getUserByID_id hs hget
  exact ⟨c, user, hc, hcarries, hid.symm, Int64.not_lt.mp hexp, hid ▸ hget, rfl, hname⟩

/-- Whoever `authenticate` returns has been shown to be so. -/
theorem authenticate_sound (hs : UsersOk h.store) {issued : Content → Prop}
    (hcanon : ∀ c, issued c → Canonical c.subject) {req : AuthLoginReq}
    (hunforged : ∀ payload, Carries h.tokens (utf8 (presented req)) payload →
      ∃ c, issued c ∧ c.bytes = payload) {user : User}
    (hu : h.authenticate now req.username req.passwordHash req.resumeToken = some user) :
    PasswordVerified h req user.id ∨ TokenVerified h issued now req user.id := by
  unfold AuthHandler.authenticate at hu
  split at hu
  · rename_i htoken
    have hp : presented req = req.resumeToken := if_pos htoken
    rw [← hp] at hu
    exact .inr (userOfToken_sound hs hcanon hunforged hu)
  · rename_i htoken
    have hp : presented req = req.passwordHash := if_neg htoken
    split at hu
    · rename_i user' hok
      obtain rfl := Option.some.inj hu
      obtain ⟨hstored, hverify⟩ := authenticate_eq_ok hok
      exact .inl ⟨not_not.mp htoken, user', hstored, rfl, hverify,
        storedUnder_username hs hstored⟩
    · rw [← hp] at hu
      exact .inr (userOfToken_sound hs hcanon hunforged hu)

/-- `HandleLogin` refuses and changes nothing, or binds the session to the user
`authenticate` returned. -/
theorem handleLogin_cases (h : AuthHandler) (id : Nat) (allowed : Option Bool) (now now' : Int64)
    (s : AuthHandler.Login) (req : AuthLoginReq) :
    ((h.handleLogin id allowed now now' s (some req)).2.2.success = false ∧
        (h.handleLogin id allowed now now' s (some req)).1 = s) ∨
      ∃ user, h.authenticate now req.username req.passwordHash req.resumeToken = some user ∧
        (h.handleLogin id allowed now now' s (some req)).2.2.success = true ∧
        (h.handleLogin id allowed now now' s (some req)).1.session.userID = user.id ∧
        (h.handleLogin id allowed now now' s (some req)).1.manager.byUser user.id = some id := by
  unfold AuthHandler.handleLogin
  dsimp only
  split
  · exact .inl ⟨rfl, rfl⟩
  · split
    · exact .inl ⟨rfl, rfl⟩
    · split
      · exact .inl ⟨rfl, rfl⟩
      · rename_i user huser
        split
        · exact .inl ⟨rfl, rfl⟩
        · exact .inr ⟨user, huser, rfl, rfl, Function.update_self ..⟩

/-- A login that authenticates is accepted. -/
theorem handleLogin_ok {id : Nat} {allowed : Option Bool} (hallowed : allowed ≠ some false)
    {now' : Int64} {s : AuthHandler.Login} {req : AuthLoginReq} (hname : req.username ≠ "")
    (hreq : req.resumeToken ≠ "") {user : User}
    (huser : h.authenticate now req.username req.passwordHash req.resumeToken = some user)
    (hid : user.id ≠ "") :
    (h.handleLogin id allowed now now' s (some req)).2.2.success = true ∧
      (h.handleLogin id allowed now now' s (some req)).1.session.userID = user.id := by
  unfold AuthHandler.handleLogin
  dsimp only
  rw [if_neg (by simp [hname, hreq]), if_neg hallowed, huser]
  dsimp only
  rw [TokenManager.generate, if_neg hid]
  exact ⟨rfl, rfl⟩

/-- Whatever the store's history, the user table and the request: when only
issued content is signed, a refused login changes nothing, and a session is
bound to a user only on that user's password or an unexpired token issued to
it, of a format that the other verifier takes for nobody. -/
theorem login_sound (hash : String → String) (os : List Op) (userRepo : Option UserAuthRepo)
    (idKey : IDKey) (tokens : TokenManager) (issued : Content → Prop)
    (hcanon : ∀ c, issued c → Canonical c.subject) (id : Nat) (allowed : Option Bool)
    (now now' : Int64) (s : AuthHandler.Login) (req : AuthLoginReq)
    (hunforged : ∀ payload, Carries tokens (utf8 (presented req)) payload →
      ∃ c, issued c ∧ c.bytes = payload) :
    let h : AuthHandler :=
      { store := run MemoryStore.step (newMemoryStore hash) os, userRepo, idKey, tokens }
    let r := h.handleLogin id allowed now now' s (some req)
    (r.2.2.success = false → r.1 = s) ∧
    (r.2.2.success = true → ∀ u, r.1.session.userID = u →
      r.1.manager.byUser u = some id ∧
        (PasswordVerified h req u ∨ TokenVerified h issued now req u)) ∧
    (∀ p₀ p₁ sub, tokens.verifyLegacy now p₀ p₁ = some sub →
      ∀ userID exp iat, decodeString p₀ ≠ some (Content.jwt userID exp iat).bytes) ∧
    (∀ p₀ p₁ p₂ sub, tokens.verifyJWT now p₀ p₁ p₂ = some sub →
      ∀ userID exp, p₀ ++ 46 :: p₁ ≠ (Content.legacy userID exp).bytes) := by
  intro h r
  refine ⟨?_, ?_, fun p₀ p₁ sub hv => not_verifyLegacy_jwt hv,
    fun p₀ p₁ p₂ sub hv => not_verifyJWT_legacy hv⟩
  · intro hfail
    rcases handleLogin_cases h id allowed now now' s req with hc | ⟨u, _, hok, _⟩
    · exact hc.2
    · exact absurd (hok.symm.trans hfail) (by decide)
  · intro hok u hu
    rcases handleLogin_cases h id allowed now now' s req with
      ⟨hfail, _⟩ | ⟨user, huser, _, hid, hbound⟩
    · exact absurd (hok.symm.trans hfail) (by decide)
    · obtain rfl : user.id = u := hid.symm.trans hu
      exact ⟨hbound, authenticate_sound (run_usersOk hash os) hcanon hunforged huser⟩

/-! A resumed session of the seeded user `demo`, whose row is in the user table. The signature is
that of the secret `secret`. -/

def demoMac : Bytes :=
  [46, 228, 76, 165, 13, 61, 217, 207, 228, 108, 158, 62, 104, 29, 114, 101, 151, 200, 68, 88,
   144, 165, 111, 143, 174, 48, 231, 13, 131, 144, 192, 104]

def demoContent : Content := .jwt "u1001" 1700000060000 1700000000000

def demoTokens : TokenManager :=
  { sign := fun payload => if payload = demoContent.bytes then demoMac else [], ttl := 60000 }

def demoRepo : UserAuthRepo :=
  .ofRows [{ id := 1001, username := "demo", displayName := "Demo User", avatarURL := "",
             passwordHash := "$argon2id$v=19$m=65536,t=3,p=2$c2FsdA$a2V5" }]

def demoReq : AuthLoginReq :=
  { username := "demo", passwordHash := ""
    resumeToken := "eyJhbGciOiJIUzI1NiIsInR5cCI6IkpXVCJ9." ++
      "eyJzdWIiOiJ1MTAwMSIsImV4cCI6MTcwMDAwMDA2MDAwMCwiaWF0IjoxNzAwMDAwMDAwMDAwfQ." ++
      "LuRMpQ092c_kbJ4-aB1yZZfIRFiQpW-PrjDnDYOQwGg" }

def demoHandler : AuthHandler :=
  { store := run MemoryStore.step (newMemoryStore fun raw => raw) [], userRepo := some demoRepo
    idKey := fun _ _ _ _ _ _ => [], tokens := demoTokens }

def demoLogin : AuthHandler.Login × Option Nat × AuthLoginRsp :=
  demoHandler.handleLogin 7 (some true) 1700000030000 1700000030000
    { manager := .new, session := newSession } (some demoReq)

theorem demoReq_generated :
    demoTokens.generate 1700000000000 "u1001" = some (utf8 (presented demoReq)) := by
  decide +kernel

theorem canonical_u1001 : Canonical "u1001" := ⟨1001, by decide⟩

theorem demoReq_unforged (payload : Bytes)
    (h : Carries demoTokens (utf8 (presented demoReq)) payload) :
    ∃ c, c = demoContent ∧ c.bytes = payload := by
  by_cases hp : payload = demoContent.bytes
  · exact ⟨_, rfl, hp.symm⟩
  · obtain ⟨p, hmem, hdecode⟩ := h
    rw [splitAll_generated demoReq_generated] at hmem
    have hsign : demoTokens.sign payload = [] := if_neg hp
    rw [hsign] at hdecode
    simp only [List.mem_cons, List.not_mem_nil, or_false] at hmem
    rcases hmem with rfl | rfl | rfl
    · cases (Base64.decode_encode _ _).symm.trans hdecode
    · cases (Base64.decode_encode _ _).symm.trans hdecode
    · have hmac : some demoMac = some [] := (Base64.decode_encode _ _).symm.trans hdecode
      cases hmac

seal AuthHandler.handleLogin

theorem demoLogin_bound :
    demoLogin.2.2.success = true ∧ demoLogin.1.session.userID = "u1001" := by
  have hverify : demoTokens.verify 1700000030000 (utf8 (presented demoReq)) = some (utf8 "u1001") :=
    verify_generate canonical_u1001 demoReq_generated (by decide) (by decide)
  have hget : (demoHandler.store.getUserByID demoHandler.userRepo "u1001").map
      (fun user => (user.id, user.username)) = some ("u1001", "demo") := by
    decide
  obtain ⟨user, hget, huser⟩ := Option.map_eq_some_iff.mp hget
  obtain ⟨hid, hname⟩ := Prod.mk.inj huser
  have htoken : demoHandler.userOfToken 1700000030000 "demo" (presented demoReq) = some user := by
    rw [AuthHandler.userOfToken]
    show (demoTokens.verify 1700000030000 (utf8 (presented demoReq))).bind _ = _
    rw [hverify]
    simp [hget, hname]
  have hauth : demoHandler.authenticate 1700000030000 demoReq.username demoReq.passwordHash
      demoReq.resumeToken = some user :=
    (if_pos (by decide)).trans htoken
  rw [← hid, demoLogin]
  exact handleLogin_ok (by decide) (by decide) (by decide) hauth (by rw [hid]; decide)

theorem login_sound_resume :
    demoLogin.2.2.success = true ∧ demoLogin.1.manager.byUser "u1001" = some 7 ∧
      (PasswordVerified demoHandler demoReq "u1001" ∨
        TokenVerified demoHandler (· = demoContent) 1700000030000 demoReq "u1001") := by
  obtain ⟨hok, hid⟩ := demoLogin_bound
  have hsound := login_sound (fun raw => raw) [] (some demoRepo) demoHandler.idKey demoTokens
    (· = demoContent) (fun c hc => hc ▸ canonical_u1001) 7 (some true) 1700000030000 1700000030000
    { manager := .new, session := newSession } demoReq demoReq_unforged
  unfold demoLogin at hok hid ⊢
  exact ⟨hok, hsound.2.1 hok "u1001" hid⟩

end MeetingSystem.Proof.Signaling
