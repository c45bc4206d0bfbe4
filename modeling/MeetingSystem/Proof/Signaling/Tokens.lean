import MeetingSystem.Impl.Signaling.Token
import MeetingSystem.Proof.Store.Users

/-!
# What a token that verifies was issued for

`Content` is what is signed under the secret: the header and claims of a JWT,
or the `uid|exp` of a token of the older format. The two are told apart by
their texts: a JWT's is made of base64 symbols and a dot, the other has a bar.

* `verifyJWT_sound`, `verifyLegacy_sound`: a verifier that accepts a signature
  of some content returns that content's subject, before it expires;
* `not_verifyLegacy_jwt`, `not_verifyJWT_legacy`: neither verifier accepts
  content of the other format;
* `verify_sound`: both for `verify`, when nothing but issued content is signed;
* `verify_generate`: what `generate` makes verifies.
-/

namespace MeetingSystem.Proof.Signaling

open MeetingSystem.Framework MeetingSystem.Impl.Store MeetingSystem.Impl.Signaling
open MeetingSystem.Proof.Store (utf8_userIDFromUint64)

/-! ## Content -/

/-- What is signed: by `Generate`, and by the issuer of the older format. -/
inductive Content where
  | jwt (userID : String) (exp iat : Int64)
  | legacy (userID : String) (exp : Int64)
  deriving DecidableEq

namespace Content

def subject : Content → String
  | .jwt userID _ _ => userID
  | .legacy userID _ => userID

def exp : Content → Int64
  | .jwt _ exp _ => exp
  | .legacy _ exp => exp

/-- The text that is signed. -/
def bytes : Content → Bytes
  | .jwt userID exp iat => unsigned { sub := utf8 userID, exp, iat }
  | .legacy userID exp => utf8 userID ++ 124 :: intBytes exp.toInt

end Content

/-- User ids as the server writes them. -/
def Canonical (userID : String) : Prop := ∃ n : UInt64, userID = userIDFromUint64 n

/-- One of the parts of `token` is the signature of `payload`. -/
def Carries (m : TokenManager) (token payload : Bytes) : Prop :=
  ∃ p ∈ splitAll 46 token, decodeString p = some (m.sign payload)

/-! ## Characters -/

theorem isDigit_iff {c : UInt8} : isDigit c = true ↔ 48 ≤ c.toNat ∧ c.toNat ≤ 57 := by
  simp only [isDigit, Bool.and_eq_true, decide_eq_true_eq, UInt8.le_iff_toNat_le]
  exact Iff.rfl

theorem isPlain_of_isDigit {c : UInt8} (h : isDigit c = true) : Json.IsPlain c := by
  obtain ⟨h48, h57⟩ := isDigit_iff.mp h
  have hne : ∀ d : UInt8, 57 < d.toNat ∨ d.toNat < 48 → c ≠ d := by
    intro d hd he
    rw [he] at h48 h57
    omega
  refine ⟨?_, ?_, hne _ (by decide), hne _ (by decide), hne _ (by decide), hne _ (by decide),
    hne _ (by decide)⟩
  · exact UInt8.le_iff_toNat_le.mpr (le_trans (by decide) h48)
  · exact UInt8.lt_iff_toNat_lt.mpr (lt_of_le_of_lt h57 (by decide))

theorem isPlain_of_canonical {userID : String} (h : Canonical userID) :
    ∀ c ∈ utf8 userID, Json.IsPlain c := by
  obtain ⟨n, rfl⟩ := h
  rw [utf8_userIDFromUint64]
  intro c hc
  rcases List.mem_cons.mp hc with rfl | hc
  · decide
  · exact isPlain_of_isDigit (isDigit_of_mem_natBytes hc)

theorem bar_notMem_of_canonical {userID : String} (h : Canonical userID) : 124 ∉ utf8 userID := by
  obtain ⟨n, rfl⟩ := h
  rw [utf8_userIDFromUint64]
  intro hc
  rcases List.mem_cons.mp hc with hc | hc
  · cases hc
  · exact absurd (isDigit_of_mem_natBytes hc) (by decide)

theorem bar_notMem_intBytes (i : Int) : 124 ∉ intBytes i := by
  cases i with
  | ofNat n =>
    intro h
    exact absurd (isDigit_of_mem_natBytes h) (by decide)
  | negSucc n =>
    intro h
    rcases List.mem_cons.mp h with h | h
    · cases h
    · exact absurd (isDigit_of_mem_natBytes h) (by decide)

theorem bar_notMem_encode (b : Bytes) : 124 ∉ encodeToString b := by
  intro h
  exact absurd (Base64.mem_symbols_of_encode _ h) (by decide)

theorem dot_notMem_encode (b : Bytes) : 46 ∉ encodeToString b := by
  intro h
  exact absurd (Base64.mem_symbols_of_encode _ h) (by decide)

theorem bar_notMem_of_decode {s b : Bytes} (h : decodeString s = some b) : 124 ∉ s := by
  intro hs
  exact absurd (Base64.mem_of_decode _ h hs) (by decide)

theorem bar_notMem_unsigned (claims : JwtClaims) : 124 ∉ unsigned claims := by
  rw [unsigned, List.mem_append, List.mem_cons]
  rintro (h | h | h)
  · exact bar_notMem_encode _ h
  · cases h
  · exact bar_notMem_encode _ h

/-! ## Reading a JWT's parts -/

theorem parseInt64_intBytes (e : Int64) : parseInt64 (intBytes e.toInt) = some e := by
  rw [parseInt64, parseInt_intBytes]
  show (if -2 ^ 63 ≤ e.toInt ∧ e.toInt < 2 ^ 63 then some (Int64.ofInt e.toInt) else none) = _
  rw [if_pos ⟨e.le_toInt, e.toInt_lt⟩, Int64.ofInt_toInt]

theorem unmarshalHeader_marshal : unmarshalHeader jwtHeader.marshal = some jwtHeader := by
  have hms : Json.RendersMembers
      [(utf8 "alg", Json.quote jwtHeader.alg), (utf8 "typ", Json.quote jwtHeader.typ)]
      [(utf8 "alg", .string jwtHeader.alg), (utf8 "typ", .string jwtHeader.typ)] :=
    .cons (Json.isPlain_of_all (by decide)) (Json.renders_quote (Json.isPlain_of_all (by decide)))
      (.cons (Json.isPlain_of_all (by decide))
        (Json.renders_quote (Json.isPlain_of_all (by decide))) .nil)
  rw [unmarshalHeader, unmarshal, JwtHeader.marshal,
    Json.parse_object hms (List.cons_ne_nil _ _) (by decide)]
  rfl

theorem unmarshalClaims_marshal (claims : JwtClaims) (h : ∀ c ∈ claims.sub, Json.IsPlain c) :
    unmarshalClaims claims.marshal = some claims := by
  have hms : Json.RendersMembers
      [(utf8 "sub", Json.quote claims.sub), (utf8 "exp", intBytes claims.exp.toInt),
       (utf8 "iat", intBytes claims.iat.toInt)]
      [(utf8 "sub", .string claims.sub), (utf8 "exp", .number (intBytes claims.exp.toInt)),
       (utf8 "iat", .number (intBytes claims.iat.toInt))] :=
    .cons (Json.isPlain_of_all (by decide)) (Json.renders_quote h)
      (.cons (Json.isPlain_of_all (by decide)) (Json.renders_intBytes _)
        (.cons (Json.isPlain_of_all (by decide)) (Json.renders_intBytes _) .nil))
  rw [unmarshalClaims, unmarshal, JwtClaims.marshal,
    Json.parse_object hms (List.cons_ne_nil _ _) (by decide)]
  have hsub : isField "sub" (utf8 "sub") = true := by decide
  have hexp : isField "sub" (utf8 "exp") = false ∧ isField "exp" (utf8 "exp") = true := by decide
  have hiat : isField "sub" (utf8 "iat") = false ∧ isField "exp" (utf8 "iat") = false ∧
      isField "iat" (utf8 "iat") = true := by decide
  simp [JwtClaims.store, hsub, hexp, hiat, storeText, storeInt64, parseInt64_intBytes]

/-! ## The verifiers -/

variable {m : TokenManager} {now : Int64}

theorem verifyJWT_eq_some {p₀ p₁ p₂ sub : Bytes} :
    m.verifyJWT now p₀ p₁ p₂ = some sub ↔
      decodeString p₂ = some (m.sign (p₀ ++ 46 :: p₁)) ∧
        TokenManager.acceptJWT now p₀ p₁ = some sub := by
  unfold TokenManager.verifyJWT
  simp only [Option.bind_eq_bind, Option.bind_eq_some_iff]
  constructor
  · rintro ⟨signature, hsig, h⟩
    split at h
    · cases h
    · rename_i heq
      rw [not_not] at heq
      exact ⟨heq ▸ hsig, h⟩
  · rintro ⟨hsig, h⟩
    exact ⟨_, hsig, by rw [if_neg (by simp)]; exact h⟩

theorem verifyLegacy_eq_some {p₀ p₁ sub : Bytes} :
    m.verifyLegacy now p₀ p₁ = some sub ↔
      ∃ payload expText exp, decodeString p₀ = some payload ∧
        decodeString p₁ = some (m.sign payload) ∧ splitAll 124 payload = [sub, expText] ∧
        parseInt64 expText = some exp ∧ ¬ now > exp := by
  unfold TokenManager.verifyLegacy
  simp only [Option.bind_eq_bind, Option.bind_eq_some_iff]
  constructor
  · rintro ⟨payload, hpayload, signature, hsig, h⟩
    split at h
    · cases h
    · rename_i heq
      rw [not_not] at heq
      split at h
      · rename_i userID expText hsplit
        obtain ⟨exp, hexp, h⟩ := Option.bind_eq_some_iff.mp h
        split at h
        · cases h
        · rename_i hnow
          obtain rfl := Option.some.inj h
          exact ⟨payload, expText, exp, hpayload, heq ▸ hsig, hsplit, hexp, hnow⟩
      · cases h
  · rintro ⟨payload, expText, exp, hpayload, hsig, hsplit, hexp, hnow⟩
    refine ⟨payload, hpayload, _, hsig, ?_⟩
    rw [if_neg (by simp), hsplit]
    simp [hexp, hnow]

/-- A JWT's parts are accepted before it expires, as its subject. -/
theorem acceptJWT_encoded (claims : JwtClaims) (h : ∀ c ∈ claims.sub, Json.IsPlain c) :
    TokenManager.acceptJWT now (encodeToString jwtHeader.marshal) (encodeToString claims.marshal) =
      if claims.sub = [] ∨ claims.exp ≤ 0 then none
      else if now > claims.exp then none
      else some claims.sub := by
  have hheader : decodeString (encodeToString jwtHeader.marshal) = some jwtHeader.marshal :=
    Base64.decode_encode _ _
  have hclaims : decodeString (encodeToString claims.marshal) = some claims.marshal :=
    Base64.decode_encode _ _
  rw [TokenManager.acceptJWT, hheader, hclaims]
  simp only [Option.bind_eq_bind, Option.bind_some, unmarshalHeader_marshal,
    unmarshalClaims_marshal claims h]
  rfl

/-- The parts `acceptJWT` takes have no bar. -/
theorem bar_notMem_of_acceptJWT {p₀ p₁ sub : Bytes}
    (h : TokenManager.acceptJWT now p₀ p₁ = some sub) : 124 ∉ p₀ ++ 46 :: p₁ := by
  unfold TokenManager.acceptJWT at h
  simp only [Option.bind_eq_bind, Option.bind_eq_some_iff] at h
  obtain ⟨b₀, hb₀, header, -, h⟩ := h
  split at h
  · cases h
  · simp only [Option.bind_eq_some_iff] at h
    obtain ⟨b₁, hb₁, -⟩ := h
    rw [List.mem_append, List.mem_cons]
    rintro (hc | hc | hc)
    · exact bar_notMem_of_decode hb₀ hc
    · cases hc
    · exact bar_notMem_of_decode hb₁ hc

/-! ## Each format is refused by the other's verifier -/

theorem not_verifyJWT_legacy {p₀ p₁ p₂ sub : Bytes} (h : m.verifyJWT now p₀ p₁ p₂ = some sub)
    (userID : String) (exp : Int64) : p₀ ++ 46 :: p₁ ≠ (Content.legacy userID exp).bytes := by
  intro he
  have hbar := bar_notMem_of_acceptJWT (verifyJWT_eq_some.mp h).2
  rw [he] at hbar
  exact hbar (by simp [Content.bytes])

theorem not_verifyLegacy_jwt {p₀ p₁ sub : Bytes} (h : m.verifyLegacy now p₀ p₁ = some sub)
    (userID : String) (exp iat : Int64) :
    decodeString p₀ ≠ some (Content.jwt userID exp iat).bytes := by
  intro he
  obtain ⟨payload, expText, exp', hpayload, -, hsplit, -⟩ := verifyLegacy_eq_some.mp h
  obtain rfl := Option.some.inj (hpayload.symm.trans he)
  rw [Content.bytes, splitAll_of_notMem (bar_notMem_unsigned _)] at hsplit
  cases hsplit

/-! ## Soundness -/

theorem verifyJWT_sound {p₀ p₁ p₂ sub : Bytes} (h : m.verifyJWT now p₀ p₁ p₂ = some sub)
    (hdot : 46 ∉ p₀) {c : Content} (hc : Canonical c.subject) (hbytes : c.bytes = p₀ ++ 46 :: p₁) :
    sub = utf8 c.subject ∧ ¬ now > c.exp := by
  cases c with
  | legacy userID exp => exact absurd hbytes.symm (not_verifyJWT_legacy h userID exp)
  | jwt userID exp iat =>
    obtain ⟨hp₀, hp₁⟩ := append_sep_inj (dot_notMem_encode _) hdot hbytes
    have haccept := (verifyJWT_eq_some.mp h).2
    rw [← hp₀, ← hp₁, acceptJWT_encoded _ (isPlain_of_canonical hc)] at haccept
    split at haccept
    · cases haccept
    · split at haccept
      · cases haccept
      · rename_i hnow
        exact ⟨(Option.some.inj haccept).symm, hnow⟩

theorem verifyLegacy_sound {p₀ p₁ sub : Bytes} (h : m.verifyLegacy now p₀ p₁ = some sub)
    {c : Content} (hc : Canonical c.subject) (hbytes : decodeString p₀ = some c.bytes) :
    sub = utf8 c.subject ∧ ¬ now > c.exp := by
  cases c with
  | jwt userID exp iat => exact absurd hbytes (not_verifyLegacy_jwt h userID exp iat)
  | legacy userID exp =>
    obtain ⟨payload, expText, exp', hpayload, -, hsplit, hexp, hnow⟩ := verifyLegacy_eq_some.mp h
    obtain rfl := Option.some.inj (hpayload.symm.trans hbytes)
    have hbar : 124 ∉ utf8 userID := bar_notMem_of_canonical hc
    rw [Content.bytes, splitAll_append _ hbar,
      splitAll_of_notMem (bar_notMem_intBytes _)] at hsplit
    simp only [List.cons.injEq, and_true] at hsplit
    obtain ⟨hsub, rfl⟩ := hsplit
    rw [parseInt64_intBytes] at hexp
    obtain rfl := Option.some.inj hexp
    exact ⟨hsub.symm, hnow⟩

/-- A token that verifies is signed content, and says whose. -/
theorem verify_sound {issued : Content → Prop} (hcanon : ∀ c, issued c → Canonical c.subject)
    {token sub : Bytes} (hunforged : ∀ payload, Carries m token payload →
      ∃ c, issued c ∧ c.bytes = payload)
    (h : m.verify now token = some sub) :
    ∃ c, issued c ∧ Carries m token c.bytes ∧ sub = utf8 c.subject ∧ ¬ now > c.exp := by
  unfold TokenManager.verify at h
  split at h
  · rename_i p₀ p₁ p₂ hsplit
    have hcarries : Carries m token (p₀ ++ 46 :: p₁) :=
      ⟨p₂, by simp [hsplit], (verifyJWT_eq_some.mp h).1⟩
    obtain ⟨c, hc, hbytes⟩ := hunforged _ hcarries
    have hdot : 46 ∉ p₀ := notMem_of_mem_splitAll (l := token) (by simp [hsplit])
    exact ⟨c, hc, hbytes ▸ hcarries, verifyJWT_sound h hdot (hcanon c hc) hbytes⟩
  · rename_i p₀ p₁ hsplit
    obtain ⟨payload, -, -, hpayload, hsig, -⟩ := verifyLegacy_eq_some.mp h
    have hcarries : Carries m token payload := ⟨p₁, by simp [hsplit], hsig⟩
    obtain ⟨c, hc, hbytes⟩ := hunforged _ hcarries
    exact ⟨c, hc, hbytes ▸ hcarries, verifyLegacy_sound h (hcanon c hc) (hbytes ▸ hpayload)⟩
  · cases h

/-! ## Completeness -/

theorem splitAll_generated {token : Bytes} {now : Int64} {userID : String}
    (h : m.generate now userID = some token) :
    splitAll 46 token =
      [encodeToString jwtHeader.marshal, encodeToString (m.claimsAt now userID).marshal,
       encodeToString (m.sign (unsigned (m.claimsAt now userID)))] := by
  unfold TokenManager.generate at h
  split at h
  · cases h
  · obtain rfl := Option.some.inj h
    rw [unsigned, List.append_assoc, List.cons_append, splitAll_append _ (dot_notMem_encode _),
      splitAll_append _ (dot_notMem_encode _), splitAll_of_notMem (dot_notMem_encode _)]

/-- A token verifies as the user it was generated for until it expires. -/
theorem verify_generate {token : Bytes} {issuedAt : Int64} {userID : String}
    (hc : Canonical userID) (h : m.generate issuedAt userID = some token)
    (hexp : 0 < issuedAt + m.ttl) (hnow : now ≤ issuedAt + m.ttl) :
    m.verify now token = some (utf8 userID) := by
  have hne : utf8 userID ≠ [] := by
    obtain ⟨n, rfl⟩ := hc
    rw [utf8_userIDFromUint64]
    exact List.cons_ne_nil _ _
  rw [TokenManager.verify, splitAll_generated h]
  refine verifyJWT_eq_some.mpr ⟨Base64.decode_encode _ _, ?_⟩
  rw [acceptJWT_encoded _ (isPlain_of_canonical hc), if_neg, if_neg]
  · rfl
  · exact Int64.not_lt.mpr hnow
  · rintro (h | h)
    · exact hne h
    · exact absurd hexp (Int64.not_lt.mpr h)

end MeetingSystem.Proof.Signaling
