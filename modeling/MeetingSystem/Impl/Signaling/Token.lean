import Mathlib.Algebra.Ring.Int.Defs
import MeetingSystem.Framework.Base64
import MeetingSystem.Framework.Json
import MeetingSystem.Framework.Text

/-!
# Login tokens

`signaling/auth/jwt.go`. A Go string is the list of its bytes, and `sign` is
`HMAC-SHA256` under the manager's secret. `verify` takes a token of either of
two formats: a JWT, three parts of which the third signs the text of the first
two, and the older format, two parts of which the second signs what the first
decodes to.
-/

namespace MeetingSystem.Impl.Signaling

open MeetingSystem.Framework

abbrev Bytes := List UInt8

structure TokenManager where
  sign : Bytes → Bytes
  /-- In milliseconds. -/
  ttl : Int64

structure JwtHeader where
  alg : Bytes
  typ : Bytes
  deriving DecidableEq, Repr

structure JwtClaims where
  sub : Bytes
  exp : Int64
  iat : Int64
  deriving DecidableEq, Repr

/-! ## Standard library -/

/-- `base64.RawURLEncoding`. -/
def encodeToString (b : Bytes) : Bytes := Base64.encode Base64.url b

def decodeString (s : Bytes) : Option Bytes := Base64.decode Base64.url s

/-- `strconv.ParseInt` to base 10 and 64 bits. -/
def parseInt64 (s : Bytes) : Option Int64 :=
  match parseInt s with
  | some i => if -2 ^ 63 ≤ i ∧ i < 2 ^ 63 then some (Int64.ofInt i) else none
  | none => none

/-- The nesting `json.Unmarshal` accepts. -/
def maxNestingDepth : Nat := 10000

/-- `foldName` of `encoding/json`, as far as it can make a key equal to a name
of ASCII letters: lower case, and the letters U+017F and U+212A. -/
def foldName : Bytes → Bytes
  | 0xC5 :: 0xBF :: rest => 83 :: foldName rest
  | 0xE2 :: 0x84 :: 0xAA :: rest => 75 :: foldName rest
  | c :: rest => (if 97 ≤ c ∧ c ≤ 122 then c - 32 else c) :: foldName rest
  | [] => []

def isField (name : String) (key : Bytes) : Bool := foldName key = foldName (utf8 name)

/-- Storing a value in a field of type string. -/
def storeText (old : Bytes) : Json → Option Bytes
  | .null => some old
  | .string text => some text
  | _ => none

/-- Storing a value in a field of type int64. -/
def storeInt64 (old : Int64) : Json → Option Int64
  | .null => some old
  | .number literal => parseInt64 literal
  | _ => none

/-- `json.Unmarshal` into a struct with the value `zero`; `store` takes one
member of the object. -/
def unmarshal {α : Type} (store : α → Bytes × Json → Option α) (zero : α) (b : Bytes) : Option α :=
  match Json.parse maxNestingDepth b with
  | some (.object members) => members.foldlM store zero
  | some .null => some zero
  | _ => none

def JwtHeader.store (h : JwtHeader) (m : Bytes × Json) : Option JwtHeader :=
  if isField "alg" m.1 then (storeText h.alg m.2).map fun alg => { h with alg }
  else if isField "typ" m.1 then (storeText h.typ m.2).map fun typ => { h with typ }
  else some h

def JwtClaims.store (c : JwtClaims) (m : Bytes × Json) : Option JwtClaims :=
  if isField "sub" m.1 then (storeText c.sub m.2).map fun sub => { c with sub }
  else if isField "exp" m.1 then (storeInt64 c.exp m.2).map fun exp => { c with exp }
  else if isField "iat" m.1 then (storeInt64 c.iat m.2).map fun iat => { c with iat }
  else some c

def unmarshalHeader (b : Bytes) : Option JwtHeader :=
  unmarshal JwtHeader.store { alg := [], typ := [] } b

def unmarshalClaims (b : Bytes) : Option JwtClaims :=
  unmarshal JwtClaims.store { sub := [], exp := 0, iat := 0 } b

/-- `json.Marshal`. -/
def JwtHeader.marshal (h : JwtHeader) : Bytes :=
  Json.writeObject [(utf8 "alg", Json.quote h.alg), (utf8 "typ", Json.quote h.typ)]

@[inherit_doc JwtHeader.marshal]
def JwtClaims.marshal (c : JwtClaims) : Bytes :=
  Json.writeObject
    [(utf8 "sub", Json.quote c.sub), (utf8 "exp", intBytes c.exp.toInt),
     (utf8 "iat", intBytes c.iat.toInt)]

/-! ## The token manager -/

def jwtHeader : JwtHeader := { alg := utf8 "HS256", typ := utf8 "JWT" }

/-- The text a JWT signs. -/
def unsigned (claims : JwtClaims) : Bytes :=
  encodeToString jwtHeader.marshal ++ 46 :: encodeToString claims.marshal

namespace TokenManager

variable (m : TokenManager)

/-- The claims `Generate` makes at time `now`. -/
def claimsAt (now : Int64) (userID : String) : JwtClaims :=
  { sub := utf8 userID, exp := now + m.ttl, iat := now }

def generate (now : Int64) (userID : String) : Option Bytes :=
  if userID = "" then none
  else
    let unsigned := unsigned (m.claimsAt now userID)
    let signature := encodeToString (m.sign unsigned)
    some (unsigned ++ 46 :: signature)

/-- The checks of `verifyJWT` after the signature's. -/
def acceptJWT (now : Int64) (p₀ p₁ : Bytes) : Option Bytes := do
  let header ← unmarshalHeader (← decodeString p₀)
  if header.alg ≠ utf8 "HS256" ∨ header.typ ≠ utf8 "JWT" then none
  else
    let claims ← unmarshalClaims (← decodeString p₁)
    if claims.sub = [] ∨ claims.exp ≤ 0 then none
    else if now > claims.exp then none
    else some claims.sub

def verifyJWT (now : Int64) (p₀ p₁ p₂ : Bytes) : Option Bytes := do
  let unsigned := p₀ ++ 46 :: p₁
  let signature ← decodeString p₂
  if signature ≠ m.sign unsigned then none else acceptJWT now p₀ p₁

def verifyLegacy (now : Int64) (p₀ p₁ : Bytes) : Option Bytes := do
  let payloadBytes ← decodeString p₀
  let sigBytes ← decodeString p₁
  if sigBytes ≠ m.sign payloadBytes then none
  else
    match splitAll 124 payloadBytes with
    | [userID, expText] => do
      let exp ← parseInt64 expText
      if now > exp then none else some userID
    | _ => none

def verify (now : Int64) (token : Bytes) : Option Bytes :=
  match splitAll 46 token with
  | [p₀, p₁, p₂] => m.verifyJWT now p₀ p₁ p₂
  | [p₀, p₁] => m.verifyLegacy now p₀ p₁
  | _ => none

end TokenManager

end MeetingSystem.Impl.Signaling
