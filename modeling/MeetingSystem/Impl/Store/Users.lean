import MeetingSystem.Impl.Store.MemoryStore
import MeetingSystem.Framework.Base64
import MeetingSystem.Framework.Decimal
import MeetingSystem.Framework.Text

/-!
# Users

User ids (`signaling/store/identity.go`), password hashes
(`signaling/auth/password_hasher.go`) and the two methods of the in-memory
store that look a user up, in its own maps or in the user table.

The user table is the interface `UserAuthRepo`; the key derivation function of
Argon2 is a parameter.
-/

namespace MeetingSystem.Impl.Store

open MeetingSystem.Framework

/-! ## User ids -/

/-- `strconv.ParseUint` to base 10 and 64 bits. -/
def parseUint64 (s : List UInt8) : Option UInt64 :=
  match parseNat s with
  | some n => if n < 2 ^ 64 then some n.toUInt64 else none
  | none => none

def userIDToUint64 (userID : String) : Option UInt64 :=
  match utf8 userID with
  | 117 :: rest => parseUint64 rest
  | s => parseUint64 s

def userIDFromUint64 (userID : UInt64) : String := "u" ++ toString userID.toNat

/-! ## The user table -/

/-- A row of the table `users`. -/
structure UserRow where
  id : UInt64
  username : String
  displayName : String
  avatarURL : String
  passwordHash : String
  deriving DecidableEq, Repr

/-- The errors of the repository that are told apart. -/
inductive RepoError where
  | recordNotFound | invalidDB | invalidTransaction | other
  deriving DecidableEq, Repr

/-- The user table. A lookup by the primary key finds the row with that key,
a lookup by name one whose name is the same to the column's collation. -/
structure UserAuthRepo where
  findByUsername : String → Except RepoError (Option UserRow)
  findByID : UInt64 → Except RepoError (Option UserRow)
  /-- The collation, which may take different texts for the same. -/
  sameName : String → String → Prop
  findByUsername_same : ∀ name row, findByUsername name = .ok (some row) → sameName row.username name
  findByID_id : ∀ n row, findByID n = .ok (some row) → row.id = n

/-- `First` of a query that selects the rows with `p`. -/
def firstRow (rows : List UserRow) (p : UserRow → Bool) : Except RepoError (Option UserRow) :=
  match rows.find? p with
  | some row => .ok (some row)
  | none => .error .recordNotFound

theorem firstRow_eq_ok {rows : List UserRow} {p : UserRow → Bool} {row : UserRow}
    (h : firstRow rows p = .ok (some row)) : p row = true := by
  unfold firstRow at h
  split at h
  · rename_i row' hfind
    obtain rfl : row' = row := by simpa using h
    exact List.find?_some hfind
  · cases h

/-- The table with the given rows, whose names are compared as texts. -/
def UserAuthRepo.ofRows (rows : List UserRow) : UserAuthRepo where
  findByUsername username := firstRow rows fun row => row.username = username
  findByID n := firstRow rows fun row => row.id = n
  sameName := (· = ·)
  findByUsername_same name row h := by simpa using firstRow_eq_ok h
  findByID_id n row h := by simpa using firstRow_eq_ok h

def UserRow.toUser (row : UserRow) : User :=
  { id := userIDFromUint64 row.id
    username := row.username
    passwordHash := row.passwordHash
    displayName := if row.displayName = "" then row.username else row.displayName
    avatarURL := row.avatarURL }

def canFallbackToMemory (err : RepoError) : Bool :=
  err = .recordNotFound || err = .invalidDB || err = .invalidTransaction

def loadUserByUsernameFromRepo (repo : UserAuthRepo) (username : String) :
    Except RepoError (Option User) :=
  match repo.findByUsername username with
  | .error err => .error err
  | .ok row => .ok (row.map UserRow.toUser)

def loadUserByIDFromRepo (repo : UserAuthRepo) (userID : String) :
    Except RepoError (Option User) :=
  match userIDToUint64 userID with
  | none => .error .other
  | some numericUserID =>
    match repo.findByID numericUserID with
    | .error err => .error err
    | .ok row => .ok (row.map UserRow.toUser)

/-! ## Password hashes -/

/-- `argon2.IDKey`: password, salt, time, memory, threads and key length. -/
abbrev IDKey := List UInt8 → List UInt8 → Nat → Nat → Nat → Nat → List UInt8

structure PasswordHasher where
  memoryKB : Nat
  iterations : Nat
  parallel : Nat
  deriving DecidableEq, Repr

/-- `NewPasswordHasher`, whose `saltLen` is 16 and whose `keyLen` is 32. -/
def newPasswordHasher : PasswordHasher := { memoryKB := 64 * 1024, iterations := 3, parallel := 2 }

def argon2Version : Nat := 19

/-- `HashPassword`, with the salt that `rand.Read` has filled in. -/
def hashPassword (idKey : IDKey) (h : PasswordHasher) (keyLen : Nat) (salt : List UInt8)
    (password : String) : Option String :=
  if password = "" then none
  else
    let derived := idKey (utf8 password) salt h.iterations h.memoryKB h.parallel keyLen
    some ("$argon2id$v=" ++ toString argon2Version ++ "$m=" ++ toString h.memoryKB ++ ",t=" ++
      toString h.iterations ++ ",p=" ++ toString h.parallel ++ "$" ++
      asciiText (Base64.encode Base64.std salt) ++ "$" ++
      asciiText (Base64.encode Base64.std derived))

def isArgon2idHash (encoded : String) : Bool := (utf8 "$argon2id$").isPrefixOf (utf8 encoded)

/-- The verb `%d` of `fmt.Sscanf` for an unsigned number below `bound`. The
blanks it passes over are those of ASCII. -/
def scanUint (bound : Nat) (s : List UInt8) : Option (Nat × List UInt8) :=
  let s := s.dropWhile fun c => c = 32 || c = 9 || c = 11 || c = 12 || c = 13
  match parseNat (s.takeWhile isDigit) with
  | some n => if n < bound then some (n, s.dropWhile isDigit) else none
  | none => none

/-- A part of the format that stands for itself. -/
def scanLiteral (text s : List UInt8) : Option (List UInt8) :=
  if text.isPrefixOf s then some (s.drop text.length) else none

/-- `fmt.Sscanf` with the format `m=%d,t=%d,p=%d`. -/
def scanParameters (s : List UInt8) : Option PasswordHasher := do
  let (memoryKB, s) ← scanUint (2 ^ 32) (← scanLiteral (utf8 "m=") s)
  let (iterations, s) ← scanUint (2 ^ 32) (← scanLiteral (utf8 ",t=") s)
  let (parallel, _) ← scanUint (2 ^ 8) (← scanLiteral (utf8 ",p=") s)
  some { memoryKB, iterations, parallel }

/-- The parameters, the salt and the key of an encoded hash. -/
def parseArgon2idHash (encoded : String) :
    Option (PasswordHasher × List UInt8 × List UInt8) :=
  match splitAll 36 (utf8 encoded) with
  | [_, name, version, parameters, saltText, keyText] => do
    if name ≠ utf8 "argon2id" ∨ version ≠ utf8 "v=19" then none
    else
      let cfg ← scanParameters parameters
      if cfg.memoryKB = 0 ∨ cfg.iterations = 0 ∨ cfg.parallel = 0 then none
      else
        let salt ← Base64.decode Base64.std saltText
        let key ← Base64.decode Base64.std keyText
        if salt = [] ∨ key = [] then none else some (cfg, salt, key)
  | _ => none

def hasherVerifyPassword (idKey : IDKey) (encodedHash password : String) : Bool :=
  if encodedHash = "" ∨ password = "" then false
  else
    match parseArgon2idHash encodedHash with
    | none => false
    | some (cfg, salt, expected) =>
      idKey (utf8 password) salt cfg.iterations cfg.memoryKB cfg.parallel
        (expected.length % 2 ^ 32) = expected

/-- `verifyPassword` of the store. -/
def verifyPassword (idKey : IDKey) (storedHash provided : String) : Bool :=
  isArgon2idHash storedHash && hasherVerifyPassword idKey storedHash provided

/-! ## Looking a user up -/

/-- The error of `Authenticate`. -/
inductive AuthError where
  | store (err : StoreError)
  | repo (err : RepoError)
  deriving DecidableEq, Repr

/-- What `Authenticate` does when the table does not decide. -/
def MemoryStore.authenticateLocal (s : MemoryStore) (idKey : IDKey)
    (username passwordHash : String) : Except AuthError User :=
  match s.users username with
  | none => .error (.store .userNotFound)
  | some localUser =>
    if verifyPassword idKey localUser.passwordHash passwordHash then .ok localUser
    else .error (.store .invalidPassword)

def MemoryStore.authenticate (s : MemoryStore) (userRepo : Option UserAuthRepo) (idKey : IDKey)
    (username passwordHash : String) : Except AuthError User :=
  match userRepo with
  | none => s.authenticateLocal idKey username passwordHash
  | some repo =>
    match loadUserByUsernameFromRepo repo username with
    | .error err =>
      if canFallbackToMemory err then s.authenticateLocal idKey username passwordHash
      else .error (.repo err)
    | .ok (some repoUser) =>
      if verifyPassword idKey repoUser.passwordHash passwordHash then .ok repoUser
      else .error (.store .invalidPassword)
    | .ok none => s.authenticateLocal idKey username passwordHash

def MemoryStore.getUserByID (s : MemoryStore) (userRepo : Option UserAuthRepo)
    (userID : String) : Option User :=
  match userRepo with
  | none => s.userByID userID
  | some repo =>
    match loadUserByIDFromRepo repo userID with
    | .error err => if canFallbackToMemory err then s.userByID userID else none
    | .ok (some repoUser) => some repoUser
    | .ok none => s.userByID userID

end MeetingSystem.Impl.Store
