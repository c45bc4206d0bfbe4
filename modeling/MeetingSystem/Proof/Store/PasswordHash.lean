import MeetingSystem.Impl.Store.Users

/-!
# Hashed passwords

`HashPassword` writes the parameters, the salt and the derived key into one text,
which `VerifyPassword` takes apart again. `verifyPassword_hashPassword`: a password
is accepted for the text if and only if the key derived from it, with the salt and
the parameters of the text, is the key in it.
-/

namespace MeetingSystem.Proof.Store

open MeetingSystem.Framework MeetingSystem.Impl.Store

/-- The parameters are not zero and fit their types. -/
structure HasherOk (h : PasswordHasher) : Prop where
  memoryKB : 0 < h.memoryKB ∧ h.memoryKB < 2 ^ 32
  iterations : 0 < h.iterations ∧ h.iterations < 2 ^ 32
  parallel : 0 < h.parallel ∧ h.parallel < 2 ^ 8

/-! ## The parts of the text -/

theorem takeWhile_digits_append {n : Nat} {rest : List UInt8}
    (hrest : ∀ c ∈ rest.head?, isDigit c = false) :
    (natBytes n ++ rest).takeWhile isDigit = natBytes n := by
  rw [List.takeWhile_append_of_pos fun c hc => isDigit_of_mem_natBytes hc]
  cases rest with
  | nil => simp
  | cons c rest => simp [hrest c rfl]

theorem dropWhile_digits_append {n : Nat} {rest : List UInt8}
    (hrest : ∀ c ∈ rest.head?, isDigit c = false) :
    (natBytes n ++ rest).dropWhile isDigit = rest := by
  rw [List.dropWhile_append_of_pos fun c hc => isDigit_of_mem_natBytes hc]
  cases rest with
  | nil => rfl
  | cons c rest => simp [hrest c rfl]

/-- A numeral is read, and what follows it is left. -/
theorem scanUint_natBytes {bound n : Nat} (hn : n < bound) {rest : List UInt8}
    (hrest : ∀ c ∈ rest.head?, isDigit c = false) :
    scanUint bound (natBytes n ++ rest) = some (n, rest) := by
  have hblank : (natBytes n ++ rest).dropWhile
      (fun c => c = 32 || c = 9 || c = 11 || c = 12 || c = 13) = natBytes n ++ rest := by
    obtain ⟨c, l, hc, hd⟩ := natBytes_eq_cons n
    rw [hc, List.cons_append, List.dropWhile_cons_of_neg]
    simp only [isDigit, Bool.and_eq_true, decide_eq_true_eq] at hd
    have h48 : 48 ≤ c.toNat := UInt8.le_iff_toNat_le.mp hd.1
    simp only [Bool.or_eq_true, decide_eq_true_eq]
    rintro ((((rfl | rfl) | rfl) | rfl) | rfl) <;> revert h48 <;> decide
  unfold scanUint
  dsimp only
  rw [hblank, takeWhile_digits_append hrest, dropWhile_digits_append hrest, parseNat_natBytes]
  simp [hn]

theorem scanLiteral_append (text rest : List UInt8) :
    scanLiteral text (text ++ rest) = some rest := by
  unfold scanLiteral
  rw [if_pos (by simp), List.drop_left]

/-- The text of the parameters. -/
def parametersText (h : PasswordHasher) : List UInt8 :=
  utf8 "m=" ++ (natBytes h.memoryKB ++ (utf8 ",t=" ++ (natBytes h.iterations ++
    (utf8 ",p=" ++ (natBytes h.parallel ++ [])))))

theorem scanParameters_parametersText {h : PasswordHasher} (hh : HasherOk h) :
    scanParameters (parametersText h) = some h := by
  have hcomma : ∀ (l rest : List UInt8), l.head? = some 44 →
      ∀ c ∈ (l ++ rest).head?, isDigit c = false := by
    intro l rest hl c hc
    cases l with
    | nil => cases hl
    | cons x l =>
      obtain rfl := Option.some.inj hl
      obtain rfl := Option.some.inj hc
      rfl
  unfold scanParameters parametersText
  rw [scanLiteral_append]
  simp only [Option.bind_eq_bind, Option.bind_some]
  rw [scanUint_natBytes hh.memoryKB.2 (hcomma _ _ rfl)]
  simp only [Option.bind_some]
  rw [scanLiteral_append]
  simp only [Option.bind_some]
  rw [scanUint_natBytes hh.iterations.2 (hcomma _ _ rfl)]
  simp only [Option.bind_some]
  rw [scanLiteral_append]
  simp only [Option.bind_some]
  rw [scanUint_natBytes hh.parallel.2 (by simp)]
  rfl

theorem encode_lt (b : List UInt8) : ∀ c ∈ Base64.encode Base64.std b, c < 128 := by
  intro c hc
  have hall : ∀ c ∈ Base64.std.symbols, c < 128 := by decide +kernel
  exact hall c (Base64.mem_symbols_of_encode _ hc)

theorem dollar_notMem_encode (b : List UInt8) : 36 ∉ Base64.encode Base64.std b := by
  intro h
  exact absurd (Base64.mem_symbols_of_encode _ h) (by decide)

theorem dollar_notMem_natBytes (n : Nat) : 36 ∉ natBytes n := by
  intro h
  exact absurd (isDigit_of_mem_natBytes h) (by decide)

theorem dollar_notMem_parametersText (h : PasswordHasher) : 36 ∉ parametersText h := by
  unfold parametersText
  simp only [List.mem_append, not_or]
  exact ⟨by decide, dollar_notMem_natBytes _, by decide, dollar_notMem_natBytes _, by decide,
    dollar_notMem_natBytes _, nofun⟩

/-- The fields of the text, between the signs that separate them. -/
theorem utf8_hashPassword {idKey : IDKey} {h : PasswordHasher} {keyLen : Nat} {salt : List UInt8}
    {password encoded : String} (hhash : hashPassword idKey h keyLen salt password = some encoded) :
    utf8 encoded = [] ++ 36 :: (utf8 "argon2id" ++ 36 :: (utf8 "v=19" ++ 36 :: (parametersText h ++
      36 :: (Base64.encode Base64.std salt ++ 36 :: Base64.encode Base64.std
        (idKey (utf8 password) salt h.iterations h.memoryKB h.parallel keyLen))))) := by
  unfold hashPassword at hhash
  split at hhash
  · cases hhash
  · rw [← Option.some.inj hhash]
    have hdollar : utf8 "$" = [36] := by decide
    have hstart : utf8 "$argon2id$v=" = 36 :: (utf8 "argon2id" ++ 36 :: utf8 "v=") := by decide
    have hversion : utf8 "v=" ++ natBytes argon2Version = utf8 "v=19" := by decide
    have hmemory : utf8 "$m=" = 36 :: utf8 "m=" := by decide
    simp only [utf8_append, utf8_toString, utf8_asciiText (encode_lt _), parametersText, hdollar,
      hstart, hmemory, ← hversion]
    simp

/-- What the reader gets out of the text is what the writer put into it. -/
theorem parseArgon2idHash_hashPassword {idKey : IDKey} {h : PasswordHasher} (hh : HasherOk h)
    {keyLen : Nat} {salt : List UInt8} (hsalt : salt ≠ []) {password encoded : String}
    (hkey : idKey (utf8 password) salt h.iterations h.memoryKB h.parallel keyLen ≠ [])
    (hhash : hashPassword idKey h keyLen salt password = some encoded) :
    parseArgon2idHash encoded = some (h, salt,
      idKey (utf8 password) salt h.iterations h.memoryKB h.parallel keyLen) := by
  unfold parseArgon2idHash
  rw [utf8_hashPassword hhash, splitAll_append _ List.not_mem_nil, splitAll_append _ (by decide),
    splitAll_append _ (by decide), splitAll_append _ (dollar_notMem_parametersText h),
    splitAll_append _ (dollar_notMem_encode _), splitAll_of_notMem (dollar_notMem_encode _)]
  have hm := hh.memoryKB.1
  have ht := hh.iterations.1
  have hp := hh.parallel.1
  simp [scanParameters_parametersText hh, hsalt, hkey, Nat.ne_of_gt hm, Nat.ne_of_gt ht,
    Nat.ne_of_gt hp]

theorem isArgon2idHash_hashPassword {idKey : IDKey} {h : PasswordHasher} {keyLen : Nat}
    {salt : List UInt8} {password encoded : String}
    (hhash : hashPassword idKey h keyLen salt password = some encoded) :
    isArgon2idHash encoded = true := by
  unfold isArgon2idHash
  rw [utf8_hashPassword hhash, List.isPrefixOf_iff_prefix]
  refine ⟨utf8 "v=19" ++ 36 :: (parametersText h ++ 36 :: (Base64.encode Base64.std salt ++
    36 :: Base64.encode Base64.std
      (idKey (utf8 password) salt h.iterations h.memoryKB h.parallel keyLen))), ?_⟩
  rw [show utf8 "$argon2id$" = 36 :: (utf8 "argon2id" ++ [36]) by decide]
  simp

/-- For every key derivation function that gives as many bytes as it is asked for,
every salt and all parameters that `NewPasswordHasher` can have: a password is
accepted for the text of a hashed one if and only if it is not empty and gives the
same key. -/
theorem verifyPassword_hashPassword {idKey : IDKey}
    (hlength : ∀ p salt t m n len, (idKey p salt t m n len).length = len) {h : PasswordHasher}
    (hh : HasherOk h) {keyLen : Nat} (hlen : 0 < keyLen ∧ keyLen < 2 ^ 32) {salt : List UInt8}
    (hsalt : salt ≠ []) {password encoded : String}
    (hhash : hashPassword idKey h keyLen salt password = some encoded) (provided : String) :
    verifyPassword idKey encoded provided = true ↔ provided ≠ "" ∧
      idKey (utf8 provided) salt h.iterations h.memoryKB h.parallel keyLen =
        idKey (utf8 password) salt h.iterations h.memoryKB h.parallel keyLen := by
  have hkey : idKey (utf8 password) salt h.iterations h.memoryKB h.parallel keyLen ≠ [] := by
    rw [ne_eq, ← List.length_eq_zero_iff, hlength]
    exact Nat.ne_of_gt hlen.1
  have hencoded : encoded ≠ "" := by
    rintro rfl
    have := utf8_hashPassword hhash
    cases this
  unfold verifyPassword hasherVerifyPassword
  rw [isArgon2idHash_hashPassword hhash, parseArgon2idHash_hashPassword hh hsalt hkey hhash]
  dsimp only
  rw [hlength, Nat.mod_eq_of_lt hlen.2]
  by_cases hp : provided = ""
  · simp [hp]
  · simp [hp, hencoded]

/-- Bytes of the password and the salt, up to the length. -/
def shortKey : IDKey := fun p salt _ _ _ len => (p ++ salt ++ List.replicate len 0).take len

theorem hasherOk_new : HasherOk newPasswordHasher := ⟨by decide, by decide, by decide⟩

theorem verifyPassword_hashed_demo :
    verifyPassword shortKey
        "$argon2id$v=19$m=65536,t=3,p=2$AQIDBAUGBwgJCgsMDQ4PEA$ZGVtbwECAwQFBgcICQoLDA0ODxAAAAAAAAAAAAAAAAA"
        "demo" = true ↔ "demo" ≠ "" ∧
      shortKey (utf8 "demo") [1, 2, 3, 4, 5, 6, 7, 8, 9, 10, 11, 12, 13, 14, 15, 16] 3 65536 2 32 =
        shortKey (utf8 "demo") [1, 2, 3, 4, 5, 6, 7, 8, 9, 10, 11, 12, 13, 14, 15, 16] 3 65536 2
          32 :=
  verifyPassword_hashPassword (fun p salt _ _ _ len => by simp [shortKey]; omega) hasherOk_new
    (by decide) (by decide) (by decide +kernel) "demo"

end MeetingSystem.Proof.Store
