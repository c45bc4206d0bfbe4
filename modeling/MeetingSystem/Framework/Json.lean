import MeetingSystem.Framework.Decimal

/-!
# JSON text

Reading and writing JSON as the byte-level codecs of server languages do it: a
text is read as UTF-8 in which a malformed byte stands for U+FFFD, an escaped
surrogate without its partner does too, keys keep their order and their
repetitions, and nesting is bounded. `parse` reads a whole text, `quote` writes
a string.

* `Renders v j`: after `v` the reader has read `j`, whatever follows;
* `renders_quote`, `renders_intBytes`: strings of plain characters and whole
  numbers are read back;
* `renders_quote_any`: so is any string of bytes, with U+FFFD for what is no
  character; `sanitize_utf8`: nothing is replaced in a text;
* `parse_object`: so is an object of such members.
-/

namespace MeetingSystem.Framework

inductive Json where
  | null
  | bool (b : Bool)
  | number (literal : List UInt8)
  | string (text : List UInt8)
  | array (items : List Json)
  | object (members : List (List UInt8 × Json))

namespace Json

/-! ## Characters -/

/-- The number of bytes of the UTF-8 character at the start, 0 if there is
none. -/
def runeLength : List UInt8 → Nat
  | a :: b :: c :: d :: _ =>
    if a < 0x80 then 1
    else if two a b then 2
    else if three a b c then 3
    else if four a b c d then 4
    else 0
  | [a, b, c] => if a < 0x80 then 1 else if two a b then 2 else if three a b c then 3 else 0
  | [a, b] => if a < 0x80 then 1 else if two a b then 2 else 0
  | [a] => if a < 0x80 then 1 else 0
  | [] => 0
where
  tail (b : UInt8) : Bool := 0x80 ≤ b && b ≤ 0xBF
  two (a b : UInt8) : Bool := 0xC2 ≤ a && a ≤ 0xDF && tail b
  three (a b c : UInt8) : Bool :=
    0xE0 ≤ a && a ≤ 0xEF && tail b && tail c && (a ≠ 0xE0 || 0xA0 ≤ b) && (a ≠ 0xED || b ≤ 0x9F)
  four (a b c d : UInt8) : Bool :=
    0xF0 ≤ a && a ≤ 0xF4 && tail b && tail c && tail d && (a ≠ 0xF0 || 0x90 ≤ b) &&
      (a ≠ 0xF4 || b ≤ 0x8F)

/-- U+FFFD. -/
def replacement : List UInt8 := [0xEF, 0xBF, 0xBD]

def hexValue (c : UInt8) : Option Nat :=
  if isDigit c then some (c.toNat - 48)
  else if 65 ≤ c ∧ c ≤ 70 then some (c.toNat - 55)
  else if 97 ≤ c ∧ c ≤ 102 then some (c.toNat - 87)
  else none

/-- Four hexadecimal digits and what follows them. -/
def hex4 : List UInt8 → Option (Nat × List UInt8)
  | a :: b :: c :: d :: rest => do
    let a ← hexValue a
    let b ← hexValue b
    let c ← hexValue c
    let d ← hexValue d
    some (((a * 16 + b) * 16 + c) * 16 + d, rest)
  | _ => none

/-- The character of an escaped surrogate `r`, which takes a second escape
when the two are a pair. -/
def surrogate (r : Nat) (rest : List UInt8) : List UInt8 × List UInt8 :=
  match rest with
  | 92 :: 117 :: more =>
    match hex4 more with
    | some (r', after) =>
      if r < 0xDC00 ∧ 0xDC00 ≤ r' ∧ r' < 0xE000 then
        (String.utf8EncodeChar (Char.ofNat ((r - 0xD800) * 0x400 + (r' - 0xDC00) + 0x10000)), after)
      else (replacement, rest)
    | none => (replacement, rest)
  | _ => (replacement, rest)

/-- What a backslash and the bytes after it stand for. -/
def escape : List UInt8 → Option (List UInt8 × List UInt8)
  | [] => none
  | c :: rest =>
    if c = 117 then
      (hex4 rest).map fun (r, rest) =>
        if 0xD800 ≤ r ∧ r < 0xE000 then surrogate r rest
        else (String.utf8EncodeChar (Char.ofNat r), rest)
    else if c = 34 ∨ c = 92 ∨ c = 47 then some ([c], rest)
    else if c = 98 then some ([8], rest)
    else if c = 102 then some ([12], rest)
    else if c = 110 then some ([10], rest)
    else if c = 114 then some ([13], rest)
    else if c = 116 then some ([9], rest)
    else none

/-- A character that is not escaped. -/
def plain (input : List UInt8) : Option (List UInt8 × List UInt8) :=
  match input with
  | [] => none
  | c :: rest =>
    if c < 32 then none
    else if runeLength input = 0 then some (replacement, rest)
    else some (input.take (runeLength input), input.drop (runeLength input))

/-- A string after its opening quote. -/
def parseText : Nat → List UInt8 → Option (List UInt8 × List UInt8)
  | 0, _ => none
  | _, [] => none
  | fuel + 1, c :: rest =>
    if c = 34 then some ([], rest)
    else
      match if c = 92 then escape rest else plain (c :: rest) with
      | none => none
      | some (text, rest) => (parseText fuel rest).map fun (more, rest) => (text ++ more, rest)

/-! ## Numbers -/

/-- The digits of a fraction or an exponent, of which there is at least one. -/
def someDigits (l : List UInt8) : Option (List UInt8 × List UInt8) :=
  if l.takeWhile isDigit = [] then none else some (l.takeWhile isDigit, l.dropWhile isDigit)

def wholePart : List UInt8 → Option (List UInt8 × List UInt8)
  | 48 :: rest => some ([48], rest)
  | l => someDigits l

def fraction : List UInt8 → Option (List UInt8 × List UInt8)
  | 46 :: rest => (someDigits rest).map fun (ds, rest) => (46 :: ds, rest)
  | l => some ([], l)

def exponent : List UInt8 → Option (List UInt8 × List UInt8)
  | c :: rest =>
    if c = 101 ∨ c = 69 then
      match rest with
      | 43 :: rest => (someDigits rest).map fun (ds, rest) => (c :: 43 :: ds, rest)
      | 45 :: rest => (someDigits rest).map fun (ds, rest) => (c :: 45 :: ds, rest)
      | _ => (someDigits rest).map fun (ds, rest) => (c :: ds, rest)
    else some ([], c :: rest)
  | [] => some ([], [])

def parseNumber (l : List UInt8) : Option (List UInt8 × List UInt8) := do
  let (sign, l) : List UInt8 × List UInt8 := match l with
    | 45 :: rest => ([45], rest)
    | _ => ([], l)
  let (whole, l) ← wholePart l
  let (frac, l) ← fraction l
  let (exp, l) ← exponent l
  some (sign ++ whole ++ frac ++ exp, l)

/-! ## Values -/

def isSpace (c : UInt8) : Bool := c = 32 || c = 9 || c = 10 || c = 13

def skipSpace (l : List UInt8) : List UInt8 := l.dropWhile isSpace

/-- A literal name and the value it stands for. -/
def parseName (name : List UInt8) (j : Json) (l : List UInt8) : Option (Json × List UInt8) :=
  if l.take name.length = name then some (j, l.drop name.length) else none

mutual

/-- A value, in which arrays and objects may be nested `depth` deep. -/
def parseValue : Nat → Nat → List UInt8 → Option (Json × List UInt8)
  | 0, _, _ => none
  | fuel + 1, depth, input =>
    match skipSpace input with
    | [] => none
    | c :: rest =>
      if c = 34 then (parseText rest.length rest).map fun (t, rest) => (.string t, rest)
      else if c = 123 then
        if depth = 0 then none
        else
          match skipSpace rest with
          | 125 :: rest => some (.object [], rest)
          | _ => (parseMembers fuel (depth - 1) rest).map fun (ms, rest) => (.object ms, rest)
      else if c = 91 then
        if depth = 0 then none
        else
          match skipSpace rest with
          | 93 :: rest => some (.array [], rest)
          | _ => (parseItems fuel (depth - 1) rest).map fun (js, rest) => (.array js, rest)
      else if c = 116 then parseName [116, 114, 117, 101] (.bool true) (c :: rest)
      else if c = 102 then parseName [102, 97, 108, 115, 101] (.bool false) (c :: rest)
      else if c = 110 then parseName [110, 117, 108, 108] .null (c :: rest)
      else (parseNumber (c :: rest)).map fun (n, rest) => (.number n, rest)

/-- The members of an object up to its closing brace. -/
def parseMembers : Nat → Nat → List UInt8 → Option (List (List UInt8 × Json) × List UInt8)
  | 0, _, _ => none
  | fuel + 1, depth, input =>
    match skipSpace input with
    | 34 :: rest =>
      match parseText rest.length rest with
      | none => none
      | some (key, rest) =>
        match skipSpace rest with
        | 58 :: rest =>
          match parseValue fuel depth rest with
          | none => none
          | some (j, rest) =>
            match skipSpace rest with
            | 44 :: rest =>
              (parseMembers fuel depth rest).map fun (ms, rest) => ((key, j) :: ms, rest)
            | 125 :: rest => some ([(key, j)], rest)
            | _ => none
        | _ => none
    | _ => none

/-- The items of an array up to its closing bracket. -/
def parseItems : Nat → Nat → List UInt8 → Option (List Json × List UInt8)
  | 0, _, _ => none
  | fuel + 1, depth, input =>
    match parseValue fuel depth input with
    | none => none
    | some (j, rest) =>
      match skipSpace rest with
      | 44 :: rest => (parseItems fuel depth rest).map fun (js, rest) => (j :: js, rest)
      | 93 :: rest => some ([j], rest)
      | _ => none

end

/-- A whole text, with the nesting bounded by `depth`. -/
def parse (depth : Nat) (input : List UInt8) : Option Json :=
  match parseValue (2 * input.length + 1) depth input with
  | some (j, rest) => if skipSpace rest = [] then some j else none
  | none => none

/-! ## Writing -/

def hexDigit (n : Nat) : UInt8 := if n < 10 then (48 + n).toUInt8 else (87 + n).toUInt8

/-- A character of a quoted string below 0x80. The characters `<`, `>` and `&`
are escaped too. -/
def quoteAscii (c : UInt8) : List UInt8 :=
  if c = 34 ∨ c = 92 then [92, c]
  else if c = 8 then [92, 98]
  else if c = 12 then [92, 102]
  else if c = 10 then [92, 110]
  else if c = 13 then [92, 114]
  else if c = 9 then [92, 116]
  else if c < 32 ∨ c = 38 ∨ c = 60 ∨ c = 62 then
    [92, 117, 48, 48, hexDigit (c.toNat / 16), hexDigit (c.toNat % 16)]
  else [c]

def quoteText : Nat → List UInt8 → List UInt8
  | 0, _ => []
  | _, [] => []
  | fuel + 1, c :: rest =>
    if c < 0x80 then quoteAscii c ++ quoteText fuel rest
    else if runeLength (c :: rest) = 0 then
      [92, 117, 102, 102, 102, 100] ++ quoteText fuel rest
    else
      let rune := (c :: rest).take (runeLength (c :: rest))
      -- U+2028 and U+2029
      (if rune = [0xE2, 0x80, 0xA8] then [92, 117, 50, 48, 50, 56]
        else if rune = [0xE2, 0x80, 0xA9] then [92, 117, 50, 48, 50, 57]
        else rune) ++ quoteText fuel ((c :: rest).drop (runeLength (c :: rest)))

def quote (text : List UInt8) : List UInt8 := 34 :: quoteText text.length text ++ [34]

/-- The members of an object, each a key and a written value. -/
def writeMembers : List (List UInt8 × List UInt8) → List UInt8
  | [] => []
  | [(key, v)] => quote key ++ 58 :: v
  | (key, v) :: ms => quote key ++ 58 :: v ++ 44 :: writeMembers ms

def writeObject (ms : List (List UInt8 × List UInt8)) : List UInt8 :=
  123 :: writeMembers ms ++ [125]

/-! ## What is written is read back -/

/-- Characters that are written as they are. -/
def IsPlain (c : UInt8) : Prop :=
  32 ≤ c ∧ c < 128 ∧ c ≠ 34 ∧ c ≠ 92 ∧ c ≠ 38 ∧ c ≠ 60 ∧ c ≠ 62

instance (c : UInt8) : Decidable (IsPlain c) := inferInstanceAs (Decidable (_ ∧ _))

/-- A text that is checked character by character. -/
theorem isPlain_of_all {text : List UInt8} (h : text.all (fun c => IsPlain c) = true) :
    ∀ c ∈ text, IsPlain c := by
  intro c hc
  exact of_decide_eq_true (List.all_eq_true.mp h c hc)

theorem runeLength_ascii {c : UInt8} (h : c < 128) (rest : List UInt8) :
    runeLength (c :: rest) = 1 := by
  rcases rest with _ | ⟨b, _ | ⟨d, _ | ⟨e, rest⟩⟩⟩
  all_goals exact if_pos h

theorem quoteAscii_of_isPlain {c : UInt8} (h : IsPlain c) : quoteAscii c = [c] := by
  obtain ⟨h32, -, h34, h92, h38, h60, h62⟩ := h
  have hne : ∀ d : UInt8, d < 32 → c ≠ d := by
    intro d hd he
    exact absurd (he ▸ hd) (UInt8.not_lt.mpr h32)
  rw [quoteAscii, if_neg (by simp [h34, h92]), if_neg (hne 8 (by decide)),
    if_neg (hne 12 (by decide)), if_neg (hne 10 (by decide)), if_neg (hne 13 (by decide)),
    if_neg (hne 9 (by decide)), if_neg]
  simp only [h38, h60, h62, or_false]
  exact UInt8.not_lt.mpr h32

theorem quoteText_of_isPlain {text : List UInt8} (h : ∀ c ∈ text, IsPlain c) :
    quoteText text.length text = text := by
  induction text with
  | nil => rfl
  | cons c text ih =>
    have hc := h c (by simp)
    rw [List.length_cons, quoteText, if_pos hc.2.1, quoteAscii_of_isPlain hc,
      ih fun d hd => h d (by simp [hd])]
    rfl

theorem plain_of_isPlain {c : UInt8} (h : IsPlain c) (rest : List UInt8) :
    plain (c :: rest) = some ([c], rest) := by
  have hr := runeLength_ascii h.2.1 rest
  rw [plain, if_neg (UInt8.not_lt.mpr h.1), if_neg (by omega), hr]
  rfl

theorem parseText_of_isPlain {text : List UInt8} (h : ∀ c ∈ text, IsPlain c) {fuel : Nat}
    (hfuel : text.length < fuel) (rest : List UInt8) :
    parseText fuel (text ++ 34 :: rest) = some (text, rest) := by
  induction text generalizing fuel with
  | nil =>
    obtain ⟨k, rfl⟩ := Nat.exists_eq_succ_of_ne_zero (by omega : fuel ≠ 0)
    rfl
  | cons c text ih =>
    obtain ⟨k, rfl⟩ := Nat.exists_eq_succ_of_ne_zero (by omega : fuel ≠ 0)
    have hc := h c (by simp)
    have hk : text.length < k := by
      rw [List.length_cons] at hfuel
      omega
    rw [List.cons_append, parseText, if_neg hc.2.2.1, if_neg hc.2.2.2.1, plain_of_isPlain hc]
    show (parseText k (text ++ 34 :: rest)).map _ = _
    rw [ih (fun d hd => h d (by simp [hd])) hk]
    rfl

/-- What can follow a member's value. -/
def EndsValue (rest : List UInt8) : Prop := ∃ l, rest = 44 :: l ∨ rest = 125 :: l

/-- The reader takes `v` for `j`. -/
def Renders (v : List UInt8) (j : Json) : Prop :=
  ∀ fuel depth rest, EndsValue rest → parseValue (fuel + 1) depth (v ++ rest) = some (j, rest)

theorem skipSpace_cons {c : UInt8} (h : isSpace c = false) (rest : List UInt8) :
    skipSpace (c :: rest) = c :: rest := by
  rw [skipSpace, List.dropWhile_cons_of_neg (by simp [h])]

theorem renders_quote {text : List UInt8} (h : ∀ c ∈ text, IsPlain c) :
    Renders (quote text) (.string text) := by
  intro fuel depth rest _
  rw [quote, quoteText_of_isPlain h, List.cons_append, List.cons_append, List.append_assoc,
    parseValue, skipSpace_cons (by decide)]
  show (parseText _ (text ++ 34 :: rest)).map _ = _
  rw [parseText_of_isPlain h (by simp)]
  rfl

theorem renders_true : Renders [116, 114, 117, 101] (.bool true) := by
  intro fuel depth rest _
  rfl

theorem takeWhile_digits {ds rest : List UInt8} (h : ∀ c ∈ ds, isDigit c = true)
    (hrest : EndsValue rest) :
    (ds ++ rest).takeWhile isDigit = ds ∧ (ds ++ rest).dropWhile isDigit = rest := by
  rw [List.takeWhile_append_of_pos h, List.dropWhile_append_of_pos h]
  obtain ⟨l, rfl | rfl⟩ := hrest
  · exact ⟨List.append_nil ds, rfl⟩
  · exact ⟨List.append_nil ds, rfl⟩

/-- Nothing of a fraction or an exponent is left to read. -/
theorem fraction_exponent {rest : List UInt8} (h : EndsValue rest) :
    fraction rest = some ([], rest) ∧ exponent rest = some ([], rest) := by
  obtain ⟨l, rfl | rfl⟩ := h
  · exact ⟨rfl, rfl⟩
  · exact ⟨rfl, rfl⟩

theorem wholePart_natBytes (n : Nat) {rest : List UInt8} (h : EndsValue rest) :
    wholePart (natBytes n ++ rest) = some (natBytes n, rest) := by
  cases n with
  | zero => rfl
  | succ n =>
    obtain ⟨c, l, hl, hc⟩ := natBytes_succ_eq_cons n
    obtain ⟨htake, hdrop⟩ := takeWhile_digits (fun c => isDigit_of_mem_natBytes (n := n + 1)) h
    have hw : wholePart (natBytes (n + 1) ++ rest) = someDigits (natBytes (n + 1) ++ rest) := by
      rw [hl, List.cons_append, wholePart]
      intro l' he
      exact hc (List.cons.inj he).1
    rw [hw, someDigits, htake, hdrop, if_neg (natBytes_ne_nil _)]

theorem parseNumber_intBytes (i : Int) {rest : List UInt8} (h : EndsValue rest) :
    parseNumber (intBytes i ++ rest) = some (intBytes i, rest) := by
  obtain ⟨hfrac, hexp⟩ := fraction_exponent h
  cases i with
  | ofNat n =>
    obtain ⟨c, l, hl, hc⟩ := natBytes_eq_cons n
    have hw := wholePart_natBytes n h
    have hs : c ≠ 45 := by
      intro he
      rw [he] at hc
      exact absurd hc (by decide)
    rw [hl, List.cons_append] at hw
    rw [intBytes, hl, List.cons_append, parseNumber]
    · simp [hw, hfrac, hexp]
    · intro l' he
      exact hs (List.cons.inj he).1
  | negSucc n =>
    rw [intBytes, List.cons_append, parseNumber]
    simp [wholePart_natBytes (n + 1) h, hfrac, hexp]

theorem renders_intBytes (i : Int) : Renders (intBytes i) (.number (intBytes i)) := by
  intro fuel depth rest hrest
  have hnum := parseNumber_intBytes i hrest
  obtain ⟨c, l, hl, hc⟩ : ∃ c l, intBytes i = c :: l ∧ (isDigit c = true ∨ c = 45) := by
    cases i with
    | ofNat n =>
      obtain ⟨c, l, hl, hc⟩ := natBytes_eq_cons n
      exact ⟨c, l, hl, .inl hc⟩
    | negSucc n => exact ⟨45, _, rfl, .inr rfl⟩
  have hne : ∀ d : UInt8, isDigit d = false → d ≠ 45 → c ≠ d := by
    intro d hd hd' he
    rcases hc with hc | hc
    · rw [he, hd] at hc
      cases hc
    · exact hd' (he ▸ hc)
  rw [hl] at hnum ⊢
  have hspace : isSpace c = false := by
    simp [isSpace, hne 32 (by decide) (by decide), hne 9 (by decide) (by decide),
      hne 10 (by decide) (by decide), hne 13 (by decide) (by decide)]
  rw [List.cons_append] at hnum ⊢
  rw [parseValue, skipSpace_cons hspace]
  simp only [hne 34 (by decide) (by decide), hne 123 (by decide) (by decide),
    hne 91 (by decide) (by decide), hne 116 (by decide) (by decide),
    hne 102 (by decide) (by decide), hne 110 (by decide) (by decide), if_false, hnum]
  rfl

/-- Members that are read back, in their order. -/
inductive RendersMembers : List (List UInt8 × List UInt8) → List (List UInt8 × Json) → Prop where
  | nil : RendersMembers [] []
  | cons {key v : List UInt8} {j : Json} {ms : List (List UInt8 × List UInt8)}
      {js : List (List UInt8 × Json)} (hkey : ∀ c ∈ key, IsPlain c) (hv : Renders v j)
      (hms : RendersMembers ms js) : RendersMembers ((key, v) :: ms) ((key, j) :: js)

theorem writeMembers_cons (key v : List UInt8) (m : List UInt8 × List UInt8)
    (ms : List (List UInt8 × List UInt8)) :
    writeMembers ((key, v) :: m :: ms) = quote key ++ 58 :: v ++ 44 :: writeMembers (m :: ms) :=
  rfl

theorem length_le_writeMembers (ms : List (List UInt8 × List UInt8)) :
    ms.length ≤ (writeMembers ms).length := by
  induction ms with
  | nil => exact Nat.le_refl 0
  | cons m ms ih =>
    obtain ⟨key, v⟩ := m
    cases ms with
    | nil =>
      rw [writeMembers]
      simp only [List.length_cons, List.length_append, List.length_nil]
      omega
    | cons m' ms =>
      rw [writeMembers_cons]
      simp only [List.length_cons, List.length_append] at ih ⊢
      omega

/-- A key and the colon after it are read. -/
theorem parseMembers_key {key : List UInt8} (hkey : ∀ c ∈ key, IsPlain c) (fuel depth : Nat)
    (l : List UInt8) :
    parseMembers (fuel + 1) depth (quote key ++ 58 :: l) =
      match parseValue fuel depth l with
      | none => none
      | some (j, rest) =>
        match skipSpace rest with
        | 44 :: rest => (parseMembers fuel depth rest).map fun (ms, rest) => ((key, j) :: ms, rest)
        | 125 :: rest => some ([(key, j)], rest)
        | _ => none := by
  rw [quote, quoteText_of_isPlain hkey, List.cons_append, List.cons_append, List.append_assoc,
    parseMembers, skipSpace_cons (by decide)]
  show (match parseText _ (key ++ 34 :: 58 :: l) with
    | none => none
    | some (key, rest) => _) = _
  rw [parseText_of_isPlain hkey (by simp)]
  rfl

theorem parseMembers_writeMembers {ms : List (List UInt8 × List UInt8)}
    {js : List (List UInt8 × Json)} (h : RendersMembers ms js) (hne : ms ≠ []) {fuel : Nat}
    (hfuel : ms.length < fuel) (depth : Nat) (rest : List UInt8) :
    parseMembers fuel depth (writeMembers ms ++ 125 :: rest) = some (js, rest) := by
  induction h generalizing fuel with
  | nil => exact absurd rfl hne
  | cons hkey hv hms ih =>
    rename_i key v j ms js
    obtain ⟨k, rfl⟩ : ∃ k, fuel = k + 2 := ⟨fuel - 2, by rw [List.length_cons] at hfuel; omega⟩
    cases hms with
    | nil =>
      rw [writeMembers, List.append_assoc, List.cons_append, parseMembers_key hkey,
        hv k depth _ ⟨rest, .inr rfl⟩]
      rfl
    | cons hkey' hv' hms' =>
      rename_i key' v' j' ms js
      have hk : ((key', v') :: ms).length < k + 1 := by
        rw [List.length_cons] at hfuel
        omega
      rw [writeMembers_cons, List.append_assoc, List.append_assoc, List.cons_append,
        parseMembers_key hkey, List.cons_append, hv k depth _ ⟨_, .inl rfl⟩]
      show (parseMembers (k + 1) depth (writeMembers ((key', v') :: ms) ++ 125 :: rest)).map _ = _
      rw [ih (List.cons_ne_nil _ _) hk]
      rfl

/-- An object that is written is read back. -/
theorem parse_object {ms : List (List UInt8 × List UInt8)} {js : List (List UInt8 × Json)}
    (h : RendersMembers ms js) (hne : ms ≠ []) {depth : Nat} (hdepth : 0 < depth) :
    parse depth (writeObject ms) = some (.object js) := by
  have hlen := length_le_writeMembers ms
  have hw : ∃ l, writeMembers ms = 34 :: l := by
    obtain ⟨⟨key, v⟩, ms', rfl⟩ := List.exists_cons_of_ne_nil hne
    cases ms' with
    | nil => exact ⟨_, rfl⟩
    | cons m ms' => exact ⟨_, rfl⟩
  obtain ⟨l, hl⟩ := hw
  have hmembers := parseMembers_writeMembers h hne
    (show ms.length < 2 * (writeObject ms).length by
      rw [writeObject, List.cons_append, List.length_cons, List.length_append]
      omega) (depth - 1) []
  have hvalue : parseValue (2 * (writeObject ms).length + 1) depth (writeObject ms) =
      some (.object js, []) := by
    generalize 2 * (writeObject ms).length = fuel at hmembers ⊢
    rw [writeObject, List.cons_append, parseValue, skipSpace_cons (by decide)]
    rw [hl] at hmembers ⊢
    show (if depth = 0 then none else (parseMembers fuel (depth - 1) _).map _) = _
    rw [if_neg (by omega), hmembers]
    rfl
  rw [parse, hvalue]
  rfl

/-! ## Any text -/

open runeLength in
/-- What the first character can be. -/
inductive RuneAt : List UInt8 → Nat → Prop where
  | one {a : UInt8} (t : List UInt8) (ha : a < 0x80) : RuneAt (a :: t) 1
  | two {a b : UInt8} (t : List UInt8) (ha : ¬ a < 0x80) (h : two a b = true) :
    RuneAt (a :: b :: t) 2
  | three {a b c : UInt8} (t : List UInt8) (ha : ¬ a < 0x80) (hn : two a b = false)
    (h : three a b c = true) : RuneAt (a :: b :: c :: t) 3
  | four {a b c d : UInt8} (t : List UInt8) (ha : ¬ a < 0x80) (hn : two a b = false)
    (hn' : three a b c = false) (h : four a b c d = true) : RuneAt (a :: b :: c :: d :: t) 4

theorem RuneAt.runeLength_eq {l : List UInt8} {n : Nat} (h : RuneAt l n) : runeLength l = n := by
  cases h with
  | one t ha => exact runeLength_ascii ha t
  | two t ha h => rcases t with _ | ⟨c, _ | ⟨d, t⟩⟩ <;> simp [runeLength, ha, h]
  | three t ha hn h => rcases t with _ | ⟨d, t⟩ <;> simp [runeLength, ha, hn, h]
  | four t ha hn hn' h => simp [runeLength, ha, hn, hn', h]

theorem runeAt_of_ne_zero {l : List UInt8} (h : runeLength l ≠ 0) : RuneAt l (runeLength l) := by
  have key : ∃ n, RuneAt l n := by
    rcases l with _ | ⟨a, _ | ⟨b, _ | ⟨c, _ | ⟨d, t⟩⟩⟩⟩
    · exact absurd rfl h
    all_goals by_cases ha : a < 0x80
    all_goals try exact ⟨1, .one _ ha⟩
    · simp [runeLength, ha] at h
    all_goals cases h2 : runeLength.two a b
    all_goals try exact ⟨2, .two _ ha h2⟩
    · simp [runeLength, ha, h2] at h
    all_goals cases h3 : runeLength.three a b c
    all_goals try exact ⟨3, .three _ ha h2 h3⟩
    · simp [runeLength, ha, h2, h3] at h
    · cases h4 : runeLength.four a b c d
      · simp [runeLength, ha, h2, h3, h4] at h
      · exact ⟨4, .four _ ha h2 h3 h4⟩
  obtain ⟨n, hn⟩ := key
  rw [hn.runeLength_eq]
  exact hn

/-- The bytes of the first character do not depend on what follows. -/
theorem RuneAt.take_append {l : List UInt8} {n : Nat} (h : RuneAt l n) (rest : List UInt8) :
    RuneAt (l.take n ++ rest) n := by
  cases h with
  | one t ha => exact .one _ ha
  | two t ha h => exact .two _ ha h
  | three t ha hn h => exact .three _ ha hn h
  | four t ha hn hn' h => exact .four _ ha hn hn' h

theorem RuneAt.length_take {l : List UInt8} {n : Nat} (h : RuneAt l n) :
    (l.take n).length = n := by
  cases h <;> rfl

/-- A text in which U+FFFD stands for every byte that is not part of a character. -/
def sanitizeText : Nat → List UInt8 → List UInt8
  | 0, _ => []
  | _, [] => []
  | fuel + 1, c :: rest =>
    if runeLength (c :: rest) = 0 then replacement ++ sanitizeText fuel rest
    else (c :: rest).take (runeLength (c :: rest)) ++
      sanitizeText fuel ((c :: rest).drop (runeLength (c :: rest)))

def sanitize (text : List UInt8) : List UInt8 := sanitizeText text.length text

theorem hexValue_hexDigit {n : Nat} (h : n < 16) : hexValue (hexDigit n) = some n := by
  have hall : ∀ n < 16, hexValue (hexDigit n) = some n := by decide
  exact hall n h

theorem escape_hexDigits {c : UInt8} (h : c < 128) (rest : List UInt8) :
    escape (117 :: 48 :: 48 :: hexDigit (c.toNat / 16) :: hexDigit (c.toNat % 16) :: rest) =
      some ([c], rest) := by
  have hlt : c.toNat < 128 := UInt8.lt_iff_toNat_lt.mp h
  have hzero : hexValue 48 = some 0 := by decide
  have hhex : hex4 (48 :: 48 :: hexDigit (c.toNat / 16) :: hexDigit (c.toNat % 16) :: rest) =
      some (c.toNat, rest) := by
    simp only [hex4, hzero, hexValue_hexDigit (show c.toNat / 16 < 16 by omega),
      hexValue_hexDigit (show c.toNat % 16 < 16 by omega), Option.bind_eq_bind, Option.bind_some]
    rw [show ((0 * 16 + 0) * 16 + c.toNat / 16) * 16 + c.toNat % 16 = c.toNat by omega]
  rw [escape, if_pos rfl, hhex, Option.map_some]
  dsimp only
  rw [if_neg (by omega), utf8EncodeChar_ascii h]

/-- The reader takes `q` for the character `s`. -/
def ReadsAs (q s : List UInt8) : Prop :=
  ∀ fuel rest, parseText (fuel + 1) (q ++ rest) =
    (parseText fuel rest).map fun (more, rest) => (s ++ more, rest)

theorem readsAs_escape {q s : List UInt8} (h : ∀ rest, escape (q ++ rest) = some (s, rest)) :
    ReadsAs (92 :: q) s := by
  intro fuel rest
  rw [List.cons_append, parseText, if_neg (by decide), if_pos rfl, h]

theorem readsAs_rune {l : List UInt8} {n : Nat} (h : RuneAt l n) {c : UInt8}
    (hc : l.head? = some c) (hspace : ¬ c < 32) (hquote : c ≠ 34) (hback : c ≠ 92) :
    ReadsAs (l.take n) (l.take n) := by
  intro fuel rest
  have hrune := h.take_append rest
  obtain ⟨t, ht⟩ : ∃ t, l.take n = c :: t := by
    cases h <;> · obtain rfl := Option.some.inj hc; exact ⟨_, rfl⟩
  have hlen := hrune.runeLength_eq
  have htake : (l.take n ++ rest).take n = l.take n := by
    rw [List.take_append_of_le_length (by rw [h.length_take]), List.take_take, Nat.min_self]
  have hdrop : (l.take n ++ rest).drop n = rest := List.drop_left' h.length_take
  have hn : n ≠ 0 := by cases h <;> decide
  rw [ht, List.cons_append] at hlen htake hdrop ⊢
  rw [parseText, if_neg hquote, if_neg hback, plain, if_neg hspace, hlen, if_neg hn, htake, hdrop]

theorem readsAs_quoteAscii {c : UInt8} (h : c < 128) : ReadsAs (quoteAscii c) [c] := by
  have hc : RuneAt [c] 1 := .one [] h
  by_cases hplain : IsPlain c
  · rw [quoteAscii_of_isPlain hplain]
    exact readsAs_rune hc rfl (UInt8.not_lt.mpr hplain.1) hplain.2.2.1 hplain.2.2.2.1
  · unfold quoteAscii
    split_ifs with h1 h2 h3 h4 h5 h6 h7
    · refine readsAs_escape fun rest => ?_
      rcases h1 with rfl | rfl <;> rfl
    · exact readsAs_escape fun rest => by rw [h2]; rfl
    · exact readsAs_escape fun rest => by rw [h3]; rfl
    · exact readsAs_escape fun rest => by rw [h4]; rfl
    · exact readsAs_escape fun rest => by rw [h5]; rfl
    · exact readsAs_escape fun rest => by rw [h6]; rfl
    · exact readsAs_escape fun rest => escape_hexDigits h rest
    · simp only [not_or] at h1 h7
      exact absurd ⟨UInt8.not_lt.mp h7.1, h, h1.1, h1.2, h7.2.1, h7.2.2.1, h7.2.2.2⟩ hplain

/-- U+FFFD, U+2028 and U+2029 are written as escapes. -/
theorem readsAs_special :
    ReadsAs [92, 117, 102, 102, 102, 100] replacement ∧
      ReadsAs [92, 117, 50, 48, 50, 56] [0xE2, 0x80, 0xA8] ∧
      ReadsAs [92, 117, 50, 48, 50, 57] [0xE2, 0x80, 0xA9] :=
  ⟨readsAs_escape fun _ => rfl, readsAs_escape fun _ => rfl, readsAs_escape fun _ => rfl⟩

theorem ReadsAs.parseText {q s : List UInt8} (h : ReadsAs q s) {tail more rest : List UInt8}
    {fuel : Nat} (hq : q ≠ []) (hfuel : (q ++ tail).length < fuel)
    (htail : ∀ fuel, tail.length < fuel → Json.parseText fuel (tail ++ 34 :: rest) =
      some (more, rest)) :
    Json.parseText fuel (q ++ tail ++ 34 :: rest) = some (s ++ more, rest) := by
  have hpos := List.length_pos_iff.mpr hq
  rw [List.length_append] at hfuel
  obtain ⟨k, rfl⟩ := Nat.exists_eq_succ_of_ne_zero (show fuel ≠ 0 by omega)
  rw [List.append_assoc, h, htail k (by omega)]
  rfl

/-- A text of any bytes is read back as a text of characters. -/
theorem parseText_quoteText {m : Nat} {text : List UInt8} (hm : text.length ≤ m) {fuel : Nat}
    (hfuel : (quoteText m text).length < fuel) (rest : List UInt8) :
    parseText fuel (quoteText m text ++ 34 :: rest) = some (sanitizeText m text, rest) := by
  induction m generalizing text fuel with
  | zero =>
    obtain ⟨k, rfl⟩ := Nat.exists_eq_succ_of_ne_zero (show fuel ≠ 0 by omega)
    rfl
  | succ m ih =>
    cases text with
    | nil =>
      obtain ⟨k, rfl⟩ := Nat.exists_eq_succ_of_ne_zero (show fuel ≠ 0 by omega)
      rfl
    | cons c text =>
      rw [List.length_cons] at hm
      rw [quoteText, sanitizeText] at *
      by_cases hc : c < 0x80
      · have hone := runeLength_ascii hc text
        rw [if_pos hc] at hfuel ⊢
        rw [if_neg (by omega), hone]
        refine (readsAs_quoteAscii hc).parseText ?_ hfuel fun fuel h => ih (by simpa using hm) h
        unfold quoteAscii
        split_ifs <;> exact List.cons_ne_nil _ _
      · rw [if_neg hc] at hfuel ⊢
        by_cases hzero : runeLength (c :: text) = 0
        · rw [if_pos hzero] at hfuel
          rw [if_pos hzero, if_pos hzero]
          exact readsAs_special.1.parseText (List.cons_ne_nil _ _) hfuel
            fun fuel h => ih (by simpa using hm) h
        · rw [if_neg hzero] at hfuel
          rw [if_neg hzero, if_neg hzero]
          have hrune := runeAt_of_ne_zero hzero
          have hlen := hrune.length_take
          have hrest : ((c :: text).drop (runeLength (c :: text))).length ≤ m := by
            rw [List.length_drop, List.length_cons]
            omega
          have hbig : ∀ d : UInt8, d < 0x80 → c ≠ d := by
            intro d hd he
            exact hc (he ▸ hd)
          have hplain := readsAs_rune hrune rfl (fun h => hc (UInt8.lt_trans h (by decide)))
            (hbig 34 (by decide)) (hbig 92 (by decide))
          dsimp only at hfuel ⊢
          split_ifs at hfuel ⊢ with h8 h9
          · rw [h8]
            exact readsAs_special.2.1.parseText (List.cons_ne_nil _ _) hfuel fun _ h => ih hrest h
          · rw [h9]
            exact readsAs_special.2.2.parseText (List.cons_ne_nil _ _) hfuel fun _ h => ih hrest h
          · refine hplain.parseText ?_ hfuel fun _ h => ih hrest h
            intro he
            rw [he] at hlen
            exact hzero hlen.symm

theorem renders_quote_any (text : List UInt8) : Renders (quote text) (.string (sanitize text)) := by
  intro fuel depth rest _
  rw [quote, List.cons_append, List.cons_append, List.append_assoc, parseValue,
    skipSpace_cons (by decide)]
  show (parseText _ (quoteText text.length text ++ 34 :: rest)).map _ = _
  rw [parseText_quoteText (Nat.le_refl _) (by simp)]
  rfl

theorem toNat_byte {n : Nat} (h : n < 256) : (UInt8.ofNat n).toNat = n := UInt8.toNat_ofNat_of_lt' h

/-- The bytes of a character are one. -/
theorem runeAt_utf8EncodeChar (c : Char) (rest : List UInt8) :
    RuneAt (String.utf8EncodeChar c ++ rest) (String.utf8EncodeChar c).length := by
  have hv : c.val.toNat < 0xD800 ∨ (0xDFFF < c.val.toNat ∧ c.val.toNat < 0x110000) := c.valid
  have htail : ∀ n, runeLength.tail (UInt8.ofNat (n % 64 + 128)) = true := by
    intro n
    simp only [runeLength.tail, Bool.and_eq_true, decide_eq_true_eq, UInt8.le_iff_toNat_le,
      toNat_byte (show n % 64 + 128 < 256 by omega), UInt8.reduceToNat]
    omega
  have hhead : ∀ n, 128 ≤ n → n < 256 → ¬ UInt8.ofNat n < 0x80 := by
    intro n h h'
    rw [UInt8.lt_iff_toNat_lt, toNat_byte h']
    exact Nat.not_lt.mpr h
  fun_cases String.utf8EncodeChar c with
  | case1 v h =>
    refine .one rest ?_
    have hlt : v < 256 := by omega
    rw [UInt8.lt_iff_toNat_lt, toNat_byte hlt]
    exact Nat.lt_succ_of_le h
  | case2 v h h' =>
    have hb := toNat_byte (show v / 64 % 32 + 192 < 256 by omega)
    refine .two rest (hhead _ (by omega) (by omega)) ?_
    simp only [runeLength.two, htail, and_true, Bool.and_eq_true, decide_eq_true_eq,
      UInt8.le_iff_toNat_le, hb, UInt8.reduceToNat]
    omega
  | case3 v h h' h'' =>
    have ha := toNat_byte (show v / 4096 % 16 + 224 < 256 by omega)
    have hb := toNat_byte (show v / 64 % 64 + 128 < 256 by omega)
    refine .three rest (hhead _ (by omega) (by omega)) ?_ ?_
    · simp only [runeLength.two, Bool.and_eq_false_iff, decide_eq_false_iff_not,
        UInt8.le_iff_toNat_le, ha, UInt8.reduceToNat]
      omega
    · simp only [runeLength.three, htail, and_true, Bool.and_eq_true, Bool.or_eq_true,
        decide_eq_true_eq, UInt8.le_iff_toNat_le, ha, hb, ne_eq, ← UInt8.toNat_inj,
        UInt8.reduceToNat]
      omega
  | case4 v h h' h'' =>
    have ha := toNat_byte (show v / 262144 % 8 + 240 < 256 by omega)
    have hb := toNat_byte (show v / 4096 % 64 + 128 < 256 by omega)
    refine .four rest (hhead _ (by omega) (by omega)) ?_ ?_ ?_
    · simp only [runeLength.two, Bool.and_eq_false_iff, decide_eq_false_iff_not,
        UInt8.le_iff_toNat_le, ha, UInt8.reduceToNat]
      omega
    · simp only [runeLength.three, Bool.and_eq_false_iff, decide_eq_false_iff_not,
        UInt8.le_iff_toNat_le, ha, UInt8.reduceToNat]
      omega
    · simp only [runeLength.four, htail, and_true, Bool.and_eq_true, Bool.or_eq_true,
        decide_eq_true_eq, UInt8.le_iff_toNat_le, ha, hb, ne_eq, ← UInt8.toNat_inj,
        UInt8.reduceToNat]
      omega

theorem sanitizeText_flatMap (cs : List Char) {m : Nat}
    (hm : (cs.flatMap String.utf8EncodeChar).length ≤ m) :
    sanitizeText m (cs.flatMap String.utf8EncodeChar) = cs.flatMap String.utf8EncodeChar := by
  induction cs generalizing m with
  | nil => cases m <;> rfl
  | cons c cs ih =>
    rw [List.flatMap_cons] at hm ⊢
    have hrune := runeAt_utf8EncodeChar c (cs.flatMap String.utf8EncodeChar)
    have hlen := hrune.runeLength_eq
    have hpos : 0 < (String.utf8EncodeChar c).length :=
      List.length_pos_iff.mpr String.utf8EncodeChar_ne_nil
    have htake : (String.utf8EncodeChar c ++ cs.flatMap String.utf8EncodeChar).take
        (String.utf8EncodeChar c).length = String.utf8EncodeChar c := List.take_left
    have hdrop : (String.utf8EncodeChar c ++ cs.flatMap String.utf8EncodeChar).drop
        (String.utf8EncodeChar c).length = cs.flatMap String.utf8EncodeChar := List.drop_left
    rw [List.length_append] at hm
    obtain ⟨k, rfl⟩ := Nat.exists_eq_succ_of_ne_zero (show m ≠ 0 by omega)
    obtain ⟨b, t, hbt⟩ : ∃ b t, String.utf8EncodeChar c ++ cs.flatMap String.utf8EncodeChar =
        b :: t := List.exists_cons_of_ne_nil (by simp [String.utf8EncodeChar_ne_nil])
    rw [hbt] at hlen htake hdrop
    rw [hbt, sanitizeText, hlen, if_neg (Nat.ne_of_gt hpos), htake, hdrop, ih (by omega), ← hbt]

/-- The text of a string has no byte that is not part of a character. -/
@[simp] theorem sanitize_utf8 (s : String) : sanitize (utf8 s) = utf8 s :=
  sanitizeText_flatMap s.toList (Nat.le_refl _)

end Json

end MeetingSystem.Framework
