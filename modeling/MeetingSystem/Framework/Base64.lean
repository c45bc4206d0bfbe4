import Mathlib.Data.List.GetD
import Mathlib.Data.List.Nodup

/-!
# Base64 without padding

The encoding with 64 symbols of any alphabet: three bytes are four symbols,
and one or two bytes at the end are two or three. The decoder passes over line
breaks and does not look at the unused bits of the last symbol, so that
several texts decode to the same bytes.

* `Alphabet`: the symbols, each different and none a line break;
* `decode_encode`: what is encoded is decoded again;
* `mem_symbols_of_encode`, `mem_of_decode`: what an encoding and a decodable
  text consist of.
-/

namespace MeetingSystem.Framework.Base64

structure Alphabet where
  symbols : List UInt8
  length_eq : symbols.length = 64
  nodup : symbols.Nodup
  lf : 10 ∉ symbols
  cr : 13 ∉ symbols

/-- The bytes of the usual alphabet, with `c` and `d` for its last two symbols. -/
def usual (c d : UInt8) : List UInt8 :=
  (List.range 26).map (fun n => (65 + n).toUInt8) ++
    (List.range 26).map (fun n => (97 + n).toUInt8) ++
    (List.range 10).map (fun n => (48 + n).toUInt8) ++ [c, d]

/-- The standard alphabet, which ends in `+` and `/`. -/
def std : Alphabet :=
  { symbols := usual 43 47, length_eq := by decide, nodup := by decide, lf := by decide,
    cr := by decide }

/-- The alphabet for URLs, which ends in `-` and `_`. -/
def url : Alphabet :=
  { symbols := usual 45 95, length_eq := by decide, nodup := by decide, lf := by decide,
    cr := by decide }

variable (a : Alphabet)

/-! ## Groups of six bits -/

def sextets : List UInt8 → List Nat
  | [] => []
  | [x] => [x.toNat / 4, x.toNat % 4 * 16]
  | [x, y] => [x.toNat / 4, x.toNat % 4 * 16 + y.toNat / 16, y.toNat % 16 * 4]
  | x :: y :: z :: rest =>
    x.toNat / 4 :: (x.toNat % 4 * 16 + y.toNat / 16) :: (y.toNat % 16 * 4 + z.toNat / 64) ::
      z.toNat % 64 :: sextets rest

def octets : List Nat → Option (List UInt8)
  | [] => some []
  | [_] => none
  | [p, q] => some [(p * 4 + q / 16).toUInt8]
  | [p, q, r] => some [(p * 4 + q / 16).toUInt8, (q * 16 + r / 4).toUInt8]
  | p :: q :: r :: s :: rest =>
    (octets rest).map fun l =>
      (p * 4 + q / 16).toUInt8 :: (q * 16 + r / 4).toUInt8 :: (r * 64 + s).toUInt8 :: l

theorem sextets_lt (l : List UInt8) : ∀ n ∈ sextets l, n < 64 := by
  induction l using sextets.induct with
  | case1 => simp [sextets]
  | case2 x =>
    have hx := x.toNat_lt
    simp only [sextets, List.mem_cons, List.not_mem_nil, or_false]
    omega
  | case3 x y =>
    have hx := x.toNat_lt
    have hy := y.toNat_lt
    simp only [sextets, List.mem_cons, List.not_mem_nil, or_false]
    omega
  | case4 x y z rest ih =>
    have hx := x.toNat_lt
    have hy := y.toNat_lt
    have hz := z.toNat_lt
    intro n hn
    simp only [sextets, List.mem_cons] at hn
    rcases hn with h | h | h | h | h
    · omega
    · omega
    · omega
    · omega
    · exact ih n h

/-- A byte is found by its remainder. -/
theorem toUInt8_eq {x : UInt8} {n : Nat} (h : n % 256 = x.toNat) : n.toUInt8 = x := by
  rw [← UInt8.toNat_inj, Nat.toUInt8_eq, UInt8.toNat_ofNat']
  exact h

theorem octets_sextets (l : List UInt8) : octets (sextets l) = some l := by
  induction l using sextets.induct with
  | case1 => rfl
  | case2 x =>
    have hx := x.toNat_lt
    rw [sextets, octets, toUInt8_eq (show _ % 256 = x.toNat by omega)]
  | case3 x y =>
    have hx := x.toNat_lt
    have hy := y.toNat_lt
    rw [sextets, octets, toUInt8_eq (show _ % 256 = x.toNat by omega),
      toUInt8_eq (show _ % 256 = y.toNat by omega)]
  | case4 x y z rest ih =>
    have hx := x.toNat_lt
    have hy := y.toNat_lt
    have hz := z.toNat_lt
    rw [sextets, octets, ih, toUInt8_eq (show _ % 256 = x.toNat by omega),
      toUInt8_eq (show _ % 256 = y.toNat by omega), toUInt8_eq (show _ % 256 = z.toNat by omega)]
    rfl

/-! ## Symbols -/

def symbol (n : Nat) : UInt8 := a.symbols.getD n 0

def value (c : UInt8) : Option Nat := a.symbols.idxOf? c

theorem symbol_mem {n : Nat} (h : n < 64) : symbol a n ∈ a.symbols := by
  have hn : n < a.symbols.length := by rw [a.length_eq]; exact h
  rw [symbol, List.getD_eq_getElem _ _ hn]
  exact List.getElem_mem hn

theorem value_symbol {n : Nat} (h : n < 64) : value a (symbol a n) = some n := by
  have hn : n < a.symbols.length := by rw [a.length_eq]; exact h
  rw [value, List.idxOf?_eq_some_iff]
  refine ⟨hn, ?_, ?_⟩
  · rw [symbol, List.getD_eq_getElem _ _ hn]
  · intro j hj he
    rw [symbol, List.getD_eq_getElem _ _ hn] at he
    exact absurd ((a.nodup.getElem_inj_iff).mp he) (by omega)

/-! ## Encoding and decoding -/

def encode (l : List UInt8) : List UInt8 := (sextets l).map (symbol a)

def isBreak (c : UInt8) : Bool := c = 10 || c = 13

def decode (t : List UInt8) : Option (List UInt8) :=
  ((t.filter fun c => !isBreak c).mapM (value a)).bind octets

theorem mem_symbols_of_encode {l : List UInt8} {c : UInt8} (h : c ∈ encode a l) :
    c ∈ a.symbols := by
  obtain ⟨n, hn, rfl⟩ := List.mem_map.mp h
  exact symbol_mem a (sextets_lt l n hn)

theorem isBreak_of_mem {c : UInt8} (h : c ∈ a.symbols) : isBreak c = false := by
  simp only [isBreak, Bool.or_eq_false_iff, decide_eq_false_iff_not]
  constructor
  · intro hc
    exact a.lf (hc ▸ h)
  · intro hc
    exact a.cr (hc ▸ h)

theorem mapM_value_map {ns : List Nat} (h : ∀ n ∈ ns, n < 64) :
    (ns.map (symbol a)).mapM (value a) = some ns := by
  induction ns with
  | nil => rfl
  | cons n ns ih =>
    rw [List.map_cons, List.mapM_cons, value_symbol a (h n (by simp)),
      ih fun m hm => h m (by simp [hm])]
    rfl

@[simp] theorem decode_encode (l : List UInt8) : decode a (encode a l) = some l := by
  rw [decode, List.filter_eq_self.mpr, encode, mapM_value_map a (sextets_lt l)]
  · exact octets_sextets l
  · intro c hc
    rw [isBreak_of_mem a (mem_symbols_of_encode a hc)]
    rfl

theorem mem_of_mapM {t : List UInt8} {ns : List Nat} (h : t.mapM (value a) = some ns) :
    ∀ c ∈ t, c ∈ a.symbols := by
  induction t generalizing ns with
  | nil => simp
  | cons d t ih =>
    rw [List.mapM_cons] at h
    obtain ⟨n, hn, h⟩ := Option.bind_eq_some_iff.mp h
    obtain ⟨ms, hms, -⟩ := Option.bind_eq_some_iff.mp h
    intro c hc
    rcases List.mem_cons.mp hc with rfl | hc
    · exact List.isSome_idxOf?.mp (Option.isSome_of_eq_some hn)
    · exact ih hms c hc

/-- A text that can be decoded has only symbols and line breaks. -/
theorem mem_of_decode {t l : List UInt8} (h : decode a t = some l) {c : UInt8} (hc : c ∈ t) :
    c ∈ a.symbols ∨ isBreak c = true := by
  cases hb : isBreak c with
  | true => exact .inr rfl
  | false =>
    obtain ⟨ns, hns, -⟩ := Option.bind_eq_some_iff.mp h
    exact .inl (mem_of_mapM a hns c (List.mem_filter.mpr ⟨hc, by rw [hb]; rfl⟩))

/-! ## Padding -/

/-- `encode` with the last group of four filled up with the sign `=`. -/
def encodePadded (l : List UInt8) : List UInt8 :=
  encode a l ++ List.replicate ((3 - l.length % 3) % 3) 61

/-- `decode` of whole groups, the last of which may end in one or two signs `=`. -/
def decodePadded (t : List UInt8) : Option (List UInt8) :=
  let s := t.filter fun c => !isBreak c
  let padding := (s.reverse.takeWhile fun c => c = 61).length
  if s.length % 4 ≠ 0 ∨ 2 < padding then none
  else ((s.take (s.length - padding)).mapM (value a)).bind octets

theorem length_sextets (l : List UInt8) :
    ((sextets l).length + (3 - l.length % 3) % 3) % 4 = 0 := by
  fun_induction sextets l with
  | case1 => rfl
  | case2 => simp
  | case3 => simp
  | case4 x y z rest ih =>
    simp only [List.length_cons]
    omega

theorem takeWhile_padding {l : List UInt8} (h : 61 ∉ l) (k : Nat) :
    ((l ++ List.replicate k 61).reverse.takeWhile fun c => c = 61).length = k := by
  rw [List.reverse_append, List.reverse_replicate, List.takeWhile_append_of_pos (by simp)]
  have hnil : l.reverse.takeWhile (fun c => decide (c = 61)) = [] := by
    cases hr : l.reverse with
    | nil => rfl
    | cons c t =>
      have hc : c ≠ 61 := by
        rintro rfl
        exact h (List.mem_reverse.mp (hr ▸ List.mem_cons_self))
      rw [List.takeWhile_cons_of_neg (by simpa using hc)]
  rw [hnil, List.append_nil, List.length_replicate]

theorem decodePadded_encodePadded (h61 : 61 ∉ a.symbols) (l : List UInt8) :
    decodePadded a (encodePadded a l) = some l := by
  have hmem : 61 ∉ encode a l := fun h => h61 (mem_symbols_of_encode a h)
  have hfilter : (encodePadded a l).filter (fun c => !isBreak c) = encodePadded a l := by
    rw [List.filter_eq_self]
    intro c hc
    rcases List.mem_append.mp hc with hc | hc
    · rw [isBreak_of_mem a (mem_symbols_of_encode a hc)]
      rfl
    · rw [List.eq_of_mem_replicate hc]
      rfl
  have hlen := length_sextets l
  rw [decodePadded, hfilter, encodePadded, takeWhile_padding hmem, if_neg, List.length_append, List.length_replicate,
    Nat.add_sub_cancel, List.take_left, encode, mapM_value_map a (sextets_lt l)]
  · exact octets_sextets l
  · rw [List.length_append, List.length_replicate, encode, List.length_map]
    omega

end MeetingSystem.Framework.Base64
