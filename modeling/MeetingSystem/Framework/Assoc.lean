import Mathlib.Data.List.AList

/-!
# Association lists as finite maps

What `AList` lacks for code that changes a value in place (`replace`), takes
an entry out again (`erase_insert_self`) or counts its keys.

A hash table that the code iterates is an association list, whose order is the
order of the iteration. `emplace` puts a new entry at a place the caller
chooses and `toFront` moves one, so that every order can be reached; `assign`
is `table[a] = b` and `retain` the loop that erases what fails a test. Each
comes with its effect on `lookup`.

`Holds` relates a map to the list of what it has entries for, whatever the
order of the iteration.
-/

namespace MeetingSystem.Framework

open List

variable {α β : Type*} [DecidableEq α]

theorem kreplace_cons_eq (a : α) (b v : β) (l : List (Sigma fun _ : α => β)) :
    kreplace a b (⟨a, v⟩ :: l) = ⟨a, b⟩ :: l :=
  lookmap_cons_some _ _ (by simp)

theorem kreplace_cons_ne {a k : α} (b v : β) (l : List (Sigma fun _ : α => β)) (h : a ≠ k) :
    kreplace a b (⟨k, v⟩ :: l) = ⟨k, v⟩ :: kreplace a b l :=
  lookmap_cons_none _ _ (by simp [h])

theorem dlookup_kreplace_self (a : α) (b : β) (l : List (Sigma fun _ : α => β))
    (h : a ∈ l.keys) : dlookup a (kreplace a b l) = some b := by
  induction l with
  | nil => simp at h
  | cons x l ih =>
    obtain ⟨k, v⟩ := x
    by_cases hk : a = k
    · subst hk
      rw [kreplace_cons_eq]
      exact dlookup_cons_eq (β := fun _ => β) l a b
    · have hl : a ∈ l.keys := by simpa [hk] using h
      rw [kreplace_cons_ne b v l hk]
      exact (dlookup_cons_ne (β := fun _ => β) _ ⟨k, v⟩ hk).trans (ih hl)

theorem dlookup_kreplace_ne {a a' : α} (b : β) (l : List (Sigma fun _ : α => β))
    (h : a' ≠ a) : dlookup a' (kreplace a b l) = dlookup a' l := by
  induction l with
  | nil => rfl
  | cons x l ih =>
    obtain ⟨k, v⟩ := x
    by_cases hk : a = k
    · subst hk
      rw [kreplace_cons_eq]
      exact (dlookup_cons_ne (β := fun _ => β) l ⟨a, b⟩ h).trans
        (dlookup_cons_ne (β := fun _ => β) l ⟨a, v⟩ h).symm
    · rw [kreplace_cons_ne b v l hk]
      by_cases hk' : a' = k
      · subst hk'
        exact (dlookup_cons_eq (β := fun _ => β) _ a' v).trans
          (dlookup_cons_eq (β := fun _ => β) l a' v).symm
      · exact ((dlookup_cons_ne (β := fun _ => β) _ ⟨k, v⟩ hk').trans ih).trans
          (dlookup_cons_ne (β := fun _ => β) l ⟨k, v⟩ hk').symm

@[simp] theorem lookup_replace_self {a : α} (b : β) {s : AList fun _ : α => β} (h : a ∈ s) :
    (s.replace a b).lookup a = some b :=
  dlookup_kreplace_self a b s.entries h

@[simp] theorem lookup_replace_ne {a a' : α} (b : β) (s : AList fun _ : α => β) (h : a' ≠ a) :
    (s.replace a b).lookup a' = s.lookup a' :=
  dlookup_kreplace_ne b s.entries h

/-- The first entry that passes a test, after a value has been changed that
passes as it did. -/
theorem find?_kreplace {l : List (Sigma fun _ : α => β)} (hl : l.NodupKeys) {a : α} {b v : β}
    (hv : ⟨a, v⟩ ∈ l) {p : β → Bool} (hp : p b = p v) :
    (kreplace a b l).find? (fun x => p x.2) =
      (l.find? fun x => p x.2).map fun x => if x.1 = a then ⟨a, b⟩ else x := by
  induction l with
  | nil => rfl
  | cons x l ih =>
    obtain ⟨k, w⟩ := x
    obtain ⟨hk, hl⟩ := nodupKeys_cons.mp hl
    by_cases ha : a = k
    · subst ha
      have hw : w = v := by
        rcases mem_cons.mp hv with h | h
        · simpa using h.symm
        · exact absurd (mem_keys_of_mem h) hk
      subst hw
      rw [kreplace_cons_eq, find?_cons, find?_cons]
      simp only [hp]
      cases p w with
      | true => simp
      | false =>
        cases hfind : l.find? fun x => p x.2 with
        | none => simp
        | some y =>
          have hmem : y.1 ∈ l.keys := mem_keys_of_mem (mem_of_find?_eq_some hfind)
          have hy : y.1 ≠ a := by
            rintro rfl
            exact hk hmem
          simp [hy]
    · have hv' : ⟨a, v⟩ ∈ l := by simpa [ha] using hv
      rw [kreplace_cons_ne b w l ha, find?_cons, find?_cons]
      cases p w with
      | true => simp [Ne.symm ha]
      | false => exact ih hl hv'
/-- Taking out an entry that has just been added. -/
theorem erase_insert_self {a : α} (b : β) {s : AList fun _ : α => β} (h : a ∉ s) :
    (s.insert a b).erase a = s := by
  apply AList.ext
  rw [AList.insert_of_notMem h]
  exact kerase_cons_eq rfl

theorem mem_of_lookup {a : α} {b : β} {s : AList fun _ : α => β} (h : s.lookup a = some b) :
    a ∈ s :=
  AList.lookup_isSome.mp (by rw [h]; rfl)

theorem lookup_of_mem {a : α} {s : AList fun _ : α => β} (h : a ∈ s) : ∃ b, s.lookup a = some b :=
  Option.isSome_iff_exists.mp (AList.lookup_isSome.mpr h)

theorem length_keys_insert {a : α} (b : β) {s : AList fun _ : α => β} (h : a ∉ s) :
    (s.insert a b).keys.length = s.keys.length + 1 := by
  rw [AList.keys_insert, erase_of_not_mem h, length_cons]

theorem length_keys_insert_of_mem {a : α} (b : β) {s : AList fun _ : α => β} (h : a ∈ s) :
    (s.insert a b).keys.length = s.keys.length := by
  have hpos := length_pos_of_mem (AList.mem_keys.mp h)
  rw [AList.keys_insert, length_cons, length_erase_of_mem (AList.mem_keys.mp h)]
  omega

theorem length_keys_erase {a : α} {s : AList fun _ : α => β} (h : a ∈ s) :
    (s.erase a).keys.length = s.keys.length - 1 := by
  rw [AList.keys_erase, length_erase_of_mem (AList.mem_keys.mp h)]

theorem length_keys_erase_le (a : α) (s : AList fun _ : α => β) :
    (s.erase a).keys.length ≤ s.keys.length := by
  rw [AList.keys_erase]
  exact length_erase_le

theorem lookup_of_erase {a a' : α} {b : β} {s : AList fun _ : α => β}
    (h : (s.erase a).lookup a' = some b) : a' ≠ a ∧ s.lookup a' = some b := by
  by_cases ha : a' = a
  · rw [ha, AList.lookup_erase] at h
    cases h
  · rw [AList.lookup_erase_ne ha] at h
    exact ⟨ha, h⟩

/-! ## Hash tables with an iteration order -/

theorem mem_entries {a : α} {b : β} {s : AList fun _ : α => β} :
    (⟨a, b⟩ : Sigma fun _ : α => β) ∈ s.entries ↔ s.lookup a = some b :=
  AList.mem_lookup_iff.symm

/-- An entry is replaced by itself. -/
theorem replace_self {a : α} {b : β} {s : AList fun _ : α => β} (h : s.lookup a = some b) :
    s.replace a b = s :=
  AList.ext (kreplace_self s.nodupKeys (mem_entries.mpr h))

omit [DecidableEq α] in
theorem nodupKeys_emplace (i : Nat) {a : α} (b : β) {l : List (Sigma fun _ : α => β)}
    (hl : l.NodupKeys) (ha : a ∉ l.keys) : (l.take i ++ ⟨a, b⟩ :: l.drop i).NodupKeys := by
  have hperm : (l.take i ++ ⟨a, b⟩ :: l.drop i).Perm (⟨a, b⟩ :: l) := by
    refine perm_middle.trans ?_
    rw [take_append_drop]
  exact (perm_nodupKeys hperm).mpr (nodupKeys_cons.mpr ⟨ha, hl⟩)

/-- Add a new entry, at place `i` of the iteration order; an entry that is
there stays. -/
def emplace (i : Nat) (a : α) (b : β) (s : AList fun _ : α => β) : AList fun _ : α => β :=
  if h : a ∈ s then s
  else ⟨s.entries.take i ++ ⟨a, b⟩ :: s.entries.drop i, nodupKeys_emplace i b s.nodupKeys h⟩

/-- `s[a] = b`: in place, or as a new entry at place `i`. -/
def assign (i : Nat) (a : α) (b : β) (s : AList fun _ : α => β) : AList fun _ : α => β :=
  if a ∈ s then s.replace a b else emplace i a b s

/-- Make the entry of `a`, if there is one, the first of the iteration. -/
def toFront (a : α) (s : AList fun _ : α => β) : AList fun _ : α => β :=
  match s.lookup a with
  | none => s
  | some b => s.insert a b

/-- Keep the entries that pass `p`. -/
def retain (p : α → β → Bool) (s : AList fun _ : α => β) : AList fun _ : α => β :=
  ⟨s.entries.filter fun x => p x.1 x.2, s.nodupKeys.sublist filter_sublist⟩

/-- Change the values, or take an entry out. -/
def filterMapValues (f : α → β → Option β) (s : AList fun _ : α => β) : AList fun _ : α => β :=
  ⟨s.entries.filterMap fun x => (f x.1 x.2).map fun b => ⟨x.1, b⟩, by
    have hkeys : ∀ l : List (Sigma fun _ : α => β), List.Sublist
        (l.filterMap fun x => (f x.1 x.2).map fun b => (⟨x.1, b⟩ : Sigma fun _ : α => β)).keys
        l.keys := by
      intro l
      induction l with
      | nil => exact .refl _
      | cons x l ih =>
        cases h : f x.1 x.2 with
        | none =>
          rw [filterMap_cons_none (by rw [h]; rfl)]
          exact ih.cons _
        | some b =>
          rw [filterMap_cons_some (by rw [h]; rfl)]
          exact ih.cons_cons _
    exact Nodup.sublist (hkeys s.entries) s.nodupKeys⟩

theorem lookup_emplace {i : Nat} {a : α} {b : β} {s : AList fun _ : α => β} (h : a ∉ s) (a' : α) :
    (emplace i a b s).lookup a' = if a' = a then some b else s.lookup a' := by
  apply Option.ext
  intro v
  have hmem : (⟨a', v⟩ : Sigma fun _ : α => β) ∈ (emplace i a b s).entries ↔
      (a' = a ∧ v = b) ∨ s.lookup a' = some v := by
    have hs : (⟨a', v⟩ : Sigma fun _ : α => β) ∈ s.entries ↔
        ⟨a', v⟩ ∈ s.entries.take i ∨ ⟨a', v⟩ ∈ s.entries.drop i := by
      rw [← mem_append, take_append_drop]
    simp only [emplace, dif_neg h, mem_append, mem_cons, Sigma.mk.injEq, heq_eq_eq, ← mem_entries,
      hs]
    tauto
  rw [← mem_entries, hmem]
  by_cases ha : a' = a
  · subst ha
    have hn : s.lookup a' = none := AList.lookup_eq_none.mpr h
    simp [hn, eq_comm]
  · simp [ha]

theorem lookup_assign (i : Nat) (a : α) (b : β) (s : AList fun _ : α => β) (a' : α) :
    (assign i a b s).lookup a' = if a' = a then some b else s.lookup a' := by
  by_cases h : a ∈ s
  · rw [assign, if_pos h]
    split
    · rename_i ha
      rw [ha, lookup_replace_self b h]
    · rename_i ha
      exact lookup_replace_ne b s ha
  · rw [assign, if_neg h, lookup_emplace h]

@[simp] theorem lookup_toFront (a : α) (s : AList fun _ : α => β) (a' : α) :
    (toFront a s).lookup a' = s.lookup a' := by
  unfold toFront
  split
  · rfl
  · rename_i b hb
    by_cases ha : a' = a
    · rw [ha, AList.lookup_insert, hb]
    · rw [AList.lookup_insert_ne ha]

theorem entries_toFront_perm (a : α) (s : AList fun _ : α => β) :
    (toFront a s).entries.Perm s.entries := by
  unfold toFront
  split
  · exact .refl _
  · rename_i b hb
    obtain ⟨b', l₁, l₂, -, hsplit, hkerase⟩ := exists_of_kerase (mem_of_lookup hb)
    have hb' : s.lookup a = some b' := by
      rw [← mem_entries, hsplit]
      simp
    obtain rfl := Option.some.inj (hb.symm.trans hb')
    rw [AList.entries_insert, hkerase, hsplit]
    exact perm_middle.symm

theorem lookup_retain {p : α → β → Bool} {s : AList fun _ : α => β} {a : α} {b : β} :
    (retain p s).lookup a = some b ↔ s.lookup a = some b ∧ p a b = true := by
  rw [← mem_entries, ← mem_entries]
  exact mem_filter

omit [DecidableEq α] in
theorem length_keys_retain_le (p : α → β → Bool) (s : AList fun _ : α => β) :
    (retain p s).keys.length ≤ s.keys.length := by
  show List.length (List.map _ _) ≤ List.length (List.map _ _)
  rw [length_map, length_map]
  exact length_filter_le _ _

omit [DecidableEq α] in
/-- If none is taken out, all stay as they are. -/
theorem retain_eq_self {p : α → β → Bool} {s : AList fun _ : α => β}
    (h : s.keys.length ≤ (retain p s).keys.length) : retain p s = s := by
  have hlength : s.entries.length ≤ (retain p s).entries.length := by
    simpa only [AList.keys, keys, length_map] using h
  exact AList.ext (filter_sublist.eq_of_length_le hlength)

theorem lookup_filterMapValues {f : α → β → Option β} {s : AList fun _ : α => β} {a : α} :
    (filterMapValues f s).lookup a = (s.lookup a).bind (f a) := by
  apply Option.ext
  intro b
  rw [← mem_entries, Option.bind_eq_some_iff]
  simp only [← mem_entries]
  show (⟨a, b⟩ : Sigma fun _ : α => β) ∈ s.entries.filterMap _ ↔ _
  rw [mem_filterMap]
  constructor
  · intro ⟨⟨k, v⟩, hmem, heq⟩
    obtain ⟨w, hw, hsigma⟩ := Option.map_eq_some_iff.mp heq
    cases hsigma
    exact ⟨v, hmem, hw⟩
  · intro ⟨v, hmem, hv⟩
    exact ⟨⟨a, v⟩, hmem, by rw [hv]; rfl⟩

omit [DecidableEq α] in
theorem length_keys_filterMapValues_le (f : α → β → Option β) (s : AList fun _ : α => β) :
    (filterMapValues f s).keys.length ≤ s.keys.length := by
  show List.length (List.map _ _) ≤ List.length (List.map _ _)
  rw [length_map, length_map]
  exact length_filterMap_le _ _

theorem length_keys_emplace {i : Nat} {a : α} {b : β} {s : AList fun _ : α => β} (h : a ∉ s) :
    (emplace i a b s).keys.length = s.keys.length + 1 := by
  have hsplit := congrArg length (take_append_drop i s.entries)
  rw [length_append] at hsplit
  rw [emplace, dif_neg h]
  simp only [AList.keys, keys, length_map, length_append, length_cons]
  omega

theorem length_keys_assign (i : Nat) (a : α) (b : β) (s : AList fun _ : α => β) :
    (assign i a b s).keys.length = s.keys.length + if a ∈ s then 0 else 1 := by
  by_cases h : a ∈ s
  · rw [assign, if_pos h, if_pos h, AList.keys_replace, Nat.add_zero]
  · rw [assign, if_neg h, if_neg h, length_keys_emplace h]

@[simp] theorem length_keys_toFront (a : α) (s : AList fun _ : α => β) :
    (toFront a s).keys.length = s.keys.length := by
  unfold toFront
  split
  · rfl
  · rename_i b hb
    exact length_keys_insert_of_mem b (mem_of_lookup hb)

/-- Take the first entry of the iteration out. -/
def eraseBegin (s : AList fun _ : α => β) : AList fun _ : α => β :=
  match s.entries with
  | [] => s
  | x :: _ => s.erase x.1

theorem length_keys_eraseBegin (s : AList fun _ : α => β) :
    (eraseBegin s).keys.length = s.keys.length - 1 := by
  unfold eraseBegin
  split
  · rename_i h
    simp [AList.keys, keys, h]
  · rename_i x l h
    exact length_keys_erase (AList.mem_keys.mpr (by rw [AList.keys, h]; simp))

theorem lookup_of_lookup_eraseBegin {a : α} {b : β} {s : AList fun _ : α => β}
    (h : (eraseBegin s).lookup a = some b) : s.lookup a = some b := by
  unfold eraseBegin at h
  split at h
  · exact h
  · exact (lookup_of_erase h).2

/-! ## Counting entries -/

/-- The number of entries whose value passes `q`. -/
def countValues (q : β → Bool) (s : AList fun _ : α => β) : Nat :=
  s.entries.countP fun x => q x.2

/-- Taking an entry out takes it out of the count. -/
theorem countValues_erase (q : β → Bool) (a : α) (s : AList fun _ : α => β) :
    countValues q (s.erase a) + (if (s.lookup a).any q then 1 else 0) = countValues q s := by
  obtain ⟨l, hl⟩ := s
  show countP _ (kerase a l) + (if (dlookup a l).any q = true then 1 else 0) = countP _ l
  induction l with
  | nil => rfl
  | cons x l ih =>
    obtain ⟨k, v⟩ := x
    obtain ⟨hk, hl⟩ := nodupKeys_cons.mp hl
    by_cases ha : a = k
    · subst ha
      have hlookup : dlookup a (⟨a, v⟩ :: l) = some v := dlookup_cons_eq (β := fun _ => β) l a v
      have herase : kerase a (⟨a, v⟩ :: l) = l := kerase_cons_eq rfl
      rw [hlookup, herase, countP_cons]
      rfl
    · have hlookup : dlookup a (⟨k, v⟩ :: l) = dlookup a l :=
        dlookup_cons_ne (β := fun _ => β) l ⟨k, v⟩ ha
      have herase : kerase a (⟨k, v⟩ :: l) = ⟨k, v⟩ :: kerase a l := kerase_cons_ne ha
      rw [hlookup, herase, countP_cons, countP_cons, ← ih hl]
      omega

theorem countValues_insert (q : β → Bool) (a : α) (b : β) (s : AList fun _ : α => β) :
    countValues q (s.insert a b) = countValues q (s.erase a) + (if q b then 1 else 0) := by
  rw [countValues, AList.entries_insert, countP_cons]
  rfl

/-! ## Maps given by a list -/

section Holds

variable {γ : Type*} {key : γ → α} {val val' : γ → β} {l : List γ} {s : AList fun _ : α => β}

/-- The map has the value `val x` under `key x` for every `x` of a list, and no
other entries. -/
def Holds (key : γ → α) (val : γ → β) (l : List γ) (s : AList fun _ : α => β) : Prop :=
  s.entries.Perm (l.map fun x => ⟨key x, val x⟩)

omit [DecidableEq α] in
theorem Holds.congr (h : Holds key val l s) (hval : ∀ x ∈ l, val x = val' x) :
    Holds key val' l s := by
  have hmap : (l.map fun x => (⟨key x, val x⟩ : Sigma fun _ : α => β)) =
      l.map fun x => ⟨key x, val' x⟩ :=
    map_congr_left fun x hx => by rw [hval x hx]
  rw [Holds, ← hmap]
  exact h

omit [DecidableEq α] in
theorem Holds.length_keys (h : Holds key val l s) : s.keys.length = l.length := by
  rw [AList.keys, keys, length_map, h.length_eq, length_map]

omit [DecidableEq α] in
theorem Holds.mem (h : Holds key val l s) (hkey : Function.Injective key) {x : γ} :
    key x ∈ s ↔ x ∈ l := by
  have hkeys : s.keys.Perm (l.map key) := by
    simpa [AList.keys, keys, Function.comp_def] using h.map Sigma.fst
  exact hkeys.mem_iff.trans (mem_map_of_injective hkey)

theorem Holds.lookup (h : Holds key val l s) {x : γ} (hx : x ∈ l) :
    s.lookup (key x) = some (val x) := by
  rw [← mem_entries, h.mem_iff]
  exact mem_map_of_mem (f := fun x => (⟨key x, val x⟩ : Sigma fun _ : α => β)) hx

theorem Holds.insert (h : Holds key val l s) {x : γ} (hx : key x ∉ s) :
    Holds key val (l ++ [x]) (s.insert (key x) (val x)) := by
  rw [Holds, AList.entries_insert_of_notMem hx, map_append]
  exact (h.cons _).trans (perm_append_singleton _ _).symm

theorem Holds.erase [DecidableEq γ] (h : Holds key val l s) (hkey : Function.Injective key)
    (x : γ) : Holds key val (l.erase x) (s.erase (key x)) := by
  have hmap : ∀ l : List γ, kerase (key x) (l.map fun y => (⟨key y, val y⟩ : Sigma fun _ => β)) =
      (l.erase x).map fun y => ⟨key y, val y⟩ := by
    intro l
    induction l with
    | nil => rfl
    | cons y l ih =>
      by_cases hy : y = x
      · subst hy
        rw [map_cons, erase_cons_head]
        exact kerase_cons_eq rfl
      · have hne : key x ≠ key y := fun e => hy (hkey e).symm
        rw [map_cons, erase_cons_tail (by simpa using hy), map_cons, ← ih]
        exact kerase_cons_ne hne
  rw [Holds, ← hmap]
  exact h.kerase s.nodupKeys

theorem Holds.replace {x : γ} (h : Holds key val (x :: l) s) (hval : ∀ y ∈ l, val y = val' y) :
    Holds key val' (x :: l) (s.replace (key x) (val' x)) := by
  have hmap : (l.map fun y => (⟨key y, val y⟩ : Sigma fun _ : α => β)) =
      l.map fun y => ⟨key y, val' y⟩ :=
    map_congr_left fun y hy => by rw [hval y hy]
  have hperm := h.kreplace (a := key x) (b := val' x) s.nodupKeys
  rw [map_cons, kreplace_cons_eq, hmap] at hperm
  exact hperm

end Holds

/-- A map that a list of entries with distinct keys has been inserted into. -/
theorem lookup_foldl_insert {entries : List (α × β)} (h : (entries.map Prod.fst).Nodup)
    (m : AList fun _ : α => β) (a : α) (b : β) :
    (entries.foldl (fun m x => m.insert x.1 x.2) m).lookup a = some b ↔
      (a, b) ∈ entries ∨ a ∉ entries.map Prod.fst ∧ m.lookup a = some b := by
  induction entries generalizing m with
  | nil => simp
  | cons x entries ih =>
    obtain ⟨hx, hentries⟩ := List.nodup_cons.mp h
    rw [List.foldl_cons, ih hentries]
    by_cases ha : a = x.1
    · subst ha
      have hnotMem : ∀ b, (x.1, b) ∉ entries := fun b hmem => hx (List.mem_map.mpr ⟨_, hmem, rfl⟩)
      rw [AList.lookup_insert]
      simp [hx, hnotMem, Prod.ext_iff, eq_comm]
    · rw [AList.lookup_insert_ne ha]
      simp [ha, Prod.ext_iff]

end MeetingSystem.Framework
