import MeetingSystem.Impl.Client.H264RtpPayload

/-!
# The NAL units of a frame

`splitAnnexBNalus` cuts a frame at its start codes, of three or four bytes and
with trailing zero bytes in between, and the assembler writes the units back
with four-byte codes (`annexB`). The units a frame is cut into are `Separable`
(`splitAnnexBNalus_separable`), and separable units written back are cut at
exactly the codes that were written (`splitAnnexBNalus_annexB`).
-/

namespace MeetingSystem.Proof.Client

open MeetingSystem.Impl.Client

/-- The units with a four-byte start code before each. -/
def annexB (nalus : List (List UInt8)) : List UInt8 :=
  nalus.flatMap fun nalu => [0x00, 0x00, 0x00, 0x01] ++ nalu

@[simp] theorem annexB_nil : annexB [] = [] := rfl

theorem annexB_cons (nalu : List UInt8) (nalus : List (List UInt8)) :
    annexB (nalu :: nalus) = 0x00 :: 0x00 :: 0x00 :: 0x01 :: (nalu ++ annexB nalus) := rfl

/-! ## Start codes -/

theorem findStartCode_annexB (nalu : List UInt8) (nalus : List (List UInt8)) :
    findStartCode (annexB (nalu :: nalus)) = some (0, 4) := by
  rw [annexB_cons, findStartCode]
  simp

/-- No start code begins at the first byte, so the search goes on behind it. -/
theorem findStartCode_cons {a : UInt8} {l : List UInt8} {i k : Nat}
    (h : findStartCode (a :: l) = some (i + 1, k)) : findStartCode l = some (i, k) := by
  match l with
  | [] | [_] | [_, _] => simp [findStartCode] at h
  | b :: c :: d :: rest =>
    rw [findStartCode] at h
    split at h
    · simp at h
    split at h
    · simp at h
    · obtain ⟨⟨i', k'⟩, h', e⟩ := Option.map_eq_some_iff.mp h
      simp only [Prod.mk.injEq, Nat.add_right_cancel_iff] at e
      obtain ⟨rfl, rfl⟩ := e
      exact h'

/-- A code that begins at the first byte has the pattern there. -/
theorem findStartCode_head {a b c d : UInt8} {rest : List UInt8} {i k : Nat}
    (h : findStartCode (a :: b :: c :: d :: rest) = some (i + 1, k)) :
    ¬ (a = 0 ∧ b = 0 ∧ c = 1) ∧ ¬ (a = 0 ∧ b = 0 ∧ c = 0 ∧ d = 1) := by
  rw [findStartCode] at h
  split at h
  · simp at h
  split at h
  · simp at h
  · rename_i h3 h4
    exact ⟨h3, h4⟩

theorem findStartCode_step {a b c d : UInt8} {rest : List UInt8}
    (h : ¬ (a = 0 ∧ b = 0 ∧ c = 1) ∧ ¬ (a = 0 ∧ b = 0 ∧ c = 0 ∧ d = 1)) :
    findStartCode (a :: b :: c :: d :: rest) =
      (findStartCode (b :: c :: d :: rest)).map fun r => (r.1 + 1, r.2) := by
  rw [findStartCode, if_neg h.1, if_neg h.2]

/-- A unit that ended at a start code has none of its own. -/
theorem findStartCode_none_of_ends {n t : List UInt8} {k : Nat}
    (h : findStartCode (n ++ t) = some (n.length, k)) : findStartCode n = none := by
  induction n with
  | nil => rfl
  | cons a n ih =>
    have hn := ih (findStartCode_cons h)
    obtain _ | ⟨b, _ | ⟨c, _ | ⟨d, n⟩⟩⟩ := n
    · rfl
    · rfl
    · rfl
    · rw [findStartCode_step (findStartCode_head h), hn]
      rfl

/-- A unit that ended at a start code ends at a four-byte code put in its
place. -/
theorem findStartCode_ends {n t : List UInt8} {k : Nat}
    (h : findStartCode (n ++ t) = some (n.length, k)) (r : List UInt8) :
    findStartCode (n ++ 0 :: 0 :: 0 :: 1 :: r) = some (n.length, 4) := by
  induction n with
  | nil => rw [List.nil_append, findStartCode]; simp
  | cons a n ih =>
    have hn := ih (findStartCode_cons h)
    obtain _ | ⟨b, _ | ⟨c, _ | ⟨d, n⟩⟩⟩ := n
    · rw [List.cons_append, List.nil_append, findStartCode_step (by simp)]
      rw [List.nil_append] at hn
      rw [hn]
      rfl
    · simp only [List.cons_append, List.nil_append] at hn ⊢
      rw [findStartCode_step (by simp), hn]
      rfl
    · simp only [List.cons_append, List.nil_append] at h hn ⊢
      have ht : t ≠ [] := by
        rintro rfl
        simp [findStartCode] at h
      obtain ⟨d, t, rfl⟩ := List.exists_cons_of_ne_nil ht
      rw [findStartCode_step ⟨(findStartCode_head h).1, by simp⟩, hn]
      rfl
    · simp only [List.cons_append] at h hn ⊢
      rw [findStartCode_step (findStartCode_head h), hn]
      rfl

theorem findStartCode_take {l : List UInt8} {i k : Nat} (h : findStartCode l = some (i, k)) :
    findStartCode (l.take i ++ l.drop i) = some ((l.take i).length, k) := by
  have := (findStartCode_bound h).2
  rw [List.take_append_drop, List.length_take, Nat.min_eq_left (by omega), h]

/-! ## Units that are found again -/

/-- Units that can be told apart when they are written one after another: none
is empty, the last has no start code, and each of the others ends where the
next four-byte code begins. -/
def Separable : List (List UInt8) → Prop
  | [] => True
  | [nalu] => nalu ≠ [] ∧ findStartCode nalu = none
  | nalu :: nalus => nalu ≠ [] ∧
      (∀ r, findStartCode (nalu ++ 0 :: 0 :: 0 :: 1 :: r) = some (nalu.length, 4)) ∧
      Separable nalus

theorem Separable.cons {n t : List UInt8} {k : Nat} {nalus : List (List UInt8)} (hne : n ≠ [])
    (h : findStartCode (n ++ t) = some (n.length, k)) (hs : Separable nalus) :
    Separable (n :: nalus) := by
  cases nalus with
  | nil => exact ⟨hne, findStartCode_none_of_ends h⟩
  | cons m nalus => exact ⟨hne, findStartCode_ends h, hs⟩

theorem Separable.ne_nil {nalus : List (List UInt8)} (h : Separable nalus) :
    ∀ n ∈ nalus, n ≠ [] := by
  induction nalus with
  | nil => simp
  | cons n nalus ih =>
    cases nalus with
    | nil =>
      intro m hm
      rw [List.mem_singleton.mp hm]
      exact h.1
    | cons n' nalus =>
      intro m hm
      rcases List.mem_cons.mp hm with rfl | hm
      · exact h.1
      · exact ih h.2.2 m hm

theorem nalusFrom_none {bytes : List UInt8} (h : findStartCode bytes = none) :
    nalusFrom bytes = if bytes.length > 0 then [bytes] else [] := by
  rw [nalusFrom]
  split
  · rfl
  · rename_i h'
    rw [h] at h'
    cases h'

theorem nalusFrom_some {bytes : List UInt8} {i k : Nat} (h : findStartCode bytes = some (i, k)) :
    nalusFrom bytes =
      if i > 0 then bytes.take i :: nalusFrom (bytes.drop (i + k))
      else nalusFrom (bytes.drop (i + k)) := by
  rw [nalusFrom]
  split
  · rename_i h'
    rw [h] at h'
    cases h'
  · rename_i h'
    rw [h, Option.some.injEq, Prod.mk.injEq] at h'
    obtain ⟨rfl, rfl⟩ := h'
    rfl

theorem nalusFrom_separable (bytes : List UInt8) : Separable (nalusFrom bytes) := by
  induction hl : bytes.length using Nat.strongRecOn generalizing bytes with
  | _ l ih =>
    cases h : findStartCode bytes with
    | none =>
      rw [nalusFrom_none h]
      split
      · rename_i hpos
        exact ⟨List.ne_nil_of_length_pos hpos, h⟩
      · trivial
    | some r =>
      obtain ⟨i, k⟩ := r
      have hb := findStartCode_bound h
      have hrest : Separable (nalusFrom (bytes.drop (i + k))) :=
        ih _ (by rw [List.length_drop]; omega) _ rfl
      rw [nalusFrom_some h]
      split
      · have hne : bytes.take i ≠ [] := List.ne_nil_of_length_pos (by rw [List.length_take]; omega)
        exact .cons hne (findStartCode_take h) hrest
      · exact hrest

theorem splitAnnexBNalus_separable (frame : List UInt8) : Separable (splitAnnexBNalus frame) := by
  unfold splitAnnexBNalus
  split
  · trivial
  · rename_i hne
    split
    · rename_i h
      exact ⟨hne, h⟩
    · exact nalusFrom_separable _

/-- Written one after another, separable units are found again. -/
theorem nalusFrom_annexB {nalu : List UInt8} {nalus : List (List UInt8)}
    (h : Separable (nalu :: nalus)) : nalusFrom (nalu ++ annexB nalus) = nalu :: nalus := by
  induction nalus generalizing nalu with
  | nil =>
    rw [annexB_nil, List.append_nil, nalusFrom_none h.2, if_pos (List.length_pos_of_ne_nil h.1)]
  | cons m nalus ih =>
    have hcode := h.2.1 (m ++ annexB nalus)
    rw [annexB_cons, nalusFrom_some hcode, if_pos (List.length_pos_of_ne_nil h.1),
      List.take_left, List.drop_length_add_append]
    exact congrArg (nalu :: ·) (ih h.2.2)

/-- Cutting a frame, writing the units back and cutting again gives the same
units. -/
theorem splitAnnexBNalus_annexB {nalus : List (List UInt8)} (h : Separable nalus) :
    splitAnnexBNalus (annexB nalus) = nalus := by
  cases nalus with
  | nil => rfl
  | cons nalu nalus =>
    unfold splitAnnexBNalus
    rw [if_neg (by simp [annexB_cons]), findStartCode_annexB]
    exact nalusFrom_annexB h

end MeetingSystem.Proof.Client
