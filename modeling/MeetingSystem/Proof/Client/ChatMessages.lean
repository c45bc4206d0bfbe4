import Mathlib.Algebra.Order.Group.Multiset
import Mathlib.Data.List.Pairwise
import MeetingSystem.Framework.Run
import MeetingSystem.Impl.Client.ListModels

/-!
# The messages of a meeting, each shown once

`ChatMessageListModel` leaves a record out if its key is that of a row. Keys
are texts: a remote id `5` and a local id 5 of the same meeting give the same
one, so a message can be missing; and `appendMessages` and `prependMessages`
compare a batch with the rows only, so a message that is in it twice is shown
twice. `showsOnce_along_iff`: this is all that can go wrong.
-/

namespace MeetingSystem.Proof.Client

open MeetingSystem.Framework MeetingSystem.Impl.Client
open ChatMessageListModel (insertKey)

/-! ## The property -/

/-- Both records denote the same message. -/
def SameMessage (a b : MessageRecord) : Prop :=
  a.meetingId = b.meetingId ∧
    (trimmed a.remoteMessageId ≠ "" ∧ trimmed a.remoteMessageId = trimmed b.remoteMessageId ∨
      (trimmed a.remoteMessageId = "" ∧ trimmed b.remoteMessageId = "") ∧ 0 < a.id ∧ a.id = b.id)

instance (a b : MessageRecord) : Decidable (SameMessage a b) :=
  inferInstanceAs (Decidable (_ ∧ _))

/-- The records an operation brings. -/
def records : ChatOp → List MessageRecord
  | .clear => []
  | .replaceMessages records | .appendMessages records | .prependMessages records => records
  | .appendMessage record => [record]

/-- The rows that stay. -/
def staying (m : ChatMessageListModel) : ChatOp → List MessageRecord
  | .clear | .replaceMessages _ => []
  | .appendMessages _ | .prependMessages _ | .appendMessage _ => m.messages

/-- What the operation should show and does not. -/
def leftOut (m : ChatMessageListModel) (op : ChatOp) : Multiset MessageRecord :=
  (staying m op ++ records op : List MessageRecord) - (m.step op).messages

/-- No message has two rows, and one that is left out has one. -/
def ShowsOnce (m : ChatMessageListModel) (op : ChatOp) : Prop :=
  (m.step op).messages.Pairwise (fun a b => ¬ SameMessage a b) ∧
    ∀ record ∈ leftOut m op, ∃ row ∈ (m.step op).messages, SameMessage row record

instance (m : ChatMessageListModel) (op : ChatOp) : Decidable (ShowsOnce m op) :=
  inferInstanceAs (Decidable (_ ∧ _))

/-! ## When the keys are enough -/

/-- The rows with the key of a record. -/
def sameKeyRows (m : ChatMessageListModel) (record : MessageRecord) : List MessageRecord :=
  m.messages.filter fun row => stableMessageKey row = stableMessageKey record

/-- The records that are not seen are different messages, and if there are rows
with the key of a record, one of them is of the same message. -/
def BatchTells (m : ChatMessageListModel) (batch : List MessageRecord) : Prop :=
  (m.pending batch).Pairwise (fun a b => ¬ SameMessage a b) ∧
    ∀ record ∈ batch, stableMessageKey record ≠ "" → sameKeyRows m record ≠ [] →
      ∃ row ∈ sameKeyRows m record, SameMessage row record

def KeysTell (m : ChatMessageListModel) : ChatOp → Prop
  | .clear => True
  | .replaceMessages records =>
    ∀ a ∈ records, ∀ b ∈ records, stableMessageKey a ≠ "" →
      stableMessageKey a = stableMessageKey b → SameMessage a b
  | .appendMessages records | .prependMessages records => BatchTells m records
  | .appendMessage record => BatchTells m [record]

/-! ## Messages and keys -/

variable {a b c record : MessageRecord}

theorem key_ne_empty_iff :
    stableMessageKey record ≠ "" ↔ trimmed record.remoteMessageId ≠ "" ∨ 0 < record.id := by
  have hbar : ∀ s t : String, s ++ "|" ++ t ≠ "" := fun s t h =>
    absurd (String.append_eq_empty_iff.mp (String.append_eq_empty_iff.mp h).1).2 (by decide)
  unfold stableMessageKey
  split
  case isTrue hremote => exact iff_of_true (hbar _ _) (.inl hremote)
  case isFalse hremote =>
    split
    case isTrue hid => exact iff_of_true (hbar _ _) (.inr hid)
    case isFalse hid => exact iff_of_false (fun h => h rfl) (not_or_intro hremote hid)

theorem SameMessage.key (h : SameMessage a b) :
    stableMessageKey a = stableMessageKey b ∧ stableMessageKey a ≠ "" := by
  obtain ⟨hmeeting, ⟨hremote, hsame⟩ | ⟨⟨ha, hb⟩, hid, hsame⟩⟩ := h
  · refine ⟨?_, key_ne_empty_iff.mpr (.inl hremote)⟩
    simp [stableMessageKey, ← hsame, hremote, hmeeting]
  · refine ⟨?_, key_ne_empty_iff.mpr (.inr hid)⟩
    simp [stableMessageKey, ha, hb, ← hsame, hmeeting]

/-- A record without a key denotes no message. -/
theorem sameMessage_self (h : stableMessageKey record ≠ "") : SameMessage record record := by
  refine ⟨rfl, ?_⟩
  by_cases hremote : trimmed record.remoteMessageId = ""
  · have hid := (key_ne_empty_iff.mp h).resolve_left (not_not_intro hremote)
    exact .inr ⟨⟨hremote, hremote⟩, hid, rfl⟩
  · exact .inl ⟨hremote, rfl⟩

theorem SameMessage.symm (h : SameMessage a b) : SameMessage b a := by
  obtain ⟨hmeeting, ⟨hremote, hsame⟩ | ⟨⟨ha, hb⟩, hid, hsame⟩⟩ := h
  · exact ⟨hmeeting.symm, .inl ⟨hsame ▸ hremote, hsame.symm⟩⟩
  · exact ⟨hmeeting.symm, .inr ⟨⟨hb, ha⟩, hsame ▸ hid, hsame.symm⟩⟩

theorem SameMessage.trans (h : SameMessage a b) (h' : SameMessage b c) : SameMessage a c := by
  unfold SameMessage at *
  grind

/-! ## The keys of the rows -/

/-- The set has the keys of the rows. -/
def SeenRows (m : ChatMessageListModel) : Prop :=
  ∀ key, key ∈ m.seenMessageKeys ↔ key ≠ "" ∧ ∃ row ∈ m.messages, stableMessageKey row = key

theorem mem_insertKey {keys : Finset String} {key : String} :
    key ∈ insertKey keys record ↔ key ≠ "" ∧ stableMessageKey record = key ∨ key ∈ keys := by
  unfold insertKey
  split
  · rw [Finset.mem_insert]
    grind
  · grind

theorem mem_foldl_insertKey (records : List MessageRecord) {keys : Finset String} {key : String} :
    key ∈ records.foldl insertKey keys ↔
      (key ≠ "" ∧ ∃ record ∈ records, stableMessageKey record = key) ∨ key ∈ keys := by
  induction records generalizing keys with
  | nil => simp
  | cons record records ih =>
    have hhead : (∃ r ∈ records, stableMessageKey r = key) ∨ stableMessageKey record = key ↔
        ∃ r ∈ record :: records, stableMessageKey r = key := by
      rw [List.exists_mem_cons_iff, or_comm]
    rw [List.foldl_cons, ih, mem_insertKey, ← or_assoc, ← and_or_left, hhead]

variable {m : ChatMessageListModel}

theorem SeenRows.seen_iff (h : SeenRows m) :
    m.seen record = true ↔ stableMessageKey record ≠ "" ∧
      ∃ row ∈ m.messages, stableMessageKey row = stableMessageKey record := by
  rw [ChatMessageListModel.seen, decide_eq_true_eq, h]
  exact ⟨And.right, fun hkey => ⟨hkey.1, hkey⟩⟩

theorem seenRows_new : SeenRows .new := by
  simp [SeenRows, ChatMessageListModel.new]

theorem appendMessage_eq (record : MessageRecord) :
    (m.appendMessage record).1 = (m.appendMessages [record]).1 := by
  unfold ChatMessageListModel.appendMessage ChatMessageListModel.appendMessages
    ChatMessageListModel.pending
  split
  case isTrue h => simp [h]
  case isFalse h => simp [h]

theorem seenRows_append (h : SeenRows m) (records : List MessageRecord) :
    SeenRows (m.appendMessages records).1 := by
  intro key
  show key ∈ (m.pending records).foldl insertKey _ ↔
    key ≠ "" ∧ ∃ row ∈ m.messages ++ m.pending records, _
  rw [mem_foldl_insertKey, h key, ← and_or_left]
  simp only [List.mem_append, or_and_right, exists_or]
  rw [or_comm]

theorem prependMessages_eq (records : List MessageRecord) :
    (m.prependMessages records).1 =
      { messages := m.pending records ++ m.messages
        seenMessageKeys := (m.pending records).reverse.foldl insertKey m.seenMessageKeys } := by
  rw [List.foldl_reverse]
  show ChatMessageListModel.mk _ _ = _
  rw [List.foldr_cons_eq_append']

theorem seenRows_prepend (h : SeenRows m) (records : List MessageRecord) :
    SeenRows (m.prependMessages records).1 := by
  rw [prependMessages_eq]
  intro key
  show key ∈ (m.pending records).reverse.foldl insertKey _ ↔
    key ≠ "" ∧ ∃ row ∈ m.pending records ++ m.messages, _
  rw [mem_foldl_insertKey, h key, ← and_or_left]
  simp only [List.mem_append, List.mem_reverse, or_and_right, exists_or]

/-! ## A batch -/

theorem pending_add_seen (m : ChatMessageListModel) (batch : List MessageRecord) :
    (batch : Multiset MessageRecord) = (m.pending batch : Multiset MessageRecord) +
      (batch.filter fun record => m.seen record : List MessageRecord) := by
  rw [Multiset.coe_add, Multiset.coe_eq_coe]
  exact ((List.filter_append_perm (fun record => m.seen record) batch).symm).trans
    List.perm_append_comm

/-- What a batch leaves out is what has been seen. -/
theorem mem_batch_sub {rows batch : List MessageRecord}
    (hrows : rows.Perm (m.messages ++ m.pending batch)) :
    record ∈ ((m.messages ++ batch : List MessageRecord) - rows : Multiset MessageRecord) ↔
      record ∈ batch ∧ m.seen record = true := by
  rw [Multiset.coe_eq_coe.mpr hrows, ← Multiset.coe_add, ← Multiset.coe_add,
    pending_add_seen m batch, ← add_assoc, add_tsub_cancel_left, Multiset.mem_coe,
    List.mem_filter]

/-- A row and a record that has not been seen are different messages. -/
theorem SeenRows.not_same {row : MessageRecord} (h : SeenRows m) (hrow : row ∈ m.messages)
    (hrecord : m.seen record = false) : ¬ SameMessage row record := by
  intro hsame
  have hkey := hsame.key
  have hseen := h.seen_iff.mpr ⟨hkey.1 ▸ hkey.2, row, hrow, hkey.1⟩
  rw [hrecord] at hseen
  cases hseen

theorem mem_pending {batch : List MessageRecord} :
    record ∈ m.pending batch ↔ record ∈ batch ∧ m.seen record = false := by
  simp [ChatMessageListModel.pending]

theorem mem_sameKeyRows {row : MessageRecord} : row ∈ sameKeyRows m record ↔
    row ∈ m.messages ∧ stableMessageKey row = stableMessageKey record := by
  rw [sameKeyRows, List.mem_filter, decide_eq_true_eq]

/-- A record that has been seen has a row with its key, and the row of its
message is one of these. -/
theorem SeenRows.tells_iff (h : SeenRows m) (record : MessageRecord) :
    (m.seen record = true → ∃ row ∈ m.messages, SameMessage row record) ↔
      (stableMessageKey record ≠ "" → sameKeyRows m record ≠ [] →
        ∃ row ∈ sameKeyRows m record, SameMessage row record) := by
  have hrows : sameKeyRows m record ≠ [] ↔
      ∃ row ∈ m.messages, stableMessageKey row = stableMessageKey record := by
    refine ⟨fun hne => ?_, fun ⟨row, hrow⟩ => List.ne_nil_of_mem (mem_sameKeyRows.mpr hrow)⟩
    exact (List.exists_mem_of_ne_nil _ hne).imp fun row => mem_sameKeyRows.mp
  rw [h.seen_iff, and_imp, hrows]
  refine forall₂_congr fun _ _ => exists_congr fun row => ?_
  rw [mem_sameKeyRows]
  exact ⟨fun hrow => ⟨⟨hrow.1, hrow.2.key.1⟩, hrow.2⟩, fun hrow => ⟨hrow.1.1, hrow.2⟩⟩

theorem showsOnce_batch_iff (h : SeenRows m)
    (hdistinct : m.messages.Pairwise fun a b => ¬ SameMessage a b) {op : ChatOp}
    (hstay : staying m op = m.messages)
    (hrows : (m.step op).messages.Perm (m.messages ++ m.pending (records op))) :
    ShowsOnce m op ↔ BatchTells m (records op) := by
  have hnew : ∀ row ∈ m.messages, ∀ record ∈ m.pending (records op), ¬ SameMessage row record :=
    fun row hrow record hrecord => h.not_same hrow (mem_pending.mp hrecord).2
  rw [ShowsOnce, leftOut, hstay]
  refine and_congr ?_ ?_
  · rw [hrows.pairwise_iff fun hne hsame => hne hsame.symm, List.pairwise_append]
    exact ⟨fun hall => hall.2.1, fun hpending => ⟨hdistinct, hpending, hnew⟩⟩
  · simp only [mem_batch_sub hrows, and_imp]
    refine forall₂_congr fun record hrecord => ?_
    refine Iff.trans (forall_congr' fun hseen => exists_congr fun row => ?_) (h.tells_iff record)
    rw [hrows.mem_iff, List.mem_append]
    constructor
    · intro ⟨hmem, hsame⟩
      refine ⟨hmem.resolve_right fun hpending => ?_, hsame⟩
      -- a row of this batch has another key than what had been seen before
      obtain ⟨-, old, hold, hkey⟩ := h.seen_iff.mp hseen
      have hseen' : m.seen row = true :=
        h.seen_iff.mpr ⟨hsame.key.2, old, hold, hkey.trans hsame.key.1.symm⟩
      rw [(mem_pending.mp hpending).2] at hseen'
      cases hseen'
    · exact fun ⟨hmem, hsame⟩ => ⟨.inl hmem, hsame⟩

/-! ## Replacing the rows -/

/-- Two rows have different keys, unless they have none. -/
def DistinctKeys (rows : List MessageRecord) : Prop :=
  rows.Pairwise fun a b => ¬ (stableMessageKey a ≠ "" ∧ stableMessageKey a = stableMessageKey b)

/-- The rows after `replaceMessages`: the records are shown or left out, and
those that are left out have the key of a row. -/
structure Replaced (batch : List MessageRecord) (m : ChatMessageListModel) : Prop where
  seenRows : SeenRows m
  distinctKeys : DistinctKeys m.messages
  split : ∃ left : List MessageRecord, batch.Perm (m.messages ++ left) ∧
    ∀ record ∈ left, m.seen record = true

theorem Replaced.append {batch : List MessageRecord} (h : Replaced batch m)
    (record : MessageRecord) : Replaced (batch ++ [record]) (m.appendMessage record).1 := by
  have hrows : SeenRows (m.appendMessage record).1 := by
    rw [appendMessage_eq]
    exact seenRows_append h.seenRows [record]
  obtain ⟨left, hperm, hleft⟩ := h.split
  unfold ChatMessageListModel.appendMessage at hrows ⊢
  by_cases hseen : m.seen record = true
  · rw [if_pos hseen] at hrows ⊢
    refine ⟨h.seenRows, h.distinctKeys, left ++ [record], ?_, ?_⟩
    · rw [← List.append_assoc]
      exact hperm.append_right [record]
    · simpa [or_imp, forall_and, hseen] using hleft
  · rw [if_neg hseen] at hrows ⊢
    refine ⟨hrows, ?_, left, ?_, ?_⟩
    · refine List.pairwise_append.mpr ⟨h.distinctKeys, List.pairwise_singleton _ _, ?_⟩
      intro row hrow new hmem hkey
      rw [List.mem_singleton.mp hmem] at hkey
      exact hseen (h.seenRows.seen_iff.mpr ⟨hkey.2 ▸ hkey.1, row, hrow, hkey.2⟩)
    · calc batch ++ [record]
        _ |>.Perm (m.messages ++ left ++ [record]) := hperm.append_right [record]
        _ |>.Perm (m.messages ++ [record] ++ left) := by
          rw [List.append_assoc, List.append_assoc]
          exact List.perm_append_comm.append_left m.messages
    · intro old hold
      obtain ⟨hkey, row, hrow, hsame⟩ := h.seenRows.seen_iff.mp (hleft old hold)
      exact hrows.seen_iff.mpr ⟨hkey, row, List.mem_append_left _ hrow, hsame⟩

theorem replaced_fold (records batch : List MessageRecord) (h : Replaced batch m) :
    Replaced (batch ++ records)
      (records.foldl (fun m record => (m.appendMessage record).1) m) := by
  induction records generalizing batch m with
  | nil => rwa [List.append_nil]
  | cons record records ih =>
    rw [List.append_cons, List.foldl_cons]
    exact ih (batch ++ [record]) (h.append record)

theorem replaced_replaceMessages (records : List MessageRecord) :
    Replaced records (.replaceMessages records) :=
  replaced_fold records []
    ⟨seenRows_new, List.Pairwise.nil, [], .refl _, fun _ h => absurd h (List.not_mem_nil)⟩

theorem DistinctKeys.eq {rows : List MessageRecord} (h : DistinctKeys rows) (ha : a ∈ rows)
    (hb : b ∈ rows) (hkey : stableMessageKey a ≠ "")
    (hsame : stableMessageKey a = stableMessageKey b) : a = b := by
  have hsymm : ∀ x y : MessageRecord,
      ¬ (stableMessageKey x ≠ "" ∧ stableMessageKey x = stableMessageKey y) →
        ¬ (stableMessageKey y ≠ "" ∧ stableMessageKey y = stableMessageKey x) :=
    fun x y hne hyx => hne ⟨hyx.2 ▸ hyx.1, hyx.2.symm⟩
  by_contra hne
  exact @List.Pairwise.forall _ _ _ ⟨hsymm⟩ h _ ha _ hb hne ⟨hkey, hsame⟩

theorem showsOnce_replace_iff (m : ChatMessageListModel) (batch : List MessageRecord) :
    ShowsOnce m (.replaceMessages batch) ↔ KeysTell m (.replaceMessages batch) := by
  have h := replaced_replaceMessages batch
  obtain ⟨left, hperm, hleft⟩ := h.split
  have hstep : m.step (.replaceMessages batch) = .replaceMessages batch := rfl
  have hout : leftOut m (.replaceMessages batch) = left := by
    have hbatch : staying m (.replaceMessages batch) ++ records (.replaceMessages batch) = batch :=
      rfl
    rw [leftOut, hbatch, hstep, Multiset.coe_eq_coe.mpr hperm, ← Multiset.coe_add,
      add_tsub_cancel_left]
  rw [ShowsOnce, hout, hstep]
  generalize ChatMessageListModel.replaceMessages batch = m' at h hperm hleft
  constructor
  · intro ⟨_, hshown⟩ a ha b hb hkey hsame
    have hrow : ∀ x ∈ batch, stableMessageKey x ≠ "" → ∃ row ∈ m'.messages, SameMessage row x := by
      intro x hx hx'
      rcases List.mem_append.mp (hperm.mem_iff.mp hx) with hmem | hmem
      · exact ⟨x, hmem, sameMessage_self hx'⟩
      · exact hshown x hmem
    obtain ⟨rowA, hrowA, hA⟩ := hrow a ha hkey
    obtain ⟨rowB, hrowB, hB⟩ := hrow b hb (hsame ▸ hkey)
    have heq : rowA = rowB := h.distinctKeys.eq hrowA hrowB hA.key.2
      (hA.key.1.trans (hsame.trans hB.key.1.symm))
    exact hA.symm.trans (heq ▸ hB)
  · intro htell
    refine ⟨h.distinctKeys.imp fun hne hsame => hne ⟨hsame.key.2, hsame.key.1⟩, ?_⟩
    intro record hrecord
    obtain ⟨hkey, row, hrow, hsame⟩ := h.seenRows.seen_iff.mp (hleft record hrecord)
    have hmem : ∀ x, x ∈ m'.messages ∨ x ∈ left → x ∈ batch :=
      fun x hx => hperm.mem_iff.mpr (List.mem_append.mpr hx)
    have hkey : stableMessageKey row ≠ "" := by rwa [hsame]
    exact ⟨row, hrow, htell row (hmem row (.inl hrow)) record (hmem record (.inr hrecord)) hkey
      hsame⟩

/-! ## Every run -/

/-- What holds before every step of a run that has shown each message once. -/
structure Shown (m : ChatMessageListModel) : Prop where
  seenRows : SeenRows m
  distinct : m.messages.Pairwise fun a b => ¬ SameMessage a b

theorem shown_new : Shown .new := ⟨seenRows_new, List.Pairwise.nil⟩

theorem clear_eq (h : SeenRows m) : m.clear = .new := by
  unfold ChatMessageListModel.clear
  split
  case isFalse => rfl
  case isTrue hempty =>
    obtain ⟨hmessages, hkeys⟩ := hempty
    rw [List.isEmpty_iff] at hmessages
    cases m
    simp only at hmessages hkeys
    rw [hmessages, hkeys]
    rfl

theorem seenRows_step (h : SeenRows m) (op : ChatOp) : SeenRows (m.step op) := by
  cases op with
  | clear =>
    show SeenRows m.clear
    rw [clear_eq h]
    exact seenRows_new
  | replaceMessages records => exact (replaced_replaceMessages records).seenRows
  | appendMessages records => exact seenRows_append h records
  | prependMessages records => exact seenRows_prepend h records
  | appendMessage record =>
    show SeenRows (m.appendMessage record).1
    rw [appendMessage_eq]
    exact seenRows_append h [record]

theorem showsOnce_step_iff (h : Shown m) (op : ChatOp) : ShowsOnce m op ↔ KeysTell m op := by
  cases op with
  | clear =>
    refine iff_of_true ⟨?_, fun record hrecord => ?_⟩ trivial
    · show m.clear.messages.Pairwise _
      rw [clear_eq h.seenRows]
      exact List.Pairwise.nil
    · exact absurd (Multiset.mem_of_le (Multiset.sub_le_self _ _) hrecord) (Multiset.notMem_zero record)
  | replaceMessages records => exact showsOnce_replace_iff m records
  | appendMessages records => exact showsOnce_batch_iff h.seenRows h.distinct rfl (.refl _)
  | prependMessages records =>
    refine showsOnce_batch_iff h.seenRows h.distinct rfl ?_
    show (m.prependMessages records).1.messages.Perm _
    rw [prependMessages_eq]
    exact List.perm_append_comm
  | appendMessage record =>
    have hrows : (m.step (.appendMessage record)).messages.Perm
        (m.messages ++ m.pending (records (.appendMessage record))) := by
      have heq : m.step (.appendMessage record) = (m.appendMessages [record]).1 :=
        appendMessage_eq record
      rw [heq]
      exact .of_eq rfl
    exact showsOnce_batch_iff h.seenRows h.distinct rfl hrows

/-- A run shows each message once exactly when the keys tell at each step the
messages apart that are compared, and no others. -/
theorem showsOnce_along_iff (ops : List ChatOp) :
    Along ChatMessageListModel.step ShowsOnce .new ops ↔
      Along ChatMessageListModel.step KeysTell .new ops := by
  have hstep : ∀ m op, ShowsOnce m op → Shown m → Shown (m.step op) :=
    fun m op hop h => ⟨seenRows_step h.seenRows op, hop.1⟩
  constructor
  · exact Along.of_inv hstep (fun m op hop h => (showsOnce_step_iff h op).mp hop) shown_new
  · exact Along.of_inv (fun m op hop h => hstep m op ((showsOnce_step_iff h op).mpr hop) h)
      (fun m op hop h => (showsOnce_step_iff h op).mpr hop) shown_new

/-- A message of another member. -/
def remoteMessage : MessageRecord :=
  { meetingId := "m", senderId := "b", senderName := "B", content := "hi", remoteMessageId := "5"
    replyToId := "" }

/-- A message that the server has not numbered yet. -/
def localMessage : MessageRecord :=
  { remoteMessage with id := 5, senderId := "a", senderName := "A", remoteMessageId := ""
                       isLocal := true }

/-- Twice in a page of the history; and the local message is not shown. -/
theorem repeated_shownTwice :
    ¬ ShowsOnce .new (.prependMessages [remoteMessage, remoteMessage]) ∧
      ¬ Along ChatMessageListModel.step ShowsOnce .new
        [.appendMessage remoteMessage, .appendMessage localMessage] := by
  decide

end MeetingSystem.Proof.Client
