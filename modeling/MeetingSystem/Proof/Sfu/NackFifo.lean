import MeetingSystem.Framework.Run
import MeetingSystem.Impl.Sfu.Rtp

/-!
# The retransmission buffer is a bounded queue

`NackBuffer` keeps a map from sequence numbers to packets and beside it the
order in which they came. `storeAll_fifo`: after any `Store` calls the order
has the numbers of the last `capacity` insertions, the map has the same
numbers, and each has the bytes that were stored last.
-/

namespace MeetingSystem.Proof.Sfu

open MeetingSystem.Framework MeetingSystem.Impl.Sfu

variable {b : NackBuffer}

/-! ## What a run of `Store` calls should leave -/

/-- The packets that `Store` does not refuse. -/
def storable (maxPacketSize : Nat) (packet : Bytes) : Bool :=
  packet ≠ [] ∧ packet.length ≤ maxPacketSize

/-- One call. -/
def storeCall (b : NackBuffer) (c : UInt16 × Bytes) : NackBuffer := b.store c.1 c.2

def storeAll (b : NackBuffer) (calls : List (UInt16 × Bytes)) : NackBuffer := run storeCall b calls

/-- The sequence number of a call, if it is an insertion. -/
def insertion (b : NackBuffer) (seq : UInt16) (packet : Bytes) : List UInt16 :=
  if storable b.maxPacketSize packet = true ∧ seq ∉ b.packets then [seq] else []

def insertions (b : NackBuffer) : List (UInt16 × Bytes) → List UInt16
  | [] => []
  | c :: calls => insertion b c.1 c.2 ++ insertions (b.store c.1 c.2) calls

/-- The packet that was stored last for a sequence number. -/
def lastStored (maxPacketSize : Nat) (seq : UInt16) : List (UInt16 × Bytes) → Option Bytes
  | [] => none
  | c :: calls =>
    (lastStored maxPacketSize seq calls).or
      (if storable maxPacketSize c.2 = true ∧ c.1 = seq then some c.2 else none)

/-! ## One call -/

theorem store_of_not_storable {seq : UInt16} {packet : Bytes}
    (h : ¬ storable b.maxPacketSize packet = true) : b.store seq packet = b := by
  rw [NackBuffer.store, if_pos]
  simp only [storable, decide_eq_true_eq, not_and_or, not_not, not_le] at h
  exact h

theorem store_of_storable {seq : UInt16} {packet : Bytes}
    (h : storable b.maxPacketSize packet = true) :
    b.store seq packet =
      if seq ∈ b.packets then { b with packets := b.packets.replace seq packet }
      else
        { b.evict with
          order := b.evict.order ++ [seq], packets := b.evict.packets.insert seq packet } := by
  rw [NackBuffer.store, if_neg]
  simp only [storable, decide_eq_true_eq] at h
  simpa only [not_or, not_lt] using h

theorem evict_capacity (b : NackBuffer) :
    b.evict.capacity = b.capacity ∧ b.evict.maxPacketSize = b.maxPacketSize := by
  rw [NackBuffer.evict]
  split
  · exact ⟨rfl, rfl⟩
  · split <;> exact ⟨rfl, rfl⟩

theorem lookup_evict {seq : UInt16} {packet : Bytes}
    (h : b.evict.packets.lookup seq = some packet) : b.packets.lookup seq = some packet := by
  rw [NackBuffer.evict] at h
  split at h
  · exact h
  · rename_i oldest rest horder
    split at h
    · exact (lookup_of_erase h).2
    · exact h

theorem store_capacity (b : NackBuffer) (seq : UInt16) (packet : Bytes) :
    (b.store seq packet).capacity = b.capacity ∧
      (b.store seq packet).maxPacketSize = b.maxPacketSize := by
  by_cases h : storable b.maxPacketSize packet = true
  · rw [store_of_storable h]
    split
    · exact ⟨rfl, rfl⟩
    · exact evict_capacity b
  · rw [store_of_not_storable h]
    exact ⟨rfl, rfl⟩

/-- The order, as the end of all insertions so far, and the map have the same
sequence numbers. -/
structure Fifo (b : NackBuffer) (inserted : List UInt16) : Prop where
  pos : 0 < b.capacity
  nodup : b.order.Nodup
  mem : ∀ seq, seq ∈ b.order ↔ seq ∈ b.packets
  order : b.order = inserted.drop (inserted.length - b.capacity)

theorem Fifo.length {inserted : List UInt16} (h : Fifo b inserted) :
    b.packets.keys.length = b.order.length := by
  have hperm : b.packets.keys.Perm b.order :=
    (List.perm_ext_iff_of_nodup b.packets.nodupKeys h.nodup).mpr fun seq =>
      AList.mem_keys.symm.trans (h.mem seq).symm
  exact hperm.length_eq

theorem Fifo.length_le {inserted : List UInt16} (h : Fifo b inserted) :
    b.order.length ≤ b.capacity := by
  rw [h.order, List.length_drop]
  omega

/-- After `evict` there is room for one more number. -/
theorem Fifo.evict {inserted : List UInt16} (h : Fifo b inserted) :
    b.evict.order.Nodup ∧ (∀ seq, seq ∈ b.evict.order ↔ seq ∈ b.evict.packets) ∧
      b.evict.order = inserted.drop (inserted.length + 1 - b.capacity) := by
  have hpos := h.pos
  have hkeys := h.length
  have hlen : b.order.length = inserted.length - (inserted.length - b.capacity) := by
    rw [h.order, List.length_drop]
  rw [NackBuffer.evict]
  cases horder : b.order with
  | nil =>
    have hnil : inserted = [] := by
      rw [← List.length_eq_zero_iff]
      rw [horder, List.length_nil] at hlen
      omega
    refine ⟨h.nodup, h.mem, ?_⟩
    rw [hnil, List.drop_nil, horder]
  | cons oldest rest =>
    rw [horder, List.length_cons] at hlen hkeys
    have hmem := h.mem
    have hnodup := h.nodup
    rw [horder] at hmem hnodup
    dsimp only
    by_cases hfull : b.capacity ≤ b.packets.keys.length
    · rw [if_pos hfull]
      refine ⟨hnodup.of_cons, fun seq => ?_, ?_⟩
      · rw [AList.mem_erase, ← hmem seq, List.mem_cons]
        constructor
        · intro hseq
          exact ⟨fun heq => (List.nodup_cons.mp hnodup).1 (heq ▸ hseq), .inr hseq⟩
        · intro ⟨hne, hseq⟩
          exact hseq.resolve_left hne
      · have htail : rest = (inserted.drop (inserted.length - b.capacity)).tail := by
          rw [← h.order, horder]
          rfl
        rw [htail, List.tail_drop,
          show inserted.length - b.capacity + 1 = inserted.length + 1 - b.capacity by omega]
    · rw [if_neg hfull]
      refine ⟨h.nodup, h.mem, ?_⟩
      rw [h.order, show inserted.length - b.capacity = 0 by omega,
        show inserted.length + 1 - b.capacity = 0 by omega]

theorem Fifo.store {inserted : List UInt16} (h : Fifo b inserted) (seq : UInt16) (packet : Bytes) :
    Fifo (b.store seq packet) (inserted ++ insertion b seq packet) := by
  rw [insertion]
  by_cases hok : storable b.maxPacketSize packet = true
  · rw [store_of_storable hok]
    by_cases hmem : seq ∈ b.packets
    · rw [if_pos hmem, if_neg (fun h => h.2 hmem), List.append_nil]
      exact ⟨h.pos, h.nodup, fun q => (h.mem q).trans AList.mem_replace.symm, h.order⟩
    · rw [if_neg hmem, if_pos ⟨hok, hmem⟩]
      obtain ⟨hnodup, hiff, horder⟩ := h.evict
      have hcap := (evict_capacity b).1
      have hnew : seq ∉ b.evict.order := by
        intro hin
        obtain ⟨old, hold⟩ := lookup_of_mem ((hiff seq).mp hin)
        exact hmem (mem_of_lookup (lookup_evict hold))
      refine ⟨?_, ?_, ?_, ?_⟩
      · exact hcap ▸ h.pos
      · refine List.nodup_append.mpr ⟨hnodup, List.nodup_singleton seq, ?_⟩
        intro q hq q' hq' heq
        rw [List.mem_singleton] at hq'
        subst heq hq'
        exact hnew hq
      · intro q
        rw [AList.mem_insert, List.mem_append, List.mem_singleton, hiff q, or_comm]
      · show _ = List.drop _ _
        rw [hcap, List.length_append, List.length_singleton, horder, List.drop_append_of_le_length]
        have := h.pos
        omega
  · rw [store_of_not_storable hok, if_neg (fun h => hok h.1), List.append_nil]
    exact h

theorem get_store_self {seq : UInt16} {packet : Bytes}
    (h : storable b.maxPacketSize packet = true) : (b.store seq packet).get seq = some packet := by
  rw [store_of_storable h]
  split
  · rename_i hmem
    exact lookup_replace_self packet hmem
  · exact AList.lookup_insert _

/-- Storing a packet can only take another one away. -/
theorem get_store_ne {seq q : UInt16} {packet old : Bytes} (hne : q ≠ seq)
    (h : (b.store seq packet).get q = some old) : b.get q = some old := by
  by_cases hok : storable b.maxPacketSize packet = true
  · rw [store_of_storable hok] at h
    split at h
    · exact (lookup_replace_ne packet b.packets hne).symm.trans h
    · exact lookup_evict ((AList.lookup_insert_ne hne).symm.trans h)
  · rwa [store_of_not_storable hok] at h

/-! ## Runs -/

theorem storeAll_capacity (b : NackBuffer) (calls : List (UInt16 × Bytes)) :
    (storeAll b calls).capacity = b.capacity := by
  show (run storeCall b calls).capacity = b.capacity
  exact run_eq NackBuffer.capacity (fun b c => (store_capacity b c.1 c.2).1) b calls

theorem Fifo.storeAll {inserted : List UInt16} (h : Fifo b inserted)
    (calls : List (UInt16 × Bytes)) : Fifo (storeAll b calls) (inserted ++ insertions b calls) := by
  induction calls generalizing b inserted with
  | nil =>
    rw [insertions, List.append_nil]
    exact h
  | cons c calls ih =>
    rw [insertions, ← List.append_assoc]
    exact ih (h.store c.1 c.2)

theorem get_storeAll {seq : UInt16} {packet : Bytes} {calls : List (UInt16 × Bytes)}
    (h : (storeAll b calls).get seq = some packet) :
    (lastStored b.maxPacketSize seq calls).or (b.get seq) = some packet := by
  induction calls generalizing b with
  | nil => exact h
  | cons c calls ih =>
    have hlast := ih (show (storeAll (b.store c.1 c.2) calls).get seq = some packet from h)
    rw [(store_capacity b c.1 c.2).2] at hlast
    rw [lastStored, Option.or_assoc]
    cases hrest : lastStored b.maxPacketSize seq calls with
    | some last =>
      rw [hrest] at hlast
      exact hlast
    | none =>
      rw [hrest, Option.none_or] at hlast
      rw [Option.none_or]
      by_cases hc : storable b.maxPacketSize c.2 = true ∧ c.1 = seq
      · rw [if_pos hc]
        obtain ⟨hok, rfl⟩ := hc
        rw [get_store_self hok] at hlast
        exact hlast
      · rw [if_neg hc, Option.none_or]
        by_cases hok : storable b.maxPacketSize c.2 = true
        · exact get_store_ne (fun heq => hc ⟨hok, heq.symm⟩) hlast
        · rwa [store_of_not_storable hok] at hlast

theorem fifo_new (capacity maxPacketSize : Nat) : Fifo (.new capacity maxPacketSize) [] := by
  refine ⟨?_, List.nodup_nil, fun seq => ?_, List.drop_nil.symm⟩
  · show 0 < if 0 < capacity then capacity else 1500
    split <;> omega
  · exact iff_of_false List.not_mem_nil (AList.notMem_empty seq)

/-- After any `Store` calls on a new buffer: the order without duplicates is
that of the last `capacity` insertions, and every number in it, and no other,
has the bytes that were stored last for it. -/
theorem storeAll_fifo (capacity maxPacketSize : Nat) (calls : List (UInt16 × Bytes)) :
    let empty := NackBuffer.new capacity maxPacketSize
    let b := storeAll empty calls
    let inserted := insertions empty calls
    b.order.Nodup ∧ (∀ seq, seq ∈ b.order ↔ seq ∈ b.packets) ∧
      b.packets.keys.length ≤ empty.capacity ∧
      b.order = inserted.drop (inserted.length - empty.capacity) ∧
      ∀ seq ∈ b.order, b.get seq = lastStored empty.maxPacketSize seq calls := by
  intro empty b inserted
  have hfifo : Fifo b inserted := (fifo_new capacity maxPacketSize).storeAll calls
  have hcap : b.capacity = empty.capacity := storeAll_capacity empty calls
  refine ⟨hfifo.nodup, hfifo.mem, ?_, hcap ▸ hfifo.order, fun seq hseq => ?_⟩
  · rw [hfifo.length, ← hcap]
    exact hfifo.length_le
  · obtain ⟨packet, hpacket⟩ := lookup_of_mem ((hfifo.mem seq).mp hseq)
    have hlast := get_storeAll (show (storeAll empty calls).get seq = some packet from hpacket)
    rw [show empty.get seq = none from rfl, Option.or_none] at hlast
    exact (show b.get seq = some packet from hpacket).trans hlast.symm

end MeetingSystem.Proof.Sfu
