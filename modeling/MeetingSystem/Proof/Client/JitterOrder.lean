import MeetingSystem.Framework.Run
import MeetingSystem.Framework.Serial
import MeetingSystem.Impl.Client.JitterBuffer

/-!
# The order in which the jitter buffer gives packets out

`Session` runs a buffer and keeps what it has given out. The buffer compares
sequence numbers as 16-bit values, so what it takes for the first packet held
is the oldest one only where the numbers held do not wrap (`Straddles`), and a
packet that comes behind the expected one is given out all the same.

* `jitter_ordered`: without late packets, and where no choice is made among
  numbers that wrap, packets are given out in order and the oldest is dropped;
* `wrapRun_disordered`: the order is lost at the wrap.
-/

namespace MeetingSystem.Proof.Client

open MeetingSystem.Impl.Client MeetingSystem.Framework

/-! ## Runs -/

inductive JitterOp
  | push (packet : RTPPacket)
  | pop (now : Int)
  | popWaitTurn (now popNow : Int)

/-- A buffer with the sequence numbers of the packets it has given out. -/
structure Session where
  buffer : JitterBuffer
  popped : List UInt16

namespace Session

def start (maxPackets minBufferedPackets : Nat) (gapTimeout : Int) : Session :=
  ⟨.new maxPackets minBufferedPackets gapTimeout, []⟩

def giveOut (s : Session) (r : JitterBuffer × Option RTPPacket) : Session :=
  ⟨r.1, s.popped ++ (r.2.map (·.header.sequenceNumber)).toList⟩

def step (s : Session) : JitterOp → Session
  | .push packet => { s with buffer := s.buffer.push packet }
  | .pop now => s.giveOut (s.buffer.popLocked now)
  | .popWaitTurn now popNow => s.giveOut (s.buffer.popWaitTurn now popNow)

end Session

/-- The packets in the buffer once one more is pushed, before it is trimmed. -/
def heldWith (s : Session) (packet : RTPPacket) : List UInt16 :=
  packet.header.sequenceNumber :: s.buffer.packets.keys

/-- A later number is smaller: the numbers go over 65535. -/
def Straddles (held : List UInt16) : Bool :=
  held.any fun a => held.any fun b => SerialLt a b ∧ b < a

/-- The packet is not behind what has been given out or is expected. -/
def NotLate (s : Session) (packet : RTPPacket) : Bool :=
  match s.popped.getLast? with
  | some last => SerialLt last packet.header.sequenceNumber
  | none => s.buffer.expectedSeq.all fun e => ahead e packet.header.sequenceNumber < 0x8000

/-- No packet comes late, and the first packet is chosen, to be given out or to
be dropped, only among numbers that do not wrap. -/
def Straight (s : Session) : JitterOp → Prop
  | .push packet =>
    NotLate s packet = true ∧
      (s.buffer.maxPackets ≤ s.buffer.size ∧ packet.header.sequenceNumber ∉ s.buffer.packets →
        Straddles (heldWith s packet) = false)
  | .pop now | .popWaitTurn now _ =>
    (s.buffer.readyToPopLocked now).2 = true →
      s.buffer.expectedHeld = true ∨ Straddles s.buffer.packets.keys = false

instance (s : Session) (op : JitterOp) : Decidable (Straight s op) :=
  match op with
  | .push _ => inferInstanceAs (Decidable (_ ∧ _))
  | .pop _ => inferInstanceAs (Decidable (_ → _))
  | .popWaitTurn _ _ => inferInstanceAs (Decidable (_ → _))

/-- What a push drops is older than all that is held with it. -/
def DropsOldest (s : Session) : JitterOp → Prop
  | .push packet => ∀ dropped ∈ heldWith s packet, dropped ∉ (s.buffer.push packet).packets →
      ∀ kept ∈ heldWith s packet, kept ≠ dropped → SerialLt dropped kept
  | _ => True

/-! ## The least sequence number -/

theorem strictWeak_lt : StrictWeak fun a b : UInt16 => decide (a < b) := by
  refine ⟨fun a b h => ?_, fun a b c h h' => ?_⟩
  · simp only [decide_eq_true_eq, decide_eq_false_iff_not, UInt16.lt_iff_toNat_lt] at h ⊢
    omega
  · simp only [decide_eq_false_iff_not, UInt16.lt_iff_toNat_lt] at h h' ⊢
    omega

theorem begin?_spec {packets : AList fun _ : UInt16 => RTPPacket} {seq : UInt16}
    (h : JitterBuffer.begin? packets = some seq) :
    seq ∈ packets.keys ∧ ∀ k ∈ packets.keys, ¬ k < seq := by
  obtain ⟨hm, hle⟩ := least_spec strictWeak_lt h
  exact ⟨hm, fun k hk => by simpa using hle k hk⟩

/-- Among numbers within half a turn that do not wrap, the least is the
oldest. -/
theorem oldest_of_least {held : List UInt16} {base m : UInt16} (hm : m ∈ held)
    (hle : ∀ k ∈ held, ¬ k < m) (hwin : ∀ k ∈ held, ahead base k < 0x8000)
    (hs : Straddles held = false) {k : UInt16} (hk : k ∈ held) (hne : k ≠ m) : SerialLt m k := by
  rcases serialLt_or (hwin m hm) (hwin k hk) (Ne.symm hne) with h | h
  · exact h
  · have hlt : m < k := by
      have := hle k hk
      have hne' : m.toNat ≠ k.toNat := fun e => hne (UInt16.toNat_inj.mp e.symm)
      rw [UInt16.lt_iff_toNat_lt] at this ⊢
      omega
    rw [Straddles, List.any_eq_false] at hs
    have := hs k hk
    rw [List.any_eq_true] at this
    exact absurd ⟨m, hm, by simpa using ⟨h, hlt⟩⟩ this

/-! ## Operations of the buffer -/

theorem trim_of_le {maxPackets : Nat} {packets : AList fun _ : UInt16 => RTPPacket}
    (h : packets.keys.length ≤ maxPackets) (turns : Nat) :
    JitterBuffer.trim maxPackets turns packets = packets := by
  cases turns with
  | zero => rfl
  | succ turns => rw [JitterBuffer.trim, if_neg (by omega)]

/-- A push keeps all packets, or drops the least of a full buffer. -/
theorem push_cases {b : JitterBuffer} (hb : b.size ≤ b.maxPackets) (packet : RTPPacket) :
    let held := b.packets.insert packet.header.sequenceNumber packet
    (held.keys.length ≤ b.maxPackets ∧ (b.push packet).packets = held) ∨
    (packet.header.sequenceNumber ∉ b.packets ∧ held.keys.length = b.maxPackets + 1 ∧
      b.maxPackets ≤ b.size ∧
      ∃ seq, JitterBuffer.begin? held = some seq ∧ (b.push packet).packets = held.erase seq) := by
  intro held
  have hpush : (b.push packet).packets =
      JitterBuffer.trim b.maxPackets held.keys.length held := rfl
  rw [hpush]
  by_cases hle : held.keys.length ≤ b.maxPackets
  · exact .inl ⟨hle, trim_of_le hle _⟩
  · have hnew : packet.header.sequenceNumber ∉ b.packets := by
      intro hm
      apply hle
      show (b.packets.insert _ packet).keys.length ≤ _
      rw [length_keys_insert_of_mem packet hm]
      exact hb
    have hlen : held.keys.length = b.size + 1 := length_keys_insert packet hnew
    have hmax : b.maxPackets = b.size := by omega
    have hne : held.keys ≠ [] := List.ne_nil_of_length_pos (by omega)
    obtain ⟨seq, hseq⟩ := least_isSome (fun a b : UInt16 => decide (a < b)) hne
    have hmem : seq ∈ held := (begin?_spec hseq).1
    refine .inr ⟨hnew, by omega, by omega, seq, hseq, ?_⟩
    rw [hlen, JitterBuffer.trim, if_pos (by omega)]
    have hb : JitterBuffer.begin? held = some seq := hseq
    rw [hb]
    apply trim_of_le
    rw [length_keys_erase hmem]
    omega

/-- Nothing but the waiting changes. -/
structure SamePackets (b b' : JitterBuffer) : Prop where
  packets : b'.packets = b.packets
  expectedSeq : b'.expectedSeq = b.expectedSeq
  maxPackets : b'.maxPackets = b.maxPackets

theorem SamePackets.trans {a b c : JitterBuffer} (h : SamePackets a b) (h' : SamePackets b c) :
    SamePackets a c :=
  ⟨h'.1.trans h.1, h'.2.trans h.2, h'.3.trans h.3⟩

theorem gapElapsed_samePackets (b : JitterBuffer) (now : Int) :
    SamePackets b (b.gapElapsed now).1 := by
  unfold JitterBuffer.gapElapsed
  split
  · exact ⟨rfl, rfl, rfl⟩
  split
  · exact ⟨rfl, rfl, rfl⟩
  split <;> exact ⟨rfl, rfl, rfl⟩

theorem readyToPopLocked_samePackets (b : JitterBuffer) (now : Int) :
    SamePackets b (b.readyToPopLocked now).1 := by
  unfold JitterBuffer.readyToPopLocked
  split
  · exact ⟨rfl, rfl, rfl⟩
  split
  · exact gapElapsed_samePackets b now
  split
  · exact ⟨rfl, rfl, rfl⟩
  · exact (⟨rfl, rfl, rfl⟩ : SamePackets b { b with playoutStarted := true }).trans
      (gapElapsed_samePackets _ now)

theorem SamePackets.nextSeq {b b' : JitterBuffer} (h : SamePackets b b') :
    b'.nextSeq = b.nextSeq := by
  rw [JitterBuffer.nextSeq, JitterBuffer.nextSeq, h.packets, h.expectedSeq]

/-- What a pop does: nothing is given out, or the packet that is next. -/
def Pops (b : JitterBuffer) (r : JitterBuffer × Option RTPPacket) : Prop :=
  (SamePackets b r.1 ∧ r.2 = none) ∨
    ∃ seq packet, b.nextSeq = some seq ∧ b.packets.lookup seq = some packet ∧
      r.2 = some packet ∧ r.1.packets = b.packets.erase seq ∧
      r.1.expectedSeq = some (seq + 1) ∧ r.1.maxPackets = b.maxPackets

theorem nextSeq_mem {b : JitterBuffer} {seq : UInt16} (h : b.nextSeq = some seq) :
    seq ∈ b.packets := by
  rw [JitterBuffer.nextSeq] at h
  split at h
  · exact (begin?_spec h).1
  split at h
  · rename_i hm
    exact Option.some.inj h ▸ hm
  · exact (begin?_spec h).1

theorem popLocked_pops (b : JitterBuffer) (now : Int) :
    Pops b (b.popLocked now) ∧
      ((b.popLocked now).2 ≠ none → (b.readyToPopLocked now).2 = true) := by
  have hsame := readyToPopLocked_samePackets b now
  unfold JitterBuffer.popLocked
  generalize b.readyToPopLocked now = r at hsame
  obtain ⟨b', ready⟩ := r
  simp only at hsame ⊢
  split
  · rename_i hready
    cases hn : b'.nextSeq with
    | none => exact ⟨.inl ⟨hsame, rfl⟩, fun h => absurd rfl h⟩
    | some seq =>
      obtain ⟨packet, hp⟩ := lookup_of_mem (nextSeq_mem hn)
      refine ⟨.inr ⟨seq, packet, ?_, ?_, hp, ?_, rfl, hsame.maxPackets⟩, fun _ => hready⟩
      · rw [← hsame.nextSeq, hn]
      · rw [← hsame.packets, hp]
      · show b'.packets.erase seq = b.packets.erase seq
        rw [hsame.packets]
  · exact ⟨.inl ⟨hsame, rfl⟩, fun h => absurd rfl h⟩

theorem popWaitTurn_pops (b : JitterBuffer) (now popNow : Int) :
    Pops b (b.popWaitTurn now popNow) ∧
      ((b.popWaitTurn now popNow).2 ≠ none → (b.readyToPopLocked now).2 = true) := by
  have hsame := readyToPopLocked_samePackets b now
  unfold JitterBuffer.popWaitTurn
  generalize b.readyToPopLocked now = r at hsame
  obtain ⟨b', ready⟩ := r
  simp only at hsame ⊢
  split
  · rename_i hready
    refine ⟨?_, fun _ => hready⟩
    rcases (popLocked_pops b' popNow).1 with ⟨h, hnone⟩ | ⟨seq, packet, hn, hp, hout, hpk, hex, hmax⟩
    · exact .inl ⟨hsame.trans h, hnone⟩
    · refine .inr ⟨seq, packet, ?_, ?_, hout, ?_, hex, hmax.trans hsame.maxPackets⟩
      · rw [← hsame.nextSeq, hn]
      · rw [← hsame.packets, hp]
      · rw [hpk, hsame.packets]
  · exact ⟨.inl ⟨hsame, rfl⟩, fun h => absurd rfl h⟩

/-! ## What holds throughout a run -/

/-- How far ahead of the expected number a packet can be. -/
def reach (popped : List UInt16) : Nat := if popped = [] then 0x8000 else 0x7FFF

structure Ordered (s : Session) : Prop where
  bounded : s.buffer.size ≤ s.buffer.maxPackets
  keyed : ∀ seq packet, s.buffer.packets.lookup seq = some packet →
    packet.header.sequenceNumber = seq
  unused : s.buffer.expectedSeq = none → s.buffer.packets.keys = [] ∧ s.popped = []
  held : ∀ e ∈ s.buffer.expectedSeq, ∀ seq ∈ s.buffer.packets.keys,
    ahead e seq < reach s.popped
  next : ∀ last ∈ s.popped.getLast?, s.buffer.expectedSeq = some (last + 1)
  chain : s.popped.IsChain SerialLt

theorem reach_le (popped : List UInt16) : reach popped ≤ 0x8000 := by
  rw [reach]
  split <;> omega

/-- A packet that is not late is ahead of the expected one. -/
theorem Ordered.ahead_of_notLate {s : Session} (h : Ordered s) {packet : RTPPacket}
    (hp : NotLate s packet = true) {e : UInt16} (he : s.buffer.expectedSeq = some e) :
    ahead e packet.header.sequenceNumber < reach s.popped := by
  cases hl : s.popped.getLast? with
  | none =>
    simp only [NotLate, hl, he, Option.all_some, decide_eq_true_eq] at hp
    rw [reach, if_pos (List.getLast?_eq_none_iff.mp hl)]
    exact hp
  | some last =>
    simp only [NotLate, hl, decide_eq_true_eq] at hp
    have hne : s.popped ≠ [] := by
      intro e
      rw [e] at hl
      cases hl
    have hnext := h.next last hl
    rw [he] at hnext
    rw [reach, if_neg hne, Option.some.inj hnext, ahead_succ hp.1]
    have := hp.2
    omega

/-- The packets held with the new one are within half a turn. -/
theorem Ordered.window {s : Session} (h : Ordered s) {packet : RTPPacket} (hp : NotLate s packet = true) :
    ∀ seq ∈ heldWith s packet,
      ahead (s.buffer.expectedSeq.getD packet.header.sequenceNumber) seq < reach s.popped := by
  intro seq hseq
  cases he : s.buffer.expectedSeq with
  | none =>
    rw [heldWith, (h.unused he).1, List.mem_singleton] at hseq
    rw [Option.getD_none, hseq, ahead_self, (h.unused he).2]
    decide
  | some e =>
    rw [Option.getD_some]
    rcases List.mem_cons.mp hseq with rfl | hseq
    · exact h.ahead_of_notLate hp he
    · exact h.held e he seq hseq

theorem mem_insert_iff {s : Session} {packet : RTPPacket} {seq : UInt16} :
    seq ∈ (s.buffer.packets.insert packet.header.sequenceNumber packet).keys ↔
      seq ∈ heldWith s packet := by
  rw [heldWith, ← AList.mem_keys, AList.mem_insert, List.mem_cons, AList.mem_keys]

theorem lookup_of_trim {maxPackets turns : Nat} {packets : AList fun _ : UInt16 => RTPPacket}
    {seq : UInt16} {p : RTPPacket}
    (h : (JitterBuffer.trim maxPackets turns packets).lookup seq = some p) :
    packets.lookup seq = some p := by
  induction turns generalizing packets with
  | zero => exact h
  | succ turns ih =>
    rw [JitterBuffer.trim] at h
    split at h
    · split at h
      · exact h
      · exact (lookup_of_erase (ih h)).2
    · exact h

theorem push_subset {b : JitterBuffer} {packet : RTPPacket} {seq : UInt16} {p : RTPPacket}
    (h : (b.push packet).packets.lookup seq = some p) :
    (b.packets.insert packet.header.sequenceNumber packet).lookup seq = some p :=
  lookup_of_trim h

theorem push_size {b : JitterBuffer} (hb : b.size ≤ b.maxPackets) (packet : RTPPacket) :
    (b.push packet).size ≤ b.maxPackets := by
  rcases push_cases hb packet with ⟨hle, he⟩ | ⟨-, hlen, -, first, hfirst, he⟩
  · rw [JitterBuffer.size, he]
    exact hle
  · rw [JitterBuffer.size, he, length_keys_erase (begin?_spec hfirst).1]
    omega

theorem push_ordered {s : Session} (h : Ordered s) {packet : RTPPacket} (hp : NotLate s packet = true) :
    Ordered { s with buffer := s.buffer.push packet } := by
  refine ⟨push_size h.bounded packet, fun seq p hl => ?_, fun he => ?_, fun e he seq hseq => ?_,
    fun last hl => ?_, h.chain⟩
  · have hl := push_subset hl
    by_cases hs : seq = packet.header.sequenceNumber
    · rw [hs, AList.lookup_insert, Option.some.injEq] at hl
      rw [hs, hl]
    · rw [AList.lookup_insert_ne hs] at hl
      exact h.keyed seq p hl
  · cases he
  · obtain ⟨p, hl⟩ := lookup_of_mem (AList.mem_keys.mpr hseq)
    have hin := mem_insert_iff.mp (AList.mem_keys.mp (mem_of_lookup (push_subset hl)))
    have hwin := h.window hp seq hin
    have heq : e = s.buffer.expectedSeq.getD packet.header.sequenceNumber :=
      (Option.some.inj he).symm
    rw [heq]
    exact hwin
  · show some (s.buffer.expectedSeq.getD packet.header.sequenceNumber) = some (last + 1)
    rw [h.next last hl]
    rfl

/-- A full buffer drops the oldest packet. -/
theorem push_dropsOldest {s : Session} (h : Ordered s) {packet : RTPPacket}
    (hs : Straight s (.push packet)) : DropsOldest s (.push packet) := by
  intro dropped hd hgone kept hk hne
  rcases push_cases h.bounded packet with ⟨-, he⟩ | ⟨hnew, -, hfull, first, hfirst, he⟩
  · rw [he] at hgone
    exact absurd (AList.mem_keys.mpr (mem_insert_iff.mpr hd)) hgone
  · rw [he, AList.mem_erase, not_and] at hgone
    have hdf : dropped = first := by
      by_contra hne'
      exact hgone hne' (AList.mem_keys.mpr (mem_insert_iff.mpr hd))
    obtain ⟨hm, hle⟩ := begin?_spec hfirst
    subst hdf
    have hd' : dropped ∈ heldWith s packet := hd
    refine oldest_of_least hd'
      (fun k hk' => hle k (mem_insert_iff.mpr hk'))
      (fun k hk' => Nat.lt_of_lt_of_le (h.window hs.1 k hk') (reach_le _))
      (hs.2 ⟨hfull, hnew⟩) hk hne

/-- The packet that is given out is the oldest. -/
theorem Ordered.nextSeq_oldest {s : Session} (h : Ordered s) {e seq : UInt16}
    (he : s.buffer.expectedSeq = some e) (hn : s.buffer.nextSeq = some seq)
    (hs : s.buffer.expectedHeld = true ∨ Straddles s.buffer.packets.keys = false) {k : UInt16}
    (hk : k ∈ s.buffer.packets.keys) (hne : k ≠ seq) : ahead e seq < ahead e k := by
  simp only [JitterBuffer.nextSeq, he] at hn
  split at hn
  · obtain rfl := Option.some.inj hn
    rw [ahead_self]
    by_contra hzero
    apply hne
    apply eq_of_ahead_eq (a := e)
    rw [ahead_self]
    omega
  · rename_i hm
    have hs : Straddles s.buffer.packets.keys = false := by
      rcases hs with hs | hs
      · rw [JitterBuffer.expectedHeld, he] at hs
        exact absurd (of_decide_eq_true hs) hm
      · exact hs
    obtain ⟨hmem, hle⟩ := begin?_spec hn
    have hwin : ∀ k ∈ s.buffer.packets.keys, ahead e k < 0x8000 :=
      fun k hk => Nat.lt_of_lt_of_le (h.held e he k hk) (reach_le _)
    have hlt := oldest_of_least hmem hle hwin hs hk hne
    by_contra hnot
    exact not_serialLt_of_ahead (Nat.le_of_not_lt hnot) (hwin seq hmem) hlt

/-- A call that gives nothing out. -/
theorem giveOut_nothing {s : Session} (h : Ordered s) {r : JitterBuffer × Option RTPPacket}
    (hsame : SamePackets s.buffer r.1) (hnone : r.2 = none) : Ordered (s.giveOut r) := by
  have hpop : (s.giveOut r).popped = s.popped := by
    rw [Session.giveOut, hnone]
    exact List.append_nil _
  obtain ⟨hpk, hex, hmax⟩ := hsame
  refine ⟨?_, ?_, ?_, ?_, ?_, ?_⟩
  · show r.1.packets.keys.length ≤ r.1.maxPackets
    rw [hpk, hmax]
    exact h.bounded
  · show ∀ seq packet, r.1.packets.lookup seq = some packet → _
    rw [hpk]
    exact h.keyed
  · show r.1.expectedSeq = none → r.1.packets.keys = [] ∧ _
    rw [hpk, hex, hpop]
    exact h.unused
  · show ∀ e ∈ r.1.expectedSeq, ∀ seq ∈ r.1.packets.keys, _
    rw [hpk, hex, hpop]
    exact h.held
  · show ∀ last ∈ (s.giveOut r).popped.getLast?, r.1.expectedSeq = _
    rw [hex, hpop]
    exact h.next
  · rw [hpop]
    exact h.chain

theorem giveOut_ordered {s : Session} (h : Ordered s) {r : JitterBuffer × Option RTPPacket}
    (hr : Pops s.buffer r)
    (hs : r.2 ≠ none → s.buffer.expectedHeld = true ∨ Straddles s.buffer.packets.keys = false) :
    Ordered (s.giveOut r) := by
  rcases hr with ⟨hsame, hnone⟩ | ⟨seq, packet, hn, hp, hout, hpk, hex, hmax⟩
  · exact giveOut_nothing h hsame hnone
  · have hpop : (s.giveOut r).popped = s.popped ++ [seq] := by
      rw [Session.giveOut, hout, ← h.keyed seq packet hp]
      rfl
    have hmem : seq ∈ s.buffer.packets := mem_of_lookup hp
    obtain ⟨e, he⟩ : ∃ e, s.buffer.expectedSeq = some e := by
      cases he : s.buffer.expectedSeq with
      | none =>
        have := AList.mem_keys.mp hmem
        rw [(h.unused he).1] at this
        cases this
      | some e => exact ⟨e, rfl⟩
    have hwin := h.held e he
    have hlt : ∀ k ∈ s.buffer.packets.keys, k ≠ seq → ahead e seq < ahead e k :=
      fun k hk hne => h.nextSeq_oldest he hn (hs (by simp [hout])) hk hne
    refine ⟨?_, fun k p hl => ?_, fun hnone => ?_, fun e' he' k hk => ?_, fun last hl => ?_, ?_⟩
    · show r.1.packets.keys.length ≤ r.1.maxPackets
      rw [hpk, hmax]
      exact (length_keys_erase_le _ _).trans h.bounded
    · have hl : r.1.packets.lookup k = some p := hl
      rw [hpk] at hl
      exact h.keyed k p (lookup_of_erase hl).2
    · have hnone : r.1.expectedSeq = none := hnone
      rw [hex] at hnone
      cases hnone
    · have he' : r.1.expectedSeq = some e' := he'
      have hk : k ∈ r.1.packets.keys := hk
      rw [hex, Option.some.injEq] at he'
      rw [hpk, ← AList.mem_keys, AList.mem_erase] at hk
      have hk' := AList.mem_keys.mp hk.2
      have h1 := hlt k hk' hk.1
      have h2 := ahead_sub (Nat.le_of_lt h1)
      have h3 := ahead_succ (a := seq) (c := k) (by omega)
      have h4 := hwin k hk'
      have h5 := reach_le s.popped
      rw [hpop, reach, if_neg (List.append_ne_nil_of_right_ne_nil _ (List.cons_ne_nil _ _)), ← he']
      omega
    · rw [hpop, List.getLast?_concat] at hl
      show r.1.expectedSeq = _
      rw [hex, Option.some.inj hl]
    · rw [hpop]
      refine List.isChain_append.mpr ⟨h.chain, .singleton seq, fun last hl k hk => ?_⟩
      rw [List.head?_cons, Option.mem_def, Option.some.injEq] at hk
      subst hk
      have hnext := h.next last hl
      rw [he, Option.some.injEq] at hnext
      have hne : s.popped ≠ [] := by
        intro e
        rw [e] at hl
        cases hl
      have hr := hwin seq (AList.mem_keys.mp hmem)
      rw [reach, if_neg hne, hnext] at hr
      exact serialLt_of_ahead_succ hr

theorem ordered_step {s : Session} (h : Ordered s) {op : JitterOp} (hs : Straight s op) :
    Ordered (s.step op) ∧ DropsOldest s op := by
  cases op with
  | push packet => exact ⟨push_ordered h hs.1, push_dropsOldest h hs⟩
  | pop now =>
    obtain ⟨hp, hready⟩ := popLocked_pops s.buffer now
    exact ⟨giveOut_ordered h hp fun hne => hs (hready hne), trivial⟩
  | popWaitTurn now popNow =>
    obtain ⟨hp, hready⟩ := popWaitTurn_pops s.buffer now popNow
    exact ⟨giveOut_ordered h hp fun hne => hs (hready hne), trivial⟩

theorem start_ordered (maxPackets minBufferedPackets : Nat) (gapTimeout : Int) :
    Ordered (.start maxPackets minBufferedPackets gapTimeout) := by
  refine ⟨Nat.zero_le _, fun seq packet hl => ?_, fun _ => ⟨rfl, rfl⟩, fun e he => ?_,
    fun last hl => ?_, .nil⟩
  · have hl : (∅ : AList fun _ : UInt16 => RTPPacket).lookup seq = some packet := hl
    rw [AList.lookup_empty] at hl
    cases hl
  · cases he
  · cases hl

/-- In a run in which no packet comes late and the first packet is never chosen
among numbers that wrap: each packet given out is after the one before it, so
that no number comes twice without a whole turn between; the buffer holds no
more than it may; and what it drops is the oldest packet. -/
theorem jitter_ordered (maxPackets minBufferedPackets : Nat) (gapTimeout : Int)
    (ops : List JitterOp)
    (hs : Along Session.step Straight (.start maxPackets minBufferedPackets gapTimeout) ops) :
    let s := run Session.step (.start maxPackets minBufferedPackets gapTimeout) ops
    s.popped.IsChain SerialLt ∧
    (∃ us : List Nat, us.map UInt16.ofNat = s.popped ∧ us.Pairwise (· < ·)) ∧
    s.buffer.size ≤ s.buffer.maxPackets ∧
    Along Session.step DropsOldest (.start maxPackets minBufferedPackets gapTimeout) ops := by
  intro s
  have hstart := start_ordered maxPackets minBufferedPackets gapTimeout
  have hinv : Ordered s := hs.inv (P := Ordered) (fun s op hok h => (ordered_step h hok).1) hstart
  refine ⟨hinv.chain, exists_unwrapped hinv.chain, hinv.bounded, ?_⟩
  exact hs.of_inv (P := Ordered) (fun s op hok h => (ordered_step h hok).1)
    (fun s op hok h => (ordered_step h hok).2) hstart

/-- A packet with sequence number `seq`. -/
def numbered (seq : UInt16) : RTPPacket := ⟨⟨2, false, false, 0, false, 111, seq, 0, 7⟩, [1]⟩

/-- Packets that wrap in a small buffer, one of them missing. -/
def skipRun : List JitterOp :=
  [.push (numbered 65535), .pop 10, .push (numbered 2), .push (numbered 1), .popWaitTurn 20 25,
    .push (numbered 3), .pop 30, .pop 40, .pop 50]

theorem jitter_ordered_skipRun :
    let s := run Session.step (.start 2 1 0) skipRun
    s.popped = [65535, 1, 2, 3] ∧ s.popped.IsChain SerialLt :=
  ⟨by decide, (jitter_ordered 2 1 0 skipRun (by decide)).1⟩

/-- The sequence numbers held, expected and pushed. -/
def sequences (s : Session) : JitterOp → List UInt16
  | .push packet => heldWith s packet ++ s.buffer.expectedSeq.toList
  | _ => s.buffer.packets.keys ++ s.buffer.expectedSeq.toList

/-- They lie within half of the sequence space. -/
def HalfSpace (s : Session) (op : JitterOp) : Prop :=
  ∃ base, (sequences s op).all (fun k => ahead base k < 0x8000) = true

/-- 65534 is missing when 65535 and 0 are held. -/
def wrapRun : List JitterOp :=
  [.push (numbered 65533), .pop 10, .push (numbered 65535), .push (numbered 0), .pop 20, .pop 30]

/-- A buffer of two packets is given a third. -/
def fullRun : List JitterOp :=
  [.push (numbered 65535), .push (numbered 0), .push (numbered 1)]

/-- At the wrap the packets are given out in the wrong order, and a full buffer
drops another packet than the oldest. -/
theorem wrapRun_disordered :
    (Along Session.step HalfSpace (.start 128 1 0) wrapRun ∧
      (run Session.step (.start 128 1 0) wrapRun).popped = [65533, 0, 65535] ∧
      ¬ (run Session.step (.start 128 1 0) wrapRun).popped.IsChain SerialLt) ∧
    Along Session.step HalfSpace (.start 2 1 0) fullRun ∧
      ¬ Along Session.step DropsOldest (.start 2 1 0) fullRun := by
  have hwrap : (run Session.step (.start 128 1 0) wrapRun).popped = [65533, 0, 65535] := by decide
  refine ⟨⟨?_, hwrap, ?_⟩, ?_, fun h => ?_⟩
  · exact ⟨⟨65533, by decide⟩, ⟨65533, by decide⟩, ⟨65533, by decide⟩, ⟨65533, by decide⟩,
      ⟨65533, by decide⟩, ⟨65535, by decide⟩, trivial⟩
  · rw [hwrap]
    decide
  · exact ⟨⟨65535, by decide⟩, ⟨65535, by decide⟩, ⟨65535, by decide⟩, trivial⟩
  · have := h.2.2.1 0 (by decide) (by decide) 65535 (by decide) (by decide)
    revert this
    decide

end MeetingSystem.Proof.Client
