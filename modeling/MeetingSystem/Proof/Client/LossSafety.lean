import Mathlib.Data.List.Nodup
import MeetingSystem.Framework.Run
import MeetingSystem.Proof.Client.H264RoundTrip

/-!
# The assembler when packets are lost, repeated or reordered

The sender numbers the packets of its frames one after another (`sendFrames`);
the assembler receives any of these packets in any order. While it works on a
frame, `Working` says what its state can be: marked as corrupted, done with the
last packet, or what it would be had exactly the packets up to here arrived.

* `emitted_whole`: where no packet but the first one of a frame opens it, every
  access unit is the whole frame;
* `lostStart_emitted`: the frame whose first packet was lost is handed out.
-/

namespace MeetingSystem.Proof.Client

open MeetingSystem.Impl.Client MeetingSystem.Impl.Client.H264AccessUnitAssembler
open MeetingSystem.Framework

/-! ## What is sent and what is emitted -/

/-- A frame as the encoder hands it over; `header` has its timestamp. -/
structure EncodedFrame where
  header : RTPHeader
  bytes : List UInt8

/-- A frame with the payloads it is sent in, the first numbered `sequence`. -/
structure SentFrame where
  frame : EncodedFrame
  sequence : UInt16
  payloads : List (List UInt8)

def SentFrame.packets (s : SentFrame) : List RTPPacket :=
  rtpPackets s.frame.header s.sequence s.payloads

def SentFrame.timestamp (s : SentFrame) : UInt32 := s.frame.header.timestamp

/-- The frames as they are sent: the sequence numbers run on from one to the
next. -/
def sendFrames (maxPayloadBytes : Nat) : UInt16 → List EncodedFrame → List SentFrame
  | _, [] => []
  | sequence, frame :: frames =>
    let payloads := packetizeH264AnnexB frame.bytes maxPayloadBytes
    ⟨frame, sequence, payloads⟩ ::
      sendFrames maxPayloadBytes (sequence + UInt16.ofNat payloads.length) frames

/-- The state after a packet. -/
def advance (m : H264AccessUnitAssembler) (packet : RTPPacket) : H264AccessUnitAssembler :=
  (m.consume packet).1

/-- The access unit of the last packet, when all packets arrive and in order. -/
def assembled (packets : List RTPPacket) : Option H264AccessUnit :=
  packets.getLast?.bind fun packet =>
    ((run advance .init packets.dropLast).consume packet).2.accessUnit

/-- The units of the frame can be told from FU-A packets, and a fragment fits
into a payload. -/
def Sendable (maxPayloadBytes : Nat) (frame : EncodedFrame) : Prop :=
  splitAnnexBNalus frame.bytes ≠ [] ∧ 3 ≤ maxPayloadBytes ∧
    ∀ nalu ∈ splitAnnexBNalus frame.bytes, ∀ b ∈ nalu.head?, b &&& 0x1F ≠ 28

/-- What the packet makes the assembler emit is the whole frame it ends. -/
def EmitsWhole (sent : List SentFrame) (m : H264AccessUnitAssembler) (packet : RTPPacket) : Prop :=
  ∀ unit, (m.consume packet).2.accessUnit = some unit →
    ∃ s ∈ sent, s.packets.getLast? = some packet ∧ assembled s.packets = some unit

/-- A FU-A packet that does not start a unit. -/
def startsNoUnit : List UInt8 → Bool
  | [] => false
  | first :: rest => first &&& 0x1F == 28 && (rest.headD 0 &&& 0x80 == 0)

/-- The packet is ignored, belongs to the frame under way, is the first of its
frame, or is a fragment that cannot be the first. -/
def OpensAtStart (sent : List SentFrame) (m : H264AccessUnitAssembler) (packet : RTPPacket) :
    Prop :=
  m.checkSequence packet.header = none ∨
    (m.hasTimestamp = true ∧ packet.header.timestamp = m.timestamp) ∨
    (∃ s ∈ sent, s.packets.head? = some packet) ∨ startsNoUnit packet.payload = true

instance (sent : List SentFrame) (m : H264AccessUnitAssembler) (packet : RTPPacket) :
    Decidable (OpensAtStart sent m packet) := inferInstanceAs (Decidable (_ ∨ _))

/-! ## The packets of a frame -/

theorem getElem?_rtpPackets (header : RTPHeader) (seq : UInt16) (payloads : List (List UInt8))
    (j : Nat) :
    (rtpPackets header seq payloads)[j]? = payloads[j]?.map fun payload =>
      ⟨{ header with marker := decide (j + 1 = payloads.length),
                     sequenceNumber := seq + UInt16.ofNat j }, payload⟩ := by
  induction payloads generalizing seq j with
  | nil => simp [rtpPackets]
  | cons payload payloads ih =>
    cases j with
    | zero => cases payloads <;> simp [rtpPackets]
    | succ j =>
      have hseq : seq + 1 + UInt16.ofNat j = seq + UInt16.ofNat (j + 1) := by
        rw [UInt16.ofNat_add, UInt16.add_assoc, UInt16.add_comm 1]
        rfl
      simp [rtpPackets, ih, hseq]

/-- The header of packet `j`. -/
theorem SentFrame.header_at {s : SentFrame} {p : RTPPacket} {j : Nat}
    (hj : s.packets[j]? = some p) :
    p.header.timestamp = s.timestamp ∧ p.header.sequenceNumber = s.sequence + UInt16.ofNat j ∧
      p.header.marker = decide (j + 1 = s.packets.length) := by
  have hlen : s.packets.length = s.payloads.length := length_rtpPackets ..
  rw [SentFrame.packets, getElem?_rtpPackets, Option.map_eq_some_iff] at hj
  obtain ⟨payload, -, rfl⟩ := hj
  rw [hlen]
  exact ⟨rfl, rfl, rfl⟩

theorem SentFrame.lt_of_at {s : SentFrame} {p : RTPPacket} {j : Nat}
    (hj : s.packets[j]? = some p) : j < s.packets.length :=
  (List.getElem?_eq_some_iff.mp hj).1

/-- The number of a packet tells where in the frame it stands. -/
theorem ofNat_inj_of_lt {a b : Nat} {seq : UInt16} (ha : a < 65536) (hb : b < 65536)
    (h : seq + UInt16.ofNat a = seq + UInt16.ofNat b) : a = b := by
  have h' := congrArg UInt16.toNat ((UInt16.add_right_inj seq).mp h)
  rw [UInt16.toNat_ofNat', UInt16.toNat_ofNat'] at h'
  omega

/-! ## One packet -/

/-- The assembler behind its checks, with what they found. -/
def addAndFinish (m : H264AccessUnitAssembler) (p : RTPPacket) (loss : Bool)
    (missing : List UInt16) : H264AccessUnitAssembler × ConsumeResult :=
  match p.payload with
  | [] => (m, ⟨none, loss, missing⟩)
  | first :: rest =>
    match m.addPayload first rest with
    | (m, false) => (m, ⟨none, true, missing⟩)
    | (m, true) => m.finish p.header loss missing

theorem consume_taken {m m' : H264AccessUnitAssembler} {p : RTPPacket} {gap : Bool}
    {missing : List UInt16} (h : m.checkSequence p.header = some (m', gap, missing)) :
    m.consume p = addAndFinish (m'.checkTimestamp p.header).1 p
      (gap || (m'.checkTimestamp p.header).2) missing := by
  rw [consume, h]
  rfl

theorem consume_ignored {m : H264AccessUnitAssembler} {p : RTPPacket}
    (h : m.checkSequence p.header = none) : m.consume p = (m, ⟨none, false, []⟩) := by
  rw [consume, h]

/-- What a packet's payload leaves alone: what is expected next. -/
structure SameClock (m m' : H264AccessUnitAssembler) : Prop where
  timestamp : m'.timestamp = m.timestamp
  hasTimestamp : m'.hasTimestamp = m.hasTimestamp
  expectedSequence : m'.expectedSequence = m.expectedSequence
  hasExpectedSequence : m'.hasExpectedSequence = m.hasExpectedSequence

theorem SameClock.trans {a b c : H264AccessUnitAssembler} (h : SameClock a b)
    (h' : SameClock b c) : SameClock a c :=
  ⟨h'.1.trans h.1, h'.2.trans h.2, h'.3.trans h.3, h'.4.trans h.4⟩

/-- A payload changes no clock and never makes a corrupted access unit whole. -/
theorem addPayload_frame (m : H264AccessUnitAssembler) (first : UInt8) (rest : List UInt8) :
    SameClock m (m.addPayload first rest).1 ∧
      (m.accessUnitCorrupted = true → (m.addPayload first rest).1.accessUnitCorrupted = true) := by
  unfold addPayload
  split
  · cases rest with
    | nil => exact ⟨⟨rfl, rfl, rfl, rfl⟩, fun _ => rfl⟩
    | cons fuHeader fragment =>
      dsimp only
      by_cases hs : fuHeader &&& 0x80 ≠ 0
      · rw [if_pos hs, if_neg (List.cons_ne_nil _ _)]
        split <;> exact ⟨⟨rfl, rfl, rfl, rfl⟩, fun h => h⟩
      · rw [if_neg hs]
        split
        · exact ⟨⟨rfl, rfl, rfl, rfl⟩, fun _ => rfl⟩
        · split <;> exact ⟨⟨rfl, rfl, rfl, rfl⟩, fun h => h⟩
  · dsimp only
    split
    · exact ⟨⟨rfl, rfl, rfl, rfl⟩, fun _ => rfl⟩
    · exact ⟨⟨rfl, rfl, rfl, rfl⟩, fun h => h⟩

theorem finish_sameClock (m : H264AccessUnitAssembler) (header : RTPHeader) (loss : Bool)
    (missing : List UInt16) : SameClock m (m.finish header loss missing).1 := by
  unfold finish
  split
  · exact ⟨rfl, rfl, rfl, rfl⟩
  · dsimp only
    split <;> exact ⟨rfl, rfl, rfl, rfl⟩

theorem addAndFinish_sameClock (m : H264AccessUnitAssembler) (p : RTPPacket) (loss : Bool)
    (missing : List UInt16) : SameClock m (addAndFinish m p loss missing).1 := by
  unfold addAndFinish
  split
  · exact ⟨rfl, rfl, rfl, rfl⟩
  · rename_i first rest _
    have h := (addPayload_frame m first rest).1
    split
    · rename_i m' he
      rw [he] at h
      exact h
    · rename_i m' he
      rw [he] at h
      exact h.trans (finish_sameClock ..)

/-- Only a packet with the marker makes the assembler emit. -/
theorem addAndFinish_marker {m : H264AccessUnitAssembler} {p : RTPPacket} {loss : Bool}
    {missing : List UInt16} {unit : H264AccessUnit}
    (h : (addAndFinish m p loss missing).2.accessUnit = some unit) : p.header.marker = true := by
  unfold addAndFinish at h
  split at h
  · cases h
  split at h
  · cases h
  · unfold finish at h
    split at h
    · cases h
    · rename_i hm
      simp only [not_or, Bool.not_eq_true, Bool.not_eq_false] at hm
      exact hm.1

/-- A corrupted access unit is not emitted, and stays corrupted up to the
marker. -/
theorem addAndFinish_corrupted {m : H264AccessUnitAssembler} (p : RTPPacket) (loss : Bool)
    (missing : List UInt16) (h : m.accessUnitCorrupted = true) :
    (addAndFinish m p loss missing).2.accessUnit = none ∧
      ((addAndFinish m p loss missing).1.accessUnitCorrupted = true ∨ p.header.marker = true) := by
  unfold addAndFinish
  split
  · exact ⟨rfl, .inl h⟩
  · rename_i first rest _
    have hc := (addPayload_frame m first rest).2 h
    split
    · rename_i m' he
      rw [he] at hc
      exact ⟨rfl, .inl hc⟩
    · rename_i m' he
      rw [he] at hc
      simp only at hc
      unfold finish
      split
      · exact ⟨rfl, .inl hc⟩
      · rename_i hm
        simp only [not_or, Bool.not_eq_true, Bool.not_eq_false] at hm
        simp [hc, hm.1]

/-- A fragment without a unit to belong to marks the access unit. -/
theorem addAndFinish_startsNoUnit (ts : UInt32) (seq : UInt16) {p : RTPPacket}
    (h : startsNoUnit p.payload = true) (loss : Bool) (missing : List UInt16) :
    (addAndFinish (inFrame ts seq [] []) p loss missing).2.accessUnit = none ∧
      (addAndFinish (inFrame ts seq [] []) p loss missing).1.accessUnitCorrupted = true := by
  unfold addAndFinish
  cases hp : p.payload with
  | nil => rw [hp] at h; cases h
  | cons first rest =>
    rw [hp] at h
    simp only [startsNoUnit, Bool.and_eq_true, beq_iff_eq] at h
    cases rest with
    | nil => simp [addPayload, h.1]
    | cons fuHeader fragment =>
      have hs : fuHeader &&& 0x80 = 0 := h.2
      simp [addPayload, h.1, hs, inFrame]

/-- What was found before is only reported. -/
theorem addAndFinish_report (m : H264AccessUnitAssembler) (p : RTPPacket) (loss loss' : Bool)
    (missing missing' : List UInt16) :
    (addAndFinish m p loss missing).1 = (addAndFinish m p loss' missing').1 ∧
      (addAndFinish m p loss missing).2.accessUnit =
        (addAndFinish m p loss' missing').2.accessUnit := by
  unfold addAndFinish
  split
  · exact ⟨rfl, rfl⟩
  split
  · exact ⟨rfl, rfl⟩
  · unfold finish
    split
    · exact ⟨rfl, rfl⟩
    · dsimp only
      split <;> exact ⟨rfl, rfl⟩

/-- The number after the packet's is expected. -/
def Numbered (m m' : H264AccessUnitAssembler) (header : RTPHeader) : Prop :=
  m'.hasTimestamp = m.hasTimestamp ∧ m'.timestamp = m.timestamp ∧ m'.hasExpectedSequence = true ∧
    m'.expectedSequence = header.sequenceNumber + 1

/-- Nothing but the expected number changes. -/
def expecting (m : H264AccessUnitAssembler) (header : RTPHeader) : H264AccessUnitAssembler :=
  { m with expectedSequence := header.sequenceNumber + 1, hasExpectedSequence := true }

theorem expecting_numbered (m : H264AccessUnitAssembler) (header : RTPHeader) :
    Numbered m (expecting m header) header := ⟨rfl, rfl, rfl, rfl⟩

/-- The packet is ignored, comes behind a gap, or is the one expected. -/
theorem checkSequence_cases (m : H264AccessUnitAssembler) (header : RTPHeader) :
    m.checkSequence header = none ∨
    (∃ m' missing, m.checkSequence header = some (m', true, missing) ∧
      m'.accessUnitCorrupted = true ∧ Numbered m m' header) ∨
    ((m.hasExpectedSequence = true → header.sequenceNumber = m.expectedSequence) ∧
      m.checkSequence header = some (expecting m header, false, [])) := by
  unfold checkSequence
  by_cases hgap : m.hasExpectedSequence = true ∧ header.sequenceNumber ≠ m.expectedSequence
  · simp only [if_pos hgap]
    split
    · refine .inr (.inl ⟨_, _, rfl, ?_⟩)
      split <;> exact ⟨rfl, rfl, rfl, rfl, rfl⟩
    · exact .inl rfl
  · rw [if_neg hgap]
    refine .inr (.inr ⟨fun h => ?_, rfl⟩)
    by_contra hne
    exact hgap ⟨h, hne⟩

theorem checkTimestamp_opens {m m' : H264AccessUnitAssembler} {header : RTPHeader}
    (hm : Numbered m m' header) (h : ¬ (m.hasTimestamp = true ∧ header.timestamp = m.timestamp)) :
    (m'.checkTimestamp header).1 =
      inFrame header.timestamp (header.sequenceNumber + 1) [] [] := by
  have hnew : ¬ m'.hasTimestamp = true ∨ header.timestamp ≠ m'.timestamp := by
    rw [hm.1, hm.2.1]
    exact not_and_or.mp h
  simp only [checkTimestamp, if_pos hnew, inFrame, hm.2.2.1, hm.2.2.2]

theorem checkTimestamp_goesOn {m m' : H264AccessUnitAssembler} {header : RTPHeader}
    (hm : Numbered m m' header) (h : m.hasTimestamp = true ∧ header.timestamp = m.timestamp) :
    m'.checkTimestamp header = (m', false) := by
  have hold : ¬ (¬ m'.hasTimestamp = true ∨ header.timestamp ≠ m'.timestamp) := by
    rw [hm.1, hm.2.1]
    simp [h.1, h.2]
  rw [checkTimestamp, if_neg hold]

/-- What `consume` does with a packet: it ignores it, opens a new frame with it,
finds packets of the frame missing before it, or goes on with it. -/
theorem consume_cases (m : H264AccessUnitAssembler) (p : RTPPacket) :
    (m.checkSequence p.header = none ∧ m.consume p = (m, ⟨none, false, []⟩)) ∨
    (m.checkSequence p.header ≠ none ∧
      ¬ (m.hasTimestamp = true ∧ p.header.timestamp = m.timestamp) ∧ ∃ loss missing, m.consume p =
        addAndFinish (inFrame p.header.timestamp (p.header.sequenceNumber + 1) [] []) p
          loss missing) ∨
    (∃ m' loss missing, (m.hasTimestamp = true ∧ p.header.timestamp = m.timestamp) ∧
      m'.accessUnitCorrupted = true ∧ Numbered m m' p.header ∧
      m.consume p = addAndFinish m' p loss missing) ∨
    ((m.hasTimestamp = true ∧ p.header.timestamp = m.timestamp) ∧
      (m.hasExpectedSequence = true → p.header.sequenceNumber = m.expectedSequence) ∧
      m.consume p = addAndFinish (expecting m p.header) p false []) := by
  by_cases hts : m.hasTimestamp = true ∧ p.header.timestamp = m.timestamp
  · rcases checkSequence_cases m p.header with h | ⟨m', missing, h, hc, hn⟩ | ⟨hseq, h⟩
    · exact .inl ⟨h, consume_ignored h⟩
    · refine .inr (.inr (.inl ⟨m', true, missing, hts, hc, hn, ?_⟩))
      rw [consume_taken h, checkTimestamp_goesOn hn hts]
      rfl
    · refine .inr (.inr (.inr ⟨hts, hseq, ?_⟩))
      rw [consume_taken h, checkTimestamp_goesOn (expecting_numbered m p.header) hts]
      rfl
  · rcases checkSequence_cases m p.header with h | ⟨m', missing, h, -, hn⟩ | ⟨-, h⟩
    · exact .inl ⟨h, consume_ignored h⟩
    · have hc := consume_taken h
      rw [checkTimestamp_opens hn hts] at hc
      exact .inr (.inl ⟨by simp [h], hts, _, _, hc⟩)
    · have hc := consume_taken h
      rw [checkTimestamp_opens (expecting_numbered m p.header) hts] at hc
      exact .inr (.inl ⟨by simp [h], hts, _, _, hc⟩)

theorem checkSequence_next {m : H264AccessUnitAssembler} {header : RTPHeader}
    (hseq : header.sequenceNumber = m.expectedSequence) :
    m.checkSequence header = some (expecting m header, false, []) := by
  rw [checkSequence, if_neg (fun h => h.2 hseq)]
  rfl

theorem consume_next {m : H264AccessUnitAssembler} {p : RTPPacket}
    (hts : m.hasTimestamp = true ∧ p.header.timestamp = m.timestamp)
    (hseq : p.header.sequenceNumber = m.expectedSequence) :
    m.consume p = addAndFinish (expecting m p.header) p false [] := by
  rw [consume_taken (checkSequence_next hseq), checkTimestamp_goesOn (expecting_numbered m p.header) hts]
  rfl

/-! ## A frame under way -/

/-- The assembler before the first packet of the frame. -/
def SentFrame.opened (s : SentFrame) : H264AccessUnitAssembler :=
  inFrame s.timestamp s.sequence [] []

/-- The assembler has taken packet `k` of the frame last. -/
structure Taken (s : SentFrame) (m : H264AccessUnitAssembler) (k : Nat) : Prop where
  lt : k < s.packets.length
  hasTimestamp : m.hasTimestamp = true
  timestamp : m.timestamp = s.timestamp
  hasExpectedSequence : m.hasExpectedSequence = true
  expectedSequence : m.expectedSequence = s.sequence + UInt16.ofNat (k + 1)

structure Working (s : SentFrame) (m : H264AccessUnitAssembler) (k : Nat) : Prop
    extends Taken s m k where
  progress : m.accessUnitCorrupted = true ∨ k + 1 = s.packets.length ∨
    m = run advance s.opened (s.packets.take (k + 1))

theorem ofNat_succ (seq : UInt16) (j : Nat) :
    seq + UInt16.ofNat j + 1 = seq + UInt16.ofNat (j + 1) := by
  rw [UInt16.ofNat_add, UInt16.add_assoc]
  rfl

/-- The packets up to `j` have been taken once packet `j` is. -/
theorem run_take_succ {s : SentFrame} {p : RTPPacket} {j : Nat} (hp : s.packets[j]? = some p)
    (m : H264AccessUnitAssembler) :
    run advance m (s.packets.take (j + 1)) = advance (run advance m (s.packets.take j)) p := by
  rw [List.take_add_one, hp, run_append]
  rfl

/-- The first packet of a frame finds the assembler as if it had nothing
before. -/
theorem consume_init {s : SentFrame} {p : RTPPacket} (hp : s.packets[0]? = some p) :
    H264AccessUnitAssembler.init.consume p = s.opened.consume p := by
  obtain ⟨hts, hseq, -⟩ := SentFrame.header_at hp
  have hseq : p.header.sequenceNumber = s.sequence := by simpa using hseq
  have h := consume_start (m := .init) p.header p.payload (by simp [H264AccessUnitAssembler.init])
    (by simp [H264AccessUnitAssembler.init]) rfl rfl
  rw [hts, hseq] at h
  exact h

/-- A whole frame is assembled from its packets one by one. -/
theorem assembled_eq {s : SentFrame} {p : RTPPacket} {j : Nat} (hp : s.packets[j]? = some p)
    (hlast : j + 1 = s.packets.length) :
    assembled s.packets =
      ((run advance s.opened (s.packets.take j)).consume p).2.accessUnit := by
  have hget : s.packets.getLast? = some p := by
    rw [List.getLast?_eq_getElem?, ← hlast]
    exact hp
  rw [assembled, hget, Option.bind_some, List.dropLast_eq_take, ← hlast, Nat.add_sub_cancel]
  cases j with
  | zero =>
    rw [List.take_zero, run_nil, run_nil, consume_init hp]
  | succ j =>
    obtain ⟨q, qs, hq⟩ := List.exists_cons_of_ne_nil
      (List.ne_nil_of_length_pos (show 0 < s.packets.length by omega))
    have hfirst : s.packets[0]? = some q := by rw [hq]; rfl
    have hadv : advance .init q = advance s.opened q := congrArg Prod.fst (consume_init hfirst)
    rw [hq, List.take_succ_cons, run_cons, run_cons, hadv]

/-- The clocks of `m` are those after packet `p` of the frame was taken. -/
def ClockAt (s : SentFrame) (m : H264AccessUnitAssembler) (p : RTPPacket) : Prop :=
  m.hasTimestamp = true ∧ m.timestamp = s.timestamp ∧ m.hasExpectedSequence = true ∧
    m.expectedSequence = p.header.sequenceNumber + 1

theorem taken_of_clock {s : SentFrame} {m m' : H264AccessUnitAssembler} {p : RTPPacket} {j : Nat}
    {loss : Bool} {missing : List UInt16} (hp : s.packets[j]? = some p) (hm : ClockAt s m' p)
    (he : m.consume p = addAndFinish m' p loss missing) : Taken s (advance m p) j := by
  have hc : SameClock m' (advance m p) := by
    rw [advance, he]
    exact addAndFinish_sameClock ..
  obtain ⟨hts, hseq, -⟩ := SentFrame.header_at hp
  refine ⟨SentFrame.lt_of_at hp, hc.2.trans hm.1, hc.1.trans hm.2.1, hc.4.trans hm.2.2.1, ?_⟩
  rw [hc.3, hm.2.2.2, hseq, ofNat_succ]

/-- The expected number is that of the packet behind the last one taken. -/
theorem Taken.next_index {s : SentFrame} {m : H264AccessUnitAssembler} {p : RTPPacket} {j k : Nat}
    (h : Taken s m k) (hlen : s.packets.length < 65536) (hp : s.packets[j]? = some p)
    (hseq : p.header.sequenceNumber = m.expectedSequence) : j = k + 1 := by
  have hj := SentFrame.lt_of_at hp
  have hk := h.lt
  rw [(SentFrame.header_at hp).2.1, h.expectedSequence] at hseq
  exact ofNat_inj_of_lt (by omega) (by omega) hseq

/-- What holds whenever the assembler is given a packet. -/
def Tracks (sent : List SentFrame) (m : H264AccessUnitAssembler) : Prop :=
  m.hasTimestamp = false ∨ ∃ s ∈ sent, ∃ k, Working s m k

/-- A packet that leaves the access unit corrupted, or is the last. -/
theorem step_corrupted {sent : List SentFrame} {s : SentFrame} (hs : s ∈ sent)
    {m m' : H264AccessUnitAssembler} {p : RTPPacket} {j : Nat} {loss : Bool}
    {missing : List UInt16} (hp : s.packets[j]? = some p)
    (hm : ClockAt s m' p) (he : m.consume p = addAndFinish m' p loss missing)
    (hc : m'.accessUnitCorrupted = true) :
    Tracks sent (advance m p) ∧ EmitsWhole sent m p := by
  obtain ⟨hnone, hstay⟩ := addAndFinish_corrupted p loss missing hc
  refine ⟨.inr ⟨s, hs, j, taken_of_clock hp hm he, ?_⟩, fun unit hu => ?_⟩
  · rw [advance, he]
    rcases hstay with hstay | hmark
    · exact .inl hstay
    · rw [(SentFrame.header_at hp).2.2, decide_eq_true_eq] at hmark
      exact .inr (.inl hmark)
  · rw [he, hnone] at hu
    cases hu

/-- The first packet of a frame opens it as if nothing had come before. -/
theorem step_first {sent : List SentFrame} {s : SentFrame} (hs : s ∈ sent)
    {m : H264AccessUnitAssembler} {p : RTPPacket} {loss : Bool} {missing : List UInt16}
    (hp : s.packets[0]? = some p)
    (he : m.consume p = addAndFinish
      (inFrame p.header.timestamp (p.header.sequenceNumber + 1) [] []) p loss missing) :
    Tracks sent (advance m p) ∧ EmitsWhole sent m p := by
  obtain ⟨hts, hseq, hmark⟩ := SentFrame.header_at hp
  have hopen : s.opened.consume p = addAndFinish
      (inFrame p.header.timestamp (p.header.sequenceNumber + 1) [] []) p false [] := by
    rw [consume_next (m := s.opened) ⟨rfl, hts⟩ (by simpa [SentFrame.opened, inFrame] using hseq), hts]
    rfl
  have hsame := addAndFinish_report
    (inFrame p.header.timestamp (p.header.sequenceNumber + 1) [] []) p loss false missing []
  rw [← he, ← hopen] at hsame
  refine ⟨.inr ⟨s, hs, 0, taken_of_clock hp ⟨rfl, hts, rfl, rfl⟩ he, .inr (.inr ?_)⟩,
    fun unit hu => ⟨s, hs, ?_⟩⟩
  · rw [run_take_succ hp, List.take_zero, run_nil]
    exact hsame.1
  · have hlast := addAndFinish_marker (he ▸ hu)
    rw [hmark, decide_eq_true_eq] at hlast
    refine ⟨?_, ?_⟩
    · rw [List.getLast?_eq_getElem?, ← hlast]
      exact hp
    · rw [assembled_eq hp hlast, List.take_zero, run_nil, ← hsame.2, hu]

/-- The packet that follows the last one taken. -/
theorem step_next {sent : List SentFrame} {s : SentFrame} (hs : s ∈ sent)
    (hlen : s.packets.length < 65536) {m : H264AccessUnitAssembler} {p : RTPPacket} {j k : Nat}
    (hp : s.packets[j]? = some p) (hw : Working s m k)
    (hseq : p.header.sequenceNumber = m.expectedSequence) :
    Tracks sent (advance m p) ∧ EmitsWhole sent m p := by
  obtain ⟨hts, hnum, hmark⟩ := SentFrame.header_at hp
  have hold : m.hasTimestamp = true ∧ p.header.timestamp = m.timestamp :=
    ⟨hw.hasTimestamp, hts.trans hw.timestamp.symm⟩
  have he := consume_next hold hseq
  have hclock : ClockAt s (expecting m p.header) p := ⟨hw.hasTimestamp, hw.timestamp, rfl, rfl⟩
  have hj : j = k + 1 := hw.toTaken.next_index hlen hp hseq
  rcases hw.progress with hc | hend | hrun
  · exact step_corrupted hs hp hclock he hc
  · have := SentFrame.lt_of_at hp
    omega
  · rw [← hj] at hrun
    refine ⟨.inr ⟨s, hs, j, taken_of_clock hp hclock he, .inr (.inr ?_)⟩,
      fun unit hu => ⟨s, hs, ?_⟩⟩
    · rw [run_take_succ hp, ← hrun]
    · have hlast := addAndFinish_marker (he ▸ hu)
      rw [hmark, decide_eq_true_eq] at hlast
      refine ⟨?_, ?_⟩
      · rw [List.getLast?_eq_getElem?, ← hlast]
        exact hp
      · rw [assembled_eq hp hlast, ← hrun, hu]

/-- The timestamps tell the frames apart, and the sequence numbers the packets
of one frame. -/
structure Distinct (sent : List SentFrame) : Prop where
  timestamp : ∀ s ∈ sent, ∀ t ∈ sent, s.timestamp = t.timestamp → s = t
  length : ∀ s ∈ sent, s.packets.length < 65536

theorem tracks_step {sent : List SentFrame} (hd : Distinct sent) {m : H264AccessUnitAssembler}
    {p : RTPPacket} (hp : ∃ s ∈ sent, p ∈ s.packets) (hopen : OpensAtStart sent m p)
    (hm : Tracks sent m) : Tracks sent (advance m p) ∧ EmitsWhole sent m p := by
  obtain ⟨s, hs, hp⟩ := hp
  obtain ⟨j, hj⟩ := List.getElem?_of_mem hp
  have hts := (SentFrame.header_at hj).1
  rcases consume_cases m p with ⟨-, he⟩ | ⟨htaken, hnew, loss, missing, he⟩ |
    ⟨m', loss, missing, hold, hc, hn, he⟩ | ⟨hold, hseq, -⟩
  · refine ⟨by rw [advance, he]; exact hm, fun unit hu => ?_⟩
    rw [he] at hu
    cases hu
  · rcases hopen with h | h | ⟨t, ht, hhead⟩ | hfrag
    · exact absurd h htaken
    · exact absurd h hnew
    · exact step_first ht (by rw [← List.head?_eq_getElem?]; exact hhead) he
    · obtain ⟨hnone, hc⟩ := addAndFinish_startsNoUnit p.header.timestamp
        (p.header.sequenceNumber + 1) hfrag loss missing
      refine ⟨.inr ⟨s, hs, j, taken_of_clock hj ⟨rfl, hts, rfl, rfl⟩ he, .inl ?_⟩,
        fun unit hu => ?_⟩
      · rw [advance, he]
        exact hc
      · rw [he, hnone] at hu
        cases hu
  · exact step_corrupted hs hj ⟨hn.1.trans hold.1, hn.2.1.trans (hold.2.symm.trans hts), hn.2.2⟩
      he hc
  · rcases hm with hm | ⟨t, ht, k, hw⟩
    · rw [hm] at hold
      cases hold.1
    · obtain rfl := hd.timestamp t ht s hs (hw.timestamp.symm.trans (hold.2.symm.trans hts))
      exact step_next hs (hd.length t hs) hj hw (hseq hw.hasExpectedSequence)

/-! ## The whole frame -/

theorem consumeAll_snoc (m : H264AccessUnitAssembler) (ps : List RTPPacket) (p : RTPPacket) :
    (m.consumeAll (ps ++ [p])).2.getLast? = some ((run advance m ps).consume p).2 := by
  induction ps generalizing m with
  | nil => rfl
  | cons q ps ih =>
    have hne : (((m.consume q).1.consumeAll (ps ++ [p])).2) ≠ [] := by
      intro h
      have := ih (m.consume q).1
      rw [h] at this
      cases this
    rw [List.cons_append, consumeAll, run_cons]
    simp only
    rw [List.getLast?_cons, List.getLast?_eq_some_getLast hne]
    exact (List.getLast?_eq_some_getLast hne).symm.trans (ih (m.consume q).1)

/-- The packets of a frame that can be sent give its units. -/
theorem assembled_of_sendable {maxPayloadBytes : Nat} {s : SentFrame}
    (hpay : s.payloads = packetizeH264AnnexB s.frame.bytes maxPayloadBytes)
    (h : Sendable maxPayloadBytes s.frame) :
    assembled s.packets = some ⟨annexB (splitAnnexBNalus s.frame.bytes), s.timestamp.toNat,
      s.frame.header.payloadType⟩ := by
  obtain ⟨hunits, hmax, htype⟩ := h
  have hadds := addsAll_flatMap [] hmax (splitAnnexBNalus_separable s.frame.bytes).ne_nil htype
  rw [List.nil_append] at hadds
  have hannex : annexB (splitAnnexBNalus s.frame.bytes) ≠ [] := by
    obtain ⟨n, ns, hn⟩ := List.exists_cons_of_ne_nil hunits
    rw [hn, annexB_cons]
    simp
  have hps : packetizeH264AnnexB s.frame.bytes maxPayloadBytes ≠ [] := by
    intro e
    rw [packetizeH264AnnexB] at e
    rw [e] at hadds
    exact hannex (congrArg Prod.fst hadds.eq_of_nil).symm
  have hrun := consumeAll_rtpPackets s.frame.header s.sequence hps hadds hannex
  rw [← hpay] at hps hrun
  have hne : s.packets ≠ [] := by
    rw [← List.length_pos_iff, SentFrame.packets, length_rtpPackets]
    exact List.length_pos_of_ne_nil hps
  have hlast : s.packets[s.packets.length - 1]? = some (s.packets.getLast hne) := by
    rw [← List.getLast?_eq_getElem?, List.getLast?_eq_some_getLast hne]
  have hpos := List.length_pos_of_ne_nil hne
  rw [assembled_eq hlast (by omega), ← List.dropLast_eq_take]
  have hsnoc := consumeAll_snoc s.opened s.packets.dropLast (s.packets.getLast hne)
  rw [List.dropLast_append_getLast hne] at hsnoc
  have hlastResult := congrArg List.getLast? hrun
  rw [List.getLast?_concat] at hlastResult
  have hres := Option.some.inj (hsnoc.symm.trans hlastResult)
  rw [hres]
  rfl

theorem sendFrames_payloads {maxPayloadBytes : Nat} {seq : UInt16} {frames : List EncodedFrame}
    {s : SentFrame} (h : s ∈ sendFrames maxPayloadBytes seq frames) :
    s.payloads = packetizeH264AnnexB s.frame.bytes maxPayloadBytes := by
  induction frames generalizing seq with
  | nil => cases h
  | cons frame frames ih =>
    rcases List.mem_cons.mp h with rfl | h
    · rfl
    · exact ih h

theorem sendFrames_frames (maxPayloadBytes : Nat) (seq : UInt16) (frames : List EncodedFrame) :
    (sendFrames maxPayloadBytes seq frames).map (·.frame) = frames := by
  induction frames generalizing seq with
  | nil => rfl
  | cons frame frames ih => rw [sendFrames, List.map_cons, ih]

theorem sendFrames_timestamp_inj {maxPayloadBytes : Nat} {seq : UInt16}
    {frames : List EncodedFrame} (hts : (frames.map (·.header.timestamp)).Nodup)
    {s t : SentFrame} (hs : s ∈ sendFrames maxPayloadBytes seq frames)
    (ht : t ∈ sendFrames maxPayloadBytes seq frames) (h : s.timestamp = t.timestamp) : s = t := by
  have hnodup : ((sendFrames maxPayloadBytes seq frames).map SentFrame.timestamp).Nodup := by
    rw [← sendFrames_frames maxPayloadBytes seq frames, List.map_map] at hts
    exact hts
  exact List.inj_on_of_nodup_map hnodup hs ht h

/-- Frames sent in fewer packets than there are sequence numbers. -/
theorem sendFrames_distinct {maxPayloadBytes : Nat} (seq : UInt16) {frames : List EncodedFrame}
    (hts : (frames.map (·.header.timestamp)).Nodup)
    (hlen : ∀ frame ∈ frames, (packetizeH264AnnexB frame.bytes maxPayloadBytes).length < 65536) :
    Distinct (sendFrames maxPayloadBytes seq frames) := by
  refine ⟨fun s hs t ht h => sendFrames_timestamp_inj hts hs ht h, fun s hs => ?_⟩
  rw [SentFrame.packets, length_rtpPackets, sendFrames_payloads hs]
  apply hlen
  rw [← sendFrames_frames maxPayloadBytes seq frames]
  exact List.mem_map_of_mem hs

/-- Whatever is lost, repeated or reordered, every access unit that comes out
is a whole frame, at the frame's last packet, as long as only the first packet
of a frame, or a fragment that cannot be the first, opens it. -/
theorem emitted_whole (maxPayloadBytes : Nat) (seq : UInt16) (frames : List EncodedFrame)
    (hts : (frames.map (·.header.timestamp)).Nodup)
    (hlen : ∀ frame ∈ frames, (packetizeH264AnnexB frame.bytes maxPayloadBytes).length < 65536)
    (delivered : List RTPPacket)
    (hd : ∀ p ∈ delivered, ∃ s ∈ sendFrames maxPayloadBytes seq frames, p ∈ s.packets)
    (hopen : Along advance (OpensAtStart (sendFrames maxPayloadBytes seq frames)) .init delivered) :
    Along advance (EmitsWhole (sendFrames maxPayloadBytes seq frames)) .init delivered ∧
    ∀ s ∈ sendFrames maxPayloadBytes seq frames, Sendable maxPayloadBytes s.frame →
      assembled s.packets = some ⟨annexB (splitAnnexBNalus s.frame.bytes), s.timestamp.toNat,
        s.frame.header.payloadType⟩ := by
  have hdist := sendFrames_distinct seq hts hlen
  refine ⟨?_, fun s hs h => assembled_of_sendable (sendFrames_payloads hs) h⟩
  refine Along.of_inv (P := Tracks (sendFrames maxPayloadBytes seq frames)) ?_ ?_ (.inl rfl)
    (hopen.and_mem hd)
  · exact fun m p h hm => (tracks_step hdist h.2 h.1 hm).1
  · exact fun m p h hm => (tracks_step hdist h.2 h.1 hm).2

/-- Two frames, of one and of two units; the numbers wrap between them. -/
def twoFrames : List EncodedFrame :=
  [⟨⟨2, false, false, 0, false, 96, 0, 0, 7⟩, [0x65, 1]⟩,
    ⟨⟨2, false, false, 0, false, 96, 0, 3000, 7⟩, sampleFrame⟩]

def twoFramesSent : List SentFrame :=
  twoFrames.zipWith (fun frame sent => ⟨frame, sent.1, sent.2⟩)
    [(65535, [[0x65, 1]]), (0, [[0x67], [0x65, 7, 9, 11]])]

theorem sendFrames_twoFrames : sendFrames 1200 65535 twoFrames = twoFramesSent := by
  have h1 : splitAnnexBNalus [0x65, 1] = [[0x65, 1]] := by decide
  have h2 := sampleFrame_nalus
  simp [sendFrames, twoFrames, twoFramesSent, packetizeH264AnnexB, h1, h2, packetizeNalu]

theorem length_twoFrames :
    ∀ frame ∈ twoFrames, (packetizeH264AnnexB frame.bytes 1200).length < 65536 := by
  have h1 : splitAnnexBNalus [0x65, 1] = [[0x65, 1]] := by decide
  have h2 := sampleFrame_nalus
  simp [twoFrames, packetizeH264AnnexB, h1, h2, packetizeNalu]

/-- The packet of the first frame, and packet `j` of the second. -/
def onlyPacket : RTPPacket := ⟨⟨2, false, false, 0, true, 96, 65535, 0, 7⟩, [0x65, 1]⟩

def packetAt (j : Nat) : RTPPacket :=
  ⟨⟨2, false, false, 0, j == 1, 96, UInt16.ofNat j, 3000, 7⟩,
    if j = 0 then [0x67] else [0x65, 7, 9, 11]⟩

/-- All packets arrive, one of them twice. -/
theorem emitted_whole_twoFrames :
    Along advance (EmitsWhole (sendFrames 1200 65535 twoFrames)) .init
      [onlyPacket, packetAt 0, packetAt 0, packetAt 1] := by
  refine (emitted_whole 1200 65535 twoFrames (by decide) ?_ _ ?_ ?_).1
  · exact length_twoFrames
  · rw [sendFrames_twoFrames]
    decide
  · rw [sendFrames_twoFrames]
    decide

/-- The first packet of the second frame is lost. The gap is seen, yet the rest
of the frame is handed out as if it were all of it. -/
theorem lostStart_emitted :
    (twoFrames.map (·.header.timestamp)).Nodup ∧
    (∀ p ∈ [onlyPacket, packetAt 1],
      ∃ s ∈ sendFrames 1200 65535 twoFrames, p ∈ s.packets) ∧
    ¬ Along advance (EmitsWhole (sendFrames 1200 65535 twoFrames)) .init
      [onlyPacket, packetAt 1] := by
  rw [sendFrames_twoFrames]
  refine ⟨by decide, by decide, fun h => ?_⟩
  obtain ⟨s, hs, hlast, hwhole⟩ := h.2.1 ⟨[0, 0, 0, 1, 0x65, 7, 9, 11], 3000, 96⟩ (by decide)
  revert hlast hwhole
  revert s
  decide

end MeetingSystem.Proof.Client
