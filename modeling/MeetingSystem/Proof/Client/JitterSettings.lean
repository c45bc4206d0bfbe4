import MeetingSystem.Framework.Emit
import MeetingSystem.Proof.Client.JitterOrder

/-!
# The settings of the jitter buffer, applied again

The receive loop calls `setMinBufferedPackets` and `setGapTimeout` before every
`popWait`, with values that are mostly in force already. `setGapTimeout` also
forgets how long the buffer has waited for the packet that is expected.

* `reapplied_invisible_iff`: calls with the values in force change no later
  result exactly if none comes during such a wait (`GapWaitRuns`);
* `receiveLoop_stalls`: in the receive loop they do, and a gap is not skipped.

Two buffers that differ in the waiting only give the same results where it does
not count (`Alike`): the expected packet is held, or the buffer is full.
-/

namespace MeetingSystem.Proof.Client

open MeetingSystem.Impl.Client MeetingSystem.Framework JitterBuffer

/-! ## Runs -/

inductive BufferCall
  | push (packet : RTPPacket)
  | pop (now : Int)
  | popWait (start timeout : Int) (turns : List (Int × Int))
  /-- A turn of a `popWait` that other calls come between. -/
  | turn (deadline checkedAt now : Int)

inductive BufferStep
  | call (c : BufferCall)
  | gapTimeoutAgain
  | minBufferedAgain

inductive BufferResult
  | pop (packet : Option RTPPacket)
  | popWait (returned : Option (Option RTPPacket))
  | turn (turn : Turn)
  deriving DecidableEq

def callBuffer (b : JitterBuffer) : BufferCall → JitterBuffer × List BufferResult
  | .push packet => (b.push packet, [])
  | .pop now => ((b.popLocked now).1, [.pop (b.popLocked now).2])
  | .popWait start timeout turns =>
    ((b.popWait start timeout turns).1, [.popWait (b.popWait start timeout turns).2])
  | .turn deadline checkedAt now =>
    ((b.turn deadline checkedAt now).1, [.turn (b.turn deadline checkedAt now).2])

def perform (b : JitterBuffer) : BufferStep → JitterBuffer × List BufferResult
  | .call c => callBuffer b c
  | .gapTimeoutAgain => (b.setGapTimeout b.gapTimeout, [])
  | .minBufferedAgain => (b.setMinBufferedPackets b.minBufferedPackets, [])

/-- What the pops of a run return. -/
def results (b : JitterBuffer) (steps : List BufferStep) : List BufferResult :=
  (forEach perform b steps).2

def BufferStep.isCall : BufferStep → Bool
  | .call _ => true
  | _ => false

/-- The run without the settings that are applied again. -/
def asked (steps : List BufferStep) : List BufferStep := steps.filter (·.isCall)

/-! ## The condition -/

/-- A packet is missing, and nothing but the time makes up for it. -/
def InGap (b : JitterBuffer) : Prop := b.expectedHeld = false ∧ b.size < b.maxPackets

/-- The wait for a missing packet has begun. -/
def GapWaitRuns (b : JitterBuffer) : Prop := b.gapWaitStartedAt ≠ 0 ∧ InGap b

/-- The gap timeout is not applied again during a wait. -/
def Quiet (b : JitterBuffer) : BufferStep → Prop
  | .gapTimeoutAgain => ¬ GapWaitRuns b
  | _ => True

instance (b : JitterBuffer) (step : BufferStep) : Decidable (Quiet b step) :=
  match step with
  | .gapTimeoutAgain => inferInstanceAs (Decidable (¬ (_ ∧ _ ∧ _)))
  | .call _ | .minBufferedAgain => inferInstanceAs (Decidable True)

/-! ## What holds throughout a run -/

/-- The buffer may start to play. -/
def Playable (b : JitterBuffer) : Prop :=
  b.size ≠ 0 ∧ (b.playoutStarted = true ∨ b.minBufferedPackets ≤ b.size ∨ b.maxPackets ≤ b.size)

instance (b : JitterBuffer) : Decidable (Playable b) := inferInstanceAs (Decidable (_ ∧ _))

theorem readyToPopLocked_eq (b : JitterBuffer) (now : Int) :
    b.readyToPopLocked now =
      if Playable b then gapElapsed { b with playoutStarted := true } now else (b, false) := by
  unfold readyToPopLocked
  by_cases hempty : b.size = 0
  · rw [if_pos hempty, if_neg fun h => h.1 hempty]
  · rw [if_neg hempty]
    by_cases hstarted : b.playoutStarted = true
    · rw [if_pos hstarted, if_pos ⟨hempty, .inl hstarted⟩, ← hstarted]
    · rw [if_neg hstarted]
      by_cases hfew : b.size < b.minBufferedPackets ∧ b.size < b.maxPackets
      · rw [if_pos hfew, if_neg]
        intro ⟨_, h⟩
        rcases h with h | h | h
        · exact hstarted h
        · omega
        · omega
      · rw [if_neg hfew, if_pos ⟨hempty, .inr (by omega)⟩]

/-- The packet that a turn returns, if it returns one. -/
def packetOf : Turn → Option RTPPacket
  | .returns packet => packet
  | .waits _ => none

/-- A turn without its deadline. -/
theorem popWaitTurn_eq (b : JitterBuffer) (deadline checkedAt now : Int) :
    b.popWaitTurn checkedAt now =
      ((b.turn deadline checkedAt now).1, packetOf (b.turn deadline checkedAt now).2) := by
  unfold popWaitTurn JitterBuffer.turn
  generalize b.readyToPopLocked checkedAt = r
  obtain ⟨b', ready⟩ := r
  cases ready with
  | true => rfl
  | false =>
    simp only [Bool.false_eq_true, if_false]
    split
    · rfl
    · split <;> rfl

structure BufferOk (b : JitterBuffer) : Prop where
  bounded : b.size ≤ b.maxPackets
  room : 0 < b.maxPackets
  buffered : 0 < b.minBufferedPackets ∧ b.minBufferedPackets ≤ b.maxPackets
  timeout : 0 ≤ b.gapTimeout
  waiting : b.gapWaitStartedAt ≠ 0 → b.playoutStarted = true ∧ b.size ≠ 0 ∧ b.gapTimeout ≠ 0

theorem bufferOk_new (maxPackets minBufferedPackets : Nat) (gapTimeout : Int) :
    BufferOk (.new maxPackets minBufferedPackets gapTimeout) := by
  have hroom : 0 < if maxPackets = 0 then 1 else maxPackets := by split <;> omega
  refine ⟨Nat.zero_le _, hroom, ⟨?_, ?_⟩, ?_, fun h => absurd rfl h⟩
  · exact Nat.le_max_left ..
  · exact max_le hroom (Nat.min_le_right ..)
  · show 0 ≤ if gapTimeout < 0 then 0 else gapTimeout
    split <;> omega

theorem bufferOk_push {b : JitterBuffer} (h : BufferOk b) (packet : RTPPacket) :
    BufferOk (b.push packet) := by
  have hsize : (b.push packet).size ≠ 0 := by
    rcases push_cases h.bounded packet with ⟨-, he⟩ | ⟨-, hlen, -, first, hfirst, he⟩
    · have hmem : packet.header.sequenceNumber ∈ (b.push packet).packets := by
        rw [he]
        exact (AList.mem_insert b.packets).mpr (.inl rfl)
      exact (List.length_pos_of_mem (AList.mem_keys.mp hmem)).ne'
    · rw [size, he, length_keys_erase (begin?_spec hfirst).1, hlen]
      exact h.room.ne'
  refine ⟨push_size h.bounded packet, h.room, h.buffered, h.timeout, fun hwaits => ?_⟩
  obtain ⟨hstarted, -, htimeout⟩ := h.waiting hwaits
  exact ⟨hstarted, hsize, htimeout⟩

theorem bufferOk_gapElapsed {b : JitterBuffer} (h : BufferOk b) (hplays : b.playoutStarted = true)
    (hsize : b.size ≠ 0) (now : Int) : BufferOk (b.gapElapsed now).1 := by
  unfold gapElapsed
  split
  · exact ⟨h.bounded, h.room, h.buffered, h.timeout, fun hwaits => absurd rfl hwaits⟩
  split
  · exact h
  rename_i htimer
  split
  · exact ⟨h.bounded, h.room, h.buffered, h.timeout,
      fun _ => ⟨hplays, hsize, (not_or.mp htimer).2⟩⟩
  · exact h

theorem bufferOk_readyToPopLocked {b : JitterBuffer} (h : BufferOk b) (now : Int) :
    BufferOk (b.readyToPopLocked now).1 := by
  rw [readyToPopLocked_eq]
  split
  · rename_i hplayable
    have hstarted : BufferOk { b with playoutStarted := true } :=
      ⟨h.bounded, h.room, h.buffered, h.timeout, fun hwaits => ⟨rfl, (h.waiting hwaits).2⟩⟩
    exact bufferOk_gapElapsed hstarted rfl hplayable.1 now
  · exact h

theorem bufferOk_popLocked {b : JitterBuffer} (h : BufferOk b) (now : Int) :
    BufferOk (b.popLocked now).1 := by
  have hchecked := bufferOk_readyToPopLocked h now
  unfold popLocked
  generalize b.readyToPopLocked now = r at hchecked
  obtain ⟨b', ready⟩ := r
  simp only at hchecked ⊢
  split
  · split
    · exact hchecked
    · exact ⟨(length_keys_erase_le _ _).trans hchecked.bounded, hchecked.room, hchecked.buffered,
        hchecked.timeout, fun hwaits => absurd rfl hwaits⟩
  · exact hchecked

theorem bufferOk_turn {b : JitterBuffer} (h : BufferOk b) (deadline checkedAt now : Int) :
    BufferOk (b.turn deadline checkedAt now).1 := by
  have hchecked := bufferOk_readyToPopLocked h checkedAt
  unfold JitterBuffer.turn
  generalize b.readyToPopLocked checkedAt = r at hchecked
  obtain ⟨b', ready⟩ := r
  simp only at hchecked ⊢
  split
  · exact bufferOk_popLocked hchecked now
  split
  · exact hchecked
  split <;> exact hchecked

theorem bufferOk_popWaitLoop {b : JitterBuffer} (h : BufferOk b) (deadline : Int)
    (turns : List (Int × Int)) : BufferOk (popWaitLoop deadline b turns).1 := by
  induction turns generalizing b with
  | nil => exact h
  | cons readings turns ih =>
    have hturn := bufferOk_turn h deadline readings.1 readings.2
    rw [popWaitLoop]
    generalize b.turn deadline readings.1 readings.2 = r at hturn
    obtain ⟨b', turn⟩ := r
    cases turn with
    | returns packet => exact hturn
    | waits slice => exact ih hturn

/-- The settings that are applied again are those that are in force. -/
theorem setGapTimeout_again {b : JitterBuffer} (h : BufferOk b) :
    b.setGapTimeout b.gapTimeout = { b with gapWaitStartedAt := 0 } := by
  have htimeout := h.timeout
  rw [setGapTimeout, if_neg (by omega)]

theorem setMinBufferedPackets_again {b : JitterBuffer} (h : BufferOk b) :
    b.setMinBufferedPackets b.minBufferedPackets = b := by
  have hbuffered := h.buffered
  rw [setMinBufferedPackets, Nat.min_eq_left hbuffered.2, Nat.max_eq_right hbuffered.1]

theorem bufferOk_callBuffer {b : JitterBuffer} (h : BufferOk b) (c : BufferCall) :
    BufferOk (callBuffer b c).1 := by
  cases c with
  | push packet => exact bufferOk_push h packet
  | pop now => exact bufferOk_popLocked h now
  | popWait start timeout turns => exact bufferOk_popWaitLoop h (start + timeout) turns
  | turn deadline checkedAt now => exact bufferOk_turn h deadline checkedAt now

theorem bufferOk_perform {b : JitterBuffer} (h : BufferOk b) (step : BufferStep) :
    BufferOk (perform b step).1 := by
  cases step with
  | call c => exact bufferOk_callBuffer h c
  | gapTimeoutAgain =>
    show BufferOk (b.setGapTimeout b.gapTimeout)
    rw [setGapTimeout_again h]
    exact ⟨h.bounded, h.room, h.buffered, h.timeout, fun hwaits => absurd rfl hwaits⟩
  | minBufferedAgain =>
    show BufferOk (b.setMinBufferedPackets b.minBufferedPackets)
    rwa [setMinBufferedPackets_again h]

/-! ## Where the waiting does not count -/

/-- The same buffer, or one that has waited for another time where a packet can
be given out without a wait. -/
def Alike (b b' : JitterBuffer) : Prop :=
  b' = b ∨ ¬ InGap b ∧ ∃ started, b' = { b with gapWaitStartedAt := started }

theorem Alike.refl (b : JitterBuffer) : Alike b b := .inl rfl

theorem Alike.symm {b b' : JitterBuffer} (h : Alike b b') : Alike b' b := by
  rcases h with rfl | ⟨hgap, started, rfl⟩
  · exact .refl b'
  · exact .inr ⟨hgap, b.gapWaitStartedAt, rfl⟩

theorem Alike.trans {b b' b'' : JitterBuffer} (h : Alike b b') (h' : Alike b' b'') :
    Alike b b'' := by
  rcases h with rfl | ⟨hgap, started, rfl⟩
  · exact h'
  · rcases h' with rfl | ⟨-, started', rfl⟩
    · exact .inr ⟨hgap, started, rfl⟩
    · exact .inr ⟨hgap, started', rfl⟩

/-- What is left out of a gap: the buffer is full if the expected packet is not
held. -/
theorem full_of_not_inGap {b : JitterBuffer} (h : ¬ InGap b) (hheld : ¬ b.expectedHeld = true) :
    b.maxPackets ≤ b.size := by
  by_contra hroom
  exact h ⟨Bool.eq_false_iff.mpr hheld, Nat.lt_of_not_le hroom⟩

theorem not_inGap_push {b : JitterBuffer} (hbounded : b.size ≤ b.maxPackets) (h : ¬ InGap b)
    (packet : RTPPacket) : ¬ InGap (b.push packet) := by
  intro ⟨hheld, hsize⟩
  have hmax : (b.push packet).maxPackets = b.maxPackets := rfl
  rw [hmax] at hsize
  rcases push_cases hbounded packet with ⟨hle, he⟩ | ⟨-, hlen, -, first, hfirst, he⟩
  · have hmem : ∀ seq, seq ∈ (b.push packet).packets ↔
        seq = packet.header.sequenceNumber ∨ seq ∈ b.packets := by
      intro seq
      rw [he]
      exact AList.mem_insert b.packets
    have hexpected : (b.push packet).expectedSeq =
        some (b.expectedSeq.getD packet.header.sequenceNumber) := rfl
    have hmissing : b.expectedSeq.getD packet.header.sequenceNumber ∉ (b.push packet).packets := by
      rw [expectedHeld, hexpected] at hheld
      exact of_decide_eq_false hheld
    rw [hmem, not_or] at hmissing
    cases hseq : b.expectedSeq with
    | none =>
      rw [hseq] at hmissing
      exact hmissing.1 rfl
    | some seq =>
      rw [hseq, Option.getD_some] at hmissing
      have hnotHeld : ¬ b.expectedHeld = true := by
        rw [expectedHeld, hseq]
        exact fun hin => hmissing.2 (of_decide_eq_true hin)
      have hfull := full_of_not_inGap h hnotHeld
      have hgrown : b.size ≤ (b.push packet).size := by
        rw [size, size, he]
        by_cases hin : packet.header.sequenceNumber ∈ b.packets
        · exact (length_keys_insert_of_mem packet hin).ge
        · exact (length_keys_insert packet hin).ge.trans' (Nat.le_succ _)
      omega
  · have hkeys : (b.push packet).size = b.maxPackets := by
      rw [size, he, length_keys_erase (begin?_spec hfirst).1, hlen]
      rfl
    omega

theorem Alike.push {b b' : JitterBuffer} (h : Alike b b') (hbounded : b.size ≤ b.maxPackets)
    (packet : RTPPacket) : Alike (b.push packet) (b'.push packet) := by
  rcases h with rfl | ⟨hgap, started, rfl⟩
  · exact .refl _
  · exact .inr ⟨not_inGap_push hbounded hgap packet, started, rfl⟩

theorem Alike.gapElapsed {b b' : JitterBuffer} (h : Alike b b') (now : Int) :
    (b.gapElapsed now).2 = (b'.gapElapsed now).2 ∧
      Alike (b.gapElapsed now).1 (b'.gapElapsed now).1 := by
  rcases h with rfl | ⟨hgap, started, rfl⟩
  · exact ⟨rfl, .refl _⟩
  · have hheld' : expectedHeld { b with gapWaitStartedAt := started } = b.expectedHeld := rfl
    rw [JitterBuffer.gapElapsed, JitterBuffer.gapElapsed, hheld']
    by_cases hheld : b.expectedHeld = true
    · rw [if_pos hheld, if_pos hheld]
      exact ⟨rfl, .refl _⟩
    · have hfull := full_of_not_inGap hgap hheld
      rw [if_neg hheld, if_neg hheld, if_pos (.inl hfull), if_pos (.inl hfull)]
      exact ⟨rfl, .inr ⟨hgap, started, rfl⟩⟩

theorem Alike.readyToPopLocked {b b' : JitterBuffer} (h : Alike b b') (now : Int) :
    (b.readyToPopLocked now).2 = (b'.readyToPopLocked now).2 ∧
      Alike (b.readyToPopLocked now).1 (b'.readyToPopLocked now).1 := by
  rcases h with rfl | ⟨hgap, started, rfl⟩
  · exact ⟨rfl, .refl _⟩
  · rw [readyToPopLocked_eq, readyToPopLocked_eq]
    by_cases hplayable : Playable b
    · have hplayable' : Playable { b with gapWaitStartedAt := started } := hplayable
      rw [if_pos hplayable, if_pos hplayable']
      have halike : Alike { b with playoutStarted := true }
          { b with gapWaitStartedAt := started, playoutStarted := true } :=
        .inr ⟨hgap, started, rfl⟩
      exact halike.gapElapsed now
    · have hplayable' : ¬ Playable { b with gapWaitStartedAt := started } := hplayable
      rw [if_neg hplayable, if_neg hplayable']
      exact ⟨rfl, .inr ⟨hgap, started, rfl⟩⟩

theorem Alike.popLocked {b b' : JitterBuffer} (h : Alike b b') (now : Int) :
    (b.popLocked now).2 = (b'.popLocked now).2 ∧
      Alike (b.popLocked now).1 (b'.popLocked now).1 := by
  obtain ⟨hready, hchecked⟩ := h.readyToPopLocked now
  unfold JitterBuffer.popLocked
  generalize b.readyToPopLocked now = r at hready hchecked
  generalize b'.readyToPopLocked now = r' at hready hchecked
  obtain ⟨b₁, ready⟩ := r
  obtain ⟨b₁', ready'⟩ := r'
  simp only at hready hchecked ⊢
  rw [← hready]
  rcases hchecked with rfl | ⟨hgap, started, rfl⟩
  · exact ⟨rfl, .refl _⟩
  · have hnext : nextSeq { b₁ with gapWaitStartedAt := started } = b₁.nextSeq := rfl
    rw [hnext]
    cases ready with
    | false => exact ⟨rfl, .inr ⟨hgap, started, rfl⟩⟩
    | true =>
      cases b₁.nextSeq with
      | none => exact ⟨rfl, .inr ⟨hgap, started, rfl⟩⟩
      | some seq => exact ⟨rfl, .refl _⟩

theorem Alike.turn {b b' : JitterBuffer} (h : Alike b b') (deadline checkedAt now : Int) :
    (b.turn deadline checkedAt now).2 = (b'.turn deadline checkedAt now).2 ∧
      Alike (b.turn deadline checkedAt now).1 (b'.turn deadline checkedAt now).1 := by
  obtain ⟨hready, hchecked⟩ := h.readyToPopLocked checkedAt
  unfold JitterBuffer.turn
  generalize b.readyToPopLocked checkedAt = r at hready hchecked
  generalize b'.readyToPopLocked checkedAt = r' at hready hchecked
  obtain ⟨b₁, ready⟩ := r
  obtain ⟨b₁', ready'⟩ := r'
  simp only at hready hchecked ⊢
  have htimeout : b₁'.gapTimeout = b₁.gapTimeout := by
    rcases hchecked with rfl | ⟨-, started, rfl⟩ <;> rfl
  have hslice : b₁'.waitSlice = b₁.waitSlice := by
    funext remaining
    rw [waitSlice, waitSlice, htimeout]
  rw [← hready, hslice]
  cases ready with
  | true =>
    obtain ⟨hpacket, hpopped⟩ := hchecked.popLocked now
    exact ⟨congrArg Turn.returns hpacket, hpopped⟩
  | false =>
    simp only [Bool.false_eq_true, if_false]
    split
    · exact ⟨rfl, hchecked⟩
    · split <;> exact ⟨rfl, hchecked⟩

theorem Alike.popWaitLoop {b b' : JitterBuffer} (h : Alike b b') (deadline : Int)
    (turns : List (Int × Int)) :
    (popWaitLoop deadline b turns).2 = (popWaitLoop deadline b' turns).2 ∧
      Alike (popWaitLoop deadline b turns).1 (popWaitLoop deadline b' turns).1 := by
  induction turns generalizing b b' with
  | nil => exact ⟨rfl, h⟩
  | cons readings turns ih =>
    obtain ⟨hturn, hnext⟩ := h.turn deadline readings.1 readings.2
    rw [JitterBuffer.popWaitLoop, JitterBuffer.popWaitLoop]
    generalize b.turn deadline readings.1 readings.2 = r at hturn hnext
    generalize b'.turn deadline readings.1 readings.2 = r' at hturn hnext
    obtain ⟨b₁, turn⟩ := r
    obtain ⟨b₁', turn'⟩ := r'
    obtain rfl : turn = turn' := hturn
    cases turn with
    | returns packet => exact ⟨rfl, hnext⟩
    | waits slice => exact ih hnext

theorem Alike.callBuffer {b b' : JitterBuffer} (h : Alike b b') (hok : BufferOk b)
    (c : BufferCall) :
    (callBuffer b c).2 = (callBuffer b' c).2 ∧ Alike (callBuffer b c).1 (callBuffer b' c).1 := by
  cases c with
  | push packet => exact ⟨rfl, h.push hok.bounded packet⟩
  | pop now =>
    obtain ⟨hpacket, hnext⟩ := h.popLocked now
    exact ⟨congrArg (fun packet => [BufferResult.pop packet]) hpacket, hnext⟩
  | popWait start timeout turns =>
    obtain ⟨hreturned, hnext⟩ := h.popWaitLoop (start + timeout) turns
    exact ⟨congrArg (fun returned => [BufferResult.popWait returned]) hreturned, hnext⟩
  | turn deadline checkedAt now =>
    obtain ⟨hturn, hnext⟩ := h.turn deadline checkedAt now
    exact ⟨congrArg (fun turn => [BufferResult.turn turn]) hturn, hnext⟩

/-- Calls have the same results in buffers that are alike. -/
theorem Alike.results {b b' : JitterBuffer} (h : Alike b b') (hok : BufferOk b)
    (calls : List BufferCall) :
    results b (calls.map .call) = results b' (calls.map .call) := by
  rw [Client.results, Client.results, forEach_map, forEach_map]
  refine forEach_sim (R := fun b b' => BufferOk b ∧ Alike b b') ?_ ⟨hok, h⟩ calls
  intro b b' ⟨hok, h⟩ c
  obtain ⟨hresults, hnext⟩ := h.callBuffer hok c
  exact ⟨hresults, bufferOk_callBuffer hok c, hnext⟩

/-! ## During a wait -/

theorem alike_again {b : JitterBuffer} (h : ¬ GapWaitRuns b) :
    Alike b { b with gapWaitStartedAt := 0 } := by
  by_cases hgap : InGap b
  · have hzero : b.gapWaitStartedAt = 0 := by
      by_contra hwaits
      exact h ⟨hwaits, hgap⟩
    rw [← hzero]
    exact .refl b
  · exact .inr ⟨hgap, 0, rfl⟩

theorem gapElapsed_inGap {b : JitterBuffer} (h : InGap b) (htimeout : b.gapTimeout ≠ 0)
    (now : Int) :
    b.gapElapsed now =
      if b.gapWaitStartedAt = 0 then ({ b with gapWaitStartedAt := now }, false)
      else (b, now - b.gapWaitStartedAt ≥ b.gapTimeout) := by
  have hgo : ¬ (b.size ≥ b.maxPackets ∨ b.gapTimeout = 0) :=
    not_or_intro (Nat.not_le_of_lt h.2) htimeout
  rw [gapElapsed, h.1, if_neg Bool.false_ne_true, if_neg hgo]

/-- At the end of the wait a pop gives the next packet out, and none if the wait
has been forgotten. -/
theorem forgotten_differs {b : JitterBuffer} (hok : BufferOk b) (h : GapWaitRuns b) :
    (b.popLocked (b.gapWaitStartedAt + b.gapTimeout)).2 ≠ none ∧
      (popLocked { b with gapWaitStartedAt := 0 } (b.gapWaitStartedAt + b.gapTimeout)).2 =
        none := by
  obtain ⟨hwaits, hgap⟩ := h
  obtain ⟨hstarted, hsome, htimeout⟩ := hok.waiting hwaits
  have hplayable : Playable b := ⟨hsome, .inl hstarted⟩
  constructor
  · have hready : b.readyToPopLocked (b.gapWaitStartedAt + b.gapTimeout) = (b, true) := by
      have hplaying : { b with playoutStarted := true } = b := by rw [← hstarted]
      have helapsed : b.gapTimeout ≤ b.gapWaitStartedAt + b.gapTimeout - b.gapWaitStartedAt := by
        omega
      rw [readyToPopLocked_eq, if_pos hplayable, hplaying, gapElapsed_inGap hgap htimeout,
        if_neg hwaits, decide_eq_true helapsed]
    obtain ⟨first, hfirst⟩ := least_isSome (fun a b : UInt16 => decide (a < b))
      (List.ne_nil_of_length_pos (Nat.pos_of_ne_zero hsome))
    have hnext : ∃ seq, b.nextSeq = some seq := by
      rw [nextSeq]
      split
      · exact ⟨first, hfirst⟩
      · split
        · exact ⟨_, rfl⟩
        · exact ⟨first, hfirst⟩
    obtain ⟨seq, hseq⟩ := hnext
    obtain ⟨packet, hpacket⟩ := lookup_of_mem (nextSeq_mem hseq)
    rw [popLocked, hready]
    simp [hseq, hpacket]
  · have hforgot : (readyToPopLocked { b with gapWaitStartedAt := 0 }
        (b.gapWaitStartedAt + b.gapTimeout)).2 = false := by
      have hplayable' : Playable { b with gapWaitStartedAt := 0 } := hplayable
      have hgap' : InGap { b with gapWaitStartedAt := 0, playoutStarted := true } := hgap
      rw [readyToPopLocked_eq, if_pos hplayable', gapElapsed_inGap hgap' htimeout, if_pos rfl]
    rw [popLocked]
    simp [hforgot]

/-! ## Every run -/

/-- However far a run has come, whatever is called next: the results are those
of the other buffer without the settings that are applied again. -/
def SameResults (b b' : JitterBuffer) (steps : List BufferStep) : Prop :=
  ∀ n (later : List BufferCall), results b (steps.take n ++ later.map .call) =
    results b' (asked (steps.take n) ++ later.map .call)

theorem sameResults_cons {b b' : JitterBuffer} (hok : BufferOk b) (h : Alike b b')
    (step : BufferStep) (steps : List BufferStep) :
    SameResults b b' (step :: steps) ↔ ∀ n (later : List BufferCall),
      results b (step :: (steps.take n ++ later.map .call)) =
        results b' (asked (step :: steps.take n) ++ later.map .call) := by
  refine ⟨fun hall n later => hall (n + 1) later, fun hall n later => ?_⟩
  cases n with
  | zero => exact h.results hok later
  | succ n => exact hall n later

/-- From buffers that are alike, one of which has the settings applied again. -/
theorem sameResults_iff {b b' : JitterBuffer} (hok : BufferOk b) (h : Alike b b')
    (steps : List BufferStep) :
    SameResults b b' steps ↔ Along (fun b step => (perform b step).1) Quiet b steps := by
  induction steps generalizing b b' with
  | nil =>
    refine iff_of_true (fun n later => ?_) trivial
    rw [List.take_nil]
    exact h.results hok later
  | cons step steps ih =>
    rw [sameResults_cons hok h]
    have hnext : BufferOk (perform b step).1 := bufferOk_perform hok step
    cases step with
    | call c =>
      obtain ⟨hresults, halike⟩ := h.callBuffer hok c
      refine Iff.trans ?_ ((ih hnext halike).trans (and_iff_right trivial).symm)
      refine forall_congr' fun n => forall_congr' fun later => ?_
      show (callBuffer b c).2 ++ _ = (callBuffer b' c).2 ++ _ ↔ _
      rw [hresults, List.append_cancel_left_eq]
      exact Iff.rfl
    | minBufferedAgain =>
      have hsame : Alike (perform b .minBufferedAgain).1 b' := by
        rwa [perform, setMinBufferedPackets_again hok]
      exact (ih hnext hsame).trans (and_iff_right trivial).symm
    | gapTimeoutAgain =>
      by_cases hruns : GapWaitRuns b
      · refine iff_of_false (fun hall => ?_) fun halong => halong.1 hruns
        obtain ⟨hsome, hnone⟩ := forgotten_differs hok hruns
        obtain rfl : b' = b := h.resolve_right fun hother => hother.1 hruns.2
        have hpop : (popLocked (b'.setGapTimeout b'.gapTimeout)
            (b'.gapWaitStartedAt + b'.gapTimeout)).2 =
              (b'.popLocked (b'.gapWaitStartedAt + b'.gapTimeout)).2 := by
          have hresults := hall 0 [.pop (b'.gapWaitStartedAt + b'.gapTimeout)]
          exact BufferResult.pop.inj (List.cons.inj hresults).1
        rw [setGapTimeout_again hok, hnone] at hpop
        exact hsome hpop.symm
      · have hsame : Alike (perform b .gapTimeoutAgain).1 b' := by
          rw [perform, setGapTimeout_again hok]
          exact (alike_again hruns).symm.trans h
        exact (ih hnext hsame).trans (and_iff_right hruns).symm

/-- However far a run has come, whatever is called next: the settings that have
been applied again have no effect on any result exactly if the gap timeout has
not been applied again during a wait. -/
theorem reapplied_invisible_iff (maxPackets minBufferedPackets : Nat) (gapTimeout : Int)
    (steps : List BufferStep) :
    (∀ n (later : List BufferCall),
      results (.new maxPackets minBufferedPackets gapTimeout)
          (steps.take n ++ later.map .call) =
        results (.new maxPackets minBufferedPackets gapTimeout)
          (asked (steps.take n) ++ later.map .call)) ↔
    Along (fun b step => (perform b step).1) Quiet
      (.new maxPackets minBufferedPackets gapTimeout) steps :=
  sameResults_iff (bufferOk_new maxPackets minBufferedPackets gapTimeout) (.refl _) steps

/-! ## The receive loop -/

/-- One round: the settings, then a `popWait` of as long as the gap timeout. -/
def receiveRound (start : Int) (turns : List (Int × Int)) : List BufferStep :=
  [.minBufferedAgain, .gapTimeoutAgain, .call (.popWait start 20000000 turns)]

/-- Packet 102 is missing. Each wait ends a little before the gap timeout, as it
is for a whole number of milliseconds. -/
def receiveLoop : List BufferStep :=
  [.call (.push (numbered 100)), .call (.push (numbered 101)), .call (.push (numbered 103))] ++
    receiveRound 1000000 [(1000100, 1000200)] ++ receiveRound 2000000 [(2000100, 2000200)] ++
    receiveRound 3000000 [(3000100, 3000200), (22100000, 22100100)] ++
    receiveRound 23000000 [(23000100, 23000200)]

/-- The fourth round gives packet 103 out, but not if the settings are applied
before it. -/
theorem receiveLoop_stalls :
    results (.new 64 3 20000000) receiveLoop ≠
      results (.new 64 3 20000000) (asked receiveLoop) := by
  decide +kernel

end MeetingSystem.Proof.Client
