import MeetingSystem.Framework.Run
import MeetingSystem.Impl.Client.RingBuffer

/-!
# The queues of captured frames

Any number of threads push to a queue and wait for its frames, in any order of their
steps:

* `ring_run`: a `RingBuffer` gives out every value that it accepted, once and in order;
* `frames_run`: a `VideoSendFrameRingBuffer` holds the newest frames that it accepted,
  and gives them out once at most and in order;
* both: no thread sleeps while there is a frame that no thread is woken for, or once the
  queue is closed.
-/

namespace MeetingSystem.Proof.Client

open MeetingSystem.Framework MeetingSystem.Impl.Client
open CondVar (Served)

variable {α β : Type}

/-- A queue, with the values that it has accepted and given out since it was emptied. -/
structure QueueWatch (β α : Type) where
  buffer : β
  accepted : List α
  taken : List α

def empties : QueueOp α → Bool
  | .clear | .reset => true
  | _ => false

/-- A step of the queue `stp`, where `accepts` are the values that it accepts. -/
def QueueWatch.step (stp : β → QueueOp α → β × Option α) (accepts : β → QueueOp α → List α)
    (w : QueueWatch β α) (op : QueueOp α) : QueueWatch β α where
  buffer := (stp w.buffer op).1
  accepted := if empties op then [] else w.accepted ++ accepts w.buffer op
  taken := if empties op then [] else w.taken ++ (stp w.buffer op).2.toList

/-! ## `common::RingBuffer` -/

def ringAccepts (capacity : Nat) (b : RingBuffer α) : QueueOp α → List α
  | .push value => if (b.push capacity value).2 then [value] else []
  | _ => []

def ringStep (capacity : Nat) :
    QueueWatch (RingBuffer α) α → QueueOp α → QueueWatch (RingBuffer α) α :=
  QueueWatch.step (RingBuffer.step capacity) (ringAccepts capacity)

structure RingInv (capacity : Nat) (w : QueueWatch (RingBuffer α) α) : Prop where
  fifo : w.accepted = w.taken ++ w.buffer.queue
  bounded : w.buffer.queue.length ≤ capacity
  served : Served w.buffer.queue.length w.buffer.cv
  open_asleep : 0 < w.buffer.cv.asleep → w.buffer.closed = false

/-- Taking the front, where every other value has a thread that is woken for it. -/
theorem RingInv.pop {capacity : Nat} {b : RingBuffer α} {accepted taken : List α}
    (hfifo : accepted = taken ++ b.queue) (hbounded : b.queue.length ≤ capacity)
    (hserved : Served (b.queue.length - 1) b.cv) (hopen : 0 < b.cv.asleep → b.closed = false) :
    RingInv capacity { buffer := b.pop.1, accepted, taken := taken ++ b.pop.2.toList } := by
  cases hq : b.queue with
  | nil =>
    rw [hq] at hfifo hserved
    have hpop : b.pop = (b, none) := by simp [RingBuffer.pop, hq]
    rw [hpop]
    exact ⟨by simpa [hq] using hfifo, hbounded, by simpa [hq] using hserved, hopen⟩
  | cons value queue =>
    rw [hq] at hfifo hbounded hserved
    have hpop : b.pop = ({ b with queue }, some value) := by simp [RingBuffer.pop, hq]
    rw [hpop]
    refine ⟨by simpa using hfifo, Nat.le_of_succ_le hbounded, hserved, hopen⟩

theorem RingInv.await {capacity : Nat} {b : RingBuffer α} {accepted taken : List α}
    (hfifo : accepted = taken ++ b.queue) (hbounded : b.queue.length ≤ capacity)
    (hserved : Served (b.queue.length - 1) b.cv) (hopen : 0 < b.cv.asleep → b.closed = false)
    (late : Bool) :
    RingInv capacity
      { buffer := (b.await late).1, accepted, taken := taken ++ (b.await late).2.toList } := by
  unfold RingBuffer.await
  split
  · exact RingInv.pop hfifo hbounded hserved hopen
  · rename_i hwaits
    simp only [RingBuffer.ready, not_or, Bool.or_eq_true, Bool.not_eq_true, Bool.not_eq_true',
      List.isEmpty_eq_false_iff, not_not] at hwaits
    obtain ⟨⟨hclosed, hempty⟩, -⟩ := hwaits
    refine ⟨by simpa using hfifo, hbounded, ?_, fun _ => hclosed⟩
    show Served b.queue.length b.cv.wait
    rw [hempty]
    exact Served.wait _

theorem RingInv.step {capacity : Nat} {w : QueueWatch (RingBuffer α) α} (h : RingInv capacity w)
    (op : QueueOp α) : RingInv capacity (ringStep capacity w op) := by
  obtain ⟨hfifo, hbounded, hserved, hopen⟩ := h
  have hless : Served (w.buffer.queue.length - 1) w.buffer.cv := hserved.le (Nat.sub_le ..)
  unfold ringStep QueueWatch.step
  cases op with
  | push value =>
    by_cases hfull : w.buffer.closed = true ∨ capacity ≤ w.buffer.queue.length
    · simp only [RingBuffer.step, ringAccepts, RingBuffer.push, if_pos hfull, empties,
        Option.toList_none, List.append_nil, Bool.false_eq_true, if_false]
      exact ⟨hfifo, hbounded, hserved, hopen⟩
    · simp only [RingBuffer.step, ringAccepts, RingBuffer.push, if_neg hfull, empties,
        Option.toList_none, List.append_nil, Bool.false_eq_true, if_false, if_true]
      obtain ⟨hclosed, hroom⟩ := not_or.mp hfull
      refine ⟨by rw [hfifo, List.append_assoc], ?_, ?_, fun _ => by simpa using hclosed⟩
      · simpa [Nat.succ_le_iff] using hroom
      · simpa using hserved.add
  | pop =>
    simp only [ringAccepts, empties, List.append_nil, Bool.false_eq_true, if_false]
    exact RingInv.pop hfifo hbounded hless hopen
  | popWait =>
    simp only [ringAccepts, empties, List.append_nil, Bool.false_eq_true, if_false]
    exact RingInv.await hfifo hbounded hless hopen false
  | wake late =>
    simp only [RingBuffer.step, ringAccepts, empties, List.append_nil, Bool.false_eq_true, if_false]
    split
    · simp only [Option.toList_none, List.append_nil]
      exact ⟨hfifo, hbounded, hserved, hopen⟩
    · exact RingInv.await (b := { w.buffer with cv := w.buffer.cv.resume }) hfifo hbounded
        hserved.resume hopen late
  | timeout =>
    simp only [RingBuffer.step, ringAccepts, empties, List.append_nil, Bool.false_eq_true, if_false]
    split
    · simp only [Option.toList_none, List.append_nil]
      exact ⟨hfifo, hbounded, hserved, hopen⟩
    · exact RingInv.await (b := { w.buffer with cv := w.buffer.cv.expire }) hfifo hbounded
        hless.expire (fun ha => hopen (Nat.lt_of_lt_of_le ha (Nat.sub_le ..))) true
  | spurious =>
    simp only [RingBuffer.step, ringAccepts, empties, Option.toList_none, List.append_nil,
      Bool.false_eq_true, if_false]
    exact ⟨hfifo, hbounded, hserved.notifyOne, fun ha => hopen (CondVar.asleep_of_notifyOne ha)⟩
  | clear =>
    exact ⟨rfl, Nat.zero_le _, hserved.le (Nat.zero_le _), hopen⟩
  | reset =>
    exact ⟨rfl, Nat.zero_le _, Served.notifyAll _ _, fun _ => rfl⟩
  | close =>
    simp only [RingBuffer.step, ringAccepts, empties, Option.toList_none, List.append_nil,
      Bool.false_eq_true, if_false]
    exact ⟨hfifo, hbounded, Served.notifyAll _ _, fun ha => absurd ha (Nat.lt_irrefl 0)⟩

/-- A queue that is constructed with `capacity`, after the steps. -/
def ringAfter (capacity : Nat) (ops : List (QueueOp α)) : QueueWatch (RingBuffer α) α :=
  run (ringStep (RingBuffer.capacityOf capacity)) { buffer := .new, accepted := [], taken := [] } ops

theorem ringInv_run (capacity : Nat) (ops : List (QueueOp α)) :
    RingInv (RingBuffer.capacityOf capacity) (ringAfter capacity ops) :=
  run_inv (P := RingInv (RingBuffer.capacityOf capacity)) (fun _ op h => h.step op)
    ⟨rfl, Nat.zero_le _, CondVar.served_idle _, fun _ => rfl⟩ ops

/-- The values that were given out and those that are there are the accepted ones. No
thread sleeps in a closed queue, or while there are more values than threads that are
woken. -/
theorem ring_run (capacity : Nat) (ops : List (QueueOp α)) :
    (ringAfter capacity ops).taken ++ (ringAfter capacity ops).buffer.queue =
      (ringAfter capacity ops).accepted ∧
    (ringAfter capacity ops).buffer.queue.length ≤ RingBuffer.capacityOf capacity ∧
    (0 < (ringAfter capacity ops).buffer.cv.asleep →
      (ringAfter capacity ops).buffer.queue.length ≤ (ringAfter capacity ops).buffer.cv.woken ∧
        (ringAfter capacity ops).buffer.closed = false) :=
  have h := ringInv_run capacity ops
  ⟨h.fifo.symm, h.bounded, fun ha => ⟨h.served ha, h.open_asleep ha⟩⟩

/-! ## `VideoSendFrameRingBuffer` -/

def frameAccepts (capacity : Nat) (b : VideoSendFrameRingBuffer α) : QueueOp α → List α
  | .push frame => if (b.push capacity frame).2 then [frame] else []
  | _ => []

def frameStep (capacity : Nat) : QueueWatch (VideoSendFrameRingBuffer α) α → QueueOp α →
    QueueWatch (VideoSendFrameRingBuffer α) α :=
  QueueWatch.step (VideoSendFrameRingBuffer.step capacity) (frameAccepts capacity)

structure FrameInv (capacity : Nat) (w : QueueWatch (VideoSendFrameRingBuffer α) α) : Prop where
  newest : w.buffer.frames <:+ w.accepted
  order : (w.taken ++ w.buffer.frames).Sublist w.accepted
  bounded : w.buffer.frames.length ≤ capacity
  served : Served w.buffer.frames.length w.buffer.waitCondition
  open_asleep : 0 < w.buffer.waitCondition.asleep → w.buffer.closed = false

theorem FrameInv.await {capacity : Nat} {b : VideoSendFrameRingBuffer α} {accepted taken : List α}
    (hnewest : b.frames <:+ accepted) (horder : (taken ++ b.frames).Sublist accepted)
    (hbounded : b.frames.length ≤ capacity) (hserved : Served (b.frames.length - 1) b.waitCondition)
    (hopen : 0 < b.waitCondition.asleep → b.closed = false) :
    FrameInv capacity { buffer := b.await.1, accepted, taken := taken ++ b.await.2.toList } := by
  cases hf : b.frames with
  | nil =>
    rw [hf] at hnewest horder
    by_cases hc : b.closed = true
    · have hawait : b.await = (b, none) := by simp [VideoSendFrameRingBuffer.await, hf, hc]
      rw [hawait]
      refine ⟨?_, ?_, hbounded, ?_, hopen⟩
      · simp [hf]
      · simpa [hf] using horder
      · simpa [hf] using hserved
    · have hawait : b.await = ({ b with waitCondition := b.waitCondition.wait }, none) := by
        simp [VideoSendFrameRingBuffer.await, hf, hc]
      rw [hawait]
      refine ⟨?_, ?_, hbounded, ?_, fun _ => by simpa using hc⟩
      · simp [hf]
      · simpa [hf] using horder
      · simpa [hf] using Served.wait b.waitCondition
  | cons frame frames =>
    rw [hf] at hnewest horder hbounded hserved
    have hawait : b.await = ({ b with frames }, some frame) := by
      simp [VideoSendFrameRingBuffer.await, hf]
    rw [hawait]
    refine ⟨(List.suffix_cons _ _).trans hnewest, ?_, Nat.le_of_succ_le hbounded, hserved, hopen⟩
    simpa using horder

/-- The frames that a push keeps. -/
theorem kept_suffix (capacity : Nat) (frames : List α) :
    (if capacity ≤ frames.length then frames.tail else frames) <:+ frames := by
  split
  · exact List.tail_suffix frames
  · exact List.suffix_refl frames

theorem FrameInv.push {capacity : Nat} (hcapacity : 0 < capacity)
    {w : QueueWatch (VideoSendFrameRingBuffer α) α} (h : FrameInv capacity w) (frame : α) :
    FrameInv capacity (frameStep capacity w (.push frame)) := by
  obtain ⟨hnewest, horder, hbounded, hserved, hopen⟩ := h
  unfold frameStep QueueWatch.step
  by_cases hc : w.buffer.closed = true
  · simp only [VideoSendFrameRingBuffer.step, frameAccepts, VideoSendFrameRingBuffer.push, if_pos hc,
      empties, Option.toList_none, List.append_nil, Bool.false_eq_true, if_false]
    exact ⟨hnewest, horder, hbounded, hserved, hopen⟩
  · have hkept := kept_suffix capacity w.buffer.frames
    have hlength : (if capacity ≤ w.buffer.frames.length then w.buffer.frames.tail
        else w.buffer.frames).length + 1 ≤ capacity := by
      split
      · rw [List.length_tail]
        omega
      · omega
    simp only [VideoSendFrameRingBuffer.step, frameAccepts, VideoSendFrameRingBuffer.push, if_neg hc,
      if_true, empties, Option.toList_none, List.append_nil, Bool.false_eq_true, if_false]
    generalize (if capacity ≤ w.buffer.frames.length then w.buffer.frames.tail
      else w.buffer.frames) = kept at *
    refine ⟨?_, ?_, ?_, ?_, fun _ => by simpa using hc⟩
    · exact List.suffix_append_self_iff.mpr (hkept.trans hnewest)
    · rw [← List.append_assoc]
      exact (((List.Sublist.refl _).append hkept.sublist).trans horder).append (List.Sublist.refl _)
    · simpa using hlength
    · rw [List.length_append]
      exact hserved.add.le (Nat.succ_le_succ hkept.length_le)

theorem FrameInv.step {capacity : Nat} (hcapacity : 0 < capacity)
    {w : QueueWatch (VideoSendFrameRingBuffer α) α} (h : FrameInv capacity w) (op : QueueOp α) :
    FrameInv capacity (frameStep capacity w op) := by
  cases op with
  | push frame => exact h.push hcapacity frame
  | pop =>
    obtain ⟨hnewest, horder, hbounded, hserved, hopen⟩ := h
    unfold frameStep QueueWatch.step
    simp only [VideoSendFrameRingBuffer.step, frameAccepts, empties, Option.toList_none,
      List.append_nil, Bool.false_eq_true, if_false]
    exact ⟨hnewest, horder, hbounded, hserved, hopen⟩
  | popWait =>
    obtain ⟨hnewest, horder, hbounded, hserved, hopen⟩ := h
    unfold frameStep QueueWatch.step
    simp only [frameAccepts, empties, List.append_nil, Bool.false_eq_true, if_false]
    exact FrameInv.await hnewest horder hbounded (hserved.le (Nat.sub_le ..)) hopen
  | wake late =>
    obtain ⟨hnewest, horder, hbounded, hserved, hopen⟩ := h
    unfold frameStep QueueWatch.step
    simp only [VideoSendFrameRingBuffer.step, frameAccepts, empties, List.append_nil,
      Bool.false_eq_true, if_false]
    split
    · simp only [Option.toList_none, List.append_nil]
      exact ⟨hnewest, horder, hbounded, hserved, hopen⟩
    · exact FrameInv.await (b := { w.buffer with waitCondition := w.buffer.waitCondition.resume })
        hnewest horder hbounded hserved.resume hopen
  | timeout =>
    obtain ⟨hnewest, horder, hbounded, hserved, hopen⟩ := h
    unfold frameStep QueueWatch.step
    simp only [VideoSendFrameRingBuffer.step, frameAccepts, empties, List.append_nil,
      Bool.false_eq_true, if_false]
    split
    · simp only [Option.toList_none, List.append_nil]
      exact ⟨hnewest, horder, hbounded, hserved, hopen⟩
    · simp only [Option.toList_none, List.append_nil]
      exact ⟨hnewest, horder, hbounded, hserved.expire,
        fun ha => hopen (Nat.lt_of_lt_of_le ha (Nat.sub_le ..))⟩
  | spurious =>
    obtain ⟨hnewest, horder, hbounded, hserved, hopen⟩ := h
    unfold frameStep QueueWatch.step
    simp only [VideoSendFrameRingBuffer.step, frameAccepts, empties, Option.toList_none,
      List.append_nil, Bool.false_eq_true, if_false]
    exact ⟨hnewest, horder, hbounded, hserved.notifyOne,
      fun ha => hopen (CondVar.asleep_of_notifyOne ha)⟩
  | clear =>
    exact ⟨List.nil_suffix, List.nil_sublist _, Nat.zero_le _, h.served.le (Nat.zero_le _),
      h.open_asleep⟩
  | reset =>
    exact ⟨List.nil_suffix, List.nil_sublist _, Nat.zero_le _, Served.notifyAll _ _, fun _ => rfl⟩
  | close =>
    obtain ⟨hnewest, horder, hbounded, -, -⟩ := h
    unfold frameStep QueueWatch.step
    simp only [VideoSendFrameRingBuffer.step, frameAccepts, empties, Option.toList_none,
      List.append_nil, Bool.false_eq_true, if_false]
    exact ⟨hnewest, horder, hbounded, Served.notifyAll _ _, fun ha => absurd ha (Nat.lt_irrefl 0)⟩

theorem frameInv_new (capacity : Nat) :
    FrameInv capacity
      ({ buffer := .new, accepted := [], taken := [] } :
        QueueWatch (VideoSendFrameRingBuffer α) α) where
  newest := List.nil_suffix
  order := List.nil_sublist _
  bounded := Nat.zero_le _
  served := CondVar.served_idle _
  open_asleep _ := rfl

@[inherit_doc ringAfter]
def framesAfter (capacity : Nat) (ops : List (QueueOp α)) :
    QueueWatch (VideoSendFrameRingBuffer α) α :=
  run (frameStep (VideoSendFrameRingBuffer.capacityOf capacity))
    { buffer := .new, accepted := [], taken := [] } ops

theorem frameInv_run (capacity : Nat) (ops : List (QueueOp α)) :
    FrameInv (VideoSendFrameRingBuffer.capacityOf capacity) (framesAfter capacity ops) :=
  run_inv (P := FrameInv (VideoSendFrameRingBuffer.capacityOf capacity))
    (fun _ op h => h.step (Nat.le_max_right capacity 1) op) (frameInv_new _) ops

/-- The frames that are there are the newest that were accepted, and come after those
that were given out. Threads sleep as in `ring_run`. -/
theorem frames_run (capacity : Nat) (ops : List (QueueOp α)) :
    (framesAfter capacity ops).buffer.frames <:+ (framesAfter capacity ops).accepted ∧
    ((framesAfter capacity ops).taken ++ (framesAfter capacity ops).buffer.frames).Sublist
      (framesAfter capacity ops).accepted ∧
    (framesAfter capacity ops).buffer.frames.length ≤ VideoSendFrameRingBuffer.capacityOf capacity ∧
    (0 < (framesAfter capacity ops).buffer.waitCondition.asleep →
      (framesAfter capacity ops).buffer.frames.length ≤
          (framesAfter capacity ops).buffer.waitCondition.woken ∧
        (framesAfter capacity ops).buffer.closed = false) :=
  have h := frameInv_run capacity ops
  ⟨h.newest, h.order, h.bounded, fun ha => ⟨h.served ha, h.open_asleep ha⟩⟩

end MeetingSystem.Proof.Client
