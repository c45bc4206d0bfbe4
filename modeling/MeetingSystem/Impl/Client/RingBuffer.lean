import MeetingSystem.Framework.CondVar

/-!
# The queues of captured frames

`common/RingBuffer.h`, which refuses a value if it is full, and
`VideoSendFrameRingBuffer`, which then drops the oldest frame. A step is what one thread
does while it has the mutex; a call of `popWait` that has to wait takes several.
-/

namespace MeetingSystem.Impl.Client

open MeetingSystem.Framework

variable {α : Type}

inductive QueueOp (α : Type) where
  | push (value : α)
  | pop
  /-- `popWait` up to its first wait. -/
  | popWait
  /-- A thread that is woken has the mutex; `late` says that its time is over. -/
  | wake (late : Bool)
  /-- A thread that sleeps has waited long enough, and has the mutex. -/
  | timeout
  /-- A thread wakes up by itself. -/
  | spurious
  | clear
  | reset
  | close
  deriving DecidableEq

/-! ## `common::RingBuffer` -/

structure RingBuffer (α : Type) where
  queue : List α
  closed : Bool
  cv : CondVar
  deriving DecidableEq

namespace RingBuffer

def new : RingBuffer α := { queue := [], closed := false, cv := .idle }

/-- `m_capacity`. -/
def capacityOf (capacity : Nat) : Nat := if capacity = 0 then 1 else capacity

def push (capacity : Nat) (b : RingBuffer α) (value : α) : RingBuffer α × Bool :=
  if b.closed ∨ capacity ≤ b.queue.length then (b, false)
  else ({ b with queue := b.queue ++ [value], cv := b.cv.notifyOne }, true)

def pop (b : RingBuffer α) : RingBuffer α × Option α :=
  match b.queue with
  | [] => (b, none)
  | value :: queue => ({ b with queue }, some value)

/-- The condition that `popWait` waits for. -/
def ready (b : RingBuffer α) : Bool := b.closed || !b.queue.isEmpty

/-- `wait_for` from the check of its condition on, where `late` says that the time is
over, and what `popWait` takes after it. -/
def await (b : RingBuffer α) (late : Bool) : RingBuffer α × Option α :=
  if b.ready ∨ late then b.pop else ({ b with cv := b.cv.wait }, none)

/-- A step of a buffer of this capacity, and the value that is taken. -/
def step (capacity : Nat) (b : RingBuffer α) : QueueOp α → RingBuffer α × Option α
  | .push value => ((b.push capacity value).1, none)
  | .pop => b.pop
  | .popWait => b.await false
  | .wake late => if b.cv.woken = 0 then (b, none) else { b with cv := b.cv.resume }.await late
  | .timeout => if b.cv.asleep = 0 then (b, none) else { b with cv := b.cv.expire }.await true
  | .spurious => ({ b with cv := b.cv.notifyOne }, none)
  | .clear => ({ b with queue := [] }, none)
  | .reset => ({ queue := [], closed := false, cv := b.cv.notifyAll }, none)
  | .close => ({ b with closed := true, cv := b.cv.notifyAll }, none)

end RingBuffer

/-! ## `VideoSendFrameRingBuffer` -/

structure VideoSendFrameRingBuffer (α : Type) where
  frames : List α
  closed : Bool
  waitCondition : CondVar
  deriving DecidableEq

namespace VideoSendFrameRingBuffer

def new : VideoSendFrameRingBuffer α := { frames := [], closed := false, waitCondition := .idle }

@[inherit_doc RingBuffer.capacityOf]
def capacityOf (capacity : Nat) : Nat := max capacity 1

def push (capacity : Nat) (b : VideoSendFrameRingBuffer α) (frame : α) :
    VideoSendFrameRingBuffer α × Bool :=
  if b.closed then (b, false)
  else
    let frames := if capacity ≤ b.frames.length then b.frames.tail else b.frames
    ({ b with frames := frames ++ [frame], waitCondition := b.waitCondition.notifyOne }, true)

/-- The loop of `popWait` and what follows it. -/
def await (b : VideoSendFrameRingBuffer α) : VideoSendFrameRingBuffer α × Option α :=
  match b.frames with
  | [] =>
    if b.closed then (b, none) else ({ b with waitCondition := b.waitCondition.wait }, none)
  | frame :: frames => ({ b with frames }, some frame)

/-- There is no `pop`. A wait that ends late ends `popWait`. -/
def step (capacity : Nat) (b : VideoSendFrameRingBuffer α) :
    QueueOp α → VideoSendFrameRingBuffer α × Option α
  | .push frame => ((b.push capacity frame).1, none)
  | .pop => (b, none)
  | .popWait => b.await
  | .wake _ =>
    if b.waitCondition.woken = 0 then (b, none)
    else { b with waitCondition := b.waitCondition.resume }.await
  | .timeout =>
    if b.waitCondition.asleep = 0 then (b, none)
    else ({ b with waitCondition := b.waitCondition.expire }, none)
  | .spurious => ({ b with waitCondition := b.waitCondition.notifyOne }, none)
  | .clear => ({ b with frames := [] }, none)
  | .reset =>
    ({ frames := [], closed := false, waitCondition := b.waitCondition.notifyAll }, none)
  | .close => ({ b with closed := true, waitCondition := b.waitCondition.notifyAll }, none)

end VideoSendFrameRingBuffer

end MeetingSystem.Impl.Client
