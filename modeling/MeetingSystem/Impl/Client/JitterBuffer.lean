import MeetingSystem.Framework.Assoc
import MeetingSystem.Framework.Least
import MeetingSystem.Impl.Client.H264RtpPayload

/-!
# The jitter buffer

`plasma-hawking/src/net/media/JitterBuffer.cpp`. The ordered map from sequence
numbers to packets is an association list whose `begin` is its least key. Time
points and durations are in nanoseconds, and the time point zero is the one
the code uses for "not waiting". `popWait` holds the lock for one turn of its
loop after another and waits between them; a turn is an operation of its own.
-/

namespace MeetingSystem.Impl.Client

open MeetingSystem.Framework

structure JitterBuffer where
  packets : AList fun _ : UInt16 => RTPPacket
  expectedSeq : Option UInt16
  gapWaitStartedAt : Int
  maxPackets : Nat
  minBufferedPackets : Nat
  gapTimeout : Int
  playoutStarted : Bool

namespace JitterBuffer

def new (maxPackets minBufferedPackets : Nat) (gapTimeout : Int) : JitterBuffer :=
  let maxPackets := if maxPackets = 0 then 1 else maxPackets
  { packets := ∅, expectedSeq := none, gapWaitStartedAt := 0, maxPackets
    minBufferedPackets := max 1 (min minBufferedPackets maxPackets)
    gapTimeout := if gapTimeout < 0 then 0 else gapTimeout
    playoutStarted := false }

def size (b : JitterBuffer) : Nat := b.packets.keys.length

/-- `m_packets.begin()`: the least sequence number that is held. -/
def begin? (packets : AList fun _ : UInt16 => RTPPacket) : Option UInt16 :=
  least (fun a b => decide (a < b)) packets.keys

/-- The loop of `trimLocked`; every turn drops a packet, so there are no more
turns than packets. -/
def trim (maxPackets : Nat) :
    Nat → (AList fun _ : UInt16 => RTPPacket) → AList fun _ : UInt16 => RTPPacket
  | 0, packets => packets
  | turns + 1, packets =>
    if packets.keys.length > maxPackets then
      match begin? packets with
      | none => packets
      | some seq => trim maxPackets turns (packets.erase seq)
    else packets

def trimLocked (b : JitterBuffer) : JitterBuffer :=
  { b with packets := trim b.maxPackets b.size b.packets }

def setMinBufferedPackets (b : JitterBuffer) (minBufferedPackets : Nat) : JitterBuffer :=
  { b with minBufferedPackets := max 1 (min minBufferedPackets b.maxPackets) }

def setGapTimeout (b : JitterBuffer) (timeout : Int) : JitterBuffer :=
  { b with gapTimeout := if timeout < 0 then 0 else timeout, gapWaitStartedAt := 0 }

def clear (b : JitterBuffer) : JitterBuffer :=
  { b with packets := ∅, expectedSeq := none, gapWaitStartedAt := 0, playoutStarted := false }

def push (b : JitterBuffer) (packet : RTPPacket) : JitterBuffer :=
  let seq := packet.header.sequenceNumber
  trimLocked
    { b with
      packets := b.packets.insert seq packet
      expectedSeq := some (b.expectedSeq.getD seq) }

/-- Whether the expected packet is held, or none is expected. -/
def expectedHeld (b : JitterBuffer) : Bool :=
  match b.expectedSeq with
  | none => true
  | some seq => seq ∈ b.packets

/-- The part of `readyToPopLocked` behind the check of the playout. -/
def gapElapsed (b : JitterBuffer) (now : Int) : JitterBuffer × Bool :=
  if b.expectedHeld then ({ b with gapWaitStartedAt := 0 }, true)
  else if b.size ≥ b.maxPackets ∨ b.gapTimeout = 0 then (b, true)
  else if b.gapWaitStartedAt = 0 then ({ b with gapWaitStartedAt := now }, false)
  else (b, now - b.gapWaitStartedAt ≥ b.gapTimeout)

def readyToPopLocked (b : JitterBuffer) (now : Int) : JitterBuffer × Bool :=
  if b.size = 0 then (b, false)
  else if b.playoutStarted then b.gapElapsed now
  else if b.size < b.minBufferedPackets ∧ b.size < b.maxPackets then (b, false)
  else gapElapsed { b with playoutStarted := true } now

/-- The sequence number `popLocked` takes. -/
def nextSeq (b : JitterBuffer) : Option UInt16 :=
  match b.expectedSeq with
  | none => begin? b.packets
  | some seq => if seq ∈ b.packets then some seq else begin? b.packets

def popLocked (b : JitterBuffer) (now : Int) : JitterBuffer × Option RTPPacket :=
  let (b, ready) := b.readyToPopLocked now
  if ready then
    match b.nextSeq with
    | none => (b, none)
    | some seq =>
      ({ b with packets := b.packets.erase seq, expectedSeq := some (seq + 1),
                gapWaitStartedAt := 0 },
        b.packets.lookup seq)
  else (b, none)

/-- One turn of `popWait`: it pops, or it gives up or waits for the next. -/
def popWaitTurn (b : JitterBuffer) (now popNow : Int) : JitterBuffer × Option RTPPacket :=
  let (b, ready) := b.readyToPopLocked now
  if ready then b.popLocked popNow else (b, none)

/-- What a turn of `popWait` comes to. -/
inductive Turn
  | returns (packet : Option RTPPacket)
  | waits (slice : Int)
  deriving DecidableEq

/-- How long a turn waits, with `remaining` left until the deadline: a whole
number of milliseconds. -/
def waitSlice (b : JitterBuffer) (remaining : Int) : Int :=
  let remaining := remaining / 1000000 * 1000000
  if b.gapTimeout > 0 then min remaining b.gapTimeout else remaining

/-- The body of the loop of `popWait`. It reads the clock for the check and once
more, in `popLocked` or for the comparison with the deadline. -/
def turn (b : JitterBuffer) (deadline checkedAt now : Int) : JitterBuffer × Turn :=
  let (b, ready) := b.readyToPopLocked checkedAt
  if ready then
    let (b, packet) := b.popLocked now
    (b, .returns packet)
  else if now ≥ deadline then (b, .returns none)
  else if b.waitSlice (deadline - now) ≤ 0 then (b, .returns none)
  else (b, .waits (b.waitSlice (deadline - now)))

/-- The loop with the clock readings of its turns; `none` if it still waits
after them. -/
def popWaitLoop (deadline : Int) :
    JitterBuffer → List (Int × Int) → JitterBuffer × Option (Option RTPPacket)
  | b, [] => (b, none)
  | b, (checkedAt, now) :: turns =>
    match b.turn deadline checkedAt now with
    | (b, .returns packet) => (b, some packet)
    | (b, .waits _) => popWaitLoop deadline b turns

/-- A call of `popWait` during which nothing else is called. -/
def popWait (b : JitterBuffer) (start timeout : Int) (turns : List (Int × Int)) :
    JitterBuffer × Option (Option RTPPacket) :=
  popWaitLoop (start + timeout) b turns

end JitterBuffer

end MeetingSystem.Impl.Client
