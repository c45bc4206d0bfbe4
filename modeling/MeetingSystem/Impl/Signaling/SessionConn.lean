import MeetingSystem.Impl.Signaling.Frame
import MeetingSystem.Impl.Signaling.Token

/-!
# The connection of a session

The loops of `signaling/server/session.go` that read and write a session's
connection, and the calls of other goroutines that they meet: `SendRaw` and `Close`.
A step is one that no other goroutine sees half of. Where several cases of a `select`
are ready, and where the connection takes a part of the bytes or fails, the step says
what happens.
-/

namespace MeetingSystem.Impl.Signaling

open MeetingSystem.Framework

/-! ## Reading -/

structure SignalMessage where
  msgType : UInt16
  payload : Bytes
  deriving DecidableEq, Repr

/-- `readLoop` on the bytes that have arrived: the calls of `onMessage`, the bytes of
a message that is not complete, and whether the loop returns for a bad header. -/
def readLoop (maxPayload : UInt32) (bytes : Bytes) : List SignalMessage × Bytes × Bool :=
  if bytes.length < Protocol.HeaderSize then ([], bytes, false)
  else
    match Protocol.DecodeHeader (bytes.take Protocol.HeaderSize) maxPayload with
    | .error _ => ([], bytes, true)
    | .ok (msgType, payloadLen) =>
      if bytes.length < Protocol.HeaderSize + payloadLen.toNat then ([], bytes, false)
      else
        let payload := (bytes.drop Protocol.HeaderSize).take payloadLen.toNat
        let r := readLoop maxPayload (bytes.drop (Protocol.HeaderSize + payloadLen.toNat))
        ({ msgType, payload } :: r.1, r.2)
  termination_by bytes.length
  decreasing_by
    simp only [List.length_drop, Protocol.HeaderSize] at *
    omega

/-! ## Writing -/

structure SessionConn where
  writeCh : List Bytes
  /-- `closeCh` is closed. -/
  closed : Bool
  /-- `conn` is closed. -/
  connClosed : Bool
  /-- What is left of the data that `writeLoop` is writing. -/
  writing : Option Bytes
  /-- `writeLoop` has returned. -/
  returned : Bool
  /-- The bytes that `conn` has taken. -/
  taken : Bytes
  deriving DecidableEq, Repr

inductive SendResult where
  | ok | sessionClosed | writeBufferFull
  deriving DecidableEq, Repr

inductive ConnOp where
  /-- `sendFirst` chooses the case `writeCh <- frame` if both are ready; `waiting` says that
  `writeLoop` waits in its `select` if no case of it is ready, and then takes the frame at
  once. -/
  | sendRaw (frame : Bytes) (sendFirst waiting : Bool)
  /-- The `select` of `writeLoop`; `closeFirst` chooses the case `<-closeCh`. -/
  | receive (closeFirst : Bool)
  /-- `conn` takes up to `count` bytes. -/
  | write (count : Nat)
  | writeError
  /-- `Close` up to the closing of `conn`. -/
  | close
  | connClose
  deriving DecidableEq, Repr

namespace SessionConn

def new : SessionConn :=
  { writeCh := [], closed := false, connClosed := false, writing := none, returned := false
    taken := [] }

def close (s : SessionConn) : SessionConn := { s with closed := true }

/-- `writeLoop` is at its `select`, and no case of it is ready. -/
def idle (s : SessionConn) : Bool :=
  s.writing.isNone && !s.returned && s.writeCh.isEmpty && !s.closed

/-- `SendRaw` of a session whose queue has room for `cap` frames. -/
def sendRaw (cap : Nat) (s : SessionConn) (frame : Bytes) (sendFirst waiting : Bool) :
    SessionConn × SendResult :=
  if waiting ∧ s.idle then ({ s with writing := some frame }, .ok)
  else if s.writeCh.length < cap then
    if s.closed ∧ !sendFirst then (s, .sessionClosed)
    else ({ s with writeCh := s.writeCh ++ [frame] }, .ok)
  else if s.closed then (s, .sessionClosed)
  else (s.close, .writeBufferFull)

def receive (s : SessionConn) (closeFirst : Bool) : SessionConn :=
  if s.returned ∨ s.writing.isSome then s
  else
    match s.writeCh with
    | [] => if s.closed then { s with returned := true } else s
    | data :: writeCh =>
      if s.closed ∧ closeFirst then { s with returned := true }
      else { s with writeCh, writing := some data }

def write (s : SessionConn) (count : Nat) : SessionConn :=
  match s.writing with
  | none => s
  | some data =>
    if s.connClosed then s
    else
      { s with
        taken := s.taken ++ data.take count
        writing := if data.length ≤ count then none else some (data.drop count) }

/-- `Write` returns an error, and `writeLoop` with it. -/
def writeError (s : SessionConn) : SessionConn :=
  match s.writing with
  | none => s
  | some _ => { s with writing := none, returned := true, closed := true }

def step (cap : Nat) (s : SessionConn) : ConnOp → SessionConn
  | .sendRaw frame sendFirst waiting => (s.sendRaw cap frame sendFirst waiting).1
  | .receive closeFirst => s.receive closeFirst
  | .write count => s.write count
  | .writeError => s.writeError
  | .close => s.close
  | .connClose => if s.closed then { s with connClosed := true } else s

end SessionConn

end MeetingSystem.Impl.Signaling
