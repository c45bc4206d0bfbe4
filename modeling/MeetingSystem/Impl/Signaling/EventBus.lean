import MeetingSystem.Impl.Signaling.Token
import MeetingSystem.Impl.Store.Users

/-!
# Events between signaling nodes

The buses of `signaling/store/room_event_bus.go` and `node_event_bus.go`: the
channels of Redis, the envelopes that travel on them as JSON, and what a node does
with a message. A Go string is the list of its bytes, and an empty slice is nil. A
field of type `[]byte` is text in padded base64, or an array of numbers.
-/

namespace MeetingSystem.Impl.Signaling

open MeetingSystem.Framework

/-! ## Standard library -/

/-- Writing a field of type `[]byte`. -/
def quoteBytes (b : Bytes) : Bytes :=
  if b = [] then utf8 "null" else Json.quote (Base64.encodePadded Base64.std b)

/-- Storing an element of a `[]byte`. -/
def storeByte (old : UInt8) : Json → Option UInt8
  | .null => some old
  | .number literal =>
    match parseNat literal with
    | some n => if n < 256 then some n.toUInt8 else none
    | none => none
  | _ => none

def storeItems : Bytes → List Json → Option Bytes
  | _, [] => some []
  | old, j :: js => do
    let b ← storeByte (old.headD 0) j
    let bs ← storeItems old.tail js
    some (b :: bs)

/-- Storing a value in a field of type `[]byte`. -/
def storeBytes (old : Bytes) : Json → Option Bytes
  | .null => some []
  | .string text => Base64.decodePadded Base64.std text
  | .array items => storeItems old items
  | _ => none

/-- Storing a value in a field of type bool. -/
def storeBool (old : Bool) : Json → Option Bool
  | .null => some old
  | .bool b => some b
  | _ => none

/-- Storing a value in a field of type `*int32`. -/
def storeInt32 : Json → Option (Option Int32)
  | .null => some none
  | .number literal =>
    match parseInt literal with
    | some i => if -2 ^ 31 ≤ i ∧ i < 2 ^ 31 then some (some (Int32.ofInt i)) else none
    | none => none
  | _ => none

/-! ## Broadcasts to a meeting -/

structure RoomBroadcastEnvelope where
  nodeID : Bytes
  excludeUserID : Bytes
  frame : Bytes
  deriving DecidableEq, Repr

/-- A member that is left out if its field is empty. -/
def omitEmpty (name : String) (field : Bytes) (text : Bytes) : List (Bytes × Bytes) :=
  if field = [] then [] else [(utf8 name, text)]

/-- `marshalRoomBroadcastEnvelope`. -/
def RoomBroadcastEnvelope.marshal (e : RoomBroadcastEnvelope) : Bytes :=
  Json.writeObject ((utf8 "node_id", Json.quote e.nodeID) ::
    omitEmpty "exclude_user_id" e.excludeUserID (Json.quote e.excludeUserID) ++
    [(utf8 "frame", quoteBytes e.frame)])

def RoomBroadcastEnvelope.store (e : RoomBroadcastEnvelope) (m : Bytes × Json) :
    Option RoomBroadcastEnvelope :=
  if isField "node_id" m.1 then (storeText e.nodeID m.2).map fun nodeID => { e with nodeID }
  else if isField "exclude_user_id" m.1 then
    (storeText e.excludeUserID m.2).map fun excludeUserID => { e with excludeUserID }
  else if isField "frame" m.1 then (storeBytes e.frame m.2).map fun frame => { e with frame }
  else some e

def roomPrefix : Bytes := utf8 "sig:room:"

def roomBroadcastChannel (meetingID : Bytes) : Bytes := roomPrefix ++ meetingID

def parseMeetingIDFromChannel (channel : Bytes) : Option Bytes :=
  if !roomPrefix.isPrefixOf channel then none
  else
    let meetingID := channel.drop roomPrefix.length
    if meetingID = [] then none else some meetingID

def parseRoomBroadcastMessage (channel payload : Bytes) :
    Option (Bytes × RoomBroadcastEnvelope) := do
  let meetingID ← parseMeetingIDFromChannel channel
  let envelope ← unmarshal RoomBroadcastEnvelope.store
    { nodeID := [], excludeUserID := [], frame := [] } payload
  if envelope.frame = [] then none else some (meetingID, envelope)

/-! ## Events for a user -/

namespace EventBus

/-- `store.UserNodeEvent`. -/
structure UserNodeEvent where
  targetNodeID : Bytes
  targetUserID : Bytes
  targetSessionID : UInt64
  frame : Bytes
  resetMeeting : Bool
  state : Option Int32
  close : Bool
  deriving DecidableEq, Repr

end EventBus

structure NodeFrameEnvelope where
  targetUserID : Bytes
  targetSessionID : Bytes
  frame : Bytes
  resetMeeting : Bool
  state : Option Int32
  close : Bool
  deriving DecidableEq, Repr

/-- A member that is left out if its field is false. -/
def omitFalse (name : String) (field : Bool) : List (Bytes × Bytes) :=
  if field then [(utf8 name, utf8 "true")] else []

/-- `marshalNodeFrameEnvelope`. -/
def NodeFrameEnvelope.marshal (e : NodeFrameEnvelope) : Bytes :=
  Json.writeObject ((utf8 "target_user_id", Json.quote e.targetUserID) ::
    (utf8 "target_session_id", Json.quote e.targetSessionID) ::
    (omitEmpty "frame" e.frame (quoteBytes e.frame) ++ omitFalse "reset_meeting" e.resetMeeting ++
      (e.state.map fun i => (utf8 "state", intBytes i.toInt)).toList ++ omitFalse "close" e.close))

def NodeFrameEnvelope.store (e : NodeFrameEnvelope) (m : Bytes × Json) : Option NodeFrameEnvelope :=
  if isField "target_user_id" m.1 then
    (storeText e.targetUserID m.2).map fun targetUserID => { e with targetUserID }
  else if isField "target_session_id" m.1 then
    (storeText e.targetSessionID m.2).map fun targetSessionID => { e with targetSessionID }
  else if isField "frame" m.1 then (storeBytes e.frame m.2).map fun frame => { e with frame }
  else if isField "reset_meeting" m.1 then
    (storeBool e.resetMeeting m.2).map fun resetMeeting => { e with resetMeeting }
  else if isField "state" m.1 then (storeInt32 m.2).map fun state => { e with state }
  else if isField "close" m.1 then (storeBool e.close m.2).map fun close => { e with close }
  else some e

def parseNodeFrameEnvelope (payload : Bytes) : Option EventBus.UserNodeEvent := do
  let e ← unmarshal NodeFrameEnvelope.store
    { targetUserID := [], targetSessionID := [], frame := [], resetMeeting := false, state := none
      close := false } payload
  if e.targetUserID = [] ∨ e.targetSessionID = [] then none
  else if e.frame = [] ∧ e.resetMeeting = false ∧ e.state = none ∧ e.close = false then none
  else
    let sessionID ← Store.parseUint64 e.targetSessionID
    some { targetNodeID := [], targetUserID := e.targetUserID, targetSessionID := sessionID
           frame := e.frame, resetMeeting := e.resetMeeting, state := e.state, close := e.close }

def nodeBroadcastChannel (nodeID : Bytes) : Bytes := utf8 "sig:node:" ++ nodeID

/-- `PublishUserControl` of a node whose bus is enabled: the channel and the payload. -/
def publishUserControl (event : EventBus.UserNodeEvent) : Option (Bytes × Bytes) :=
  if event.targetNodeID = [] ∨ event.targetUserID = [] ∨ event.targetSessionID = 0 then none
  else
    some (nodeBroadcastChannel event.targetNodeID, NodeFrameEnvelope.marshal
      { targetUserID := event.targetUserID
        targetSessionID := natBytes event.targetSessionID.toNat
        frame := event.frame, resetMeeting := event.resetMeeting, state := event.state
        close := event.close })

/-! ## The bus of the meetings -/

/-- A broadcast as the node that makes it calls `PublishMeetingFrame`, and as a node
that hears of it calls its handler. -/
structure MeetingFrame where
  meetingID : Bytes
  frame : Bytes
  excludeUserID : Bytes
  deriving DecidableEq, Repr

/-- `PublishMeetingFrame` of the node `nodeID`: the channel and the payload. -/
def publishMeetingFrame (nodeID : Bytes) (f : MeetingFrame) : Option (Bytes × Bytes) :=
  if f.meetingID = [] ∨ f.frame = [] then none
  else some (roomBroadcastChannel f.meetingID,
    RoomBroadcastEnvelope.marshal { nodeID, excludeUserID := f.excludeUserID, frame := f.frame })

/-- One round of `consume` on the node `nodeID`: the call of the handler, if any. -/
def consumeRoomMessage (nodeID : Bytes) (msg : Bytes × Bytes) : Option MeetingFrame :=
  match parseRoomBroadcastMessage msg.1 msg.2 with
  | none => none
  | some (meetingID, envelope) =>
    if envelope.nodeID = nodeID then none
    else some { meetingID, frame := envelope.frame, excludeUserID := envelope.excludeUserID }

/-- A subscription to all channels of meetings, as `Start` makes it. `consuming` is
cleared when `consume` returns because it cannot receive. -/
structure RoomPubSub where
  consuming : Bool
  /-- The messages that Redis has sent and `consume` has not received. -/
  msgs : List (Bytes × Bytes)
  deriving DecidableEq, Repr

def RoomPubSub.send (p : RoomPubSub) (msg : Bytes × Bytes) : RoomPubSub :=
  if p.consuming then { p with msgs := p.msgs ++ [msg] } else p

structure RoomBus (N : Type) where
  pubsub : N → Option RoomPubSub

inductive RoomBusOp (N : Type) where
  | start (k : N)
  /-- `sent` says whether Redis gets the message. -/
  | publish (k : N) (f : MeetingFrame) (sent : Bool)
  | consume (k : N)
  /-- `ReceiveMessage` fails. -/
  | fail (k : N)
  | close (k : N)
  deriving DecidableEq

variable {N : Type} [DecidableEq N]

/-- One step of the bus, with the handler's call. -/
def RoomBus.step (nodeID : N → Bytes) (b : RoomBus N) : RoomBusOp N → RoomBus N × Option MeetingFrame
  | .start k =>
    match b.pubsub k with
    | some _ => (b, none)
    | none => ({ pubsub := Function.update b.pubsub k (some { consuming := true, msgs := [] }) }, none)
  | .publish k f sent =>
    match publishMeetingFrame (nodeID k) f with
    | none => (b, none)
    | some msg =>
      if sent then ({ pubsub := fun j => (b.pubsub j).map fun p => p.send msg }, none)
      else (b, none)
  | .consume k =>
    match b.pubsub k with
    | some { consuming, msgs := msg :: msgs } =>
      ({ pubsub := Function.update b.pubsub k (some { consuming, msgs }) },
        consumeRoomMessage (nodeID k) msg)
    | _ => (b, none)
  | .fail k =>
    ({ pubsub := Function.update b.pubsub k
        ((b.pubsub k).map fun _ => { consuming := false, msgs := [] }) }, none)
  | .close k => ({ pubsub := Function.update b.pubsub k none }, none)

end MeetingSystem.Impl.Signaling
