import MeetingSystem.Framework.Run
import MeetingSystem.Impl.Signaling.EventBus
import MeetingSystem.Proof.Store.Users

/-!
# What nodes hear of each other

Envelopes are read back as they were written, up to bytes that are not part of a
character, for which U+FFFD stands.

* `parse_publishUserControl`: an event that is published for a user and asks for
  something reaches its node with all its fields but the node, which is the channel;
* `consume_publishMeetingFrame`: a broadcast calls the handler of another node with
  its meeting, frame and excluded user, and not that of its own node;
* `heard_run`: whatever nodes start, publish, receive and close, a subscription calls
  its handler once for each broadcast of another node since it started, in order.
-/

namespace MeetingSystem.Proof.Signaling

open MeetingSystem.Framework MeetingSystem.Impl.Signaling
open MeetingSystem.Proof.Store (parseUint64_natBytes)

/-! ## Fields -/

theorem isPlain_encodePadded (b : Bytes) : ∀ c ∈ Base64.encodePadded Base64.std b,
    Json.IsPlain c := by
  have hall : ∀ c ∈ Base64.std.symbols, Json.IsPlain c := by decide +kernel
  intro c hc
  rcases List.mem_append.mp hc with hc | hc
  · exact hall c (Base64.mem_symbols_of_encode _ hc)
  · rw [List.eq_of_mem_replicate hc]
    decide

theorem isPlain_natBytes (n : Nat) : ∀ c ∈ natBytes n, Json.IsPlain c := by
  intro c hc
  have hd := isDigit_of_mem_natBytes hc
  simp only [isDigit, Bool.and_eq_true, decide_eq_true_eq, UInt8.le_iff_toNat_le,
    UInt8.reduceToNat] at hd
  simp only [Json.IsPlain, UInt8.le_iff_toNat_le, UInt8.lt_iff_toNat_lt, ne_eq, ← UInt8.toNat_inj,
    UInt8.reduceToNat]
  omega

theorem renders_quoteBytes {b : Bytes} (hb : b ≠ []) :
    Json.Renders (quoteBytes b) (.string (Base64.encodePadded Base64.std b)) := by
  rw [quoteBytes, if_neg hb]
  exact Json.renders_quote (isPlain_encodePadded b)

theorem storeBytes_encodePadded (old b : Bytes) :
    storeBytes old (.string (Base64.encodePadded Base64.std b)) = some b :=
  Base64.decodePadded_encodePadded _ (by decide) b

theorem key_isPlain {name : String} (h : (utf8 name).all (fun c => Json.IsPlain c) = true) :
    ∀ c ∈ utf8 name, Json.IsPlain c := Json.isPlain_of_all h

/-- A member that is left out, or written and read. -/
def optionalMember (name : String) (present : Bool) (j : Json) : List (Bytes × Json) :=
  if present then [(utf8 name, j)] else []

theorem rendersMembers_append {ms ms' : List (Bytes × Bytes)} {js js' : List (Bytes × Json)}
    (h : Json.RendersMembers ms js) (h' : Json.RendersMembers ms' js') :
    Json.RendersMembers (ms ++ ms') (js ++ js') := by
  induction h with
  | nil => exact h'
  | cons hkey hv _ ih => exact .cons hkey hv ih

theorem renders_omitEmpty {name : String} (hname : (utf8 name).all (fun c => Json.IsPlain c) = true)
    {field text : Bytes} {j : Json} (h : field ≠ [] → Json.Renders text j) :
    Json.RendersMembers (omitEmpty name field text) (optionalMember name (field ≠ []) j) := by
  unfold omitEmpty optionalMember
  by_cases hf : field = []
  · simp only [hf, if_true]
    exact .nil
  · simp only [if_neg hf, decide_eq_true hf, ne_eq, if_true]
    exact .cons (key_isPlain hname) (h hf) .nil

theorem renders_omitFalse {name : String} (hname : (utf8 name).all (fun c => Json.IsPlain c) = true)
    (field : Bool) :
    Json.RendersMembers (omitFalse name field) (optionalMember name field (.bool true)) := by
  cases field with
  | false => exact .nil
  | true => exact .cons (key_isPlain hname) Json.renders_true .nil

/-! ## Broadcasts -/

section Room

variable (e : RoomBroadcastEnvelope)

theorem store_node_id (t : Bytes) :
    e.store (utf8 "node_id", .string t) = some { e with nodeID := t } := by
  have h : isField "node_id" (utf8 "node_id") = true := by decide
  simp only [RoomBroadcastEnvelope.store, h, if_true]
  rfl

theorem store_exclude_user_id (t : Bytes) :
    e.store (utf8 "exclude_user_id", .string t) = some { e with excludeUserID := t } := by
  have h : isField "node_id" (utf8 "exclude_user_id") = false ∧
      isField "exclude_user_id" (utf8 "exclude_user_id") = true := by decide
  simp only [RoomBroadcastEnvelope.store, h, if_true, Bool.false_eq_true, if_false]
  rfl

theorem store_room_frame (b : Bytes) :
    e.store (utf8 "frame", .string (Base64.encodePadded Base64.std b)) =
      some { e with frame := b } := by
  have h : isField "node_id" (utf8 "frame") = false ∧
      isField "exclude_user_id" (utf8 "frame") = false ∧ isField "frame" (utf8 "frame") = true := by
    decide
  simp only [RoomBroadcastEnvelope.store, h, if_true, Bool.false_eq_true, if_false,
    storeBytes_encodePadded]
  rfl

variable {e}

theorem unmarshal_room (hframe : e.frame ≠ []) :
    unmarshal RoomBroadcastEnvelope.store { nodeID := [], excludeUserID := [], frame := [] }
        e.marshal =
      some { e with nodeID := Json.sanitize e.nodeID
                    excludeUserID := Json.sanitize e.excludeUserID } := by
  have hrenders : Json.RendersMembers
      ((utf8 "node_id", Json.quote e.nodeID) ::
        omitEmpty "exclude_user_id" e.excludeUserID (Json.quote e.excludeUserID) ++
        [(utf8 "frame", quoteBytes e.frame)])
      ((utf8 "node_id", .string (Json.sanitize e.nodeID)) ::
        optionalMember "exclude_user_id" (e.excludeUserID ≠ [])
          (.string (Json.sanitize e.excludeUserID)) ++
        [(utf8 "frame", .string (Base64.encodePadded Base64.std e.frame))]) := by
    refine rendersMembers_append (.cons (key_isPlain (by decide)) (Json.renders_quote_any _)
      (renders_omitEmpty (by decide) fun _ => Json.renders_quote_any _)) ?_
    exact .cons (key_isPlain (by decide)) (renders_quoteBytes hframe) .nil
  rw [unmarshal, RoomBroadcastEnvelope.marshal, maxNestingDepth,
    Json.parse_object hrenders (by simp) (by decide)]
  show List.foldlM RoomBroadcastEnvelope.store _ _ = _
  by_cases hex : e.excludeUserID = []
  · simp [optionalMember, hex, store_node_id, store_room_frame]
    rfl
  · simp [optionalMember, hex, store_node_id, store_exclude_user_id, store_room_frame]

theorem parseMeetingIDFromChannel_roomBroadcastChannel {meetingID : Bytes} (h : meetingID ≠ []) :
    parseMeetingIDFromChannel (roomBroadcastChannel meetingID) = some meetingID := by
  unfold parseMeetingIDFromChannel roomBroadcastChannel
  simp [h]

end Room

/-- What a handler is called with for a broadcast. -/
def heard (f : MeetingFrame) : MeetingFrame :=
  { f with excludeUserID := Json.sanitize f.excludeUserID }

theorem consume_publishMeetingFrame {nodeID : Bytes} {f : MeetingFrame} {msg : Bytes × Bytes}
    (h : publishMeetingFrame nodeID f = some msg) (nodeID' : Bytes) :
    consumeRoomMessage nodeID' msg =
      if Json.sanitize nodeID = nodeID' then none else some (heard f) := by
  unfold publishMeetingFrame at h
  split at h
  · cases h
  · rename_i hne
    rw [not_or] at hne
    obtain rfl := Option.some.inj h
    have hparse : parseRoomBroadcastMessage (roomBroadcastChannel f.meetingID)
        (RoomBroadcastEnvelope.marshal
          { nodeID, excludeUserID := f.excludeUserID, frame := f.frame }) =
        some (f.meetingID, { nodeID := Json.sanitize nodeID
                             excludeUserID := Json.sanitize f.excludeUserID
                             frame := f.frame }) := by
      unfold parseRoomBroadcastMessage
      rw [parseMeetingIDFromChannel_roomBroadcastChannel hne.1, unmarshal_room hne.2]
      simp [hne.2]
    unfold consumeRoomMessage
    rw [hparse]
    rfl

/-! ## Events for a user -/

section Node

variable (e : NodeFrameEnvelope)

theorem store_target_user_id (t : Bytes) :
    e.store (utf8 "target_user_id", .string t) = some { e with targetUserID := t } := by
  have h : isField "target_user_id" (utf8 "target_user_id") = true := by decide
  simp only [NodeFrameEnvelope.store, h, if_true]
  rfl

theorem store_target_session_id (t : Bytes) :
    e.store (utf8 "target_session_id", .string t) = some { e with targetSessionID := t } := by
  have h : isField "target_user_id" (utf8 "target_session_id") = false ∧
      isField "target_session_id" (utf8 "target_session_id") = true := by decide
  simp only [NodeFrameEnvelope.store, h, if_true, Bool.false_eq_true, if_false]
  rfl

variable {e}

/-- Reading back a member that is left out where its field is zero. -/
theorem foldlM_frame (h : e.frame = []) (b : Bytes) :
    (optionalMember "frame" (b ≠ []) (.string (Base64.encodePadded Base64.std b))).foldlM
      NodeFrameEnvelope.store e = some { e with frame := b } := by
  have hkey : isField "target_user_id" (utf8 "frame") = false ∧
      isField "target_session_id" (utf8 "frame") = false ∧ isField "frame" (utf8 "frame") = true := by
    decide
  by_cases hb : b = []
  · subst hb
    show some e = some { e with frame := [] }
    rw [← h]
  · simp only [optionalMember, ne_eq, hb, not_false_eq_true, decide_true, if_true, List.foldlM_cons,
      List.foldlM_nil, NodeFrameEnvelope.store, hkey, Bool.false_eq_true, if_false,
      storeBytes_encodePadded]
    rfl

@[inherit_doc foldlM_frame]
theorem foldlM_reset_meeting (h : e.resetMeeting = false) (b : Bool) :
    (optionalMember "reset_meeting" b (.bool true)).foldlM NodeFrameEnvelope.store e =
      some { e with resetMeeting := b } := by
  have hkey : isField "target_user_id" (utf8 "reset_meeting") = false ∧
      isField "target_session_id" (utf8 "reset_meeting") = false ∧
      isField "frame" (utf8 "reset_meeting") = false ∧
      isField "reset_meeting" (utf8 "reset_meeting") = true := by
    decide
  cases b with
  | false =>
    show some e = some { e with resetMeeting := false }
    rw [← h]
  | true =>
    simp only [optionalMember, if_true, List.foldlM_cons, List.foldlM_nil, NodeFrameEnvelope.store,
      hkey, Bool.false_eq_true, if_false]
    rfl

theorem storeInt32_intBytes (i : Int32) :
    storeInt32 (.number (intBytes i.toInt)) = some (some i) := by
  have h : -2 ^ 31 ≤ i.toInt ∧ i.toInt < 2 ^ 31 := ⟨i.le_toInt, i.toInt_lt⟩
  simp only [storeInt32, parseInt_intBytes, if_pos h, Int32.ofInt_toInt]

@[inherit_doc foldlM_frame]
theorem foldlM_state (h : e.state = none) (st : Option Int32) :
    (st.map fun i => (utf8 "state", Json.number (intBytes i.toInt))).toList.foldlM
      NodeFrameEnvelope.store e = some { e with state := st } := by
  have hkey : isField "target_user_id" (utf8 "state") = false ∧
      isField "target_session_id" (utf8 "state") = false ∧
      isField "frame" (utf8 "state") = false ∧ isField "reset_meeting" (utf8 "state") = false ∧
      isField "state" (utf8 "state") = true := by
    decide
  cases st with
  | none =>
    show some e = some { e with state := none }
    rw [← h]
  | some i =>
    simp only [Option.map_some, Option.toList_some, List.foldlM_cons, List.foldlM_nil,
      NodeFrameEnvelope.store, hkey, Bool.false_eq_true, if_false, if_true, storeInt32_intBytes]
    rfl

@[inherit_doc foldlM_frame]
theorem foldlM_close (h : e.close = false) (b : Bool) :
    (optionalMember "close" b (.bool true)).foldlM NodeFrameEnvelope.store e =
      some { e with close := b } := by
  have hkey : isField "target_user_id" (utf8 "close") = false ∧
      isField "target_session_id" (utf8 "close") = false ∧
      isField "frame" (utf8 "close") = false ∧ isField "reset_meeting" (utf8 "close") = false ∧
      isField "state" (utf8 "close") = false ∧ isField "close" (utf8 "close") = true := by
    decide
  cases b with
  | false =>
    show some e = some { e with close := false }
    rw [← h]
  | true =>
    simp only [optionalMember, if_true, List.foldlM_cons, List.foldlM_nil, NodeFrameEnvelope.store,
      hkey, Bool.false_eq_true, if_false]
    rfl

theorem renders_state (st : Option Int32) :
    Json.RendersMembers (st.map fun i => (utf8 "state", intBytes i.toInt)).toList
      (st.map fun i => (utf8 "state", Json.number (intBytes i.toInt))).toList := by
  cases st with
  | none => exact .nil
  | some i => exact .cons (key_isPlain (by decide)) (Json.renders_intBytes _) .nil

theorem unmarshal_node (hsession : ∀ c ∈ e.targetSessionID, Json.IsPlain c) :
    unmarshal NodeFrameEnvelope.store
        { targetUserID := [], targetSessionID := [], frame := [], resetMeeting := false
          state := none, close := false } e.marshal =
      some { e with targetUserID := Json.sanitize e.targetUserID } := by
  have hrenders : Json.RendersMembers
      ((utf8 "target_user_id", Json.quote e.targetUserID) ::
        (utf8 "target_session_id", Json.quote e.targetSessionID) ::
        (omitEmpty "frame" e.frame (quoteBytes e.frame) ++
          omitFalse "reset_meeting" e.resetMeeting ++
          (e.state.map fun i => (utf8 "state", intBytes i.toInt)).toList ++
          omitFalse "close" e.close))
      ((utf8 "target_user_id", .string (Json.sanitize e.targetUserID)) ::
        (utf8 "target_session_id", .string e.targetSessionID) ::
        (optionalMember "frame" (e.frame ≠ []) (.string (Base64.encodePadded Base64.std e.frame)) ++
          optionalMember "reset_meeting" e.resetMeeting (.bool true) ++
          (e.state.map fun i => (utf8 "state", Json.number (intBytes i.toInt))).toList ++
          optionalMember "close" e.close (.bool true))) := by
    refine .cons (key_isPlain (by decide)) (Json.renders_quote_any _)
      (.cons (key_isPlain (by decide)) (Json.renders_quote hsession) ?_)
    refine rendersMembers_append (rendersMembers_append (rendersMembers_append ?_ ?_) ?_) ?_
    · exact renders_omitEmpty (by decide) renders_quoteBytes
    · exact renders_omitFalse (by decide) e.resetMeeting
    · exact renders_state e.state
    · exact renders_omitFalse (by decide) e.close
  rw [unmarshal, NodeFrameEnvelope.marshal, maxNestingDepth,
    Json.parse_object hrenders (by simp) (by decide)]
  show List.foldlM NodeFrameEnvelope.store _ _ = _
  simp only [List.foldlM_cons, List.foldlM_append, store_target_user_id, store_target_session_id,
    Option.bind_eq_bind, Option.bind_some, foldlM_frame, foldlM_reset_meeting, foldlM_state,
    foldlM_close]

end Node

/-- What a node is told of an event: nothing if it asks for nothing, as its envelope is
refused. The channel stands for the target node, and the user id is what JSON carries. -/
def told (event : EventBus.UserNodeEvent) : Option EventBus.UserNodeEvent :=
  if event.frame = [] ∧ event.resetMeeting = false ∧ event.state = none ∧ event.close = false then
    none
  else some { event with targetNodeID := [], targetUserID := Json.sanitize event.targetUserID }

theorem sanitize_ne_nil {text : Bytes} (h : text ≠ []) : Json.sanitize text ≠ [] := by
  obtain ⟨c, rest, rfl⟩ := List.exists_cons_of_ne_nil h
  show Json.sanitizeText (rest.length + 1) (c :: rest) ≠ []
  unfold Json.sanitizeText
  split
  · simp [Json.replacement]
  · rename_i hlen
    obtain ⟨n, hn⟩ := Nat.exists_eq_succ_of_ne_zero hlen
    simp [hn]

theorem parse_publishUserControl (event : EventBus.UserNodeEvent) :
    (publishUserControl event).map (fun msg => (msg.1, parseNodeFrameEnvelope msg.2)) =
      if event.targetNodeID = [] ∨ event.targetUserID = [] ∨ event.targetSessionID = 0 then none
      else some (nodeBroadcastChannel event.targetNodeID, told event) := by
  unfold publishUserControl
  split
  · rfl
  · rename_i hne
    rw [not_or, not_or] at hne
    simp only [Option.map_some, parseNodeFrameEnvelope, told]
    rw [unmarshal_node (isPlain_natBytes _)]
    simp only [Option.bind_eq_bind, Option.bind_some, sanitize_ne_nil hne.2.1, natBytes_ne_nil,
      or_self, if_false, parseUint64_natBytes]

/-! ## Runs of the bus -/

/-- The bus, with what Redis has got and the handler has been called with since each
node last started. -/
structure RoomWatch (N : Type) where
  bus : RoomBus N
  log : N → List (N × MeetingFrame)
  calls : N → List MeetingFrame

section Run

variable {N : Type}

def RoomWatch.idle : RoomWatch N where
  bus := { pubsub := fun _ => none }
  log _ := []
  calls _ := []

/-- What Redis gets. -/
def gets (nodeID : N → Bytes) : RoomBusOp N → List (N × MeetingFrame)
  | .publish k f true => if (publishMeetingFrame (nodeID k) f).isSome then [(k, f)] else []
  | _ => []

variable [DecidableEq N]

/-- The node subscribes. -/
def Starts (b : RoomBus N) (op : RoomBusOp N) (k : N) : Prop := op = .start k ∧ b.pubsub k = none

instance (b : RoomBus N) (op : RoomBusOp N) (k : N) : Decidable (Starts b op k) :=
  inferInstanceAs (Decidable (_ ∧ _))

def RoomWatch.step (nodeID : N → Bytes) (w : RoomWatch N) (op : RoomBusOp N) : RoomWatch N where
  bus := (w.bus.step nodeID op).1
  log k := if Starts w.bus op k then [] else w.log k ++ gets nodeID op
  calls k :=
    if Starts w.bus op k then []
    else if op = .consume k then w.calls k ++ (w.bus.step nodeID op).2.toList
    else w.calls k

/-- The calls that the node `nodeID k` owes for broadcasts. -/
def due (nodeID : N → Bytes) (k : N) (log : List (N × MeetingFrame)) : List MeetingFrame :=
  (log.filter fun e => Json.sanitize (nodeID e.1) ≠ nodeID k).map fun e => heard e.2

omit [DecidableEq N] in
theorem due_append (nodeID : N → Bytes) (k : N) (log log' : List (N × MeetingFrame)) :
    due nodeID k (log ++ log') = due nodeID k log ++ due nodeID k log' := by
  simp [due]

variable {nodeID : N → Bytes}

omit [DecidableEq N] in
theorem consume_due {j : N} {f : MeetingFrame} {msg : Bytes × Bytes}
    (h : publishMeetingFrame (nodeID j) f = some msg) (k : N) :
    (consumeRoomMessage (nodeID k) msg).toList = due nodeID k [(j, f)] := by
  rw [consume_publishMeetingFrame h]
  by_cases hjk : Json.sanitize (nodeID j) = nodeID k
  · simp [due, hjk]
  · simp [due, hjk]

/-- The calls made are the first ones due, and those missing are on the way as long
as the node receives. -/
structure HeardInv (nodeID : N → Bytes) (w : RoomWatch N) (k : N) : Prop where
  calls : w.calls k <+: due nodeID k (w.log k)
  consuming : ∀ msgs, w.bus.pubsub k = some { consuming := true, msgs } →
    w.calls k ++ msgs.filterMap (consumeRoomMessage (nodeID k)) = due nodeID k (w.log k)
  stopped : ∀ msgs, w.bus.pubsub k = some { consuming := false, msgs } → msgs = []

omit [DecidableEq N] in
/-- A step that leaves a node's subscription and its calls as they are, and gives
Redis nothing. -/
theorem HeardInv.same {w w' : RoomWatch N} {k : N} (h : HeardInv nodeID w k)
    (hpubsub : w'.bus.pubsub k = w.bus.pubsub k) (hlog : w'.log k = w.log k)
    (hcalls : w'.calls k = w.calls k) : HeardInv nodeID w' k where
  calls := by rw [hcalls, hlog]; exact h.calls
  consuming := by rw [hcalls, hlog, hpubsub]; exact h.consuming
  stopped := by rw [hpubsub]; exact h.stopped

omit [DecidableEq N] in
/-- A step that ends a node's subscription, or what it receives. -/
theorem HeardInv.ended {w w' : RoomWatch N} {k : N} (h : HeardInv nodeID w k)
    (hpubsub : ∀ p, w'.bus.pubsub k = some p → p = { consuming := false, msgs := [] })
    (hlog : w'.log k = w.log k) (hcalls : w'.calls k = w.calls k) : HeardInv nodeID w' k where
  calls := by rw [hcalls, hlog]; exact h.calls
  consuming _ hp := by cases hpubsub _ hp
  stopped _ hp := by cases hpubsub _ hp; rfl

theorem HeardInv.start {w : RoomWatch N} {k : N} (h : HeardInv nodeID w k) (j : N) :
    HeardInv nodeID (w.step nodeID (.start j)) k := by
  cases hj : w.bus.pubsub j with
  | some p =>
    have hno : ¬ Starts w.bus (.start j) k := by
      rintro ⟨he, hnone⟩
      cases he
      rw [hj] at hnone
      cases hnone
    refine h.same ?_ ?_ ?_
    · simp [RoomWatch.step, RoomBus.step, hj]
    · simp [RoomWatch.step, gets, hno]
    · simp [RoomWatch.step, hno]
  | none =>
    by_cases hkj : k = j
    · subst hkj
      have hstarts : Starts w.bus (.start k) k := ⟨rfl, hj⟩
      refine ⟨?_, fun msgs hp => ?_, fun msgs hp => ?_⟩
      · simp [RoomWatch.step, hstarts]
      · simp only [RoomWatch.step, RoomBus.step, hj, Function.update_self, Option.some.injEq,
          RoomPubSub.mk.injEq, true_and] at hp
        simp [RoomWatch.step, hstarts, ← hp, due]
      · simp [RoomWatch.step, RoomBus.step, hj] at hp
    · have hno : ¬ Starts w.bus (.start j) k := fun hs => hkj (by cases hs.1; rfl)
      refine h.same ?_ ?_ ?_
      · simp [RoomWatch.step, RoomBus.step, hj, hkj]
      · simp [RoomWatch.step, gets, hno]
      · simp [RoomWatch.step, hno]

theorem HeardInv.publish {w : RoomWatch N} {k : N} (h : HeardInv nodeID w k) (j : N)
    (f : MeetingFrame) (sent : Bool) : HeardInv nodeID (w.step nodeID (.publish j f sent)) k := by
  have hno : ¬ Starts w.bus (.publish j f sent) k := fun hs => by cases hs.1
  have hcalls : (w.step nodeID (.publish j f sent)).calls k = w.calls k := by
    simp [RoomWatch.step, hno]
  cases hmsg : publishMeetingFrame (nodeID j) f with
  | none =>
    refine h.same ?_ ?_ hcalls
    · simp [RoomWatch.step, RoomBus.step, hmsg]
    · cases sent <;> simp [RoomWatch.step, gets, hno, hmsg]
  | some msg =>
    cases sent with
    | false =>
      refine h.same ?_ ?_ hcalls
      · simp [RoomWatch.step, RoomBus.step, hmsg]
      · simp [RoomWatch.step, gets, hno]
    | true =>
      have hlog : (w.step nodeID (.publish j f true)).log k = w.log k ++ [(j, f)] := by
        simp [RoomWatch.step, gets, hno, hmsg]
      have hpubsub : (w.step nodeID (.publish j f true)).bus.pubsub k =
          (w.bus.pubsub k).map fun p => p.send msg := by
        simp [RoomWatch.step, RoomBus.step, hmsg]
      refine ⟨?_, fun msgs hp => ?_, fun msgs hp => ?_⟩
      · rw [hcalls, hlog, due_append]
        exact h.calls.trans (List.prefix_append ..)
      · rw [hpubsub, Option.map_eq_some_iff] at hp
        obtain ⟨⟨consuming, sentMsgs⟩, hp, hsend⟩ := hp
        cases consuming with
        | false => cases hsend
        | true =>
          obtain rfl : sentMsgs ++ [msg] = msgs := by simpa [RoomPubSub.send] using hsend
          rw [hcalls, hlog, due_append, List.filterMap_append, ← List.append_assoc,
            h.consuming _ hp, ← consume_due hmsg]
          cases hc : consumeRoomMessage (nodeID k) msg <;> simp [hc]
      · rw [hpubsub, Option.map_eq_some_iff] at hp
        obtain ⟨⟨consuming, sentMsgs⟩, hp, hsend⟩ := hp
        cases consuming with
        | true => cases hsend
        | false =>
          cases hsend
          exact h.stopped _ hp

theorem HeardInv.consume {w : RoomWatch N} {k : N} (h : HeardInv nodeID w k) (j : N) :
    HeardInv nodeID (w.step nodeID (.consume j)) k := by
  have hno : ¬ Starts w.bus (.consume j) k := fun hs => by cases hs.1
  have hlog : (w.step nodeID (.consume j)).log k = w.log k := by
    simp [RoomWatch.step, gets, hno]
  by_cases hkj : k = j
  · subst hkj
    cases hk : w.bus.pubsub k with
    | none =>
      refine h.same ?_ hlog ?_
      · simp [RoomWatch.step, RoomBus.step, hk]
      · simp [RoomWatch.step, RoomBus.step, hk, hno]
    | some p =>
      obtain ⟨consuming, msgs⟩ := p
      cases msgs with
      | nil =>
        refine h.same ?_ hlog ?_
        · simp [RoomWatch.step, RoomBus.step, hk]
        · simp [RoomWatch.step, RoomBus.step, hk, hno]
      | cons msg msgs =>
        have hpubsub : (w.step nodeID (.consume k)).bus.pubsub k = some { consuming, msgs } := by
          simp [RoomWatch.step, RoomBus.step, hk]
        have hcalls : (w.step nodeID (.consume k)).calls k =
            w.calls k ++ (consumeRoomMessage (nodeID k) msg).toList := by
          simp [RoomWatch.step, RoomBus.step, hk, hno]
        cases consuming with
        | false => cases h.stopped _ hk
        | true =>
          have hall : (w.calls k ++ (consumeRoomMessage (nodeID k) msg).toList) ++
              msgs.filterMap (consumeRoomMessage (nodeID k)) = due nodeID k (w.log k) := by
            rw [← h.consuming _ hk, List.append_assoc]
            cases hc : consumeRoomMessage (nodeID k) msg <;> simp [hc]
          refine ⟨?_, fun msgs' hp => ?_, fun msgs' hp => ?_⟩
          · rw [hcalls, hlog]
            exact ⟨_, hall⟩
          · rw [hpubsub] at hp
            cases hp
            rw [hcalls, hlog, hall]
          · rw [hpubsub] at hp
            cases hp
  · refine h.same ?_ hlog ?_
    · cases hj : w.bus.pubsub j with
      | none => simp [RoomWatch.step, RoomBus.step, hj]
      | some p =>
        obtain ⟨consuming, _ | ⟨msg, msgs⟩⟩ := p
        · simp [RoomWatch.step, RoomBus.step, hj]
        · simp [RoomWatch.step, RoomBus.step, hj, hkj]
    · simp [RoomWatch.step, hno, Ne.symm hkj]

theorem HeardInv.step {w : RoomWatch N} {k : N} (h : HeardInv nodeID w k) (op : RoomBusOp N) :
    HeardInv nodeID (w.step nodeID op) k := by
  cases op with
  | start j => exact h.start j
  | publish j f sent => exact h.publish j f sent
  | consume j => exact h.consume j
  | fail j =>
    have hno : ¬ Starts w.bus (.fail j) k := fun hs => by cases hs.1
    have hlog : (w.step nodeID (.fail j)).log k = w.log k := by simp [RoomWatch.step, gets, hno]
    have hcalls : (w.step nodeID (.fail j)).calls k = w.calls k := by simp [RoomWatch.step, hno]
    by_cases hkj : k = j
    · subst hkj
      refine h.ended (fun p hp => ?_) hlog hcalls
      simp only [RoomWatch.step, RoomBus.step, Function.update_self, Option.map_eq_some_iff] at hp
      exact hp.choose_spec.2.symm
    · exact h.same (by simp [RoomWatch.step, RoomBus.step, hkj]) hlog hcalls
  | close j =>
    have hno : ¬ Starts w.bus (.close j) k := fun hs => by cases hs.1
    have hlog : (w.step nodeID (.close j)).log k = w.log k := by simp [RoomWatch.step, gets, hno]
    have hcalls : (w.step nodeID (.close j)).calls k = w.calls k := by simp [RoomWatch.step, hno]
    by_cases hkj : k = j
    · subst hkj
      refine h.ended (fun p hp => ?_) hlog hcalls
      simp [RoomWatch.step, RoomBus.step] at hp
    · exact h.same (by simp [RoomWatch.step, RoomBus.step, hkj]) hlog hcalls

theorem heardInv_run (nodeID : N → Bytes) (ops : List (RoomBusOp N)) (k : N) :
    HeardInv nodeID (run (RoomWatch.step nodeID) .idle ops) k :=
  run_inv (P := fun w => HeardInv nodeID w k) (fun _ op h => h.step op)
    ⟨List.prefix_refl _, fun _ h => (by cases h), fun _ h => (by cases h)⟩ ops

/-- A node's handler is called once for each broadcast of another node since the node
started, in the order in which Redis got them, up to the last one received. -/
theorem heard_run (nodeID : N → Bytes) (ops : List (RoomBusOp N)) (k : N) :
    (run (RoomWatch.step nodeID) .idle ops).calls k <+:
        due nodeID k ((run (RoomWatch.step nodeID) .idle ops).log k) ∧
      ∀ msgs, (run (RoomWatch.step nodeID) .idle ops).bus.pubsub k =
          some { consuming := true, msgs } →
        (run (RoomWatch.step nodeID) .idle ops).calls k ++
            msgs.filterMap (consumeRoomMessage (nodeID k)) =
          due nodeID k ((run (RoomWatch.step nodeID) .idle ops).log k) :=
  ⟨(heardInv_run nodeID ops k).calls, (heardInv_run nodeID ops k).consuming⟩

end Run

end MeetingSystem.Proof.Signaling
