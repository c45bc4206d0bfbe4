import Mathlib.Data.List.TakeWhile
import MeetingSystem.Framework.Run
import MeetingSystem.Impl.Signaling.SessionConn
import MeetingSystem.Proof.Client.SignalStream

/-!
# The connection of a session

Whatever goroutines send and close at once, and however the network cuts the bytes:

* `taken_run`: the connection takes the frames that `SendRaw` accepted, in order and
  without a byte in between; the queue keeps its bound, and as long as the session is
  open no frame that was sent is missing;
* `delivered_of_taken`: a client that reads what the connection took handles the
  accepted frames, in order, and finds no bad header;
* `readLoop_of_client`: of what a client writes, the session handles the messages that
  have arrived, up to the first one beyond the limit, for which it closes.
-/

namespace MeetingSystem.Proof.Signaling

open MeetingSystem.Framework MeetingSystem.Impl.Client MeetingSystem.Impl.Signaling
open MeetingSystem.Proof.Client (signalFraming)

/-! ## Writing -/

/-- The connection, with the frames that `SendRaw` was called with and those for which
it returned no error. -/
structure ConnWatch where
  conn : SessionConn
  offered : List Bytes
  accepted : List Bytes

namespace ConnWatch

def new : ConnWatch := { conn := .new, offered := [], accepted := [] }

/-- The frame that the step is called with, and whether it is accepted. -/
def sends (cap : Nat) (s : SessionConn) : ConnOp → List (Bytes × Bool)
  | .sendRaw frame sendFirst waiting =>
    [(frame, (s.sendRaw cap frame sendFirst waiting).2 = .ok)]
  | _ => []

def step (cap : Nat) (w : ConnWatch) (op : ConnOp) : ConnWatch where
  conn := w.conn.step cap op
  offered := w.offered ++ (sends cap w.conn op).map Prod.fst
  accepted := w.accepted ++ ((sends cap w.conn op).filter Prod.snd).map Prod.fst

end ConnWatch

/-- The bytes that the connection has not taken yet. -/
def outstanding (s : SessionConn) : Bytes := s.writing.getD [] ++ s.writeCh.flatten

/-- `returned` and what a write loop that runs still has to write. -/
structure ConnInv (cap : Nat) (w : ConnWatch) : Prop where
  bounded : w.conn.writeCh.length ≤ cap
  taken : w.conn.taken <+: w.accepted.flatten
  running : w.conn.returned = false →
    w.accepted.flatten = w.conn.taken ++ outstanding w.conn
  open_running : w.conn.closed = false → w.conn.returned = false
  stopped : w.conn.returned = true → w.conn.writing = none
  everything : w.conn.closed = false → w.accepted = w.offered

variable {cap : Nat} {w : ConnWatch}

theorem connInv_new (cap : Nat) : ConnInv cap .new where
  bounded := Nat.zero_le _
  taken := List.prefix_refl _
  running _ := rfl
  open_running _ := rfl
  stopped h := by cases h
  everything _ := rfl

/-- What `SendRaw` can do. -/
theorem sendRaw_cases (cap : Nat) (s : SessionConn) (frame : Bytes) (sendFirst waiting : Bool) :
    (s.idle = true ∧ s.sendRaw cap frame sendFirst waiting =
        ({ s with writing := some frame }, .ok)) ∨
      (s.writeCh.length < cap ∧ s.sendRaw cap frame sendFirst waiting =
        ({ s with writeCh := s.writeCh ++ [frame] }, .ok)) ∨
      (s.closed = true ∧ s.sendRaw cap frame sendFirst waiting = (s, .sessionClosed)) ∨
      (s.closed = false ∧ cap ≤ s.writeCh.length ∧
        s.sendRaw cap frame sendFirst waiting = (s.close, .writeBufferFull)) := by
  unfold SessionConn.sendRaw
  split
  · rename_i h
    exact .inl ⟨h.2, rfl⟩
  · split
    · rename_i h
      split
      · rename_i hclosed
        exact .inr (.inr (.inl ⟨hclosed.1, rfl⟩))
      · exact .inr (.inl ⟨h, rfl⟩)
    · rename_i h
      split
      · rename_i hclosed
        exact .inr (.inr (.inl ⟨hclosed, rfl⟩))
      · rename_i hclosed
        exact .inr (.inr (.inr ⟨by simpa using hclosed, by omega, rfl⟩))

theorem idle_iff (s : SessionConn) : s.idle = true ↔
    s.writing = none ∧ s.returned = false ∧ s.writeCh = [] ∧ s.closed = false := by
  simp [SessionConn.idle, and_assoc]

theorem ConnInv.sendRaw (h : ConnInv cap w) (frame : Bytes) (sendFirst waiting : Bool) :
    ConnInv cap (w.step cap (.sendRaw frame sendFirst waiting)) := by
  unfold ConnWatch.step
  simp only [SessionConn.step, ConnWatch.sends]
  rcases sendRaw_cases cap w.conn frame sendFirst waiting with
    ⟨hidle, he⟩ | ⟨hroom, he⟩ | ⟨hclosed, he⟩ | ⟨hclosed, -, he⟩
  · obtain ⟨hw, hr, hq, hc⟩ := (idle_iff _).mp hidle
    have hall : w.accepted.flatten = w.conn.taken := by
      simpa [outstanding, hw, hq] using h.running hr
    rw [he]
    refine ⟨h.bounded, ?_, fun _ => ?_, h.open_running, fun hr' => ?_, fun _ => ?_⟩
    · simpa using h.taken.trans (List.prefix_append _ [frame].flatten)
    · simp [outstanding, hq, hall]
    · simp [hr] at hr'
    · simp [h.everything hc]
  · rw [he]
    refine ⟨?_, ?_, fun hr => ?_, h.open_running, h.stopped, fun hc => ?_⟩
    · simpa [Nat.succ_le_iff] using hroom
    · simpa using h.taken.trans (List.prefix_append _ [frame].flatten)
    · simp [outstanding, h.running hr]
    · simp [h.everything hc]
  · rw [he]
    refine ⟨h.bounded, by simpa using h.taken, fun hr => by simpa using h.running hr,
      h.open_running, h.stopped, fun hc => ?_⟩
    simp [hclosed] at hc
  · rw [he]
    refine ⟨h.bounded, ?_, fun hr => ?_, ?_, h.stopped, ?_⟩
    · simpa [SessionConn.close] using h.taken
    · simpa [SessionConn.close, outstanding] using h.running hr
    · intro hc
      cases hc
    · intro hc
      cases hc

/-- A step that calls no `SendRaw`. -/
theorem ConnInv.of_conn (h : ConnInv cap w) {op : ConnOp}
    (hsends : ConnWatch.sends cap w.conn op = [])
    (hqueue : (w.conn.step cap op).writeCh.length ≤ w.conn.writeCh.length)
    (htaken : (w.conn.step cap op).taken <+: w.accepted.flatten)
    (hrunning : (w.conn.step cap op).returned = false →
      w.accepted.flatten = (w.conn.step cap op).taken ++ outstanding (w.conn.step cap op))
    (hopen : (w.conn.step cap op).closed = false →
      w.conn.closed = false ∧ (w.conn.step cap op).returned = false)
    (hstopped : (w.conn.step cap op).returned = true → (w.conn.step cap op).writing = none) :
    ConnInv cap (w.step cap op) := by
  have hstep : w.step cap op =
      { conn := w.conn.step cap op, offered := w.offered, accepted := w.accepted } := by
    simp [ConnWatch.step, hsends]
  rw [hstep]
  exact ⟨Nat.le_trans hqueue h.bounded, htaken, hrunning, fun hc => (hopen hc).2, hstopped,
    fun hc => h.everything (hopen hc).1⟩

/-- Such a step that changes nothing. -/
theorem ConnInv.of_same (h : ConnInv cap w) {op : ConnOp}
    (hsends : ConnWatch.sends cap w.conn op = []) (he : w.conn.step cap op = w.conn) :
    ConnInv cap (w.step cap op) :=
  h.of_conn hsends (by rw [he]) (by rw [he]; exact h.taken) (by rw [he]; exact h.running)
    (by rw [he]; exact fun hc => ⟨hc, h.open_running hc⟩) (by rw [he]; exact h.stopped)

theorem ConnInv.receive (h : ConnInv cap w) (closeFirst : Bool) :
    ConnInv cap (w.step cap (.receive closeFirst)) := by
  have hreturn : w.conn.closed = true → w.conn.writing = none →
      w.conn.step cap (.receive closeFirst) = { w.conn with returned := true } →
      ConnInv cap (w.step cap (.receive closeFirst)) := fun hc hw he =>
    h.of_conn rfl (by rw [he]) (by rw [he]; exact h.taken) (by simp [he]) (by simp [he, hc])
      (by simp [he, hw])
  by_cases hbusy : w.conn.returned = true ∨ w.conn.writing.isSome = true
  · exact h.of_same rfl (by simp [SessionConn.step, SessionConn.receive, hbusy])
  · have hr : w.conn.returned = false := by simpa using (not_or.mp hbusy).1
    have hw : w.conn.writing = none := by simpa using (not_or.mp hbusy).2
    cases hq : w.conn.writeCh with
    | nil =>
      cases hc : w.conn.closed with
      | false => exact h.of_same rfl (by simp [SessionConn.step, SessionConn.receive, hq, hc])
      | true => exact hreturn hc hw (by simp [SessionConn.step, SessionConn.receive, hr, hw, hq, hc])
    | cons data writeCh =>
      by_cases hclose : w.conn.closed = true ∧ closeFirst = true
      · exact hreturn hclose.1 hw
          (by simp [SessionConn.step, SessionConn.receive, hr, hw, hq, hclose])
      · have he : w.conn.step cap (.receive closeFirst) =
            { w.conn with writeCh, writing := some data } := by
          simp [SessionConn.step, SessionConn.receive, hr, hw, hq, hclose]
        refine h.of_conn rfl ?_ ?_ ?_ ?_ ?_
        · simp [he, hq]
        · simpa [he] using h.taken
        · intro _
          simpa [he, outstanding, hw, hq] using h.running hr
        · intro hc
          rw [he] at hc ⊢
          exact ⟨hc, hr⟩
        · simp [he, hr]

theorem ConnInv.write (h : ConnInv cap w) (count : Nat) :
    ConnInv cap (w.step cap (.write count)) := by
  cases hw : w.conn.writing with
  | none => exact h.of_same rfl (by simp [SessionConn.step, SessionConn.write, hw])
  | some data =>
    by_cases hconn : w.conn.connClosed = true
    · exact h.of_same rfl (by simp [SessionConn.step, SessionConn.write, hw, hconn])
    · have hr : w.conn.returned = false := by
        by_contra hr
        simpa [hw] using h.stopped (by simpa using hr)
      have hall : w.accepted.flatten = w.conn.taken ++ (data ++ w.conn.writeCh.flatten) := by
        simpa [outstanding, hw] using h.running hr
      have hsplit : w.accepted.flatten =
          (w.conn.taken ++ data.take count) ++ (data.drop count ++ w.conn.writeCh.flatten) := by
        rw [hall, List.append_assoc, ← List.append_assoc (data.take count), List.take_append_drop]
      have he : w.conn.step cap (.write count) =
          { w.conn with
            taken := w.conn.taken ++ data.take count
            writing := if data.length ≤ count then none else some (data.drop count) } := by
        simp [SessionConn.step, SessionConn.write, hw, hconn]
      refine h.of_conn rfl ?_ ?_ ?_ ?_ ?_
      · rw [he]
      · rw [he]
        exact ⟨_, hsplit.symm⟩
      · intro _
        rw [he, hsplit]
        by_cases hle : data.length ≤ count
        · simp [outstanding, hle, List.drop_eq_nil_of_le hle]
        · simp [outstanding, hle]
      · intro hc
        rw [he] at hc ⊢
        exact ⟨hc, hr⟩
      · simp [he, hr]

theorem ConnInv.step (h : ConnInv cap w) (op : ConnOp) : ConnInv cap (w.step cap op) := by
  cases op with
  | sendRaw frame sendFirst waiting => exact h.sendRaw frame sendFirst waiting
  | receive closeFirst => exact h.receive closeFirst
  | write count => exact h.write count
  | writeError =>
    cases hw : w.conn.writing with
    | none =>
      exact h.of_same rfl (by simp [SessionConn.step, SessionConn.writeError, hw])
    | some data =>
      have he : w.conn.step cap .writeError =
          { w.conn with writing := none, returned := true, closed := true } := by
        simp [SessionConn.step, SessionConn.writeError, hw]
      exact h.of_conn rfl (by rw [he]) (by rw [he]; exact h.taken) (by simp [he]) (by simp [he])
        (by simp [he])
  | close =>
    exact h.of_conn rfl (Nat.le_refl _) h.taken h.running (fun hc => by cases hc) h.stopped
  | connClose =>
    have he : ∃ b, w.conn.step cap .connClose = { w.conn with connClosed := b } := by
      by_cases hc : w.conn.closed = true
      · exact ⟨true, if_pos hc⟩
      · exact ⟨w.conn.connClosed, if_neg hc⟩
    obtain ⟨b, he⟩ := he
    exact h.of_conn rfl (by rw [he]) (by rw [he]; exact h.taken) (by rw [he]; exact h.running)
      (by rw [he]; exact fun hc => ⟨hc, h.open_running hc⟩) (by rw [he]; exact h.stopped)

theorem connInv_run (cap : Nat) (ops : List ConnOp) :
    ConnInv cap (run (ConnWatch.step cap) .new ops) :=
  run_inv (fun _ op h => h.step op) (connInv_new cap) ops

/-- What the connection has taken is the beginning of the accepted frames. As long as
the session is open, these are all frames that were sent, and what is missing is with
the write loop. -/
theorem taken_run (cap : Nat) (ops : List ConnOp) :
    (run (ConnWatch.step cap) .new ops).conn.writeCh.length ≤ cap ∧
      (run (ConnWatch.step cap) .new ops).conn.taken <+:
        (run (ConnWatch.step cap) .new ops).accepted.flatten ∧
      ((run (ConnWatch.step cap) .new ops).conn.closed = false →
        (run (ConnWatch.step cap) .new ops).offered.flatten =
          (run (ConnWatch.step cap) .new ops).conn.taken ++
            outstanding (run (ConnWatch.step cap) .new ops).conn) := by
  have h := connInv_run cap ops
  refine ⟨h.bounded, h.taken, fun hc => ?_⟩
  rw [← h.everything hc]
  exact h.running (h.open_running hc)

/-! ## The client's side -/

/-- What the server sends for a frame that the client handles. -/
def sentBytes (f : SignalFrame) : Bytes := Protocol.EncodeFrame f.type f.payload

/-- The frames that `Send` builds of bodies within the client's limit. -/
def IsSignalFrame (frame : Bytes) : Prop :=
  ∃ f : SignalFrame, f.payload.length ≤ maxPayloadBytes.toNat ∧ sentBytes f = frame

theorem isSignalFrame_sentBytes {f : SignalFrame}
    (h : f.payload.length ≤ maxPayloadBytes.toNat) : IsSignalFrame (sentBytes f) := ⟨f, h, rfl⟩

theorem encode_signal : signalFraming.encode = sentBytes := by
  funext f
  rw [sentBytes, Proof.Client.serverFrame_eq]
  exact List.take_append_drop kHeaderSize _

theorem exists_frames {l : List Bytes} (h : ∀ frame ∈ l, IsSignalFrame frame) :
    ∃ frames : List SignalFrame, (∀ f ∈ frames, signalFraming.Valid f) ∧
      frames.map sentBytes = l := by
  induction l with
  | nil => exact ⟨[], by simp, rfl⟩
  | cons frame l ih =>
    obtain ⟨⟨f, hf, rfl⟩, hl⟩ := List.forall_mem_cons.mp h
    obtain ⟨frames, hframes, rfl⟩ := ih hl
    exact ⟨f :: frames, List.forall_mem_cons.mpr ⟨hf, hframes⟩, rfl⟩

/-- The frame that a step sends has the property. -/
def Sends (P : Bytes → Prop) : ConnOp → Prop
  | .sendRaw frame _ _ => P frame
  | _ => True

theorem accepted_run (cap : Nat) {P : Bytes → Prop} {ops : List ConnOp} (h : ∀ op ∈ ops, Sends P op) :
    ∀ frame ∈ (run (ConnWatch.step cap) .new ops).accepted, P frame := by
  have hall : Along (ConnWatch.step cap) (fun _ op => Sends P op) .new ops := Along.of_mem h
  refine hall.inv (P := fun w => ∀ frame ∈ w.accepted, P frame) (fun w op hop hw => ?_)
    (by simp [ConnWatch.new])
  intro frame hmem
  rcases List.mem_append.mp hmem with hmem | hmem
  · exact hw frame hmem
  · cases op with
    | sendRaw frame' sendFirst waiting =>
      have hop : P frame' := hop
      simp only [ConnWatch.sends, List.mem_map, List.mem_filter, List.mem_singleton] at hmem
      obtain ⟨e, ⟨rfl, -⟩, rfl⟩ := hmem
      exact hop
    | receive _ | write _ | writeError | close | connClose => cases hmem

/-- A client that is connected and has read nothing. -/
def freshClient : SignalingClient := { SignalingClient.new with connected := true }

/-- The client has read a part of a stream of frames. -/
structure ReadsStream (s : SignalingClient) : Prop where
  drained : signalFraming.drain s.received = (s.delivered, s.readBuffer, false)
  connected : s.connected = true

theorem ReadsStream.read {frames : List SignalFrame}
    (hvalid : ∀ f ∈ frames, signalFraming.Valid f) {s : SignalingClient} (h : ReadsStream s)
    {chunk : Bytes} (hchunk : s.received ++ chunk <+: signalFraming.stream frames) :
    ReadsStream (s.read chunk) := by
  obtain ⟨rest, hdrain, -⟩ := signalFraming.drain_prefix hvalid hchunk
  have hsplit := signalFraming.drain_append h.drained chunk
  have hgood : (signalFraming.drain (s.readBuffer ++ chunk)).2.2 = false :=
    congrArg (fun r => r.2.2) (hsplit.symm.trans hdrain)
  simp only [SignalingClient.read, Proof.Client.processIncomingFrames_eq, hgood]
  exact ⟨hsplit.trans (congrArg (Prod.mk _) (Prod.ext rfl hgood)), rfl⟩

theorem readsStream_run {frames : List SignalFrame}
    (hvalid : ∀ f ∈ frames, signalFraming.Valid f) {chunks : List Bytes} {s : SignalingClient}
    (h : ReadsStream s) (hchunks : s.received ++ chunks.flatten <+: signalFraming.stream frames) :
    ReadsStream (run SignalingClient.read s chunks) ∧
      (run SignalingClient.read s chunks).received = s.received ++ chunks.flatten := by
  induction chunks generalizing s with
  | nil => exact ⟨h, (List.append_nil _).symm⟩
  | cons chunk chunks ih =>
    rw [List.flatten_cons, ← List.append_assoc] at hchunks ⊢
    exact ih (h.read hvalid ((List.prefix_append _ _).trans hchunks)) hchunks

/-- A client that reads what the connection has taken, cut into any chunks, handles the
accepted frames one after another, all of them if it reads all bytes, and no header is
invalid. -/
theorem delivered_of_taken (cap : Nat) {ops : List ConnOp}
    (hframes : ∀ op ∈ ops, Sends IsSignalFrame op) {chunks : List Bytes}
    (hchunks : chunks.flatten <+: (run (ConnWatch.step cap) .new ops).conn.taken) :
    (run SignalingClient.read freshClient chunks).connected = true ∧
      (run SignalingClient.read freshClient chunks).delivered.map sentBytes <+:
        (run (ConnWatch.step cap) .new ops).accepted ∧
      (chunks.flatten = (run (ConnWatch.step cap) .new ops).accepted.flatten →
        (run SignalingClient.read freshClient chunks).delivered.map sentBytes =
          (run (ConnWatch.step cap) .new ops).accepted) := by
  obtain ⟨frames, hvalid, haccepted⟩ := exists_frames (accepted_run cap hframes)
  have hstream : (run (ConnWatch.step cap) .new ops).accepted.flatten =
      signalFraming.stream frames := by
    rw [← haccepted, ← encode_signal, ← List.flatMap_def]
    rfl
  have hpart : chunks.flatten <+: signalFraming.stream frames :=
    hstream ▸ hchunks.trans (connInv_run cap ops).taken
  have hfresh : ReadsStream freshClient :=
    ⟨signalFraming.drain_of_more signalFraming.scan_nil, rfl⟩
  obtain ⟨hreads, hreceived⟩ := readsStream_run hvalid hfresh hpart
  obtain ⟨rest, hdrain, -⟩ := signalFraming.drain_prefix hvalid hpart
  have hdelivered : (run SignalingClient.read freshClient chunks).delivered =
      signalFraming.complete frames chunks.flatten.length := by
    have hdrained := hreads.drained
    rw [hreceived, show freshClient.received ++ chunks.flatten = chunks.flatten from rfl,
      hdrain] at hdrained
    exact (congrArg Prod.fst hdrained).symm
  refine ⟨hreads.connected, ?_, fun hall => ?_⟩
  · rw [hdelivered, ← haccepted]
    exact (signalFraming.complete_prefix frames _).map _
  · rw [hdelivered, ← haccepted, hall, hstream, signalFraming.complete_of_le (Nat.le_refl _)]

/-- Two frames, of which the first one is written in two parts. -/
def twoSends : List ConnOp :=
  [.sendRaw (sentBytes { type := 0x0403, payload := [1, 2] }) true true, .write 4,
    .sendRaw (sentBytes { type := 0x0105, payload := [] }) true false, .write 100,
    .receive false, .write 100]

theorem delivered_of_twoSends :
    (run SignalingClient.read freshClient
        [(run (ConnWatch.step 1) .new twoSends).conn.taken.take 13,
          (run (ConnWatch.step 1) .new twoSends).conn.taken.drop 13]).delivered.map sentBytes =
      [sentBytes { type := 0x0403, payload := [1, 2] },
        sentBytes { type := 0x0105, payload := [] }] := by
  have hframes : ∀ op ∈ twoSends, Sends IsSignalFrame op := by
    simp only [twoSends, List.forall_mem_cons, List.not_mem_nil, false_implies, implies_true,
      and_true, true_and, Sends]
    exact ⟨isSignalFrame_sentBytes (by decide), isSignalFrame_sentBytes (by decide)⟩
  refine ((delivered_of_taken 1 hframes ?_).2.2 ?_).trans ?_
  · have hall : ∀ taken : Bytes, [taken.take 13, taken.drop 13].flatten = taken := fun taken => by
      rw [List.flatten_cons, List.flatten_singleton, List.take_append_drop]
    exact (hall _).symm ▸ List.prefix_refl _
  · decide +kernel
  · decide +kernel

/-! ## The session's side -/

theorem or_reverse (a b c d : UInt32) : a ||| b ||| c ||| d = d ||| c ||| b ||| a := by
  rw [UInt32.or_comm _ d, UInt32.or_comm _ c, UInt32.or_comm a b, UInt32.or_assoc, UInt32.or_assoc]

theorem decodeHeader_encode (msgType : UInt16) (payload : Bytes) (maxPayload : UInt32) :
    Protocol.DecodeHeader ((encodeFrame msgType payload).take Protocol.HeaderSize) maxPayload =
      if UInt32.ofNat payload.length > maxPayload then .error "invalid frame payload length"
      else .ok (msgType, .ofNat payload.length) := by
  rw [← Proof.Client.serverFrame_eq]
  generalize hlength : UInt32.ofNat payload.length = length
  have htype : msgType.toUInt8.toUInt16 ||| (msgType >>> 8).toUInt8.toUInt16 <<< 8 = msgType := by
    rw [UInt16.or_comm, join16_bytes]
  have hlen : length.toUInt8.toUInt32 ||| (length >>> 8).toUInt8.toUInt32 <<< 8 |||
      (length >>> 16).toUInt8.toUInt32 <<< 16 ||| (length >>> 24).toUInt8.toUInt32 <<< 24 =
      length := by
    rw [or_reverse, join32_bytes]
  show Protocol.DecodeHeader [Protocol.MagicHigh, Protocol.MagicLow, Protocol.Version,
    (msgType >>> 8).toUInt8, msgType.toUInt8, (UInt32.ofNat payload.length >>> 24).toUInt8,
    (UInt32.ofNat payload.length >>> 16).toUInt8, (UInt32.ofNat payload.length >>> 8).toUInt8,
    (UInt32.ofNat payload.length).toUInt8] maxPayload = _
  rw [hlength]
  unfold Protocol.DecodeHeader
  rw [if_neg (fun h => h rfl), if_neg (by simp), if_neg (by simp)]
  show (if length.toUInt8.toUInt32 ||| (length >>> 8).toUInt8.toUInt32 <<< 8 |||
      (length >>> 16).toUInt8.toUInt32 <<< 16 ||| (length >>> 24).toUInt8.toUInt32 <<< 24 >
      maxPayload then _ else Except.ok (msgType.toUInt8.toUInt16 |||
        (msgType >>> 8).toUInt8.toUInt16 <<< 8, length.toUInt8.toUInt32 |||
      (length >>> 8).toUInt8.toUInt32 <<< 8 ||| (length >>> 16).toUInt8.toUInt32 <<< 16 |||
      (length >>> 24).toUInt8.toUInt32 <<< 24)) = _
  rw [hlen, htype]

/-- The messages that the session takes. -/
def sessionFormat (maxPayload : UInt32) : HeaderFormat (UInt16 × UInt32) SignalMessage where
  size := Protocol.HeaderSize
  size_pos := by decide
  decode bytes := (Protocol.DecodeHeader bytes maxPayload).toOption
  bodyLength header := header.2.toNat
  make header payload := { msgType := header.1, payload }
  header m := (encodeFrame m.msgType m.payload).take Protocol.HeaderSize
  body m := m.payload
  Valid m := m.payload.length ≤ maxPayload.toNat
  header_length _ := rfl
  decode_header {m} hm := by
    have hlen : (UInt32.ofNat m.payload.length).toNat = m.payload.length :=
      UInt32.toNat_ofNat_of_lt' (Nat.lt_of_le_of_lt hm maxPayload.toNat_lt)
    have hle : ¬ UInt32.ofNat m.payload.length > maxPayload := by
      show ¬ maxPayload.toNat < (UInt32.ofNat m.payload.length).toNat
      omega
    exact ⟨_, by rw [decodeHeader_encode, if_neg hle]; rfl, hlen, rfl⟩

def sessionFraming (maxPayload : UInt32) : Framing SignalMessage := (sessionFormat maxPayload).framing

theorem readLoop_eq (maxPayload : UInt32) (bytes : Bytes) :
    readLoop maxPayload bytes = (sessionFraming maxPayload).drain bytes := by
  induction bytes using readLoop.induct maxPayload with
  | case1 bytes hheader =>
    rw [readLoop, if_pos hheader,
      (sessionFraming maxPayload).drain_of_more ((sessionFormat maxPayload).scan_of_short hheader)]
  | case2 bytes hheader err hdecoded =>
    have hscan : (sessionFormat maxPayload).scan bytes = .bad :=
      (sessionFormat maxPayload).scan_of_bad (Nat.le_of_not_lt hheader)
        (congrArg Except.toOption hdecoded)
    rw [readLoop, if_neg hheader, hdecoded, (sessionFraming maxPayload).drain_of_bad hscan]
  | case3 bytes hheader msgType payloadLen hdecoded hpayload =>
    have hscan : (sessionFormat maxPayload).scan bytes = .more :=
      (sessionFormat maxPayload).scan_of_part (Nat.le_of_not_lt hheader)
        (congrArg Except.toOption hdecoded) hpayload
    rw [readLoop, if_neg hheader, hdecoded, (sessionFraming maxPayload).drain_of_more hscan]
    exact if_pos hpayload
  | case4 bytes hheader msgType payloadLen hdecoded hpayload ih =>
    have hscan : (sessionFormat maxPayload).scan bytes = .frame
        { msgType, payload := (bytes.drop Protocol.HeaderSize).take payloadLen.toNat }
        (bytes.drop (Protocol.HeaderSize + payloadLen.toNat)) :=
      (sessionFormat maxPayload).scan_eq_frame.mpr
        ⟨_, congrArg Except.toOption hdecoded, Nat.le_of_not_lt hpayload, rfl, rfl⟩
    rw [readLoop, if_neg hheader, hdecoded, (sessionFraming maxPayload).drain_of_frame hscan]
    show (if bytes.length < _ then _ else _) = _
    rw [if_neg hpayload, ih]

/-- What the client writes for a message. -/
def clientBytes (f : SignalFrame) : Bytes := encodeFrame f.type f.payload

def fits (maxPayload : UInt32) (f : SignalFrame) : Bool := f.payload.length ≤ maxPayload.toNat

/-- The call of `onMessage` for it. -/
def message (f : SignalFrame) : SignalMessage := { msgType := f.type, payload := f.payload }

theorem stream_message (maxPayload : UInt32) (frames : List SignalFrame) :
    (sessionFraming maxPayload).stream (frames.map message) = frames.flatMap clientBytes := by
  rw [Framing.stream, List.flatMap_map]
  exact congrArg (frames.flatMap ·) (funext fun f => List.take_append_drop kHeaderSize _)

/-- A message beyond the limit has a header that is refused. -/
theorem scan_unfit {maxPayload : UInt32} {f : SignalFrame} (hlen : f.payload.length < 2 ^ 32)
    (hf : fits maxPayload f = false) {bytes more : Bytes} (h : bytes <+: clientBytes f ++ more)
    (hheader : Protocol.HeaderSize ≤ bytes.length) :
    (sessionFraming maxPayload).scan bytes = .bad := by
  have htake : bytes.take Protocol.HeaderSize = (clientBytes f).take Protocol.HeaderSize := by
    obtain ⟨rest, hrest⟩ := h
    have happend : (bytes ++ rest).take Protocol.HeaderSize = bytes.take Protocol.HeaderSize :=
      List.take_append_of_le_length hheader
    rw [← happend, hrest]
    rfl
  have hgt : UInt32.ofNat f.payload.length > maxPayload := by
    show maxPayload.toNat < (UInt32.ofNat f.payload.length).toNat
    rw [UInt32.toNat_ofNat_of_lt' hlen]
    simpa [fits] using hf
  refine (sessionFormat maxPayload).scan_of_bad hheader ?_
  show (Protocol.DecodeHeader (bytes.take Protocol.HeaderSize) maxPayload).toOption = none
  rw [htake, clientBytes, decodeHeader_encode, if_pos hgt]
  rfl

/-- The session handles the messages that have completely arrived up to the first one
beyond its limit, and closes once the header of that one has arrived. -/
theorem readLoop_of_client (maxPayload : UInt32) (sent : List SignalFrame)
    (hlen : ∀ f ∈ sent, f.payload.length < 2 ^ 32) {bytes : Bytes}
    (h : bytes <+: sent.flatMap clientBytes) :
    (readLoop maxPayload bytes).1 = (sessionFraming maxPayload).complete
        ((sent.takeWhile (fits maxPayload)).map message) bytes.length ∧
      ((readLoop maxPayload bytes).2.2 = true ↔
        (sent.takeWhile (fits maxPayload)).length < sent.length ∧
          ((sent.takeWhile (fits maxPayload)).flatMap clientBytes).length + Protocol.HeaderSize ≤
            bytes.length) := by
  have hsplit : sent.takeWhile (fits maxPayload) ++ sent.dropWhile (fits maxPayload) = sent :=
    List.takeWhile_append_dropWhile
  have hvalid : ∀ m ∈ (sent.takeWhile (fits maxPayload)).map message,
      (sessionFraming maxPayload).Valid m := by
    intro m hm
    obtain ⟨f, hf, rfl⟩ := List.mem_map.mp hm
    have hfits : fits maxPayload f = true := List.mem_takeWhile_imp hf
    show f.payload.length ≤ maxPayload.toNat
    simpa [fits] using hfits
  have hunfit : ∀ f rest, sent.dropWhile (fits maxPayload) = f :: rest →
      fits maxPayload f = false ∧ f.payload.length < 2 ^ 32 := by
    intro f rest hdrop
    refine ⟨?_, hlen f ?_⟩
    · have hhead := List.head_dropWhile_not (fits maxPayload) (l := sent) (by simp [hdrop])
      simpa [hdrop] using hhead
    · rw [← hsplit, hdrop]
      simp
  have hlength : sent.length = (sent.takeWhile (fits maxPayload)).length +
      (sent.dropWhile (fits maxPayload)).length := by
    rw [← List.length_append, hsplit]
  have hstream : sent.flatMap clientBytes =
      (sent.takeWhile (fits maxPayload)).flatMap clientBytes ++
        (sent.dropWhile (fits maxPayload)).flatMap clientBytes := by
    rw [← List.flatMap_append, hsplit]
  rw [hstream] at h
  rw [hlength, readLoop_eq]
  generalize sent.takeWhile (fits maxPayload) = good at *
  generalize sent.dropWhile (fits maxPayload) = rest at *
  rcases List.prefix_or_prefix_of_prefix h (List.prefix_append _ _) with hpart | ⟨tail, rfl⟩
  · have hle := hpart.length_le
    rw [← stream_message maxPayload] at hpart
    obtain ⟨left, hdrain, -⟩ := Framing.drain_prefix (sessionFraming maxPayload) hvalid hpart
    rw [hdrain]
    refine ⟨rfl, ?_⟩
    have hsize : 0 < Protocol.HeaderSize := by decide
    constructor
    · intro hbad
      cases hbad
    · intro hbad
      omega
  · have htail : tail <+: rest.flatMap clientBytes := (List.prefix_append_right_inj _).mp h
    have hall := (sessionFraming maxPayload).drain_stream hvalid
    rw [stream_message] at hall
    rw [(sessionFraming maxPayload).drain_append hall tail, List.nil_append,
      (sessionFraming maxPayload).complete_of_le (by rw [stream_message, List.length_append]; omega)]
    by_cases hheader : tail.length < Protocol.HeaderSize
    · rw [(sessionFraming maxPayload).drain_of_more
        ((sessionFormat maxPayload).scan_of_short hheader), List.length_append]
      refine ⟨List.append_nil _, ?_⟩
      constructor
      · intro hbad
        cases hbad
      · intro hbad
        omega
    · cases rest with
      | nil =>
        rw [List.prefix_nil.mp htail] at hheader
        exact absurd (by decide) hheader
      | cons f rest =>
        obtain ⟨hf, hflen⟩ := hunfit f rest rfl
        have hscan : (sessionFraming maxPayload).scan tail = .bad :=
          scan_unfit hflen hf (by rwa [List.flatMap_cons] at htail) (Nat.le_of_not_lt hheader)
        rw [(sessionFraming maxPayload).drain_of_bad hscan, List.length_append]
        refine ⟨List.append_nil _, fun _ => ⟨?_, by omega⟩, fun _ => rfl⟩
        simp

/-- A message within a limit of two bytes, and one beyond it. -/
def oneTooLong : List SignalFrame :=
  [{ type := 0x0401, payload := [7] }, { type := 0x0401, payload := [1, 2, 3] }]

theorem readLoop_of_oneTooLong :
    (readLoop 2 (oneTooLong.flatMap clientBytes)).1 = [{ msgType := 0x0401, payload := [7] }] ∧
      (readLoop 2 (oneTooLong.flatMap clientBytes)).2.2 = true := by
  obtain ⟨hmessages, hcloses⟩ :=
    readLoop_of_client 2 oneTooLong (by decide) (List.prefix_refl _)
  exact ⟨hmessages.trans (by decide +kernel), hcloses.mpr (by decide +kernel)⟩

end MeetingSystem.Proof.Signaling
