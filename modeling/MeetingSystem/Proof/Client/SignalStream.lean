import MeetingSystem.Framework.BigEndian
import MeetingSystem.Framework.Framing
import MeetingSystem.Impl.Client.SignalingClient

/-!
# The frames of the signaling connection

The client takes frames off its read buffer as a reader of a `Framing` does, and
the two encoders make the same bytes. The read buffer is never cleared when a
connection ends: what is left of a frame in it is read as the start of the next
connection.

`delivers_run`: while every connection is made with an empty buffer, the frames
that are delivered are the ones that have completely arrived. `brokenRun` is two
connections of which the first ends within a frame.
-/

namespace MeetingSystem.Proof.Client

open MeetingSystem.Framework MeetingSystem.Impl.Client MeetingSystem.Impl.Signaling

/-! ## Headers -/

/-- The server's encoder makes the same frames. -/
theorem serverFrame_eq (type : UInt16) (payload : List UInt8) :
    Protocol.EncodeFrame type payload = encodeFrame type payload := by
  simp only [encodeFrame, toUInt8_and16, toUInt8_and32]
  rfl

theorem peerFrame_bytes (f : PeerFrame) : f.bytes = encodeFrame f.frame.type f.frame.payload := by
  unfold PeerFrame.bytes
  split
  · rfl
  · exact serverFrame_eq _ _

/-- The length that a frame within the limit announces. -/
theorem payloadLen_toNat {payload : List UInt8} (h : payload.length ≤ maxPayloadBytes.toNat) :
    (UInt32.ofNat payload.length).toNat = payload.length :=
  UInt32.toNat_ofNat_of_lt' (Nat.lt_of_le_of_lt h (by decide))

/-- The bytes of a header are decoded to what was encoded. -/
theorem decodeHeader_encodeFrame (type : UInt16) {payload : List UInt8}
    (h : payload.length ≤ maxPayloadBytes.toNat) :
    decodeHeader ((encodeFrame type payload).take kHeaderSize) maxPayloadBytes =
      some { type, length := .ofNat payload.length } := by
  have hle : ¬ UInt32.ofNat payload.length > maxPayloadBytes := by
    show ¬ maxPayloadBytes.toNat < (UInt32.ofNat payload.length).toNat
    rw [payloadLen_toNat h]
    omega
  simp only [encodeFrame, toUInt8_and16, toUInt8_and32]
  generalize UInt32.ofNat payload.length = length at hle
  show decodeHeader [kMagicHigh, kMagicLow, kVersion, (type >>> 8).toUInt8, type.toUInt8,
    (length >>> 24).toUInt8, (length >>> 16).toUInt8, (length >>> 8).toUInt8, length.toUInt8]
    maxPayloadBytes = _
  unfold decodeHeader
  rw [if_neg (fun h => h rfl), if_neg (by simp)]
  show (if (length >>> 24).toUInt8.toUInt32 <<< 24 ||| (length >>> 16).toUInt8.toUInt32 <<< 16 |||
      (length >>> 8).toUInt8.toUInt32 <<< 8 ||| length.toUInt8.toUInt32 > maxPayloadBytes then none
    else some (FrameHeader.mk ((type >>> 8).toUInt8.toUInt16 <<< 8 ||| type.toUInt8.toUInt16)
      ((length >>> 24).toUInt8.toUInt32 <<< 24 ||| (length >>> 16).toUInt8.toUInt32 <<< 16 |||
        (length >>> 8).toUInt8.toUInt32 <<< 8 ||| length.toUInt8.toUInt32))) = _
  rw [join32_bytes, join16_bytes, if_neg hle]

/-! ## The format -/

def signalFormat : HeaderFormat FrameHeader SignalFrame where
  size := kHeaderSize
  size_pos := by decide
  decode bytes := decodeHeader bytes maxPayloadBytes
  bodyLength header := header.length.toNat
  make header payload := { type := header.type, payload }
  header f := (encodeFrame f.type f.payload).take kHeaderSize
  body f := f.payload
  Valid f := f.payload.length ≤ maxPayloadBytes.toNat
  header_length f := rfl
  decode_header hf := ⟨_, decodeHeader_encodeFrame _ hf, payloadLen_toNat hf, rfl⟩

/-- The frames of the signaling protocol. -/
def signalFraming : Framing SignalFrame := signalFormat.framing

/-- The client takes the frames off its buffer as a reader does; after an
invalid header it drops the rest. -/
theorem processIncomingFrames_eq (readBuffer : List UInt8) :
    processIncomingFrames readBuffer =
      let r := signalFraming.drain readBuffer
      (r.1, if r.2.2 then [] else r.2.1, r.2.2) := by
  induction readBuffer using processIncomingFrames.induct with
  | case1 bytes hheader =>
    have hscan : signalFormat.scan bytes = .more := if_pos hheader
    rw [processIncomingFrames, if_pos hheader, signalFraming.drain_of_more hscan]
    rfl
  | case2 bytes hheader hdecoded =>
    have hscan : signalFormat.scan bytes = .bad :=
      signalFormat.scan_of_bad (Nat.le_of_not_lt hheader) hdecoded
    rw [processIncomingFrames, if_neg hheader, hdecoded, signalFraming.drain_of_bad hscan]
    rfl
  | case3 bytes hheader decoded hdecoded frameSize hpayload =>
    have hscan : signalFormat.scan bytes = .more :=
      signalFormat.scan_of_part (Nat.le_of_not_lt hheader) hdecoded hpayload
    rw [processIncomingFrames, if_neg hheader, hdecoded, signalFraming.drain_of_more hscan]
    exact if_pos hpayload
  | case4 bytes hheader decoded hdecoded frameSize hpayload ih =>
    have hscan : signalFormat.scan bytes = .frame
        { type := decoded.type, payload := (bytes.drop kHeaderSize).take decoded.length.toNat }
        (bytes.drop frameSize) :=
      signalFormat.scan_eq_frame.mpr ⟨decoded, hdecoded, Nat.le_of_not_lt hpayload, rfl, rfl⟩
    rw [processIncomingFrames, if_neg hheader, hdecoded, signalFraming.drain_of_frame hscan]
    show (if bytes.length < frameSize then _ else _) = _
    rw [if_neg hpayload, ih]

/-! ## Runs -/

/-- The frames that the peer sends on the connection. -/
def sentFrames (s : SignalingClient) : List SignalFrame := s.frames.map PeerFrame.frame

/-- The client has delivered the frames of the connection that have completely
arrived. -/
def DeliversComplete (s : SignalingClient) : Prop :=
  s.delivered = signalFraming.complete (sentFrames s) s.received.length

/-- A connection is made with an empty read buffer. -/
def EmptyBuffer (s : SignalingClient) : SocketOp → Prop
  | .connectToServer _ => s.readBuffer = []
  | _ => True

/-- The state is that of a reader of the bytes of the connection. -/
structure ReadsConnection (s : SignalingClient) : Prop where
  arrived : s.received <+: signalFraming.stream (sentFrames s)
  drained : signalFraming.drain s.received = (s.delivered, s.readBuffer, false)

theorem peerFrames_bytes (frames : List PeerFrame) :
    frames.flatMap PeerFrame.bytes = signalFraming.stream (frames.map PeerFrame.frame) := by
  rw [Framing.stream, List.flatMap_map]
  exact congrArg (frames.flatMap ·) (funext peerFrame_bytes)

theorem sentFrames_valid (s : SignalingClient) : ∀ f ∈ sentFrames s, signalFraming.Valid f := by
  intro f hf
  obtain ⟨peerFrame, -, rfl⟩ := List.mem_map.mp hf
  exact peerFrame.le

theorem ReadsConnection.delivers {s : SignalingClient} (h : ReadsConnection s) :
    DeliversComplete s := by
  obtain ⟨rest, hdrain, -⟩ := signalFraming.drain_prefix (sentFrames_valid s) h.arrived
  exact (Prod.mk.inj (h.drained.symm.trans hdrain)).1

/-- More bytes of the connection arrive. -/
theorem ReadsConnection.read {s : SignalingClient} (h : ReadsConnection s) {chunk : List UInt8}
    (hchunk : s.received ++ chunk <+: signalFraming.stream (sentFrames s)) :
    ReadsConnection (s.read chunk) := by
  refine ⟨hchunk, ?_⟩
  obtain ⟨rest, hdrain, -⟩ := signalFraming.drain_prefix (sentFrames_valid s) hchunk
  have hsplit := signalFraming.drain_append h.drained chunk
  have hgood : (signalFraming.drain (s.readBuffer ++ chunk)).2.2 = false :=
    congrArg (fun r => r.2.2) (hsplit.symm.trans hdrain)
  simp only [SignalingClient.read, processIncomingFrames_eq, hsplit, hgood]
  exact congrArg (Prod.mk _) (Prod.ext rfl hgood)

theorem readsConnection_step {s : SignalingClient} {o : SocketOp} (hok : EmptyBuffer s o)
    (h : ReadsConnection s) : ReadsConnection (s.step o) := by
  cases o with
  | connectToServer frames =>
    have hempty : s.readBuffer = [] := hok
    refine ⟨List.nil_prefix, ?_⟩
    show signalFraming.drain [] = ([], s.readBuffer, false)
    rw [hempty]
    exact signalFraming.drain_of_more signalFraming.scan_nil
  | disconnected => exact ⟨h.arrived, h.drained⟩
  | readyRead count =>
    unfold SignalingClient.step
    dsimp only
    split
    · exact h
    · apply h.read
      rw [peerFrames_bytes]
      have hstream := List.prefix_iff_eq_append.mp h.arrived
      calc s.received ++ ((signalFraming.stream (sentFrames s)).drop s.received.length).take count
          <+: s.received ++ (signalFraming.stream (sentFrames s)).drop s.received.length :=
            (List.prefix_append_right_inj _).mpr (List.take_prefix _ _)
        _ = signalFraming.stream (sentFrames s) := hstream

theorem readsConnection_new : ReadsConnection .new :=
  ⟨List.nil_prefix, signalFraming.drain_of_more signalFraming.scan_nil⟩

/-- While connections are made with an empty buffer, the client delivers the
frames that have completely arrived, in order and no others. -/
theorem delivers_run (os : List SocketOp) (h : Along SignalingClient.step EmptyBuffer .new os) :
    Along SignalingClient.step (fun s o => DeliversComplete (s.step o)) .new os :=
  Along.of_inv (fun _ _ hok hs => readsConnection_step hok hs)
    (fun _ _ hok hs => (readsConnection_step hok hs).delivers) readsConnection_new h

/-! ## Two runs -/

def chatFrame (payload : List UInt8) (h : payload.length ≤ maxPayloadBytes.toNat) : PeerFrame :=
  { encoder := .server, frame := { type := 0x0403, payload }, le := h }

/-- Two frames that arrive in three chunks, and a second connection. -/
theorem delivers_run_chunks :
    Along SignalingClient.step (fun s o => DeliversComplete (s.step o)) .new
      [.connectToServer [chatFrame [1, 2] (by decide), chatFrame [] (by decide)], .readyRead 4,
        .readyRead 9, .readyRead 100, .disconnected, .connectToServer [chatFrame [3] (by decide)],
        .readyRead 10] :=
  have hempty : (run SignalingClient.step .new
      [.connectToServer [chatFrame [1, 2] (by decide), chatFrame [] (by decide)], .readyRead 4,
        .readyRead 9, .readyRead 100, .disconnected]).readBuffer = [] := by
    decide +kernel
  delivers_run _ ⟨rfl, trivial, trivial, trivial, trivial, hempty, trivial, trivial⟩

/-- The first connection ends one byte before the end of its frame. -/
def brokenRun : List SocketOp :=
  [.connectToServer [chatFrame [1, 2] (by decide)], .readyRead 10, .disconnected,
    .connectToServer [chatFrame [3] (by decide)], .readyRead 10]

/-- The first byte of the second connection completes the frame of the first. -/
theorem brokenRun_mixes :
    ¬ Along SignalingClient.step (fun s o => DeliversComplete (s.step o)) .new brokenRun := by
  rintro ⟨-, -, -, -, hdelivers, -⟩
  have hdelivered : (run SignalingClient.step .new brokenRun).delivered =
      [{ type := 0x0403, payload := [1, 0xAB] }] := by
    decide +kernel
  have hcomplete : signalFraming.complete [{ type := 0x0403, payload := [3] }] 10 =
      [{ type := 0x0403, payload := [3] }] := by
    decide +kernel
  have heq := hdelivered.symm.trans (hdelivers.trans hcomplete)
  revert heq
  decide

end MeetingSystem.Proof.Client
