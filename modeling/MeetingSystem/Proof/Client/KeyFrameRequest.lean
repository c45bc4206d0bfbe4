import MeetingSystem.Impl.Client.VideoSendLoop

/-!
# Requests for a key frame

A request is kept in the pending flag of the send loop or in the flag of its
encoder. The loop clears the first and the encoder the second before they know
what becomes of the frame; the pending flag is set again only if another frame
than a key frame comes out.

`keepsRequest_iff`: the iterations that keep a request until all packets of a
key frame are sent. `unreadyRun` is one that does not.
-/

namespace MeetingSystem.Proof.Client

open MeetingSystem.Framework MeetingSystem.Impl.Client

/-! ## The property -/

/-- A key frame is requested. -/
def Requested (s : SendLoop) : Prop :=
  s.forceKeyFramePending = true ∨ s.encoder.forceKeyFrameNext = true

/-- All packets of a key frame were sent. -/
def KeyFrameSent (frame : SentFrame) : Prop :=
  frame.keyFrame = true ∧ frame.sent = frame.packets

/-- A request is still there after the step, unless the step met it. -/
def KeepsRequest (config : SendConfig) (s : SendLoop) (o : SendOp) : Prop :=
  Requested s →
    Requested (s.step config o) ∨ ∃ frame ∈ s.encodes config o, KeyFrameSent frame

/-! ## When it holds -/

/-- The packet is sent when it is its turn. -/
def Sends (a : PacketAnswers) : Prop :=
  (a.dtlsStarted = true → a.srtpReady = true) ∧ a.protectedRtp = true ∧ a.sentWhole = true

/-- The codec gives a frame that can be packetized. If it is a key frame, its
packets are sent; if not, the request was a pending one, which is made again. -/
def MeetsRequest (config : SendConfig) (it : Iteration) (pending : Bool)
    (encoded : EncodedVideoFrame) : Prop :=
  let payloads := packetizeH264AnnexB encoded.payload config.maxPayloadBytes
  payloads ≠ [] ∧
    if encoded.keyFrame then ∀ i < payloads.length, Sends (it.packets i) else pending = true

/-- The iteration stops before it reads the flag; or no frame gets to the
encoder, which holds the request itself; or the encoder refuses the frame; or
the frame that it encodes meets the request. -/
def Delivers (config : SendConfig) (s : SendLoop) : SendOp → Prop
  | .requestKeyFrame => True
  | .iterate it => Requested s →
    match s.captureFrame config it with
    | (_, none) => True
    | (s₁, some frame) =>
      match { s₁ with forceKeyFramePending := false }.frameForEncode config it frame with
      | (s₂, none) => s₂.encoder.forceKeyFrameNext = true
      | (s₂, some frame) =>
        match acceptedFrame (s₂.pipeline config it) frame with
        | .error _ => s₂.encoder.forceKeyFrameNext = true
        | .ok frame =>
          match (encoderFor s₂.encoder it.target.payloadType s.forceKeyFramePending).prepare
            frame it.encode with
          | (_, some _) => True
          | (e, none) =>
            ∃ encoded, e.submit frame it.encode = .ok encoded ∧
              MeetsRequest config it s.forceKeyFramePending encoded

/-! ## The encoder's flag -/

@[simp] theorem configure_forceKeyFrameNext (e : VideoEncoder) (w h f b : Int) (p : UInt8)
    (o : Option (AVPixelFormat × List UInt8)) :
    (e.configure w h f b p o).1.forceKeyFrameNext = e.forceKeyFrameNext := by
  unfold VideoEncoder.configure
  split
  · rfl
  · cases o <;> rfl

@[simp] theorem configureHardwareD3D11_forceKeyFrameNext (e : VideoEncoder) (w h f b : Int)
    (p : UInt8) (o : Option (List UInt8)) :
    (e.configureHardwareD3D11 w h f b p o).1.forceKeyFrameNext = e.forceKeyFrameNext := by
  unfold VideoEncoder.configureHardwareD3D11
  split
  · rfl
  · cases o <;> rfl

@[simp] theorem configureEncoderForProfile_forceKeyFrameNext (e : VideoEncoder)
    (profile : VideoPipelineProfile) (r : Reconfigure) :
    (configureEncoderForProfile e profile r).1.forceKeyFrameNext = e.forceKeyFrameNext := by
  unfold configureEncoderForProfile
  split <;> simp

theorem setPayloadType_forceKeyFrameNext (e : VideoEncoder) (p : UInt8) :
    (e.setPayloadType p).forceKeyFrameNext = e.forceKeyFrameNext := by
  unfold VideoEncoder.setPayloadType
  split <;> rfl

/-- An encoder that is not open yet is configured first. -/
theorem opened_forceKeyFrameNext {e : VideoEncoder} {c : VideoEncoder × Bool}
    (h : c.1.forceKeyFrameNext = e.forceKeyFrameNext) :
    (if e.codecContext.isSome then (e, true) else c).1.forceKeyFrameNext =
      e.forceKeyFrameNext := by
  split_ifs
  · rfl
  · exact h

theorem prepareScreenFrame_forceKeyFrameNext (e : VideoEncoder) (frame : ScreenFrame)
    (answers : EncodeAnswers) :
    (e.prepareScreenFrame frame answers).1.forceKeyFrameNext = e.forceKeyFrameNext := by
  unfold VideoEncoder.prepareScreenFrame
  have hopened := opened_forceKeyFrameNext (configure_forceKeyFrameNext e frame.width frame.height 5
    (1500 * 1000) e.payloadType answers.opened)
  generalize (if e.codecContext.isSome then (e, true) else _) = opened at hopened ⊢
  obtain ⟨e', configured⟩ := opened
  dsimp only at hopened ⊢
  split_ifs <;> exact hopened

theorem prepareD3D11Frame_forceKeyFrameNext (e : VideoEncoder) (frame : AVFrame)
    (answers : EncodeAnswers) :
    (e.prepareD3D11Frame frame answers).1.forceKeyFrameNext = e.forceKeyFrameNext := by
  unfold VideoEncoder.prepareD3D11Frame
  have hopened := opened_forceKeyFrameNext (configureHardwareD3D11_forceKeyFrameNext e frame.width
    frame.height (if 0 < e.frameRate then e.frameRate else 30)
    (if 0 < e.bitrate then e.bitrate else 1500 * 1000) e.payloadType answers.openedD3D11)
  generalize (if e.codecContext.isSome then (e, true) else _) = opened at hopened ⊢
  obtain ⟨e', configured⟩ := opened
  dsimp only at hopened ⊢
  split_ifs <;> exact hopened

theorem prepareMemoryFrame_forceKeyFrameNext (e : VideoEncoder) (frame : AVFrame)
    (answers : EncodeAnswers) :
    (e.prepareMemoryFrame frame answers).1.forceKeyFrameNext = e.forceKeyFrameNext := by
  unfold VideoEncoder.prepareMemoryFrame
  have hopened := opened_forceKeyFrameNext (configure_forceKeyFrameNext e frame.width frame.height
    (if 0 < e.frameRate then e.frameRate else 30)
    (if 0 < e.bitrate then e.bitrate else 1500 * 1000) e.payloadType answers.opened)
  generalize (if e.codecContext.isSome then (e, true) else _) = opened at hopened ⊢
  obtain ⟨e', configured⟩ := opened
  dsimp only at hopened ⊢
  split_ifs <;> exact hopened

/-- The checks of `encode` leave the request alone. -/
theorem prepare_forceKeyFrameNext (e : VideoEncoder) (frame : AVFrame ⊕ ScreenFrame)
    (answers : EncodeAnswers) :
    (e.prepare frame answers).1.forceKeyFrameNext = e.forceKeyFrameNext := by
  cases frame with
  | inl frame =>
    show (e.prepareAVFrame frame answers).1.forceKeyFrameNext = e.forceKeyFrameNext
    unfold VideoEncoder.prepareAVFrame
    split_ifs
    · rfl
    · exact prepareD3D11Frame_forceKeyFrameNext e frame answers
    · exact prepareMemoryFrame_forceKeyFrameNext e frame answers
  | inr frame => exact prepareScreenFrame_forceKeyFrameNext e frame answers

/-- The update to a new target may request a key frame, and drops no request. -/
theorem maybeApply_forceKeyFrameNext {e : VideoEncoder} (profile : VideoPipelineProfile)
    (r : Reconfigure) (h : e.forceKeyFrameNext = true) :
    (maybeApplyAdaptiveEncoderProfile e profile r).1.forceKeyFrameNext = true := by
  unfold maybeApplyAdaptiveEncoderProfile
  dsimp only
  split
  · split
    · exact h
    · unfold VideoEncoder.setBitrate
      split <;> exact h
  · split
    · rename_i e' hconfigure
      have hnext := congrArg (fun result => result.1.forceKeyFrameNext) hconfigure
      simp only [configureEncoderForProfile_forceKeyFrameNext] at hnext
      exact hnext.symm.trans h
    · rfl

theorem encoderFor_forceKeyFrameNext (e : VideoEncoder) (p : UInt8) (force : Bool) :
    (encoderFor e p force).forceKeyFrameNext = (force || e.forceKeyFrameNext) := by
  unfold encoderFor
  cases force
  · exact setPayloadType_forceKeyFrameNext e p
  · rfl

/-! ## The stages of an iteration -/

theorem maybeChangeProfile_flags (s : SendLoop) (profile : VideoPipelineProfile)
    (r : Option Reconfigure) :
    (s.maybeChangeProfile profile r).1.forceKeyFramePending = s.forceKeyFramePending ∧
    (s.maybeChangeProfile profile r).1.encoder.forceKeyFrameNext =
      s.encoder.forceKeyFrameNext := by
  cases r with
  | none => exact ⟨rfl, rfl⟩
  | some r => exact ⟨rfl, configureEncoderForProfile_forceKeyFrameNext s.encoder profile r⟩

theorem captureFrame_pending (config : SendConfig) (s : SendLoop) (it : Iteration) :
    (s.captureFrame config it).1.forceKeyFramePending = s.forceKeyFramePending := by
  unfold SendLoop.captureFrame
  dsimp only
  have hrestore := (maybeChangeProfile_flags s config.requestedProfile it.restore).1
  split
  · exact hrestore
  · split
    · exact hrestore
    · split
      · exact (maybeChangeProfile_flags _ _ _).1.trans hrestore
      · exact (maybeChangeProfile_flags _ _ _).1.trans hrestore

/-- A request of the encoder is there when the flag of the loop is read. -/
theorem captureFrame_next (config : SendConfig) {s : SendLoop} (it : Iteration)
    (h : s.encoder.forceKeyFrameNext = true) :
    (s.captureFrame config it).1.encoder.forceKeyFrameNext = true := by
  unfold SendLoop.captureFrame
  dsimp only
  have hrestore := (maybeChangeProfile_flags s config.requestedProfile it.restore).2.trans h
  have happly := maybeApply_forceKeyFrameNext
    (s.maybeChangeProfile config.requestedProfile it.restore).1.sendProfile it.target hrestore
  split
  · exact hrestore
  · split
    · exact happly
    · split
      · exact (maybeChangeProfile_flags _ _ _).2.trans happly
      · exact (maybeChangeProfile_flags _ _ _).2.trans happly

theorem captureFrame_requested (config : SendConfig) {s : SendLoop} (it : Iteration)
    (h : Requested s) : Requested (s.captureFrame config it).1 := by
  rcases h with hpending | hnext
  · exact .inl ((captureFrame_pending config s it).trans hpending)
  · exact .inr (captureFrame_next config it hnext)

theorem frameForEncode_flags (config : SendConfig) (s : SendLoop) (it : Iteration)
    (frame : VideoSendPipelineInputFrame) :
    (s.frameForEncode config it frame).1.forceKeyFramePending = s.forceKeyFramePending ∧
    (s.frameForEncode config it frame).1.encoder.forceKeyFrameNext =
      s.encoder.forceKeyFrameNext := by
  have hchange := maybeChangeProfile_flags s .SoftwareE2E (some it.inputFallback)
  unfold SendLoop.frameForEncode
  dsimp only
  split
  · split
    · exact hchange
    · split <;> exact hchange
  · split
    · exact ⟨rfl, rfl⟩
    · split <;> exact ⟨rfl, rfl⟩

/-! ## Packets -/

theorem buildPackets_length (p : UInt8) (ts : UInt32) (sender : RTPSender)
    (payloads : List (List UInt8)) :
    (buildPackets p ts sender payloads).1.length = payloads.length := by
  induction payloads generalizing sender with
  | nil => rfl
  | cons payload payloads ih =>
    simp only [buildPackets, List.length_cons]
    rw [ih]

/-- What is sent is at most what there is. -/
theorem sendPackets_length_le (answers : Nat → PacketAnswers) (i : Nat)
    (packets : List VideoSendPipelinePacket) :
    (SendLoop.sendPackets answers i packets).length ≤ packets.length := by
  induction packets generalizing i with
  | nil => exact Nat.le_refl 0
  | cons packet packets ih =>
    have htail := ih (i + 1)
    simp only [SendLoop.sendPackets, List.length_cons]
    split
    · omega
    · split
      · omega
      · split
        · exact Nat.zero_le _
        · simp only [List.length_cons]
          omega

/-- All packets are sent if each is. -/
theorem sendPackets_eq_iff (answers : Nat → PacketAnswers) (i : Nat)
    (packets : List VideoSendPipelinePacket) :
    SendLoop.sendPackets answers i packets = packets ↔
      ∀ k < packets.length, Sends (answers (i + k)) := by
  induction packets generalizing i with
  | nil => simp [SendLoop.sendPackets]
  | cons packet packets ih =>
    have hforall : (∀ k < (packet :: packets).length, Sends (answers (i + k))) ↔
        Sends (answers i) ∧ ∀ k < packets.length, Sends (answers (i + 1 + k)) := by
      simp only [List.length_cons, Nat.forall_lt_succ_left, Nat.add_zero, Nat.add_assoc,
        Nat.add_comm 1]
    have hskip : SendLoop.sendPackets answers (i + 1) packets ≠ packet :: packets := by
      intro heq
      have hle := sendPackets_length_le answers (i + 1) packets
      rw [heq, List.length_cons] at hle
      omega
    rw [hforall, ← ih (i + 1), SendLoop.sendPackets]
    unfold Sends
    split
    · simp_all
    · split
      · simp_all
      · split
        · simp_all
        · simp_all

/-! ## The encoder -/

/-- What a call of `encode` leaves, if the frame is refused. -/
theorem encode_of_refused {e e' : VideoEncoder} {frame : AVFrame ⊕ ScreenFrame}
    {answers : EncodeAnswers} {error : String} (h : e.prepare frame answers = (e', some error)) :
    e.encode frame false answers = (e', .error error) ∧
      e'.forceKeyFrameNext = e.forceKeyFrameNext := by
  constructor
  · rw [VideoEncoder.encode, h]
  · rw [← prepare_forceKeyFrameNext e frame answers, h]

/-- The request is gone, whatever the codec says. -/
theorem encode_of_prepared {e e' : VideoEncoder} {frame : AVFrame ⊕ ScreenFrame}
    {answers : EncodeAnswers} (h : e.prepare frame answers = (e', none)) :
    e.encode frame false answers =
      ({ e' with forceKeyFrameNext := false }, e'.submit frame answers) := by
  rw [VideoEncoder.encode, h]
  cases frame <;> rfl

/-- The packets of a frame, one for each payload. -/
theorem packetizeEncodedFrame_spec (encoded : EncodedVideoFrame) (frameRate : Int)
    (sender : RTPSender) (maxPayloadBytes : Nat) :
    (packetizeH264AnnexB encoded.payload maxPayloadBytes = [] ∧
      ∃ error, (packetizeEncodedFrame encoded frameRate sender maxPayloadBytes).1 =
        .error error) ∨
    (packetizeH264AnnexB encoded.payload maxPayloadBytes ≠ [] ∧
      ∃ packets, (packetizeEncodedFrame encoded frameRate sender maxPayloadBytes).1 =
        .ok packets ∧
        packets.length = (packetizeH264AnnexB encoded.payload maxPayloadBytes).length) := by
  cases hpayloads : packetizeH264AnnexB encoded.payload maxPayloadBytes with
  | nil =>
    refine .inl ⟨rfl, ?_⟩
    simp only [packetizeEncodedFrame, hpayloads]
    exact ⟨_, rfl⟩
  | cons payload payloads =>
    refine .inr ⟨List.cons_ne_nil _ _, ?_⟩
    simp only [packetizeEncodedFrame, hpayloads]
    exact ⟨_, rfl, buildPackets_length _ _ _ _⟩

/-- After a frame that the encoder takes, a request is left exactly if the frame
meets it. -/
theorem meets_iff (config : SendConfig) {s : SendLoop} (it : Iteration) (force : Bool)
    {frame : VideoSendPipelineInputFrame} {accepted : AVFrame ⊕ ScreenFrame} {e : VideoEncoder}
    (hpending : s.forceKeyFramePending = false)
    (haccepted : acceptedFrame (s.pipeline config it) frame = .ok accepted)
    (hprepare : (encoderFor s.encoder it.target.payloadType force).prepare accepted it.encode =
      (e, none)) :
    (Requested (s.encodeAndSend config it force frame).1 ∨
      ∃ sent ∈ (s.encodeAndSend config it force frame).2, KeyFrameSent sent) ↔
    ∃ encoded, e.submit accepted it.encode = .ok encoded ∧
      MeetsRequest config it force encoded := by
  simp only [SendLoop.encodeAndSend, encodeAndPacketize, haccepted, encode_of_prepared hprepare]
  cases hsubmit : e.submit accepted it.encode with
  | error error => simp [Requested, hpending]
  | ok encoded =>
    simp only [Except.ok.injEq, exists_eq_left', MeetsRequest]
    rcases packetizeEncodedFrame_spec encoded (s.pipeline config it).frameRate s.sender
      (s.pipeline config it).maxPayloadBytes with ⟨hnil, error, hpackets⟩ |
        ⟨hcons, packets, hpackets, hlength⟩
    · have hnil' : packetizeH264AnnexB encoded.payload config.maxPayloadBytes = [] := hnil
      simp [hpackets, hnil', Requested, hpending]
    · have hcons' : packetizeH264AnnexB encoded.payload config.maxPayloadBytes ≠ [] := hcons
      have hsent := sendPackets_eq_iff it.packets 0 packets
      rw [hlength] at hsent
      simp only [Nat.zero_add] at hsent
      have hlater : Requested
            { s with
              encoder := { e with forceKeyFrameNext := false }
              sender := (packetizeEncodedFrame encoded (s.pipeline config it).frameRate s.sender
                (s.pipeline config it).maxPayloadBytes).2
              forceKeyFramePending := s.forceKeyFramePending || force && !encoded.keyFrame } ↔
          force = true ∧ encoded.keyFrame = false := by
        simp [Requested, hpending]
      simp only [hpackets, Option.mem_some_iff, exists_eq_left', hlater, KeyFrameSent]
      cases hkey : encoded.keyFrame with
      | true => simpa [hcons', SendLoop.pipeline] using hsent
      | false => simp [hcons']

/-- A step keeps a request exactly if it delivers. -/
theorem keepsRequest_iff (config : SendConfig) (s : SendLoop) (o : SendOp) :
    KeepsRequest config s o ↔ Delivers config s o := by
  cases o with
  | requestKeyFrame => exact ⟨fun _ => trivial, fun _ _ => .inl (.inl rfl)⟩
  | iterate it =>
    refine imp_congr_right fun hrequested => ?_
    have hcaptured := captureFrame_requested config it hrequested
    have hpending := captureFrame_pending config s it
    simp only [SendLoop.step, SendLoop.encodes, SendLoop.iterate]
    generalize hcapture : s.captureFrame config it = r₁ at hcaptured hpending
    obtain ⟨s₁, frame⟩ := r₁
    cases frame with
    | none => exact ⟨fun _ => trivial, fun _ => .inl hcaptured⟩
    | some frame =>
      have hflags := frameForEncode_flags config { s₁ with forceKeyFramePending := false } it frame
      dsimp only at hpending hflags ⊢
      rw [hpending]
      generalize hframe : { s₁ with forceKeyFramePending := false }.frameForEncode config it frame =
        r₂ at hflags
      obtain ⟨s₂, frame⟩ := r₂
      obtain ⟨hcleared, hnext⟩ := hflags
      dsimp only at hcleared hnext
      have hforce : (s.forceKeyFramePending || s₂.encoder.forceKeyFrameNext) = true := by
        rw [hnext, ← hpending]
        exact Bool.or_eq_true_iff.mpr hcaptured
      cases frame with
      | none =>
        simp [Requested, hcleared]
      | some frame =>
        dsimp only
        cases haccepted : acceptedFrame (s₂.pipeline config it) frame with
        | error error =>
          simp [SendLoop.encodeAndSend, encodeAndPacketize, haccepted, Requested, hcleared]
        | ok accepted =>
          generalize hprepare : (encoderFor s₂.encoder it.target.payloadType
            s.forceKeyFramePending).prepare accepted it.encode = r₃
          obtain ⟨e, refused⟩ := r₃
          cases refused with
          | some error =>
            obtain ⟨hencode, hkept⟩ := encode_of_refused hprepare
            rw [encoderFor_forceKeyFrameNext, hforce] at hkept
            dsimp only
            rw [hprepare]
            simp [SendLoop.encodeAndSend, encodeAndPacketize, haccepted, hencode, Requested, hkept]
          | none =>
            dsimp only
            rw [hprepare]
            exact meets_iff config it _ hcleared haccepted hprepare

/-- The runs in which no request for a key frame is lost. -/
theorem keepsRequest_run (config : SendConfig) (s : SendLoop) (os : List SendOp) :
    Along (SendLoop.step config) (KeepsRequest config) s os ↔
      Along (SendLoop.step config) (Delivers config) s os :=
  ⟨Along.mono fun s o => (keepsRequest_iff config s o).mp,
    Along.mono fun s o => (keepsRequest_iff config s o).mpr⟩

/-! ## A request that is lost -/

def softwareConfig : SendConfig :=
  { requestedProfile := .SoftwareE2E, profileForced := false, maxPayloadBytes := 1200 }

/-- A loop whose encoder is open for pictures of 2 by 2. -/
def smallLoop : SendLoop :=
  { encoder :=
      { width := 2, height := 2, frameRate := 30, bitrate := 1000000, outputPixelFormat := .nv12
        codecContext := some [] }
    sender := { ssrc := 7, sequence := 0 }
    sendProfile := .SoftwareE2E
    forceKeyFramePending := false }

/-- The codec answers with a key frame of one packet, and DTLS is started but
SRTP not ready. -/
def unreadyIteration : Iteration :=
  { restore := none
    idle := false
    target :=
      { width := 2, height := 2, frameRate := 30, bitrate := 1000000, payloadType := 97
        opened := none, openedD3D11 := none }
    captureFallback := none
    captured :=
      some { screenFrame := { width := 2, height := 2, pts := 0, bgra := 16 }, avFrame := none }
    peer := true
    inputFallback :=
      { width := 2, height := 2, frameRate := 30, bitrate := 1000000, payloadType := 97
        opened := none, openedD3D11 := none }
    adapt := { cloned := true, scaled := true, scaledScreen := none }
    encode :=
      { opened := none, openedD3D11 := none, frameAllocated := true, bufferAllocated := true
        converted := true, sendError := none
        received := [.packet none true [0x00, 0x00, 0x00, 0x01, 0x65, 0x88]] }
    packets := fun _ =>
      { dtlsStarted := true, srtpReady := false, protectedRtp := false, sentWhole := false } }

instance : DecidablePred Requested := fun _ => inferInstanceAs (Decidable (_ ∨ _))

instance : DecidablePred KeyFrameSent := fun _ => inferInstanceAs (Decidable (_ ∧ _))

/-- The request is in neither flag after the iteration, and nothing was sent. -/
theorem unreadyRun_loses :
    ¬ Along (SendLoop.step softwareConfig) (KeepsRequest softwareConfig) smallLoop
      [.requestKeyFrame, .iterate unreadyIteration] := by
  rintro ⟨-, hkeeps, -⟩
  have hlost : ¬ Requested (run (SendLoop.step softwareConfig) smallLoop
      [.requestKeyFrame, .iterate unreadyIteration]) := by
    decide +kernel
  have hunsent : ¬ ∃ frame ∈ (smallLoop.step softwareConfig .requestKeyFrame).encodes
      softwareConfig (.iterate unreadyIteration), KeyFrameSent frame := by
    decide +kernel
  exact (hkeeps (.inl rfl)).elim hlost hunsent

end MeetingSystem.Proof.Client
