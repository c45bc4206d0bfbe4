import MeetingSystem.Framework.Run
import MeetingSystem.Impl.Client.RTPSender
import MeetingSystem.Impl.Client.ScreenCapture
import MeetingSystem.Impl.Client.VideoEncoder

/-!
# The send loop of the video session

`sendLoop` of `plasma-hawking/src/av/session/ScreenShareSessionTransport.cpp`
with `VideoSendPipeline.cpp` and the functions of `VideoSendControlActions.cpp`
that it calls. A step is one iteration, for any captures and any answers of the
codec, the SRTP context and the socket, or a request for a key frame by another
thread. Within an iteration the pending flag is read once, by the exchange: a
request that arrives after that is a step that follows the iteration.
-/

namespace MeetingSystem.Impl.Client

/-! ## Frames to encode -/

inductive VideoPipelineProfile where
  | SoftwareE2E
  | HardwareE2E
  deriving DecidableEq

def isHardwareE2E (profile : VideoPipelineProfile) : Bool := profile == .HardwareE2E

structure VideoSendPipelineInputFrame where
  screenFrame : ScreenFrame
  avFrame : Option AVFrame
  deriving DecidableEq

namespace VideoSendPipelineInputFrame

def hasScreenFrame (f : VideoSendPipelineInputFrame) : Bool := f.screenFrame.bgra != 0

def hasHardwareD3D11Frame (f : VideoSendPipelineInputFrame) : Bool :=
  f.avFrame.any fun frame => frame.format == .d3d11 && frame.hwFramesCtx

/-- One of the two pictures has this size. -/
def hasSize (f : VideoSendPipelineInputFrame) (width height : Int) : Bool :=
  f.avFrame.any (fun frame => frame.width == width && frame.height == height) ||
    (f.hasScreenFrame && (f.screenFrame.width == width && f.screenFrame.height == height))

end VideoSendPipelineInputFrame

def ScreenFrame.empty : ScreenFrame := { width := 0, height := 0, pts := 0, bgra := 0 }

def normalizeEvenDimension (value : Int) : Int :=
  let value := max 2 value
  max 2 (value - value % 2)

/-- `scaled`: the frame could be cloned, or allocated and scaled. -/
def scaleAvFrame (inputFrame : AVFrame) (targetWidth targetHeight : Int) (scaled : Bool) :
    Option AVFrame :=
  if inputFrame.width ≤ 0 ∨ inputFrame.height ≤ 0 ∨ inputFrame.format = .none then none
  else if ¬ scaled then none
  else if inputFrame.width = targetWidth ∧ inputFrame.height = targetHeight then some inputFrame
  else some { inputFrame with width := targetWidth, height := targetHeight, hwFramesCtx := false }

def scaleScreenFrame (inputFrame : ScreenFrame) (targetWidth targetHeight : Int)
    (scaled : Option ScreenFrame) : Option ScreenFrame :=
  if inputFrame.width ≤ 0 ∨ inputFrame.height ≤ 0 ∨ inputFrame.bgra = 0 then none
  else if (inputFrame.bgra : Int) ≠ inputFrame.width * inputFrame.height * 4 then none
  else if inputFrame.width = targetWidth ∧ inputFrame.height = targetHeight then some inputFrame
  else scaled

/-- What the scalers answer: the last one with the picture that `QImage` made. -/
structure AdaptAnswers where
  cloned : Bool
  scaled : Bool
  scaledScreen : Option ScreenFrame
  deriving DecidableEq

def adaptVideoSendInputFrame (inputFrame : VideoSendPipelineInputFrame)
    (targetWidth targetHeight : Int) (profile : VideoPipelineProfile) (answers : AdaptAnswers) :
    Option VideoSendPipelineInputFrame :=
  let targetWidth := normalizeEvenDimension targetWidth
  let targetHeight := normalizeEvenDimension targetHeight
  if isHardwareE2E profile then
    if ¬ inputFrame.hasSize targetWidth targetHeight then none
    else
      match inputFrame.avFrame with
      | some frame =>
        if answers.cloned then some { screenFrame := .empty, avFrame := some frame } else none
      | none =>
        if inputFrame.hasScreenFrame then
          some { screenFrame := inputFrame.screenFrame, avFrame := none }
        else none
  else
    match inputFrame.avFrame with
    | some frame =>
      (scaleAvFrame frame targetWidth targetHeight answers.scaled).map fun frame =>
        { screenFrame := .empty, avFrame := some frame }
    | none =>
      if inputFrame.hasScreenFrame then
        (scaleScreenFrame inputFrame.screenFrame targetWidth targetHeight
          answers.scaledScreen).map fun frame => { screenFrame := frame, avFrame := none }
      else none

/-! ## The pipeline -/

structure VideoSendPipelineConfig where
  frameRate : Int
  maxPayloadBytes : Nat
  profile : VideoPipelineProfile
  deriving DecidableEq

structure VideoSendPipelinePacket where
  sequenceNumber : UInt16
  timestamp : UInt32
  bytes : List UInt8
  deriving DecidableEq

/-- The loop of `packetizeEncodedFrame`; a packet that is built is never empty. -/
def buildPackets (payloadType : UInt8) (timestamp : UInt32) (sender : RTPSender) :
    List (List UInt8) → List VideoSendPipelinePacket × RTPSender
  | [] => ([], sender)
  | payload :: payloads =>
    let (bytes, sender) := sender.buildPacket payloadType payloads.isEmpty timestamp payload
    let (packets, sender) := buildPackets payloadType timestamp sender payloads
    ({ sequenceNumber := readBE16 bytes 2, timestamp, bytes } :: packets, sender)

def packetizeEncodedFrame (encoded : EncodedVideoFrame) (fallbackFrameRate : Int)
    (sender : RTPSender) (maxPayloadBytes : Nat) :
    Except String (List VideoSendPipelinePacket) × RTPSender :=
  match packetizeH264AnnexB encoded.payload maxPayloadBytes with
  | [] => (.error "no RTP payloads produced from H264 frame", sender)
  | payload :: payloads =>
    let timestamp := rtpTimestamp encoded.pts encoded.frameRate fallbackFrameRate
    let (packets, sender) :=
      buildPackets encoded.payloadType timestamp sender (payload :: payloads)
    (.ok packets, sender)

/-- What `encodeAndPacketize` leaves: its encoder and sender, whether the frame
is a key frame, and the packets or the error, which is empty if the codec has no
packet yet. -/
structure PipelineResult where
  encoder : VideoEncoder
  sender : RTPSender
  encodedKeyFrame : Bool
  packets : Except String (List VideoSendPipelinePacket)

/-- The frame that is encoded, or why the pipeline takes none. The functions for
the two kinds of frame repeat these checks, which they cannot fail. -/
def acceptedFrame (config : VideoSendPipelineConfig) (inputFrame : VideoSendPipelineInputFrame) :
    Except String (AVFrame ⊕ ScreenFrame) :=
  match inputFrame.avFrame with
  | some frame =>
    if isHardwareE2E config.profile ∧ ¬ inputFrame.hasHardwareD3D11Frame then
      .error "hardware video pipeline requires D3D11 GPU AVFrame input; CPU AVFrame input disabled"
    else .ok (.inl frame)
  | none =>
    if inputFrame.hasScreenFrame then
      if isHardwareE2E config.profile then
        .error ("hardware video pipeline requires GPU capture/encoder input; " ++
          "CPU screen frame input disabled")
      else .ok (.inr inputFrame.screenFrame)
    else .error "empty video send input frame"

/-- The encoder that `encodeAndPacketize` calls. -/
def encoderFor (encoder : VideoEncoder) (payloadType : UInt8) (forceKeyFrame : Bool) :
    VideoEncoder :=
  let encoder := encoder.setPayloadType payloadType
  if forceKeyFrame then encoder.requestKeyframe else encoder

def encodeAndPacketize (config : VideoSendPipelineConfig) (encoder : VideoEncoder)
    (inputFrame : VideoSendPipelineInputFrame) (payloadType : UInt8) (forceKeyFrame : Bool)
    (sender : RTPSender) (answers : EncodeAnswers) : PipelineResult :=
  match acceptedFrame config inputFrame with
  | .error error => { encoder, sender, encodedKeyFrame := false, packets := .error error }
  | .ok frame =>
    match (encoderFor encoder payloadType forceKeyFrame).encode frame false answers with
    | (encoder, .error error) =>
      { encoder, sender, encodedKeyFrame := false, packets := .error error }
    | (encoder, .ok encoded) =>
      let (packets, sender) :=
        packetizeEncodedFrame encoded config.frameRate sender config.maxPayloadBytes
      { encoder, sender, encodedKeyFrame := encoded.keyFrame, packets }

/-! ## The loop -/

/-- A call of the encoder's configuration: its arguments, and the codecs that
open. -/
structure Reconfigure where
  width : Int
  height : Int
  frameRate : Int
  bitrate : Int
  payloadType : UInt8
  opened : Option (AVPixelFormat × List UInt8)
  openedD3D11 : Option (List UInt8)
  deriving DecidableEq

def configureEncoderForProfile (e : VideoEncoder) (profile : VideoPipelineProfile)
    (r : Reconfigure) : VideoEncoder × Bool :=
  if isHardwareE2E profile then
    e.configureHardwareD3D11 r.width r.height r.frameRate r.bitrate r.payloadType r.openedD3D11
  else e.configure r.width r.height r.frameRate r.bitrate r.payloadType r.opened

def kMinAdaptiveBitrateBps : Int := 100000

/-- The update of the encoder to the target `r` of the bandwidth policy; the
bitrate is cast from `uint32_t` to `int`. -/
def maybeApplyAdaptiveEncoderProfile (e : VideoEncoder) (profile : VideoPipelineProfile)
    (r : Reconfigure) : VideoEncoder × Bool :=
  let r := { r with
    width := normalizeEvenDimension r.width
    height := normalizeEvenDimension r.height
    frameRate := max 1 r.frameRate
    bitrate := (max kMinAdaptiveBitrateBps r.bitrate).bmod 0x100000000 }
  if e.width = r.width ∧ e.height = r.height ∧ e.frameRate = r.frameRate then
    if r.bitrate = e.bitrate then (e, true) else e.setBitrate r.bitrate
  else
    match configureEncoderForProfile e profile r with
    | (e, false) => (e, false)
    | (e, true) => (e.requestKeyframe, true)

/-- What is fixed for a run of the loop. -/
structure SendConfig where
  requestedProfile : VideoPipelineProfile
  profileForced : Bool
  maxPayloadBytes : Nat
  deriving DecidableEq

structure SendLoop where
  encoder : VideoEncoder
  sender : RTPSender
  sendProfile : VideoPipelineProfile
  forceKeyFramePending : Bool
  deriving DecidableEq

/-- What becomes of one packet: whether DTLS is started and SRTP ready when it
is its turn, whether it could be protected and whether all of it was sent. -/
structure PacketAnswers where
  dtlsStarted : Bool
  srtpReady : Bool
  protectedRtp : Bool
  sentWhole : Bool
  deriving DecidableEq

/-- What one iteration meets, in the order in which it asks. `restore` is the
return to the requested profile after a change of the camera, `idle` that there
is nothing to send, `captureFallback` the change to software that a capture may
make, and `peer` that there is a peer and the video is not suspended. -/
structure Iteration where
  restore : Option Reconfigure
  idle : Bool
  target : Reconfigure
  captureFallback : Option Reconfigure
  captured : Option VideoSendPipelineInputFrame
  peer : Bool
  inputFallback : Reconfigure
  adapt : AdaptAnswers
  encode : EncodeAnswers
  packets : Nat → PacketAnswers

/-- A frame that was encoded: its packets, and those that were sent. -/
structure SentFrame where
  keyFrame : Bool
  packets : List VideoSendPipelinePacket
  sent : List VideoSendPipelinePacket
  deriving DecidableEq

namespace SendLoop

/-- The loop changes to `profile`; the flag is that the encoder could be
configured for it. -/
def changeProfile (s : SendLoop) (profile : VideoPipelineProfile) (r : Reconfigure) :
    SendLoop × Bool :=
  let (encoder, configured) := configureEncoderForProfile s.encoder profile r
  ({ s with encoder, sendProfile := profile }, configured)

/-- An optional change of the profile. -/
def maybeChangeProfile (s : SendLoop) (profile : VideoPipelineProfile) :
    Option Reconfigure → SendLoop × Bool
  | none => (s, true)
  | some r => s.changeProfile profile r

/-- The iteration up to the exchange of the pending flag, and its frame if it
gets there. -/
def captureFrame (config : SendConfig) (s : SendLoop) (it : Iteration) :
    SendLoop × Option VideoSendPipelineInputFrame :=
  let (s, restored) := s.maybeChangeProfile config.requestedProfile it.restore
  if ¬ restored ∨ it.idle then (s, none)
  else
    let (encoder, applied) := maybeApplyAdaptiveEncoderProfile s.encoder s.sendProfile it.target
    let s := { s with encoder }
    if ¬ applied then (s, none)
    else
      let (s, configured) := s.maybeChangeProfile .SoftwareE2E it.captureFallback
      if ¬ configured ∨ ¬ it.peer then (s, none)
      else (s, it.captured)

/-- The frame that is given to the encoder, after the change to software if the
input is not on the GPU. -/
def frameForEncode (config : SendConfig) (s : SendLoop) (it : Iteration)
    (frame : VideoSendPipelineInputFrame) : SendLoop × Option VideoSendPipelineInputFrame :=
  let frameAlreadyMatches := frame.hasSize s.encoder.width s.encoder.height
  let fallback := isHardwareE2E s.sendProfile ∧ ¬ frame.hasHardwareD3D11Frame ∧
    ¬ config.profileForced ∧ ¬ isHardwareE2E config.requestedProfile
  let (s, configured) :=
    if fallback then s.changeProfile .SoftwareE2E it.inputFallback else (s, true)
  if ¬ configured then (s, none)
  else if frameAlreadyMatches then (s, some frame)
  else
    (s, adaptVideoSendInputFrame frame s.encoder.width s.encoder.height s.sendProfile it.adapt)

/-- The packets that are sent, from the packet with number `i` on. -/
def sendPackets (answers : Nat → PacketAnswers) :
    Nat → List VideoSendPipelinePacket → List VideoSendPipelinePacket
  | _, [] => []
  | i, packet :: packets =>
    if (answers i).dtlsStarted ∧ ¬ (answers i).srtpReady then sendPackets answers (i + 1) packets
    else if ¬ (answers i).protectedRtp then sendPackets answers (i + 1) packets
    else if ¬ (answers i).sentWhole then []
    else packet :: sendPackets answers (i + 1) packets

/-- The pipeline that encodes the frame. -/
def pipeline (config : SendConfig) (s : SendLoop) (it : Iteration) : VideoSendPipelineConfig :=
  { frameRate := it.target.frameRate, maxPayloadBytes := config.maxPayloadBytes
    profile := s.sendProfile }

/-- The iteration from the encoder on. -/
def encodeAndSend (config : SendConfig) (s : SendLoop) (it : Iteration) (forceKeyFrame : Bool)
    (frame : VideoSendPipelineInputFrame) : SendLoop × Option SentFrame :=
  let result := encodeAndPacketize (s.pipeline config it) s.encoder frame it.target.payloadType
    forceKeyFrame s.sender it.encode
  let s := { s with encoder := result.encoder, sender := result.sender }
  match result.packets with
  | .error _ => (s, none)
  | .ok packets =>
    ({ s with
        forceKeyFramePending :=
          s.forceKeyFramePending || (forceKeyFrame && !result.encodedKeyFrame) },
      some
        { keyFrame := result.encodedKeyFrame, packets, sent := sendPackets it.packets 0 packets })

/-- One iteration, and the frame that it encoded. -/
def iterate (config : SendConfig) (s : SendLoop) (it : Iteration) :
    SendLoop × Option SentFrame :=
  match s.captureFrame config it with
  | (s, none) => (s, none)
  | (s, some frame) =>
    let forceKeyFrame := s.forceKeyFramePending
    let s := { s with forceKeyFramePending := false }
    match s.frameForEncode config it frame with
    | (s, none) => (s, none)
    | (s, some frame) => s.encodeAndSend config it forceKeyFrame frame

end SendLoop

inductive SendOp where
  | requestKeyFrame
  | iterate (it : Iteration)

namespace SendLoop

def step (config : SendConfig) (s : SendLoop) : SendOp → SendLoop
  | .requestKeyFrame => { s with forceKeyFramePending := true }
  | .iterate it => (s.iterate config it).1

/-- The frame that a step encodes. -/
def encodes (config : SendConfig) (s : SendLoop) : SendOp → Option SentFrame
  | .requestKeyFrame => none
  | .iterate it => (s.iterate config it).2

end SendLoop

end MeetingSystem.Impl.Client
