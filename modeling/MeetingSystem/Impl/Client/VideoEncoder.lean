import Mathlib.Data.List.DropRight
import MeetingSystem.Impl.Client.H264RtpPayload

/-!
# The video encoder of the client

`plasma-hawking/src/av/codec/VideoEncoder.cpp`. A byte vector is a
`List UInt8`, and an index that only moves forward is the rest of the bytes from
there on. What `libavcodec` and the allocator answer is an argument of the
encoder; the pixels of its input are left out.
-/

namespace MeetingSystem.Impl.Client

/-! ## Annex B -/

def hasAnnexBStartCode : List UInt8 → Bool
  | a :: b :: c :: d :: rest =>
    if a = 0x00 ∧ b = 0x00 ∧ (c = 0x01 ∨ (c = 0x00 ∧ d = 0x01)) then true
    else hasAnnexBStartCode (b :: c :: d :: rest)
  | _ => false

/-- On the bytes from `offset` on; the loop is that of `findStartCode`. -/
def findAnnexBStartCode (data : List UInt8) : Option (Nat × Nat) := findStartCode data

/-- The units that `inspectAnnexBNalus` looks at, from a unit's first byte on:
without the zeros that end them. -/
def nalusInspected (data : List UInt8) : List (List UInt8) :=
  match _h : findAnnexBStartCode data with
  | none => [data.rdropWhile (· == 0x00)]
  | some (nextStart, nextPrefixSize) =>
    (data.take nextStart).rdropWhile (· == 0x00) ::
      nalusInspected (data.drop (nextStart + nextPrefixSize))
  termination_by data.length
  decreasing_by
    have := findStartCode_bound _h
    simp only [List.length_drop]
    omega

/-- The units of `inspectAnnexBNalus` that are not empty. -/
def inspectAnnexBNalus (data : List UInt8) : List (List UInt8) :=
  match findAnnexBStartCode data with
  | none => []
  | some (start, prefixSize) =>
    (nalusInspected (data.drop (start + prefixSize))).filter (· ≠ [])

def isNalType (nalType : UInt8) (nalu : List UInt8) : Bool := nalu.getD 0 0 &&& 0x1F == nalType

def annexBPayloadHasParameterSets (payload : List UInt8) : Bool :=
  let nalus := inspectAnnexBNalus payload
  nalus.any (isNalType 7) && nalus.any (isNalType 8)

/-- The loop of `annexBPayloadHasIdr` from its cursor on. -/
def hasIdrFrom (data : List UInt8) : Bool :=
  match _h : findAnnexBStartCode data with
  | none => false
  | some (start, prefixSize) =>
    match _hd : data.drop (start + prefixSize) with
    | [] => false
    | nal :: rest => if nal &&& 0x1F = 5 then true else hasIdrFrom rest
  termination_by data.length
  decreasing_by
    have hlen := congrArg List.length _hd
    simp only [List.length_drop, List.length_cons] at hlen
    omega

def annexBPayloadHasIdr : List UInt8 → Bool
  | [] => false
  | first :: rest =>
    if hasIdrFrom (first :: rest) then true
    else if ¬ hasAnnexBStartCode (first :: rest) then first &&& 0x1F == 5
    else false

def kStartCode : List UInt8 := [0x00, 0x00, 0x00, 0x01]

/-- The `count` parameter sets at the front of `extradata`, each after a start
code, and the bytes after them; `none` where a length reaches past the end. -/
def appendNalus : Nat → List UInt8 → Option (List UInt8 × List UInt8)
  | 0, extradata => some ([], extradata)
  | count + 1, hi :: lo :: rest =>
    let naluSize := hi.toNat * 256 + lo.toNat
    if rest.length < naluSize then none
    else
      let nalu := rest.take naluSize
      (appendNalus count (rest.drop naluSize)).map fun r =>
        (if nalu = [] then r.1 else kStartCode ++ nalu ++ r.1, r.2)
  | _ + 1, _ => none

def buildAnnexBParameterSetsFromExtradata (extradata : List UInt8) : List UInt8 :=
  let nalus := (inspectAnnexBNalus extradata).filter fun nalu => isNalType 7 nalu || isNalType 8 nalu
  let parameterSets := nalus.flatMap (kStartCode ++ ·)
  if parameterSets ≠ [] then parameterSets
  else if extradata.length < 7 ∨ extradata.getD 0 0 ≠ 1 then []
  else
    match appendNalus (extradata.getD 5 0 &&& 0x1F).toNat (extradata.drop 6) with
    | none => []
    | some (sps, []) => sps
    | some (sps, ppsCount :: rest) =>
      match appendNalus ppsCount.toNat rest with
      | none => []
      | some (pps, _) => sps ++ pps

/-- The length of a unit, in `nalLengthSize` bytes. -/
def naluSize (bytes : List UInt8) : Nat := bytes.foldl (fun size b => size * 256 + b.toNat) 0

/-- The loop of `convertAvccPayloadToAnnexB` from its cursor on: the converted
units and the bytes that are left; `none` where a unit is empty or reaches past
the end. -/
def convertUnits (nalLengthSize : Nat) (payload : List UInt8) :
    Option (List UInt8 × List UInt8) :=
  if 0 < nalLengthSize ∧ nalLengthSize ≤ payload.length then
    let size := naluSize (payload.take nalLengthSize)
    let rest := payload.drop nalLengthSize
    if size = 0 ∨ rest.length < size then none
    else
      (convertUnits nalLengthSize (rest.drop size)).map fun r =>
        (kStartCode ++ rest.take size ++ r.1, r.2)
  else some ([], payload)
  termination_by payload.length
  decreasing_by
    simp only [List.length_drop]
    omega

/-- What the function returns, and the payload that it leaves. -/
def convertAvccPayloadToAnnexB (payload : List UInt8) (nalLengthSize : Int) :
    Bool × List UInt8 :=
  if payload = [] then (true, [])
  else if hasAnnexBStartCode payload then (true, payload)
  else
    let nalLengthSize := if nalLengthSize < 1 ∨ 4 < nalLengthSize then 4 else nalLengthSize
    match convertUnits nalLengthSize.toNat payload with
    | some (converted, []) => if converted = [] then (false, payload) else (true, converted)
    | _ => (false, payload)

def prependParameterSetsForKeyFrame (payload : List UInt8) (keyFrame : Bool)
    (extradata : List UInt8) : List UInt8 :=
  if ¬ keyFrame then payload
  else if annexBPayloadHasParameterSets payload then payload
  else buildAnnexBParameterSetsFromExtradata extradata ++ payload

/-! ## Frames -/

inductive AVPixelFormat where
  | none
  | nv12
  | yuv420p
  | bgra
  | d3d11
  | other (code : Nat)
  deriving DecidableEq

/-- `bgra` is the number of bytes of the picture. -/
structure ScreenFrame where
  width : Int
  height : Int
  pts : Int
  bgra : Nat
  deriving DecidableEq

structure AVFrame where
  width : Int
  height : Int
  format : AVPixelFormat
  hwFramesCtx : Bool
  pts : Int
  deriving DecidableEq

structure EncodedVideoFrame where
  width : Int
  height : Int
  frameRate : Int
  pts : Int
  keyFrame : Bool
  payloadType : UInt8
  payload : List UInt8
  deriving DecidableEq

/-! ## The encoder -/

def kScreenSharePayloadType : UInt8 := 97

/-- `codecContext` holds the extradata of the codec that is open. -/
structure VideoEncoder where
  width : Int := 0
  height : Int := 0
  frameRate : Int := 0
  bitrate : Int := 0
  payloadType : UInt8 := 97
  outputPixelFormat : AVPixelFormat := .none
  codecContext : Option (List UInt8) := none
  hwFramesContext : Bool := false
  forceKeyFrameNext : Bool := false
  deriving DecidableEq

/-- One answer of `avcodec_receive_packet`, or that no packet could be
allocated for it. -/
inductive ReceiveAnswer where
  | packetAllocFailed
  | error (description : String)
  | packet (pts : Option Int) (key : Bool) (data : List UInt8)
  deriving DecidableEq

/-- What the library answers in one call of `encode`: the codec that opens, if
one has to be opened; the allocations and conversions; the error of
`avcodec_send_frame`; and the packets before it asks for more input. -/
structure EncodeAnswers where
  opened : Option (AVPixelFormat × List UInt8)
  openedD3D11 : Option (List UInt8)
  frameAllocated : Bool
  bufferAllocated : Bool
  converted : Bool
  sendError : Option String
  received : List ReceiveAnswer
  deriving DecidableEq

namespace VideoEncoder

/-- `width &= ~1` and at least 2. -/
def evenSize (size : Int) : Int := max 2 (size - size % 2)

/-- The encoder after a successful configuration. -/
def configured (e : VideoEncoder) (width height frameRate bitrate : Int) (payloadType : UInt8)
    (format : AVPixelFormat) (extradata : List UInt8) (hwFramesContext : Bool) : VideoEncoder :=
  { e with
    width := evenSize width
    height := evenSize height
    frameRate
    bitrate
    payloadType := if payloadType = 0 then kScreenSharePayloadType else payloadType
    outputPixelFormat := format
    codecContext := some extradata
    hwFramesContext }

/-- `opened` is the format and the extradata of the first codec that opens. -/
def configure (e : VideoEncoder) (width height frameRate bitrate : Int) (payloadType : UInt8)
    (opened : Option (AVPixelFormat × List UInt8)) : VideoEncoder × Bool :=
  if width ≤ 0 ∨ height ≤ 0 ∨ frameRate ≤ 0 ∨ bitrate ≤ 0 then (e, false)
  else
    match opened with
    | none => (e, false)
    | some (format, extradata) =>
      (e.configured width height frameRate bitrate payloadType format extradata false, true)

/-- `none` where no codec opens, as on every platform but Windows. -/
def configureHardwareD3D11 (e : VideoEncoder) (width height frameRate bitrate : Int)
    (payloadType : UInt8) (opened : Option (List UInt8)) : VideoEncoder × Bool :=
  if width ≤ 0 ∨ height ≤ 0 ∨ frameRate ≤ 0 ∨ bitrate ≤ 0 then (e, false)
  else
    match opened with
    | none => (e, false)
    | some extradata =>
      (e.configured width height frameRate bitrate payloadType .d3d11 extradata true, true)

def requestKeyframe (e : VideoEncoder) : VideoEncoder := { e with forceKeyFrameNext := true }

/-- Whether a key frame is requested, and the encoder after it. -/
def consumeKeyframeRequest (e : VideoEncoder) (forceKeyFrame : Bool) : VideoEncoder × Bool :=
  ({ e with forceKeyFrameNext := false }, forceKeyFrame || e.forceKeyFrameNext)

def setPayloadType (e : VideoEncoder) (payloadType : UInt8) : VideoEncoder :=
  if payloadType = 0 then e else { e with payloadType }

def setBitrate (e : VideoEncoder) (bitrate : Int) : VideoEncoder × Bool :=
  if bitrate ≤ 0 then (e, false) else ({ e with bitrate }, true)

/-- The loop of `receivePacket`: the frame with the bytes so far, and whether a
packet was received. -/
def receiveAll (nalLengthSize : Int) (frame : EncodedVideoFrame) (receivedPacket : Bool) :
    List ReceiveAnswer → Except String (EncodedVideoFrame × Bool)
  | [] => .ok (frame, receivedPacket)
  | .packetAllocFailed :: _ => .error "packet alloc failed"
  | .error description :: _ => .error ("avcodec_receive_packet failed: " ++ description)
  | .packet pts key data :: answers =>
    if data = [] then receiveAll nalLengthSize frame receivedPacket answers
    else
      match convertAvccPayloadToAnnexB data nalLengthSize with
      | (false, _) => .error "avcc-to-annexb conversion failed"
      | (true, []) => receiveAll nalLengthSize frame receivedPacket answers
      | (true, annexB) =>
        receiveAll nalLengthSize
          { frame with
            pts := if receivedPacket then frame.pts else pts.getD frame.pts
            keyFrame := frame.keyFrame || (key || annexBPayloadHasIdr annexB)
            payload := frame.payload ++ annexB }
          true answers

/-- The encoded frame; the error is empty if the library has no packet yet. -/
def receivePacket (e : VideoEncoder) (fallbackPts : Int) (received : List ReceiveAnswer) :
    Except String EncodedVideoFrame := do
  let extradata := e.codecContext.getD []
  let nalLengthSize : Int :=
    if 5 ≤ extradata.length ∧ extradata.getD 0 0 = 1 then
      (extradata.getD 4 0 &&& 0x03).toNat + 1
    else 4
  let (frame, receivedPacket) ← receiveAll nalLengthSize
    { width := e.width, height := e.height, frameRate := e.frameRate, pts := fallbackPts,
      keyFrame := false, payloadType := e.payloadType, payload := [] }
    false received
  if ¬ receivedPacket ∨ frame.payload = [] then .error ""
  else
    return { frame with
      payload := prependParameterSetsForKeyFrame frame.payload frame.keyFrame extradata }

/-- `avcodec_send_frame` and `receivePacket`. -/
def sendFrame (e : VideoEncoder) (pts : Int) (answers : EncodeAnswers) :
    Except String EncodedVideoFrame :=
  match answers.sendError with
  | some description => .error ("avcodec_send_frame failed: " ++ description)
  | none => e.receivePacket pts answers.received

/-! ### Encoding a frame

`encode` first makes its checks, then asks whether a key frame is requested,
which clears the request, and then submits the frame. -/

/-- The checks for a picture of the screen: the encoder after them, and the
error of the one that failed. -/
def prepareScreenFrame (e : VideoEncoder) (inFrame : ScreenFrame) (answers : EncodeAnswers) :
    VideoEncoder × Option String :=
  let (e, configured) :=
    if e.codecContext.isSome then (e, true)
    else e.configure inFrame.width inFrame.height 5 (1500 * 1000) e.payloadType answers.opened
  if ¬ configured then (e, some "encoder configure failed")
  else if inFrame.width ≠ e.width ∨ inFrame.height ≠ e.height then
    (e, some "input size mismatch")
  else if (inFrame.bgra : Int) ≠ e.width * e.height * 4 then
    (e, some "input frame bytes mismatch")
  else if ¬ answers.frameAllocated then (e, some "frame alloc failed")
  else (e, none)

def submitScreenFrame (e : VideoEncoder) (inFrame : ScreenFrame) (answers : EncodeAnswers) :
    Except String EncodedVideoFrame :=
  if ¬ answers.bufferAllocated then .error "frame buffer alloc failed"
  else if ¬ answers.converted then .error "BGRA to encoder pixel format conversion failed"
  else e.sendFrame inFrame.pts answers

/-- The checks for a frame on the GPU. -/
def prepareD3D11Frame (e : VideoEncoder) (inFrame : AVFrame) (answers : EncodeAnswers) :
    VideoEncoder × Option String :=
  let (e, configured) :=
    if e.codecContext.isSome then (e, true)
    else
      e.configureHardwareD3D11 inFrame.width inFrame.height
        (if 0 < e.frameRate then e.frameRate else 30)
        (if 0 < e.bitrate then e.bitrate else 1500 * 1000) e.payloadType answers.openedD3D11
  if ¬ configured then (e, some "hardware D3D11 encoder configure failed")
  else if e.outputPixelFormat ≠ .d3d11 ∨ ¬ e.hwFramesContext then
    (e, some "D3D11 input requires hardware encoder context")
  else if ¬ inFrame.hwFramesCtx then (e, some "D3D11 input frame missing hw_frames_ctx")
  else if inFrame.width ≠ e.width ∨ inFrame.height ≠ e.height then
    (e, some "input size mismatch")
  else if ¬ answers.frameAllocated then (e, some "hardware frame clone failed")
  else (e, none)

/-- The checks for a frame of the library in memory. -/
def prepareMemoryFrame (e : VideoEncoder) (inFrame : AVFrame) (answers : EncodeAnswers) :
    VideoEncoder × Option String :=
  let (e, configured) :=
    if e.codecContext.isSome then (e, true)
    else
      e.configure inFrame.width inFrame.height (if 0 < e.frameRate then e.frameRate else 30)
        (if 0 < e.bitrate then e.bitrate else 1500 * 1000) e.payloadType answers.opened
  if ¬ configured then (e, some "encoder configure failed")
  else if inFrame.width ≠ e.width ∨ inFrame.height ≠ e.height then
    (e, some "input size mismatch")
  else
    let framed :=
      if inFrame.format = e.outputPixelFormat then answers.frameAllocated
      else answers.frameAllocated && (answers.bufferAllocated && answers.converted)
    if ¬ framed then (e, some "input pixel format mismatch") else (e, none)

def prepareAVFrame (e : VideoEncoder) (inFrame : AVFrame) (answers : EncodeAnswers) :
    VideoEncoder × Option String :=
  if inFrame.width ≤ 0 ∨ inFrame.height ≤ 0 then (e, some "invalid input frame size")
  else if inFrame.format = .d3d11 then e.prepareD3D11Frame inFrame answers
  else e.prepareMemoryFrame inFrame answers

def prepare (e : VideoEncoder) (inFrame : AVFrame ⊕ ScreenFrame) (answers : EncodeAnswers) :
    VideoEncoder × Option String :=
  match inFrame with
  | .inl inFrame => e.prepareAVFrame inFrame answers
  | .inr inFrame => e.prepareScreenFrame inFrame answers

def submit (e : VideoEncoder) (inFrame : AVFrame ⊕ ScreenFrame) (answers : EncodeAnswers) :
    Except String EncodedVideoFrame :=
  match inFrame with
  | .inl inFrame => e.sendFrame inFrame.pts answers
  | .inr inFrame => e.submitScreenFrame inFrame answers

/-- `encode`, for either kind of frame. The codec is told whether a key frame is
requested; what it makes of that is among the answers. -/
def encode (e : VideoEncoder) (inFrame : AVFrame ⊕ ScreenFrame) (forceKeyFrame : Bool)
    (answers : EncodeAnswers) : VideoEncoder × Except String EncodedVideoFrame :=
  match e.prepare inFrame answers with
  | (e, some error) => (e, .error error)
  | (e, none) =>
    let (e, _) := e.consumeKeyframeRequest forceKeyFrame
    (e, e.submit inFrame answers)

end VideoEncoder

end MeetingSystem.Impl.Client
