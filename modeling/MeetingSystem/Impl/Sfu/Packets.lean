import MeetingSystem.Impl.Sfu.MediaIngress

/-!
# The media plane: datagrams

`MediaIngress::HandlePacket` and what it calls. Every function returns what it
did as a list of events beside the new state; the `bool` results are left out,
as the callback of the UDP server drops them. The steady clock is read once a
datagram.
-/

namespace MeetingSystem.Impl.Sfu

open MeetingSystem.Framework

/-- A datagram that was given to `SendTo`, with the transports that were
registered then. -/
structure Sent (lib : SrtpLib) where
  data : Bytes
  endpoint : Endpoint
  registry : TransportRegistry lib

/-- What the media plane does on the way. -/
inductive Event (lib : SrtpLib) where
  /-- `RtpRouter::Route` was called, on media with this SSRC. -/
  | routed (ssrc : UInt32) (packet : Bytes)
  /-- The forward callback of a route sent a packet. -/
  | forwarded (sent : Sent lib)
  /-- A NACK was answered from the buffer of this source. -/
  | retransmitted (sourceSsrc : UInt32) (sent : Sent lib)
  /-- A PLI was forwarded to the publisher of this source. -/
  | pliForwarded (sourceSsrc : UInt32) (sent : Sent lib)
  /-- A REMB sample was recorded for this source. -/
  | rembSampled (sourceSsrc : UInt32)
  /-- Any other RTCP datagram, and the answers to STUN and DTLS. -/
  | answered (sent : Sent lib)

/-- What the clock, OpenSSL and the hash tables add to a datagram. -/
structure DatagramIo where
  now : Nat
  dtls : DtlsIo
  rembPlace : UInt32 → Nat

namespace MediaIngress

variable {lib : SrtpLib}

/-! ## Sending -/

def endpointRequiresSecureMedia (s : MediaIngress lib) (endpoint : Endpoint) : Bool :=
  s.transportRegistry.hasSelectedTransportForEndpoint endpoint

/-- `EndpointRequiresSecureMedia`, then `protect`, then `SendTo`. -/
def sendWith
    (protect : TransportRegistry lib → Endpoint → Bytes → Option Bytes × TransportRegistry lib)
    (s : MediaIngress lib) (endpoint : Endpoint) (packet : Bytes) :
    MediaIngress lib × Option (Sent lib) :=
  let registry := s.transportRegistry
  if s.endpointRequiresSecureMedia endpoint then
    ({ s with transportRegistry := (protect registry endpoint packet).2 },
      (protect registry endpoint packet).1.map fun data => { data, endpoint, registry })
  else (s, some { data := packet, endpoint, registry })

def sendRtp (s : MediaIngress lib) (endpoint : Endpoint) (packet : Bytes) :
    MediaIngress lib × Option (Sent lib) :=
  s.sendWith TransportRegistry.protectRtpToEndpoint endpoint packet

def sendRtcp (s : MediaIngress lib) (endpoint : Endpoint) (packet : Bytes) :
    MediaIngress lib × Option (Sent lib) :=
  s.sendWith TransportRegistry.protectRtcpToEndpoint endpoint packet

/-- Report what was sent, if anything was. -/
def report (event : Sent lib → Event lib) (x : MediaIngress lib × Option (Sent lib)) :
    MediaIngress lib × List (Event lib) :=
  (x.1, (x.2.map event).toList)

/-! ## STUN and DTLS -/

def isStunPacket (data : Bytes) : Bool :=
  20 ≤ data.length ∧ data.getD 0 0 &&& 0xC0 = 0 ∧ data.getD 4 0 = 0x21 ∧ data.getD 5 0 = 0x12 ∧
    data.getD 6 0 = 0xA4 ∧ data.getD 7 0 = 0x42

/-- The characters of a `std::string` made from bytes. -/
def stringOfBytes (data : Bytes) : String := String.ofList (data.map fun b => Char.ofNat b.toNat)

/-- The attribute loop of `ParseStunUsername`. -/
def usernameFrom (data : Bytes) (stop offset : Nat) : String :=
  if stop < offset + 4 then ""
  else
    let attrType := readU16 data offset
    let attrLength := (readU16 data (offset + 2)).toNat
    if stop < offset + 4 + attrLength then ""
    else if attrType = 0x0006 then stringOfBytes ((data.drop (offset + 4)).take attrLength)
    else usernameFrom data stop (offset + 4 + (attrLength + 3) / 4 * 4)
termination_by stop - offset

def parseStunUsername (data : Bytes) : String :=
  if ¬ isStunPacket data then ""
  else
    let messageLength := (readU16 data 2).toNat
    if data.length < 20 + messageLength then "" else usernameFrom data (20 + messageLength) 20

def buildStunBindingResponse (request : Bytes) (peer : Endpoint) : Bytes :=
  if ¬ isStunPacket request then []
  else
    let xport := peer.port ^^^ 0x2112
    ([0x01, 0x01, 0x00, 0x0C, 0x21, 0x12, 0xA4, 0x42] : Bytes) ++ (request.drop 8).take 12 ++
      ([0x00, 0x20, 0x00, 0x08, 0x00, 0x01, (xport >>> 8).toUInt8, xport.toUInt8] : Bytes) ++
      u32Bytes (peer.addr ^^^ 0x2112A442)

/-- The subscriber that STUN has selected an endpoint for. -/
def selectSubscriberEndpoint (subscriber : Subscriber) (mediaKind endpointText : String) :
    Subscriber :=
  if mediaKind = "audio" then { subscriber with audioEndpoint := endpointText }
  else if mediaKind = "video" then { subscriber with videoEndpoint := endpointText }
  else
    { subscriber with
      endpoint := endpointText, audioEndpoint := endpointText, videoEndpoint := endpointText }

/-- What a selected endpoint means for the room of its transport. -/
def moveSubscriber (s : MediaIngress lib) (meetingId userId mediaKind endpointText : String) :
    MediaIngress lib :=
  match s.roomManager.getRoomShared meetingId with
  | none => s
  | some room =>
    match room.getSubscriber userId with
    | none => s
    | some subscriber =>
      let moved := selectSubscriberEndpoint subscriber mediaKind endpointText
      (s.setRoom meetingId
        { room with subscribers := room.subscribers.replace userId moved }).refreshRoomRoutes
          meetingId

def handleStunPacket (s : MediaIngress lib) (data : Bytes) (peer : Endpoint) :
    MediaIngress lib × List (Event lib) :=
  let username := parseStunUsername data
  if username = "" then (s, [])
  else
    let selected := s.transportRegistry.selectEndpointForUsername username peer
    match selected.2 with
    | none => (s, [])
    | some (meetingId, userId, mediaKind) =>
      let s := { s with transportRegistry := selected.1 }
      let s := s.moveSubscriber meetingId userId mediaKind (endpointKey peer)
      (s, [.answered
        { data := buildStunBindingResponse data peer, endpoint := peer
          registry := s.transportRegistry }])

def handleDtlsPacket (s : MediaIngress lib) (data : Bytes) (peer : Endpoint) (io : DtlsIo) :
    MediaIngress lib × List (Event lib) :=
  let handled := s.transportRegistry.handleDtlsFromEndpoint peer data io
  let s := { s with transportRegistry := handled.1 }
  if ¬ handled.2 then (s, [])
  else
    (s, (io.outgoing.filter (· ≠ [])).map fun data =>
      .answered { data, endpoint := peer, registry := s.transportRegistry })

/-! ## RTCP -/

def looksLikeRtcp (data : Bytes) : Bool :=
  4 ≤ data.length ∧ data.getD 0 0 >>> 6 &&& 0x03 = 2 ∧ 192 ≤ data.getD 1 0 ∧ data.getD 1 0 ≤ 223

def jitterToMs (location : PublisherLocation) (sourceSsrc jitter : UInt32) : UInt32 :=
  if sourceSsrc = 0 ∨ jitter = 0 then 0
  else if location.publisher.audioSsrc = sourceSsrc then (jitter.toNat * 1000 / 48000).toUInt32
  else if location.publisher.videoSsrc = sourceSsrc then (jitter.toNat * 1000 / 90000).toUInt32
  else 0

def compactNtpFromTimestamp (ntpTimestamp : UInt64) : UInt32 := (ntpTimestamp >>> 16).toUInt32

/-- The elapsed time is in nanoseconds. -/
def compactNtpFromElapsed (elapsed : Nat) : UInt32 :=
  (elapsed / 1000 * 65536 % 2 ^ 64 / 1000000).toUInt32

def compactNtpToMs (compactNtp : UInt32) : UInt32 :=
  ((compactNtp.toNat * 1000 + 65535) / 65536).toUInt32

def computeRttMs (entry : SenderReportLedgerEntry)
    (lastSenderReport delaySinceLastSenderReport : UInt32) (now : Nat) : UInt32 :=
  if entry.compactNtp = 0 ∨ lastSenderReport = 0 ∨ entry.compactNtp ≠ lastSenderReport ∨
      now ≤ entry.observedAt then 0
  else
    let arrivalCompactNtp := entry.compactNtp + compactNtpFromElapsed (now - entry.observedAt)
    let reflectedDelay := lastSenderReport.toNat + delaySinceLastSenderReport.toNat
    if arrivalCompactNtp.toNat ≤ reflectedDelay then 0
    else compactNtpToMs (arrivalCompactNtp.toNat - reflectedDelay).toUInt32

def kPliForwardCooldown : Nat := 200000000

def kRembFeedbackTtl : Nat := 3000000000

def shouldForwardPli (s : MediaIngress lib) (sourceSsrc : UInt32) (now : Nat) :
    MediaIngress lib × Bool :=
  if sourceSsrc = 0 ∨
      (s.pliForwardBySource sourceSsrc).any (fun last => now < last + kPliForwardCooldown) then
    (s, false)
  else
    ({ s with pliForwardBySource := Function.update s.pliForwardBySource sourceSsrc (some now) },
      true)

/-- The first sample with the least bitrate. -/
def leastSample : RembFeedbackSample → List RembFeedbackSample → RembFeedbackSample
  | selected, [] => selected
  | selected, sample :: samples =>
    leastSample (if sample.bitrateBps < selected.bitrateBps then sample else selected) samples

/-- Record a sample; on success, the exponent and mantissa to forward. -/
def selectAggregatedRembForSource (s : MediaIngress lib) (sourceSsrc : UInt32) (peer : Endpoint)
    (remb : RtcpRembFeedback) (io : DatagramIo) :
    MediaIngress lib × Option (UInt8 × UInt32) :=
  if sourceSsrc = 0 then (s, none)
  else
    let sample : RembFeedbackSample :=
      { bitrateExp := remb.bitrateExp, bitrateMantissa := remb.bitrateMantissa
        bitrateBps := remb.bitrateBps, observedAt := io.now }
    let perEndpoint := retain (fun _ sample => io.now ≤ sample.observedAt + kRembFeedbackTtl)
      (assign (io.rembPlace sourceSsrc) (endpointKey peer) sample
        (s.rembFeedbackBySource sourceSsrc))
    let s := { s with
      rembFeedbackBySource := Function.update s.rembFeedbackBySource sourceSsrc perEndpoint }
    match perEndpoint.entries.map fun x => x.2 with
    | [] => (s, none)
    | first :: rest =>
      let selected := leastSample first rest
      (s, some (selected.bitrateExp, selected.bitrateMantissa))

/-- The source that feedback from an endpoint about an SSRC is for; 0 if none. -/
def resolveNackSourceSsrc (s : MediaIngress lib) (peer : Endpoint) (mediaSsrc : UInt32) :
    UInt32 :=
  if mediaSsrc = 0 then 0
  else if (s.resolvePublisher mediaSsrc).isSome then mediaSsrc
  else (s.feedbackRoutes (feedbackRouteKey peer mediaSsrc)).getD 0

def resolvePublisherEndpoint (s : MediaIngress lib) (sourceSsrc : UInt32) : Option Endpoint :=
  if sourceSsrc = 0 then none else s.publisherEndpoints sourceSsrc

def transportAllowsRtp (s : MediaIngress lib) (ssrc : UInt32) (peer : Endpoint) : Bool :=
  s.transportRegistry.transportAllowsSsrcFrom ssrc peer

def transportRequiresSrtp (s : MediaIngress lib) (ssrc : UInt32) : Bool :=
  s.transportRegistry.hasTransportForSsrc ssrc

def handleSenderReport (peer : Endpoint) (now : Nat) (s : MediaIngress lib)
    (sr : RtcpSenderReport) : MediaIngress lib × List (Event lib) :=
  if (s.resolvePublisher sr.senderSsrc).isNone ∨ ¬ s.transportAllowsRtp sr.senderSsrc peer then
    (s, [])
  else
    let compactNtp := compactNtpFromTimestamp sr.ntpTimestamp
    let s := { s with
      senderReports := Function.update s.senderReports sr.senderSsrc
        (some { compactNtp, observedAt := now }) }
    report .answered
      (s.sendRtcp peer (buildReceiverReportPacket 0 sr.senderSsrc compactNtp 0))

def handleReceptionReport (now : Nat) (s : MediaIngress lib) (rr : RtcpReceptionReport) :
    MediaIngress lib × List (Event lib) :=
  match s.resolvePublisher rr.sourceSsrc with
  | none => (s, [])
  | some location =>
    let key := publisherTrafficKey location.meetingId location.userId
    let old := s.publisherTraffic key
    ({ s with
        publisherTraffic := Function.update s.publisherTraffic key
          (some
            { meetingId := location.meetingId
              userId := location.userId
              packetCount := (old.map (·.packetCount)).getD 0
              byteCount := (old.map (·.byteCount)).getD 0
              packetLoss := rr.fractionLost
              jitterMs := jitterToMs location rr.sourceSsrc rr.jitter
              rttMs := match s.senderReports rr.sourceSsrc with
                | none => 0
                | some entry =>
                  computeRttMs entry rr.lastSenderReport rr.delaySinceLastSenderReport now }) },
      [])

/-- Answer a NACK for one sequence number. -/
def retransmit (peer : Endpoint) (mediaSsrc sourceSsrc : UInt32) (s : MediaIngress lib)
    (sequence : UInt16) : MediaIngress lib × List (Event lib) :=
  match s.router.getRetransmitPacket sourceSsrc sequence with
  | none => (s, [])
  | some packet =>
    if packet = [] then (s, [])
    else
      report (.retransmitted sourceSsrc)
        (s.sendRtp peer
          (if mediaSsrc ≠ 0 ∧ mediaSsrc ≠ sourceSsrc then rewriteSsrc mediaSsrc packet else packet))

def handleNack (peer : Endpoint) (s : MediaIngress lib) (nack : RtcpNackFeedback) :
    MediaIngress lib × List (Event lib) :=
  let sourceSsrc := s.resolveNackSourceSsrc peer nack.mediaSsrc
  if sourceSsrc = 0 then (s, [])
  else forEach (retransmit peer nack.mediaSsrc sourceSsrc) s nack.lostSequences

def handlePli (peer : Endpoint) (now : Nat) (s : MediaIngress lib) (pli : RtcpPliFeedback) :
    MediaIngress lib × List (Event lib) :=
  let sourceSsrc := s.resolveNackSourceSsrc peer pli.mediaSsrc
  if sourceSsrc = 0 then (s, [])
  else
    let forward := s.shouldForwardPli sourceSsrc now
    if ¬ forward.2 then (forward.1, [])
    else
      match forward.1.resolvePublisherEndpoint sourceSsrc with
      | none => (forward.1, [])
      | some publisherEndpoint =>
        report (.pliForwarded sourceSsrc)
          (forward.1.sendRtcp publisherEndpoint (buildPliPacket pli.senderSsrc sourceSsrc))

def handleRembTarget (peer : Endpoint) (io : DatagramIo) (remb : RtcpRembFeedback)
    (s : MediaIngress lib) (targetSsrc : UInt32) : MediaIngress lib × List (Event lib) :=
  let sourceSsrc := s.resolveNackSourceSsrc peer targetSsrc
  if sourceSsrc = 0 then (s, [])
  else
    match s.resolvePublisherEndpoint sourceSsrc with
    | none => (s, [])
    | some publisherEndpoint =>
      let selected := s.selectAggregatedRembForSource sourceSsrc peer remb io
      andThen (selected.1, [.rembSampled sourceSsrc]) fun s =>
        match selected.2 with
        | none => (s, [])
        | some (exp, mantissa) =>
          report .answered
            (s.sendRtcp publisherEndpoint
              (buildRembPacket remb.senderSsrc sourceSsrc exp mantissa sourceSsrc))

def handleRemb (peer : Endpoint) (io : DatagramIo) (s : MediaIngress lib)
    (remb : RtcpRembFeedback) : MediaIngress lib × List (Event lib) :=
  forEach (handleRembTarget peer io remb) s remb.targetSsrcs

def handleControlPacket (s : MediaIngress lib) (data : Bytes) (peer : Endpoint)
    (io : DatagramIo) : MediaIngress lib × List (Event lib) :=
  andThen (forEach (handleSenderReport peer io.now) s (RtcpHandler.parseSenderReports data))
    fun s =>
  andThen (forEach (handleReceptionReport io.now) s (RtcpHandler.parseReceptionReports data))
    fun s =>
  andThen (forEach (handleNack peer) s (RtcpHandler.parseNackFeedback data)) fun s =>
  andThen (forEach (handlePli peer io.now) s (RtcpHandler.parsePliFeedback data)) fun s =>
  forEach (handleRemb peer io) s (RtcpHandler.parseRembFeedback data)

/-! ## RTP -/

/-- The forward callback of a route. -/
def forward (s : MediaIngress lib) (call : Endpoint × Bytes) :
    MediaIngress lib × List (Event lib) :=
  report .forwarded (s.sendRtp call.1 call.2)

/-- The bookkeeping of a media packet before it is routed. -/
def observe (s : MediaIngress lib) (location : PublisherLocation) (header : RtpHeader)
    (bytes : Nat) (peer : Endpoint) : MediaIngress lib :=
  let key := publisherTrafficKey location.meetingId location.userId
  let old := s.publisherTraffic key
  { s with
    publisherEndpoints := Function.update s.publisherEndpoints header.ssrc (some peer)
    lastObservation :=
      { meetingId := location.meetingId, userId := location.userId, ssrc := header.ssrc
        sequence := header.sequence, timestamp := header.timestamp, bytes }
    publisherTraffic := Function.update s.publisherTraffic key
      (some
        { meetingId := location.meetingId
          userId := location.userId
          packetCount := (old.map (·.packetCount)).getD 0 + 1
          byteCount := (old.map (·.byteCount)).getD 0 + bytes
          packetLoss := (old.map (·.packetLoss)).getD 0
          jitterMs := (old.map (·.jitterMs)).getD 0
          rttMs := (old.map (·.rttMs)).getD 0 })
    packetCount := s.packetCount + 1 }

/-- Route a media packet whose header has been read. -/
def routeMedia (s : MediaIngress lib) (packet : Bytes) (header : RtpHeader) (peer : Endpoint) :
    MediaIngress lib × List (Event lib) :=
  match s.resolvePublisher header.ssrc with
  | none => (s, [])
  | some location =>
    let s := s.observe location header packet.length peer
    let routed := s.router.route packet
    andThen ({ s with router := routed.1 }, [.routed header.ssrc packet]) fun s =>
      forEach forward s (routed.2.getD [])

def handleMediaPacket (s : MediaIngress lib) (data : Bytes) (peer : Endpoint) :
    MediaIngress lib × List (Event lib) :=
  match RtpParser.parse data with
  | none => (s, [])
  | some parsed =>
    if ¬ s.transportAllowsRtp parsed.header.ssrc peer then (s, [])
    else if ¬ s.transportRequiresSrtp parsed.header.ssrc then
      s.routeMedia data parsed.header peer
    else if ¬ s.transportRegistry.srtpReadyForSsrcFrom parsed.header.ssrc peer then (s, [])
    else
      let unprotected := s.transportRegistry.unprotectRtpFromEndpoint peer data
      let s := { s with transportRegistry := unprotected.2 }
      match unprotected.1 with
      | none => (s, [])
      | some mediaPacket =>
        match RtpParser.parse mediaPacket with
        | none => (s, [])
        | some parsed => s.routeMedia mediaPacket parsed.header peer

/-- Whether a buffer is a compound RTCP packet, up to its last byte. -/
def isCompound (data : Bytes) : Bool :=
  let packets := RtcpHandler.parseCompound data
  packets ≠ [] ∧ (packets.map (·.packetSize)).sum = data.length

/-- A packet that is no compound RTCP packet after all is taken for media. -/
def handleRtcpOrMedia (s : MediaIngress lib) (data : Bytes) (peer : Endpoint)
    (io : DatagramIo) : MediaIngress lib × List (Event lib) :=
  if s.endpointRequiresSecureMedia peer then
    let unprotected := s.transportRegistry.unprotectRtcpFromEndpoint peer data
    let s := { s with transportRegistry := unprotected.2 }
    match unprotected.1 with
    | none => (s, [])
    | some control =>
      if isCompound control then s.handleControlPacket control peer io
      else s.handleMediaPacket data peer
  else if isCompound data then s.handleControlPacket data peer io
  else s.handleMediaPacket data peer

def handlePacket (s : MediaIngress lib) (data : Bytes) (peer : Endpoint) (io : DatagramIo) :
    MediaIngress lib × List (Event lib) :=
  if isStunPacket data then s.handleStunPacket data peer
  else if DtlsTransport.looksLikeDtlsRecord data then s.handleDtlsPacket data peer io.dtls
  else if looksLikeRtcp data then s.handleRtcpOrMedia data peer io
  else s.handleMediaPacket data peer

end MediaIngress

end MeetingSystem.Impl.Sfu
