import MeetingSystem.Proof.Sfu.Feedback
import MeetingSystem.Proof.Sfu.Selection

/-!
# Media leaves protected

Each place that sends RTP protects the packet if a transport has selected the
destination, and sends it as it is otherwise. Routes lead to endpoints of
subscribers (`Grounded`) and those are selected (`Selected`), so what is
forwarded is protected; a retransmission goes to whoever sent the NACK.

`media_protected`: in every run in which no `SetupTransport` takes a transport
away under its subscriber and no NACK for a publisher's SSRC comes from an
endpoint that no transport has selected, all RTP that is sent is the output of
a transport that has selected its destination. Without the one condition or
the other, decrypted media leaves in the clear (`callRun`).
-/

namespace MeetingSystem.Proof.Sfu

open MeetingSystem.Framework MeetingSystem.Impl.Sfu MediaIngress

variable {lib : SrtpLib} {s s' : MediaIngress lib} {peer : Endpoint} {event : Event lib}

/-! ## The statement -/

/-- The RTP datagram that an event sent. -/
def mediaSent : Event lib → Option (Sent lib)
  | .forwarded sent => some sent
  | .retransmitted _ sent => some sent
  | _ => none

/-- Whether an event routes or sends RTP. -/
def isMedia : Event lib → Bool
  | .routed .. | .forwarded _ | .retransmitted .. => true
  | _ => false

theorem mediaSent_eq_none (h : isMedia event = false) : mediaSent event = none := by
  cases event <;> simp_all [isMedia, mediaSent]

/-- The datagram is what a transport that has selected the destination made of
a packet. -/
def Protected (sent : Sent lib) : Prop :=
  ∃ key t packet, sent.registry.transports.lookup key = some t ∧
    t.selects sent.endpoint = true ∧ (t.protectRtp packet).1 = some sent.data

/-- All RTP that an operation sends is protected. -/
def SendsProtected (s : MediaIngress lib) (o : Op) : Prop :=
  ∀ event ∈ (s.handle o).2, ∀ sent, mediaSent event = some sent → Protected sent

/-- From an endpoint that no transport has selected, no NACK asks for a packet
that is kept for a publisher's SSRC. -/
def NacksNothing (s : MediaIngress lib) (data : Bytes) (peer : Endpoint) : Prop :=
  s.endpointRequiresSecureMedia peer = false → ∀ control, controlOf s data peer = some control →
    ∀ nack ∈ RtcpHandler.parseNackFeedback control, nack.mediaSsrc ∈ publisherSsrcs s →
      ∀ seq ∈ nack.lostSequences, (s.router.getRetransmitPacket nack.mediaSsrc seq).getD [] = []

def SecureOp (s : MediaIngress lib) : Op → Prop
  | .destroyRoom _ => False
  | .setupTransport req io =>
    (s.registerTransport req io).isSome = true → ReplacesSafely s req
  | .datagram data peer _ => NacksNothing s data peer
  | _ => True

/-! ## Sending -/

theorem requires_iff {e : Endpoint} : s.endpointRequiresSecureMedia e = true ↔
    ∃ key t, s.transportRegistry.transports.lookup key = some t ∧ t.selects e = true := by
  show s.transportRegistry.any (fun t => t.selects e) = true ↔ _
  exact any_iff

theorem SameOwners.requires (h : SameOwners s.transportRegistry s'.transportRegistry)
    {e : Endpoint} (he : s.endpointRequiresSecureMedia e = true) :
    s'.endpointRequiresSecureMedia e = true := by
  obtain ⟨key, t, ht, hsel⟩ := requires_iff.mp he
  obtain ⟨t', ht', hid⟩ := h.lookup ht
  simp only [identity, Prod.mk.injEq] at hid
  refine requires_iff.mpr ⟨key, t', ht', ?_⟩
  simpa only [ParticipantTransport.selects, hid.2.2.2.2] using hsel

/-- What is sent to a selected endpoint is protected. -/
theorem sendRtp_protected {e : Endpoint} (he : s.endpointRequiresSecureMedia e = true)
    {packet : Bytes} {sent : Sent lib} (hsent : (s.sendRtp e packet).2 = some sent) :
    Protected sent := by
  simp only [sendRtp, sendWith, if_pos he, Option.map_eq_some_iff] at hsent
  obtain ⟨data, hdata, rfl⟩ := hsent
  simp only [TransportRegistry.protectRtpToEndpoint, TransportRegistry.transformAt] at hdata
  split at hdata
  · simp at hdata
  · split at hdata
    · simp at hdata
    · rename_i key t hfind
      obtain ⟨ht, hsel⟩ := find_some hfind
      exact ⟨key, t, packet, ht, hsel, hdata⟩

/-- The endpoints of routes are selected. -/
theorem requires_of_route (hg : Grounded s) (hs : Selected s) {source : UInt32}
    {route : SubscriberRoute} (hroute : route ∈ s.router.routes source) :
    s.endpointRequiresSecureMedia route.endpoint = true := by
  obtain ⟨m, room, hroom, -, u, sub, hu, text, htext, hparse⟩ := hg source route hroute
  have hslot : ∃ slot, text = texts s m u slot := by
    simp only [List.mem_cons, List.not_mem_nil, or_false] at htext
    have htexts (slot : Slot) : texts s m u slot = slotText sub slot := by
      rw [texts_eq_getD hroom, hu]
      rfl
    rcases htext with rfl | rfl | rfl
    · exact ⟨.common, (htexts .common).symm⟩
    · exact ⟨.audio, (htexts .audio).symm⟩
    · exact ⟨.video, (htexts .video).symm⟩
  obtain ⟨slot, rfl⟩ := hslot
  have hne : texts s m u slot ≠ "" := by
    intro hempty
    have hnone : parseEndpoint "" = none := by decide
    rw [hempty, hnone] at hparse
    simp at hparse
  obtain ⟨-, key, t, e, ht, -, hsel, -, hcarried⟩ := hs m u slot hne
  rw [hcarried, parseEndpoint_endpointKey] at hparse
  split at hparse
  · simp at hparse
  obtain rfl := Option.some.inj hparse
  exact requires_iff.mpr ⟨key, t, ht, hsel⟩

theorem Forwards.protected (h : Forwards s event) (hg : Grounded s) (hs : Selected s)
    {sent : Sent lib} (hsent : mediaSent event = some sent) : Protected sent := by
  obtain ⟨s', source, route, bytes, sent', hs', hroute, hsend, rfl⟩ := h
  obtain rfl := Option.some.inj hsent
  exact sendRtp_protected (hs'.owners.requires (requires_of_route hg hs hroute)) hsend

/-! ## Retransmissions -/

/-- A packet that is kept was sent to the peer. -/
def Retransmits (s : MediaIngress lib) (peer : Endpoint) (nack : RtcpNackFeedback)
    (event : Event lib) : Prop :=
  ∃ s' seq packet bytes sent, Quiet s s' ∧ s.resolveNackSourceSsrc peer nack.mediaSsrc ≠ 0 ∧
    seq ∈ nack.lostSequences ∧ packet ≠ [] ∧
    s.router.getRetransmitPacket (s.resolveNackSourceSsrc peer nack.mediaSsrc) seq = some packet ∧
    (s'.sendRtp peer bytes).2 = some sent ∧
    event = .retransmitted (s.resolveNackSourceSsrc peer nack.mediaSsrc) sent

theorem handleNack_events {nack : RtcpNackFeedback} (hs' : Quiet s s')
    (he : event ∈ (handleNack peer s' nack).2) : Retransmits s peer nack event := by
  have hresolve : s'.resolveNackSourceSsrc peer nack.mediaSsrc =
      s.resolveNackSourceSsrc peer nack.mediaSsrc := SameRouting.resolve hs'.routing _
  simp only [handleNack, hresolve] at he
  split at he
  · simp at he
  · rename_i hne
    refine (forEach_spec (P := Quiet s) (fun s'' seq hseq hs'' => ?_) hs').2 event he
    refine ⟨hs''.trans (retransmit_quiet ..), fun e he => ?_⟩
    simp only [retransmit, hs''.router] at he
    split at he
    · simp at he
    · rename_i packet hpacket
      split at he
      · simp at he
      · rename_i hempty
        obtain ⟨sent, hsent, rfl⟩ := mem_report.mp he
        exact ⟨s'', seq, packet, _, sent, hs'', hne, hseq, hempty, hpacket, hsent, rfl⟩

/-- An event of a control packet has nothing to do with RTP or answers a NACK. -/
def NoMediaOrNack (s : MediaIngress lib) (peer : Endpoint) (control : Bytes)
    (event : Event lib) : Prop :=
  isMedia event = false ∨
    ∃ nack ∈ RtcpHandler.parseNackFeedback control, Retransmits s peer nack event

theorem handleControlPacket_events {control : Bytes} {io : DatagramIo} (hs' : Quiet s s')
    (he : event ∈ (s'.handleControlPacket control peer io).2) :
    NoMediaOrNack s peer control event := by
  have hsr (s' : MediaIngress lib) (sr : RtcpSenderReport) (hs' : Quiet s s') :
      Meets (Quiet s) (NoMediaOrNack s peer control) (handleSenderReport peer io.now s' sr) := by
    refine ⟨hs'.trans (handleSenderReport_quiet ..), fun e he => .inl ?_⟩
    simp only [handleSenderReport] at he
    split at he
    · simp at he
    · obtain ⟨sent, -, rfl⟩ := mem_report.mp he
      rfl
  have hrr (s' : MediaIngress lib) (rr : RtcpReceptionReport) (hs' : Quiet s s') :
      Meets (Quiet s) (NoMediaOrNack s peer control) (handleReceptionReport io.now s' rr) := by
    refine ⟨hs'.trans (handleReceptionReport_quiet ..), fun e he => ?_⟩
    simp only [handleReceptionReport] at he
    split at he <;> simp at he
  have hnack (s' : MediaIngress lib) (nack : RtcpNackFeedback)
      (hmem : nack ∈ RtcpHandler.parseNackFeedback control) (hs' : Quiet s s') :
      Meets (Quiet s) (NoMediaOrNack s peer control) (handleNack peer s' nack) :=
    ⟨hs'.trans (handleNack_quiet ..), fun e he => .inr ⟨nack, hmem, handleNack_events hs' he⟩⟩
  have hpli (s' : MediaIngress lib) (pli : RtcpPliFeedback) (hs' : Quiet s s') :
      Meets (Quiet s) (NoMediaOrNack s peer control) (handlePli peer io.now s' pli) := by
    refine ⟨hs'.trans (handlePli_quiet ..), fun e he => .inl ?_⟩
    simp only [handlePli] at he
    split at he
    · simp at he
    · split at he
      · simp at he
      · split at he
        · simp at he
        · obtain ⟨sent, -, rfl⟩ := mem_report.mp he
          rfl
  have hremb (remb : RtcpRembFeedback) (s' : MediaIngress lib) (target : UInt32)
      (hs' : Quiet s s') : Meets (Quiet s) (NoMediaOrNack s peer control)
        (handleRembTarget peer io remb s' target) := by
    refine ⟨hs'.trans (handleRembTarget_quiet ..), fun e he => .inl ?_⟩
    simp only [handleRembTarget] at he
    split at he
    · simp at he
    · split at he
      · simp at he
      · simp only [andThen, List.mem_append, List.mem_singleton] at he
        rcases he with rfl | he
        · rfl
        · split at he
          · simp at he
          · obtain ⟨sent, -, rfl⟩ := mem_report.mp he
            rfl
  have hmeets : Meets (Quiet s) (NoMediaOrNack s peer control)
      (s'.handleControlPacket control peer io) := by
    refine andThen_spec (forEach_spec (fun s' sr _ => hsr s' sr) hs') fun s' hs' => ?_
    refine andThen_spec (forEach_spec (fun s' rr _ => hrr s' rr) hs') fun s' hs' => ?_
    refine andThen_spec (forEach_spec hnack hs') fun s' hs' => ?_
    refine andThen_spec (forEach_spec (fun s' pli _ => hpli s' pli) hs') fun s' hs' => ?_
    exact forEach_spec
      (fun s' remb _ hs' => forEach_spec (fun s' target _ => hremb remb s' target) hs') hs'
  exact hmeets.2 event he

theorem Retransmits.protected {nack : RtcpNackFeedback} (h : Retransmits s peer nack event)
    (hpeer : s.endpointRequiresSecureMedia peer = true) {sent : Sent lib}
    (hsent : mediaSent event = some sent) : Protected sent := by
  obtain ⟨s', seq, packet, bytes, sent', hs', -, -, -, -, hsend, rfl⟩ := h
  obtain rfl := Option.some.inj hsent
  exact sendRtp_protected (hs'.owners.requires hpeer) hsend

/-- A NACK that is answered comes from a selected endpoint, or it names a
publisher's SSRC. -/
theorem Retransmits.requires {nack : RtcpNackFeedback} (h : Retransmits s peer nack event)
    (hg : Grounded s) (hs : Selected s) (hb : (table s).Backed routeKey)
    (hnothing : nack.mediaSsrc ∈ publisherSsrcs s → ∀ seq ∈ nack.lostSequences,
      (s.router.getRetransmitPacket nack.mediaSsrc seq).getD [] = []) :
    s.endpointRequiresSecureMedia peer = true := by
  obtain ⟨s', seq, packet, bytes, sent, -, hne, hseq, hpacket, hget, -, -⟩ := h
  by_cases hpub : nack.mediaSsrc ∈ publisherSsrcs s
  · have hsource : s.resolveNackSourceSsrc peer nack.mediaSsrc = nack.mediaSsrc := by
      have hzero : nack.mediaSsrc ≠ 0 := by
        intro hzero
        exact hne (by rw [resolveNackSourceSsrc, if_pos hzero])
      rw [resolveNackSourceSsrc, if_neg hzero, if_pos (resolvePublisher_isSome.mpr hpub)]
    rw [hsource] at hget
    have hempty := hnothing hpub seq hseq
    rw [hget] at hempty
    exact absurd hempty hpacket
  · obtain ⟨route, hroute, rfl⟩ := resolve_hasRoute hb (fun h => absurd h hpub) hne
    exact requires_of_route hg hs hroute

/-! ## Runs -/

theorem handlePacket_protected (hg : Grounded s) (hs : Selected s)
    (hb : (table s).Backed routeKey) {data : Bytes} {io : DatagramIo}
    (h : NacksNothing s data peer) : SendsProtected s (.datagram data peer io) := by
  intro event he sent hsent
  have hquiet := mediaState_quiet s data peer
  rcases handlePacket_events he with ⟨answer, rfl⟩ | he | ⟨control, hcontrol, he⟩
  · simp [mediaSent] at hsent
  · rcases handleMediaPacket_events he with ⟨ssrc, packet, -, rfl⟩ | hf
    · simp [mediaSent] at hsent
    · exact (hf.of_frame hquiet.toFrame).protected hg hs hsent
  · rcases handleControlPacket_events hquiet he with hnone | ⟨nack, hnack, hr⟩
    · simp [mediaSent_eq_none hnone] at hsent
    · by_cases hpeer : s.endpointRequiresSecureMedia peer = true
      · exact hr.protected hpeer hsent
      · have hnothing := h (by simpa using hpeer) control hcontrol nack hnack
        exact absurd (hr.requires hg hs hb hnothing) hpeer

theorem sendsProtected_of_secureOp (hg : Grounded s) (hs : Selected s)
    (hb : (table s).Backed routeKey) {o : Op} (h : SecureOp s o) : SendsProtected s o := by
  cases o with
  | datagram data peer io => exact handlePacket_protected hg hs hb h
  | sendEstimatedRemb m u kbps now =>
    intro event he sent hsent
    obtain ⟨answer, rfl⟩ := sendEstimatedRemb_answered he
    simp [mediaSent] at hsent
  | _ =>
    intro event he
    simp [handle] at he

/-- In every run of secure operations, all RTP that is sent is protected. -/
theorem media_protected (port : UInt16) (nackCapacity : Nat) (os : List Op)
    (h : Along step SecureOp (MediaIngress.new port nackCapacity : MediaIngress lib) os) :
    Along step SendsProtected (MediaIngress.new port nackCapacity : MediaIngress lib) os := by
  refine Along.of_inv (P := fun s => Grounded s ∧ Selected s ∧ (table s).Backed routeKey)
    (fun s o ho hs => ⟨grounded_step ?_ hs.1, selected_step hs.2.1 ?_, backed_stable.step o hs.2.2⟩)
    (fun s o ho hs => sendsProtected_of_secureOp hs.1 hs.2.1 hs.2.2 ho)
    ⟨grounded_new port nackCapacity, selected_new port nackCapacity,
      backed_of_reachable ⟨port, nackCapacity, [], rfl⟩⟩ h
  · cases o with
    | destroyRoom m => exact ho.elim
    | _ => rfl
  · rintro req io rfl
    exact ho

/-! ## A call, and two ways to listen in -/

/-- A user who sends audio sets up a transport. -/
def speak (m u clientUfrag serverUfrag : String) (ssrc : UInt32) : Op :=
  .setupTransport
    { meetingId := m, userId := u, publishAudio := true, publishVideo := false
      clientIceUfrag := clientUfrag, clientIcePwd := "pwd", clientDtlsFingerprint := "AA"
      advertisedAddress := "10.0.0.1:5000" }
    { initialized := true, audioSsrc := ssrc, videoSsrc := 0, serverIceUfrag := serverUfrag
      serverIcePwd := "pwd", start := ⟨true, true, true, .want⟩, serverDtlsFingerprint := "BB"
      transportPlace := 0, subscriberPlace := 0, publisherPlace := 0 }

/-- `x` speaks with SSRC 30 and `w` listens, both over SRTP. -/
def callRun : List Op :=
  [.createRoom 0 "b" 8,
    speak "b" "x" "c1" "s1" 30, .datagram (stunRequest "s1:c1") speaker quietIo,
    .datagram dtlsRecord speaker handshaken,
    listen "b" "w" "c2" "s2", .datagram (stunRequest "s2:c2") listener quietIo,
    .datagram dtlsRecord listener handshaken]

/-- What `x` says, under the client's key. -/
def spoken : Bytes := mask (List.replicate 16 3) 12 (rtpPacket 30 1) ++ List.replicate 10 3

def callState (os : List Op) : MediaIngress tagLib :=
  run step (MediaIngress.new 5000 16) (callRun ++ os)

/-- The RTP datagrams that an operation sends: the bytes, the destination and
whether it is selected. -/
def mediaOut (s : MediaIngress lib) (o : Op) : List (Bytes × Endpoint × Bool) :=
  (s.handle o).2.filterMap fun event => (mediaSent event).map fun sent =>
    (sent.data, sent.endpoint, sent.registry.hasSelectedTransportForEndpoint sent.endpoint)

/-- Enough for `SecureOp`, and decidable: no transport is replaced, and only
selected endpoints send RTCP. -/
def settled (s : MediaIngress lib) : Op → Bool
  | .destroyRoom _ => false
  | .setupTransport req _ => (s.transportRegistry.transports.lookup (setupKey req)).isNone
  | .datagram data peer _ => s.endpointRequiresSecureMedia peer ∨ (controlOf s data peer).isNone
  | _ => true

theorem secureOp_of_settled {o : Op} (h : settled s o = true) : SecureOp s o := by
  cases o with
  | destroyRoom m => exact absurd h Bool.false_ne_true
  | setupTransport req io =>
    intro _ old e hold
    simp [settled, hold] at h
  | datagram data peer io =>
    intro hplain control hcontrol
    simp [settled, hplain, hcontrol] at h
  | _ => trivial

theorem media_protected_callRun :
    mediaOut (callState []) (.datagram spoken speaker quietIo) =
      [(mask (List.replicate 16 5) 12 (rtpPacket 30 1) ++ List.replicate 10 5, listener, true)] ∧
    Along step SendsProtected (MediaIngress.new 5000 16 : MediaIngress tagLib)
      (callRun ++ [.datagram spoken speaker quietIo]) := by
  refine ⟨by decide +kernel, media_protected 5000 16 _ ?_⟩
  have hsettled : Along step (fun s o => settled s o = true)
      (MediaIngress.new 5000 16 : MediaIngress tagLib)
      (callRun ++ [.datagram spoken speaker quietIo]) := by
    decide +kernel
  exact hsettled.mono fun _ _ => secureOp_of_settled

/-- Operations that let publishers in through `SetupTransport` only. -/
def viaTransports : Op → Bool
  | .destroyRoom _ | .bindPublisher .. | .bindSubscriber .. => false
  | _ => true

theorem not_sendsProtected {o : Op} {data : Bytes} {e : Endpoint}
    (h : (data, e, false) ∈ mediaOut s o) : ¬ SendsProtected s o := by
  intro hprotected
  simp only [mediaOut, List.mem_filterMap, Option.map_eq_some_iff, Prod.mk.injEq] at h
  obtain ⟨event, he, sent, hsent, -, -, hnone⟩ := h
  obtain ⟨key, t, packet, ht, hsel, -⟩ := hprotected event he sent hsent
  have hany : sent.registry.hasSelectedTransportForEndpoint sent.endpoint = true := by
    show sent.registry.any (fun t => t.selects sent.endpoint) = true
    exact any_iff.mpr ⟨key, t, ht, hsel⟩
  simp [hnone] at hany

/-- `w` sets up its transport again and is sent what `x` says in the clear;
and so is a stranger who asks for it with a NACK. -/
theorem callRun_sends_clear :
    (∀ o ∈ callRun ++ [listen "b" "w" "c3" "s3"], viaTransports o = true) ∧
    (rtpPacket 30 1, listener, false) ∈
      mediaOut (callState [listen "b" "w" "c3" "s3"]) (.datagram spoken speaker quietIo) ∧
    (rtpPacket 30 1, stranger, false) ∈
      mediaOut (callState [.datagram spoken speaker quietIo])
        (.datagram (nackPacket 30 1) stranger quietIo) ∧
    ¬ SendsProtected (callState [listen "b" "w" "c3" "s3"]) (.datagram spoken speaker quietIo) ∧
    ¬ SendsProtected (callState [.datagram spoken speaker quietIo])
      (.datagram (nackPacket 30 1) stranger quietIo) := by
  have hrenewed : (rtpPacket 30 1, listener, false) ∈
      mediaOut (callState [listen "b" "w" "c3" "s3"]) (.datagram spoken speaker quietIo) := by
    decide +kernel
  have hstranger : (rtpPacket 30 1, stranger, false) ∈
      mediaOut (callState [.datagram spoken speaker quietIo])
        (.datagram (nackPacket 30 1) stranger quietIo) := by
    decide +kernel
  exact ⟨by decide +kernel, hrenewed, hstranger, not_sendsProtected hrenewed,
    not_sendsProtected hstranger⟩

end MeetingSystem.Proof.Sfu
