import MeetingSystem.Proof.Sfu.Protection

/-!
# The gate in front of the router

A media packet with an SSRC that a transport owns has to come from the
endpoint that a ready owner has selected, and it is unprotected first. But the
transport that unprotects it is the first one that has selected the endpoint,
whether it owns the SSRC or not: of two transports at one endpoint, one can
speak with the SSRC of the other (`sharedRun`).

`media_gate`: as long as the first transport at an endpoint owns the SSRC of
what comes from there, what is routed for an owned SSRC comes from the endpoint
of a ready owner and is what an owner has unprotected.
-/

namespace MeetingSystem.Proof.Sfu

open MeetingSystem.Framework MeetingSystem.Impl.Sfu MediaIngress

variable {lib : SrtpLib} {s : MediaIngress lib} {peer : Endpoint} {data : Bytes}

/-! ## The statement -/

/-- libsrtp leaves the fixed part of the RTP header as it is. -/
def KeepsHeader (lib : SrtpLib) : Prop :=
  ∀ ctx packet out, (lib.unprotect ctx packet).1 = some out → out.take 12 = packet.take 12

/-- Some transport owns the SSRC. -/
def Owned (r : TransportRegistry lib) (ssrc : UInt32) : Prop :=
  ∃ key t, r.transports.lookup key = some t ∧ t.ownsSsrc ssrc = true

/-- What is routed for an owned SSRC comes from the endpoint of a ready owner,
and an owner has unprotected it. -/
def RoutesOwned (s : MediaIngress lib) : Op → Prop
  | .datagram data peer io =>
    ∀ ssrc packet, .routed ssrc packet ∈ (s.handlePacket data peer io).2 →
      Owned s.transportRegistry ssrc →
      (∃ key t, s.transportRegistry.transports.lookup key = some t ∧ t.ownsSsrc ssrc = true ∧
        t.selects peer = true ∧ t.srtpReady = true) ∧
      ∃ key t, (mediaState s data peer).transportRegistry.transports.lookup key = some t ∧
        t.ownsSsrc ssrc = true ∧ (t.unprotectRtp data).1 = some packet
  | _ => True

/-- If an owner of the packet's SSRC at the endpoint is ready, the first
transport at the endpoint is an owner, too. -/
def openedByOwner (s : MediaIngress lib) : Op → Bool
  | .datagram data peer _ =>
    (RtpParser.parse data).all fun parsed =>
      s.transportRegistry.srtpReadyForSsrcFrom parsed.header.ssrc peer →
        (s.transportRegistry.findBySelectedEndpoint peer).all fun x =>
          x.2.ownsSsrc parsed.header.ssrc
  | _ => true

/-! ## The SSRC of a packet -/

theorem parse_ssrc {parsed : ParsedRtpPacket} (h : RtpParser.parse data = some parsed) :
    parsed.header.ssrc = readU32 data 8 := by
  simp only [RtpParser.parse] at h
  split at h
  · simp at h
  · split at h
    · simp at h
    · split at h
      · simp at h
      · split at h
        · simp at h
        · split at h
          · simp at h
          · obtain rfl := Option.some.inj h
            rfl

theorem readU32_take (data : Bytes) : readU32 (data.take 12) 8 = readU32 data 8 := by
  simp [readU32, List.getD_eq_getElem?_getD]

theorem unprotectRtp_take (hlib : KeepsHeader lib) {t : ParticipantTransport lib} {packet : Bytes}
    (h : (t.unprotectRtp data).1 = some packet) : packet.take 12 = data.take 12 := by
  simp only [ParticipantTransport.unprotectRtp] at h
  split at h
  · simp at h
  · simp only [SrtpSession.unprotectRtp, SrtpSession.transform] at h
    split at h
    · simp at h
    · split at h
      · simp at h
      · exact hlib _ _ _ (Option.filter_eq_some_iff.mp h).1

/-! ## What unprotecting RTCP leaves alone -/

theorem unprotectRtcp_srtpReady (t : ParticipantTransport lib) (packet : Bytes) :
    (t.unprotectRtcp packet).2.srtpReady = t.srtpReady := by
  simp only [ParticipantTransport.unprotectRtcp]
  split <;> rfl

/-- The registry is the same, or RTCP was unprotected with one transport. -/
theorem mediaState_registry (s : MediaIngress lib) (data : Bytes) (peer : Endpoint) :
    (mediaState s data peer).transportRegistry = s.transportRegistry ∨
      ∃ key t, s.transportRegistry.transports.lookup key = some t ∧
        (mediaState s data peer).transportRegistry =
          s.transportRegistry.set key (t.unprotectRtcp data).2 := by
  simp only [mediaState]
  split
  · simp only [withTransports, TransportRegistry.unprotectRtcpFromEndpoint,
      TransportRegistry.transformAt]
    split
    · exact .inl rfl
    · split
      · exact .inl rfl
      · rename_i key t hfind
        exact .inr ⟨key, t, (find_some hfind).1, rfl⟩
  · exact .inl rfl

/-- A search for owners or endpoints finds the same key. -/
theorem mediaState_find {p : ParticipantTransport lib → Bool}
    (hp : ∀ t packet, p (t.unprotectRtcp packet).2 = p t) {key : String}
    {t : ParticipantTransport lib}
    (h : (mediaState s data peer).transportRegistry.find p = some (key, t)) :
    ∃ t₀, s.transportRegistry.find p = some (key, t₀) ∧ identity t = identity t₀ ∧
      t.srtpReady = t₀.srtpReady := by
  rcases mediaState_registry s data peer with heq | ⟨k, t₁, hk, heq⟩
  · rw [heq] at h
    exact ⟨t, h, rfl, rfl⟩
  · rw [heq, find_set hk (hp t₁ data)] at h
    obtain ⟨⟨key₀, t₀⟩, hfind, hmap⟩ := Option.map_eq_some_iff.mp h
    split at hmap
    · rename_i hkey
      obtain rfl : key₀ = k := hkey
      obtain ⟨rfl, rfl⟩ := Prod.mk.inj hmap
      rw [(find_some hfind).1] at hk
      obtain rfl := Option.some.inj hk
      exact ⟨t₀, hfind, unprotectRtcp_identity t₀ data, unprotectRtcp_srtpReady t₀ data⟩
    · obtain ⟨rfl, rfl⟩ := Prod.mk.inj hmap
      exact ⟨t₀, hfind, rfl, rfl⟩

theorem unprotectRtcp_selects (t : ParticipantTransport lib) (packet : Bytes) (e : Endpoint) :
    (t.unprotectRtcp packet).2.selects e = t.selects e := by
  simp only [ParticipantTransport.unprotectRtcp]
  split <;> rfl

theorem unprotectRtcp_ownsSsrc (t : ParticipantTransport lib) (packet : Bytes) (ssrc : UInt32) :
    (t.unprotectRtcp packet).2.ownsSsrc ssrc = t.ownsSsrc ssrc := by
  simp only [ParticipantTransport.unprotectRtcp]
  split <;> rfl

theorem ownsSsrc_of_identity {t t' : ParticipantTransport lib} (h : identity t = identity t')
    (ssrc : UInt32) : t.ownsSsrc ssrc = t'.ownsSsrc ssrc := by
  simp only [identity, Prod.mk.injEq] at h
  simp only [ParticipantTransport.ownsSsrc, h.2.2.1, h.2.2.2.1]

/-! ## The gate -/

theorem srtpReadyForSsrcFrom_iff {r : TransportRegistry lib} {ssrc : UInt32} :
    r.srtpReadyForSsrcFrom ssrc peer = true ↔
      ∃ key t, r.find (fun t => t.ownsSsrc ssrc ∧ t.selects peer) = some (key, t) ∧
        t.srtpReady = true := by
  simp only [TransportRegistry.srtpReadyForSsrcFrom]
  split
  · rename_i hnone
    refine ⟨fun h => absurd h Bool.false_ne_true, ?_⟩
    rintro ⟨key, t, hfind, -⟩
    rw [hnone] at hfind
    simp at hfind
  · rename_i key t hfind
    refine ⟨fun h => ⟨key, t, hfind, h⟩, ?_⟩
    rintro ⟨key', t', hfind', hready⟩
    rw [hfind] at hfind'
    obtain ⟨rfl, rfl⟩ := Prod.mk.inj (Option.some.inj hfind')
    exact hready

/-- The gate sees the same ready transports as there were before. -/
theorem mediaState_ready {ssrc : UInt32}
    (h : (mediaState s data peer).transportRegistry.srtpReadyForSsrcFrom ssrc peer = true) :
    s.transportRegistry.srtpReadyForSsrcFrom ssrc peer = true := by
  obtain ⟨key, t, hfind, hready⟩ := srtpReadyForSsrcFrom_iff.mp h
  have hp (t : ParticipantTransport lib) (packet : Bytes) :
      decide ((t.unprotectRtcp packet).2.ownsSsrc ssrc = true ∧
        (t.unprotectRtcp packet).2.selects peer = true) =
      decide (t.ownsSsrc ssrc = true ∧ t.selects peer = true) := by
    rw [unprotectRtcp_ownsSsrc, unprotectRtcp_selects]
  obtain ⟨t₀, hfind₀, -, hready₀⟩ := mediaState_find hp hfind
  exact srtpReadyForSsrcFrom_iff.mpr ⟨key, t₀, hfind₀, by rw [← hready₀, hready]⟩

/-- An owned SSRC needs SRTP. -/
theorem Owned.requires {ssrc : UInt32} (h : Owned s.transportRegistry ssrc) :
    (mediaState s data peer).transportRequiresSrtp ssrc = true := by
  obtain ⟨key, t, ht, howns⟩ := h
  obtain ⟨t', ht', hid⟩ := (mediaState_quiet s data peer).owners.lookup ht
  have hne : ssrc ≠ 0 := by
    rintro rfl
    simp [ParticipantTransport.ownsSsrc] at howns
  simp only [transportRequiresSrtp, TransportRegistry.hasTransportForSsrc, decide_eq_true_eq]
  exact ⟨hne, any_iff.mpr ⟨key, t', ht', by rw [ownsSsrc_of_identity hid, howns]⟩⟩

/-- A packet that was unprotected for the gate, in terms of transports. -/
theorem unprotectRtpFromEndpoint_some {r : TransportRegistry lib} {packet : Bytes}
    (h : (r.unprotectRtpFromEndpoint peer data).1 = some packet) :
    ∃ key t, r.findBySelectedEndpoint peer = some (key, t) ∧
      (t.unprotectRtp data).1 = some packet := by
  simp only [TransportRegistry.unprotectRtpFromEndpoint, TransportRegistry.transformAt] at h
  split at h
  · simp at h
  · split at h
    · simp at h
    · rename_i key t hfind
      exact ⟨key, t, hfind, h⟩

theorem Passes.owned (hlib : KeepsHeader lib) {ssrc : UInt32} {packet : Bytes} {io : DatagramIo}
    (hpass : Passes (mediaState s data peer) data peer ssrc packet)
    (howned : Owned s.transportRegistry ssrc)
    (h : openedByOwner s (.datagram data peer io) = true) :
    (∃ key t, s.transportRegistry.transports.lookup key = some t ∧ t.ownsSsrc ssrc = true ∧
      t.selects peer = true ∧ t.srtpReady = true) ∧
    ∃ key t, (mediaState s data peer).transportRegistry.transports.lookup key = some t ∧
      t.ownsSsrc ssrc = true ∧ (t.unprotectRtp data).1 = some packet := by
  cases hpass with
  | plain hparse hfree => exact absurd howned.requires hfree
  | unprotected hparse hallowed hready hpacket hparse' =>
    rename_i parsed parsed'
    obtain ⟨key, t, hfind, hopened⟩ := unprotectRtpFromEndpoint_some hpacket
    have hssrc : parsed'.header.ssrc = parsed.header.ssrc := by
      rw [parse_ssrc hparse', parse_ssrc hparse, ← readU32_take, ← readU32_take data,
        unprotectRtp_take hlib hopened]
    rw [hssrc]
    have hready₀ := mediaState_ready hready
    obtain ⟨key₁, t₁, hfind₁, hready₁⟩ := srtpReadyForSsrcFrom_iff.mp hready₀
    obtain ⟨hlookup₁, hp₁⟩ := find_some hfind₁
    obtain ⟨howns₁, hsel₁⟩ := decide_eq_true_eq.mp hp₁
    refine ⟨⟨key₁, t₁, hlookup₁, howns₁, hsel₁, hready₁⟩, key, t, (find_some hfind).1, ?_, hopened⟩
    obtain ⟨t₀, hfind₀, hid, -⟩ :=
      mediaState_find (fun t packet => unprotectRtcp_selects t packet peer) hfind
    have hfirst : t₀.ownsSsrc parsed.header.ssrc = true := by
      have h' : s.transportRegistry.findBySelectedEndpoint peer = some (key, t₀) := hfind₀
      simpa [openedByOwner, hparse, hready₀, h'] using h
    rw [ownsSsrc_of_identity hid, hfirst]

theorem routesOwned_of_openedByOwner (hlib : KeepsHeader lib) {o : Op}
    (h : openedByOwner s o = true) : RoutesOwned s o := by
  cases o with
  | datagram data peer io =>
    intro ssrc packet he howned
    rcases handlePacket_events he with ⟨sent, heq⟩ | he | ⟨control, -, he⟩
    · simp at heq
    · rcases handleMediaPacket_events he with ⟨ssrc', packet', hpass, heq⟩ |
        ⟨s', source, route, bytes, sent, -, -, -, heq⟩
      · obtain ⟨rfl, rfl⟩ := Event.routed.inj heq
        exact hpass.owned hlib howned h
      · simp at heq
    · rcases handleControlPacket_events (mediaState_quiet s data peer) he with hnone | ⟨nack, -, hr⟩
      · simp [isMedia] at hnone
      · obtain ⟨s', seq, packet', bytes, sent, -, -, -, -, -, -, heq⟩ := hr
        simp at heq
  | _ => trivial

/-- In every run in which the first transport at an endpoint owns what comes
from there, only its owners' media is routed for an owned SSRC. -/
theorem media_gate (hlib : KeepsHeader lib) (port : UInt16) (nackCapacity : Nat) (os : List Op)
    (h : Along step (fun s o => openedByOwner s o = true)
      (MediaIngress.new port nackCapacity : MediaIngress lib) os) :
    Along step RoutesOwned (MediaIngress.new port nackCapacity : MediaIngress lib) os :=
  h.mono fun _ _ => routesOwned_of_openedByOwner hlib

/-! ## Two transports at one endpoint -/

theorem tagLib_keepsHeader : KeepsHeader tagLib := by
  intro ctx packet out hout
  simp only [tagLib, untagged] at hout
  split at hout
  · rename_i h
    obtain rfl := Option.some.inj hout
    have hlen : 12 ≤ (packet.take (packet.length - 10)).length := h.2
    have hmin : 12 ≤ packet.length - 10 := hlen.trans (List.length_take_le ..)
    show ((packet.take (packet.length - 10)).take 12 ++ _).take 12 = _
    rw [List.take_append_of_le_length (by rw [List.length_take]; omega), List.take_take,
      List.take_take, Nat.min_self, Nat.min_eq_left hmin]
  · simp at hout

/-- What an operation routes. -/
def routedOut (s : MediaIngress lib) (o : Op) : List (UInt32 × Bytes) :=
  (s.handle o).2.filterMap fun
    | .routed ssrc packet => some (ssrc, packet)
    | _ => none

theorem media_gate_callRun :
    routedOut (callState []) (.datagram spoken speaker quietIo) = [(30, rtpPacket 30 1)] ∧
    Along step RoutesOwned (MediaIngress.new 5000 16 : MediaIngress tagLib)
      (callRun ++ [.datagram spoken speaker quietIo]) :=
  ⟨by decide +kernel, media_gate tagLib_keepsHeader 5000 16 _ (by decide +kernel)⟩

/-- The end of a handshake with other keys. -/
def rekeyed : DatagramIo :=
  { handshaken with
    dtls := { handshaken.dtls with
      exporter := some (List.replicate 16 4 ++ List.replicate 16 6 ++ List.replicate 28 8) } }

/-- `y` has SSRC 40 and keys of its own, and comes to the endpoint of `x`. -/
def sharedRun : List Op :=
  [.createRoom 0 "b" 8, speak "b" "y" "c2" "s2" 40, .datagram (stunRequest "s2:c2") listener quietIo,
    .datagram dtlsRecord listener rekeyed,
    speak "b" "x" "c1" "s1" 30, .datagram (stunRequest "s1:c1") speaker quietIo,
    .datagram dtlsRecord speaker handshaken,
    .datagram (stunRequest "s2:c2") speaker quietIo]

def sharedState : MediaIngress tagLib := run step (MediaIngress.new 5000 16) sharedRun

/-- A packet with the SSRC of `y`, under the key of `x`. -/
def forged : Bytes := mask (List.replicate 16 3) 12 (rtpPacket 40 1) ++ List.replicate 10 3

/-- What `x` sends as `y` is routed, and `y` has not unprotected it. -/
theorem sharedState_routes_forged :
    Reachable sharedState ∧ Owned sharedState.transportRegistry 40 ∧
    (40, rtpPacket 40 1) ∈ routedOut sharedState (.datagram forged speaker quietIo) ∧
    ¬ RoutesOwned sharedState (.datagram forged speaker quietIo) := by
  have howned : Owned sharedState.transportRegistry 40 := any_iff.mp (by decide +kernel)
  have hrouted : (40, rtpPacket 40 1) ∈
      routedOut sharedState (.datagram forged speaker quietIo) := by
    decide +kernel
  refine ⟨⟨5000, 16, sharedRun, rfl⟩, howned, hrouted, fun h => ?_⟩
  obtain ⟨event, he, hevent⟩ := List.mem_filterMap.mp hrouted
  have heq : event = .routed 40 (rtpPacket 40 1) := by
    cases event <;> simp_all
  subst heq
  obtain ⟨-, key, t, ht, howns, hopened⟩ := h 40 (rtpPacket 40 1) he howned
  have hnone : (mediaState sharedState forged speaker).transportRegistry.any (fun t =>
      t.ownsSsrc 40 ∧ (t.unprotectRtp forged).1 = some (rtpPacket 40 1)) = false := by
    decide +kernel
  rw [← Bool.not_eq_true, any_iff] at hnone
  exact hnone ⟨key, t, ht, decide_eq_true ⟨howns, hopened⟩⟩

end MeetingSystem.Proof.Sfu
