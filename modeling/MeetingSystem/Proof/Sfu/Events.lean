import MeetingSystem.Proof.Sfu.RouteTables

/-!
# What a datagram can cause

Where the events of a datagram come from. A datagram is answered as STUN or
DTLS, handled as a control packet (`controlOf`) or taken for media, in the
state `mediaState` (`handlePacket_events`). Media is routed after the gate has
passed it (`Passes`) and then sent on the routes of a source
(`handleMediaPacket_events`).
-/

namespace MeetingSystem.Proof.Sfu

open MeetingSystem.Framework MeetingSystem.Impl.Sfu MediaIngress

variable {lib : SrtpLib} {s : MediaIngress lib} {peer : Endpoint} {event : Event lib}

/-! ## Control packets and media -/

/-- Datagrams that get as far as RTCP. -/
def reachesRtcp (data : Bytes) : Bool :=
  ¬ isStunPacket data ∧ ¬ DtlsTransport.looksLikeDtlsRecord data ∧ looksLikeRtcp data

/-- The control packet that a datagram is handled as, if it is. -/
def controlOf (s : MediaIngress lib) (data : Bytes) (peer : Endpoint) : Option Bytes :=
  if reachesRtcp data then
    (if s.endpointRequiresSecureMedia peer then
      (s.transportRegistry.unprotectRtcpFromEndpoint peer data).1 else some data).filter isCompound
  else none

/-- The state in which a datagram is taken for a control packet or for media. -/
def mediaState (s : MediaIngress lib) (data : Bytes) (peer : Endpoint) : MediaIngress lib :=
  if reachesRtcp data ∧ s.endpointRequiresSecureMedia peer then
    withTransports s (s.transportRegistry.unprotectRtcpFromEndpoint peer data).2
  else s

theorem mediaState_quiet (s : MediaIngress lib) (data : Bytes) (peer : Endpoint) :
    Quiet s (mediaState s data peer) := by
  simp only [mediaState]
  split
  · exact ⟨.withTransports (transformAt_sameOwners unprotectRtcp_identity 1 _ _ _), rfl⟩
  · exact .refl s

theorem mem_report {f : Sent lib → Event lib} {x : MediaIngress lib × Option (Sent lib)} :
    event ∈ (report f x).2 ↔ ∃ sent, x.2 = some sent ∧ f sent = event := by
  simp only [report, Option.mem_toList, Option.map_eq_some_iff]

theorem handleStunPacket_answered {data : Bytes}
    (he : event ∈ (s.handleStunPacket data peer).2) : ∃ sent, event = .answered sent := by
  simp only [handleStunPacket] at he
  split at he
  · simp at he
  · split at he
    · simp at he
    · exact ⟨_, List.mem_singleton.mp he⟩

theorem handleDtlsPacket_answered {data : Bytes} {io : DtlsIo}
    (he : event ∈ (s.handleDtlsPacket data peer io).2) : ∃ sent, event = .answered sent := by
  simp only [handleDtlsPacket] at he
  split at he
  · simp at he
  · obtain ⟨packet, -, rfl⟩ := List.mem_map.mp he
    exact ⟨_, rfl⟩

theorem handleRtcpOrMedia_events {data : Bytes} {io : DatagramIo} (hdata : reachesRtcp data = true)
    (he : event ∈ (s.handleRtcpOrMedia data peer io).2) :
    event ∈ ((mediaState s data peer).handleMediaPacket data peer).2 ∨
      ∃ control, controlOf s data peer = some control ∧
        event ∈ ((mediaState s data peer).handleControlPacket control peer io).2 := by
  simp only [handleRtcpOrMedia] at he
  split at he
  · rename_i hsecure
    have hstate : mediaState s data peer =
        withTransports s (s.transportRegistry.unprotectRtcpFromEndpoint peer data).2 :=
      if_pos ⟨hdata, hsecure⟩
    rw [hstate]
    split at he
    · simp at he
    · rename_i control hcontrol
      split at he
      · rename_i hcompound
        refine .inr ⟨control, ?_, he⟩
        rw [controlOf, if_pos hdata, if_pos hsecure, hcontrol]
        exact Option.filter_some_pos hcompound
      · exact .inl he
  · rename_i hplain
    have hstate : mediaState s data peer = s := if_neg fun h => hplain h.2
    rw [hstate]
    split at he
    · rename_i hcompound
      refine .inr ⟨data, ?_, he⟩
      rw [controlOf, if_pos hdata, if_neg hplain]
      exact Option.filter_some_pos hcompound
    · exact .inl he

/-- A datagram is answered, taken for media or handled as a control packet. -/
theorem handlePacket_events {data : Bytes} {io : DatagramIo}
    (he : event ∈ (s.handlePacket data peer io).2) :
    (∃ sent, event = .answered sent) ∨
      event ∈ ((mediaState s data peer).handleMediaPacket data peer).2 ∨
      ∃ control, controlOf s data peer = some control ∧
        event ∈ ((mediaState s data peer).handleControlPacket control peer io).2 := by
  simp only [handlePacket] at he
  split at he
  · exact .inl (handleStunPacket_answered he)
  · rename_i hstun
    split at he
    · exact .inl (handleDtlsPacket_answered he)
    · rename_i hdtls
      split at he
      · rename_i hrtcp
        exact .inr (handleRtcpOrMedia_events (by simp [reachesRtcp, hstun, hdtls, hrtcp]) he)
      · rename_i hrtcp
        have hstate : mediaState s data peer = s := if_neg fun h => by
          simp [reachesRtcp, hrtcp] at h
        rw [hstate]
        exact .inr (.inl he)

theorem sendEstimatedRemb_answered {m u : String} {kbps : UInt32} {now : Nat}
    (he : event ∈ (s.sendEstimatedRembToPublisher m u kbps now).2) :
    ∃ sent, event = .answered sent := by
  simp only [sendEstimatedRembToPublisher] at he
  split at he
  · simp at he
  · split at he
    · simp at he
    · rename_i publisher _
      generalize (if publisher.videoSsrc ≠ 0 then publisher.videoSsrc
        else publisher.audioSsrc) = source at he
      split at he
      · simp at he
      · split at he
        · simp at he
        · obtain ⟨sent, -, rfl⟩ := mem_report.mp he
          exact ⟨sent, rfl⟩

/-! ## Media -/

/-- The gate of `HandlePacket` passes this packet, with this SSRC. -/
inductive Passes (s : MediaIngress lib) (data : Bytes) (peer : Endpoint) : UInt32 → Bytes → Prop
  | plain {parsed : ParsedRtpPacket} (hparse : RtpParser.parse data = some parsed)
      (hfree : ¬ s.transportRequiresSrtp parsed.header.ssrc) :
      Passes s data peer parsed.header.ssrc data
  | unprotected {parsed parsed' : ParsedRtpPacket} {packet : Bytes}
      (hparse : RtpParser.parse data = some parsed)
      (hallowed : s.transportAllowsRtp parsed.header.ssrc peer)
      (hready : s.transportRegistry.srtpReadyForSsrcFrom parsed.header.ssrc peer)
      (hpacket : (s.transportRegistry.unprotectRtpFromEndpoint peer data).1 = some packet)
      (hparse' : RtpParser.parse packet = some parsed') :
      Passes s data peer parsed'.header.ssrc packet

/-- A packet was sent on a route. -/
def Forwards (s : MediaIngress lib) (event : Event lib) : Prop :=
  ∃ s' source route bytes sent, Frame s s' ∧ route ∈ s.router.routes source ∧
    (s'.sendRtp route.endpoint bytes).2 = some sent ∧ event = .forwarded sent

theorem route_calls {r : RtpRouter} {packet : Bytes} {call : Endpoint × Bytes}
    (h : call ∈ (r.route packet).2.getD []) :
    ∃ source, ∃ route ∈ r.routes source, route.endpoint = call.1 := by
  simp only [RtpRouter.route] at h
  split at h
  · simp at h
  · rename_i parsed _
    split at h
    · simp at h
    · rename_i publisher hpublisher
      simp only [Option.getD_some, List.mem_map] at h
      obtain ⟨route, hroute, rfl⟩ := h
      refine ⟨parsed.header.ssrc, route, ?_, rfl⟩
      simpa only [RtpRouter.routes, hpublisher] using hroute

theorem routeMedia_events {packet : Bytes} {header : RtpHeader}
    (he : event ∈ (s.routeMedia packet header peer).2) :
    event = .routed header.ssrc packet ∨ Forwards s event := by
  simp only [routeMedia] at he
  split at he
  · simp at he
  · rename_i location _
    simp only [andThen, List.mem_append, List.mem_singleton] at he
    rcases he with he | he
    · exact .inl he
    · refine .inr ((forEach_spec (P := Frame s) (fun s' call hcall hs' => ?_)
        (observed_frame s packet location header peer)).2 event he)
      refine ⟨hs'.trans (sendRtp_quiet ..).toFrame, fun e he => ?_⟩
      obtain ⟨sent, hsent, rfl⟩ := mem_report.mp he
      obtain ⟨source, route, hroute, hcall⟩ := route_calls hcall
      rw [← hcall] at hsent
      exact ⟨s', source, route, _, sent, hs', hroute, hsent, rfl⟩

theorem Forwards.of_frame {s₀ : MediaIngress lib} (h : Forwards s event) (hs : Frame s₀ s) :
    Forwards s₀ event := by
  obtain ⟨s', source, route, bytes, sent, hs', hroute, hsent, rfl⟩ := h
  have hroutes : s.router.routes = s₀.router.routes :=
    congrArg (fun x => RouteTable.forward x.2) hs.routing
  exact ⟨s', source, route, bytes, sent, hs.trans hs', by rwa [← hroutes], hsent, rfl⟩

/-- What is taken for media is routed if the gate passes it, and forwarded. -/
theorem handleMediaPacket_events {data : Bytes}
    (he : event ∈ (s.handleMediaPacket data peer).2) :
    (∃ ssrc packet, Passes s data peer ssrc packet ∧ event = .routed ssrc packet) ∨
      Forwards s event := by
  simp only [handleMediaPacket] at he
  split at he
  · simp at he
  · rename_i parsed hparse
    split at he
    · simp at he
    · rename_i hallowed
      split at he
      · rename_i hfree
        exact (routeMedia_events he).imp_left fun h => ⟨_, _, .plain hparse hfree, h⟩
      · split at he
        · simp at he
        · rename_i hready
          split at he
          · simp at he
          · rename_i packet hpacket
            split at he
            · simp at he
            · rename_i parsed' hparse'
              rcases routeMedia_events he with h | h
              · exact .inl ⟨_, _, .unprotected hparse (not_not.mp hallowed) (not_not.mp hready)
                  hpacket hparse', h⟩
              · exact .inr (h.of_frame
                  (.withTransports (transformAt_sameOwners unprotectRtp_identity 12 _ _ _)))

end MeetingSystem.Proof.Sfu
