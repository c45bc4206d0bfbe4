import MeetingSystem.Proof.Sfu.Events
import MeetingSystem.Proof.Sfu.RouteAgreement

/-!
# Who may give feedback

RTCP feedback names a media SSRC, which `ResolveNackSourceSsrc` turns into a
source. Through the feedback table only the endpoint of a route gets to the
route's source (`resolve_hasRoute`). But an SSRC that some publisher has is
taken for the source before the endpoint is looked at, so anyone who knows it
is served (`missedState_serves_stranger`).

`feedback_hasRoute`: a datagram that names a publisher's SSRC only if the
sender receives that source leads to retransmissions, PLIs and REMB samples
only for sources that the sender receives.
-/

namespace MeetingSystem.Proof.Sfu

open MeetingSystem.Framework MeetingSystem.Impl.Sfu MediaIngress

variable {lib : SrtpLib} {s : MediaIngress lib} {peer : Endpoint}

/-! ## The statement -/

/-- The source that an event serves feedback for. -/
def feedbackSource : Event lib → Option UInt32
  | .retransmitted source _ => some source
  | .pliForwarded source _ => some source
  | .rembSampled source => some source
  | _ => none

/-- The endpoint receives the source. -/
def HasRoute (s : MediaIngress lib) (source : UInt32) (e : Endpoint) : Prop :=
  ∃ route ∈ s.router.routes source, route.endpoint = e

instance (s : MediaIngress lib) (source : UInt32) (e : Endpoint) : Decidable (HasRoute s source e) :=
  inferInstanceAs (Decidable (∃ route ∈ _, _))

/-- The media SSRCs that NACKs, PLIs and REMBs name. -/
def feedbackSsrcs (control : Bytes) : List UInt32 :=
  (RtcpHandler.parseNackFeedback control).map (·.mediaSsrc) ++
    (RtcpHandler.parsePliFeedback control).map (·.mediaSsrc) ++
    (RtcpHandler.parseRembFeedback control).flatMap (·.targetSsrcs)

/-- A publisher's SSRC is only named by an endpoint that receives it. -/
def NamesOwnSources (s : MediaIngress lib) (data : Bytes) (peer : Endpoint) : Prop :=
  ∀ control, controlOf s data peer = some control → ∀ ssrc ∈ feedbackSsrcs control,
    ssrc ∈ publisherSsrcs s → HasRoute s ssrc peer

/-! ## Resolving -/

/-- What feedback about `ssrc` from `peer` is resolved to, `peer` receives. -/
theorem resolve_hasRoute (hb : (table s).Backed routeKey) {ssrc : UInt32}
    (h : ssrc ∈ publisherSsrcs s → HasRoute s ssrc peer)
    (hne : s.resolveNackSourceSsrc peer ssrc ≠ 0) :
    HasRoute s (s.resolveNackSourceSsrc peer ssrc) peer := by
  unfold resolveNackSourceSsrc at hne ⊢
  split at hne
  · exact absurd rfl hne
  · rename_i hssrc
    rw [if_neg hssrc]
    split
    · rename_i hpub
      exact h (resolvePublisher_isSome.mp hpub)
    · rename_i hpub
      rw [if_neg hpub] at hne
      cases hf : s.feedbackRoutes (feedbackRouteKey peer ssrc) with
      | none => simp [hf] at hne
      | some source =>
        obtain ⟨route, hroute, hkey⟩ := hb _ source hf
        exact ⟨route, hroute, (feedbackRouteKey_inj hkey).1⟩

/-! ## The handlers -/

/-- Nothing is served that `peer` does not receive in `s`. -/
def Serves (s : MediaIngress lib) (peer : Endpoint) (event : Event lib) : Prop :=
  ∀ source, feedbackSource event = some source → HasRoute s source peer

/-- The part of the state that resolving feedback looks at is that of `s`. -/
def SameRouting (s s' : MediaIngress lib) : Prop := routing s' = routing s

theorem serves_of_none {event : Event lib} (h : feedbackSource event = none) :
    Serves s peer event := by
  intro source hsource
  rw [h] at hsource
  exact absurd hsource (by simp)

theorem serves_of_source {event : Event lib} {source : UInt32}
    (h : feedbackSource event = some source) (hroute : HasRoute s source peer) :
    Serves s peer event := by
  intro source' hsource'
  rw [h] at hsource'
  obtain rfl := Option.some.inj hsource'
  exact hroute

theorem SameRouting.resolve {s' : MediaIngress lib} (hs' : SameRouting s s') (ssrc : UInt32) :
    s'.resolveNackSourceSsrc peer ssrc = s.resolveNackSourceSsrc peer ssrc := by
  have hrooms : s'.roomManager = s.roomManager := congrArg Prod.fst hs'
  have hfeedback : s'.feedbackRoutes = s.feedbackRoutes :=
    congrArg (fun x => RouteTable.reverse x.2) hs'
  unfold resolveNackSourceSsrc resolvePublisher
  rw [hrooms, hfeedback]

theorem SameRouting.step {s' : MediaIngress lib} {x : MediaIngress lib × List (Event lib)}
    (hs' : SameRouting s s') (h : routing x.1 = routing s') (hx : ∀ e ∈ x.2, Serves s peer e) :
    Meets (SameRouting s) (Serves s peer) x :=
  ⟨h.trans hs', hx⟩

section Handlers

variable (hb : (table s).Backed routeKey) {s' : MediaIngress lib} (hs' : SameRouting s s')
include hs'

theorem handleSenderReport_serves (now : Nat) (sr : RtcpSenderReport) :
    Meets (SameRouting s) (Serves s peer) (handleSenderReport peer now s' sr) := by
  refine hs'.step (handleSenderReport_quiet peer now s' sr).routing fun e he => ?_
  simp only [handleSenderReport] at he
  split at he
  · simp at he
  · obtain ⟨sent, -, rfl⟩ := mem_report.mp he
    exact serves_of_none rfl

theorem handleReceptionReport_serves (now : Nat) (rr : RtcpReceptionReport) :
    Meets (SameRouting s) (Serves s peer) (handleReceptionReport now s' rr) := by
  refine hs'.step (handleReceptionReport_quiet now s' rr).routing fun e he => ?_
  simp only [handleReceptionReport] at he
  split at he <;> simp at he

theorem retransmit_serves {media source : UInt32} (hroute : HasRoute s source peer)
    (seq : UInt16) :
    Meets (SameRouting s) (Serves s peer) (retransmit peer media source s' seq) := by
  refine hs'.step (retransmit_quiet peer media source s' seq).routing fun e he => ?_
  simp only [retransmit] at he
  split at he
  · simp at he
  · split at he
    · simp at he
    · obtain ⟨sent, -, rfl⟩ := mem_report.mp he
      exact serves_of_source rfl hroute

include hb

theorem handleNack_serves {nack : RtcpNackFeedback}
    (h : nack.mediaSsrc ∈ publisherSsrcs s → HasRoute s nack.mediaSsrc peer) :
    Meets (SameRouting s) (Serves s peer) (handleNack peer s' nack) := by
  simp only [handleNack, hs'.resolve]
  split
  · exact Meets.pure hs'
  · rename_i hne
    have hroute := resolve_hasRoute hb h hne
    exact forEach_spec (fun s'' seq _ hs'' => retransmit_serves hs'' hroute seq) hs'

theorem handlePli_serves (now : Nat) {pli : RtcpPliFeedback}
    (h : pli.mediaSsrc ∈ publisherSsrcs s → HasRoute s pli.mediaSsrc peer) :
    Meets (SameRouting s) (Serves s peer) (handlePli peer now s' pli) := by
  refine hs'.step (handlePli_quiet peer now s' pli).routing fun e he => ?_
  simp only [handlePli, hs'.resolve] at he
  split at he
  · simp at he
  · rename_i hne
    have hroute := resolve_hasRoute hb h hne
    split at he
    · simp at he
    · split at he
      · simp at he
      · obtain ⟨sent, -, rfl⟩ := mem_report.mp he
        exact serves_of_source rfl hroute

theorem handleRembTarget_serves (io : DatagramIo) (remb : RtcpRembFeedback) {target : UInt32}
    (h : target ∈ publisherSsrcs s → HasRoute s target peer) :
    Meets (SameRouting s) (Serves s peer) (handleRembTarget peer io remb s' target) := by
  refine hs'.step (handleRembTarget_quiet peer io remb s' target).routing fun e he => ?_
  simp only [handleRembTarget, hs'.resolve] at he
  split at he
  · simp at he
  · rename_i hne
    have hroute := resolve_hasRoute hb h hne
    split at he
    · simp at he
    · simp only [andThen, List.mem_append, List.mem_singleton] at he
      rcases he with rfl | he
      · exact serves_of_source rfl hroute
      · split at he
        · simp at he
        · obtain ⟨sent, -, rfl⟩ := mem_report.mp he
          exact serves_of_none rfl

theorem handleControlPacket_serves {control : Bytes} (io : DatagramIo)
    (h : ∀ ssrc ∈ feedbackSsrcs control, ssrc ∈ publisherSsrcs s → HasRoute s ssrc peer) :
    Meets (SameRouting s) (Serves s peer) (s'.handleControlPacket control peer io) := by
  have hnack : ∀ nack ∈ RtcpHandler.parseNackFeedback control,
      nack.mediaSsrc ∈ publisherSsrcs s → HasRoute s nack.mediaSsrc peer := fun nack hn =>
    h _ (by simp only [feedbackSsrcs, List.mem_append, List.mem_map]; exact .inl (.inl ⟨_, hn, rfl⟩))
  have hpli : ∀ pli ∈ RtcpHandler.parsePliFeedback control,
      pli.mediaSsrc ∈ publisherSsrcs s → HasRoute s pli.mediaSsrc peer := fun pli hp =>
    h _ (by simp only [feedbackSsrcs, List.mem_append, List.mem_map]; exact .inl (.inr ⟨_, hp, rfl⟩))
  have hremb : ∀ remb ∈ RtcpHandler.parseRembFeedback control, ∀ target ∈ remb.targetSsrcs,
      target ∈ publisherSsrcs s → HasRoute s target peer := fun remb hr target ht =>
    h _ (by simp only [feedbackSsrcs, List.mem_append, List.mem_flatMap]; exact .inr ⟨_, hr, ht⟩)
  refine andThen_spec (forEach_spec (fun s sr _ hs => handleSenderReport_serves hs io.now sr) hs')
    fun s hs => ?_
  refine andThen_spec (forEach_spec (fun s rr _ hs => handleReceptionReport_serves hs io.now rr) hs)
    fun s hs => ?_
  refine andThen_spec (forEach_spec (fun s nack hn hs => handleNack_serves hb hs (hnack nack hn)) hs)
    fun s hs => ?_
  refine andThen_spec (forEach_spec (fun s pli hp hs => handlePli_serves hb hs io.now (hpli pli hp)) hs)
    fun s hs => ?_
  exact forEach_spec (fun s remb hr hs =>
    forEach_spec (fun s target ht hs => handleRembTarget_serves hb hs io remb (hremb remb hr target ht))
      hs) hs

end Handlers

/-! ## Datagrams -/

theorem handlePacket_serves (hb : (table s).Backed routeKey) {data : Bytes}
    (h : NamesOwnSources s data peer) {io : DatagramIo} {event : Event lib}
    (he : event ∈ (s.handlePacket data peer io).2) : Serves s peer event := by
  rcases handlePacket_events he with ⟨sent, rfl⟩ | he | ⟨control, hcontrol, he⟩
  · exact serves_of_none rfl
  · rcases handleMediaPacket_events he with ⟨ssrc, packet, -, rfl⟩ |
      ⟨s', source, route, bytes, sent, -, -, -, rfl⟩
    · exact serves_of_none rfl
    · exact serves_of_none rfl
  · have hsame : SameRouting s (mediaState s data peer) := (mediaState_quiet s data peer).routing
    exact (handleControlPacket_serves hb hsame io (h control hcontrol)).2 event he

/-- Feedback is served only for sources that its sender receives, as long as
it names a publisher's SSRC only if it receives that one; the routes do not
change meanwhile. -/
theorem feedback_hasRoute (hreach : Reachable s) (data : Bytes) (peer : Endpoint)
    (io : DatagramIo) (h : NamesOwnSources s data peer) {event : Event lib}
    (he : event ∈ (s.handlePacket data peer io).2) {source : UInt32}
    (hsource : feedbackSource event = some source) :
    HasRoute s source peer ∧
      (s.handlePacket data peer io).1.router.routes = s.router.routes := by
  have hb := backed_of_reachable hreach
  refine ⟨handlePacket_serves hb h he source hsource, ?_⟩
  rcases handlePacket_frame s data peer io with hf | heq
  · exact congrArg (fun x => RouteTable.forward x.2) hf.routing
  · rw [heq] at he
    obtain ⟨sent, rfl⟩ := handleStunPacket_answered he
    exact absurd hsource (by simp [feedbackSource])

/-! ## A listener and a stranger -/

def rtpPacket (ssrc : UInt32) (seq : UInt8) : Bytes :=
  ([0x80, 0x60, 0x00, seq, 0x00, 0x00, 0x00, 0x00] : Bytes) ++ u32Bytes ssrc ++ [1, 2, 3, 4]

def nackPacket (mediaSsrc : UInt32) (seq : UInt8) : Bytes :=
  ([0x81, 0xCD, 0x00, 0x03, 0x00, 0x00, 0x00, 0x01] : Bytes) ++ u32Bytes mediaSsrc ++
    [0x00, seq, 0x00, 0x00]

/-- Keying material: the client's key, the server's key and the two salts. -/
def keying : Bytes :=
  List.replicate 16 3 ++ List.replicate 16 5 ++ List.replicate 14 7 ++ List.replicate 14 9

/-- Answers of OpenSSL at the end of a handshake with the peer whose
certificate has the digest `AA`. -/
def handshaken : DatagramIo :=
  { now := 0, rembPlace := fun _ => 0
    dtls :=
      { written := true, handshake := .done, peerDigest := some [0xAA]
        srtpProfile := some "SRTP_AES128_CM_SHA1_80", outgoing := [], drained := true
        exporter := some keying } }

def dtlsRecord : Bytes := ([22, 0xFE, 0xFD] : Bytes) ++ List.replicate 10 0

def speaker : Endpoint := ⟨10, 0, 0, 8, 5004⟩

/-- `w` listens to `x` over SRTP, with SSRC 77, and misses a packet. -/
def missedRun : List Op :=
  [.createRoom 0 "b" 8, .bindPublisher 0 "b" "x" 30 0, listen "b" "w" "c2" "s2",
    .bindSubscriber 0 "b" "w" 77 0, .datagram (stunRequest "s2:c2") listener quietIo,
    .datagram dtlsRecord listener handshaken, .datagram (rtpPacket 30 1) speaker quietIo]

def missedState : MediaIngress tagLib := run step (MediaIngress.new 5000 16) missedRun

/-- The listener's NACK, under the client's key. -/
def listenerNack : Bytes :=
  mask (List.replicate 16 3) 8 (nackPacket 77 1) ++ List.replicate 14 3

theorem feedback_hasRoute_missedState :
    some 30 ∈ (missedState.handlePacket listenerNack listener quietIo).2.map feedbackSource ∧
    HasRoute missedState 30 listener := by
  have hserved : some 30 ∈
      (missedState.handlePacket listenerNack listener quietIo).2.map feedbackSource := by
    decide +kernel
  refine ⟨hserved, ?_⟩
  obtain ⟨event, he, hsource⟩ := List.mem_map.mp hserved
  have hnames : NamesOwnSources missedState listenerNack listener := by
    intro control hcontrol ssrc hssrc hpub
    have hplain : controlOf missedState listenerNack listener = some (nackPacket 77 1) := by
      decide +kernel
    rw [hplain] at hcontrol
    obtain rfl := Option.some.inj hcontrol
    have hforeign : ((feedbackSsrcs (nackPacket 77 1)).all fun ssrc =>
        ssrc ∉ publisherSsrcs missedState) = true := by
      decide +kernel
    exact absurd hpub (by simpa using List.all_eq_true.mp hforeign ssrc hssrc)
  exact (feedback_hasRoute ⟨5000, 16, missedRun, rfl⟩ listenerNack listener quietIo hnames he
    hsource).1

def stranger : Endpoint := ⟨10, 0, 0, 66, 6666⟩

/-- A NACK that names a publisher's SSRC is answered to an endpoint that
receives nothing. -/
theorem missedState_serves_stranger :
    Reachable missedState ∧
    some 30 ∈ (missedState.handlePacket (nackPacket 30 1) stranger quietIo).2.map feedbackSource ∧
    ¬ HasRoute missedState 30 stranger :=
  ⟨⟨5000, 16, missedRun, rfl⟩, by decide +kernel, by decide +kernel⟩

end MeetingSystem.Proof.Sfu
