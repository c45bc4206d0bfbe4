import MeetingSystem.Proof.Sfu.SetupAtomic
import MeetingSystem.Proof.Sfu.SourceTables

/-!
# The tables of the sources

Six tables of `MediaIngress` are keyed by the SSRC of a source, and the
feedback table leads to one. They are meant to hold publishers only, and the
transports to be those of rooms that are there (`LiveOnly`).

Removing a publisher takes its SSRCs out of all of them. Destroying a room
takes out nothing, and giving a publisher a new SSRC leaves the sender report
of the old one. `liveOnly_run`: nothing else goes wrong.
-/

namespace MeetingSystem.Proof.Sfu

open MeetingSystem.Framework MeetingSystem.Impl.Sfu MediaIngress

variable {lib : SrtpLib} {s : MediaIngress lib}

/-! ## The property -/

/-- The tables hold sources of publishers, and transports of rooms. -/
structure LiveOnly (s : MediaIngress lib) : Prop where
  sources : ∀ x, HasState s x → x ∈ publisherSsrcs s
  senderReports : ∀ x, (s.senderReports x).isSome = true → x ∈ publisherSsrcs s
  transports : ∀ key t, s.transportRegistry.transports.lookup key = some t →
    (s.roomManager.getRoomShared t.meetingId).isSome = true

/-! ## When it is kept -/

/-- Nothing is kept for a publisher or a transport of the room alone. -/
structure Deserted (s : MediaIngress lib) (m : String) : Prop where
  sources : ∀ room, s.roomManager.getRoomShared m = some room → ∀ x ∈ roomSources room,
    HasState s x ∨ (s.senderReports x).isSome = true → PublishedBy s (fun m' _ => m' ≠ m) x
  transports : ∀ key t, s.transportRegistry.transports.lookup key = some t → t.meetingId ≠ m

/-- The publisher gives up no SSRC that a sender report is kept for, unless
another publisher has it. -/
def KeepsReported (s : MediaIngress lib) (m u : String) (a v : UInt32) : Prop :=
  ∀ room p, s.roomManager.getRoomShared m = some room → room.publishers.lookup u = some p →
    ∀ x, p.hasSsrc x = true → (mergedPublisher u p a v).hasSsrc x = false →
      (s.senderReports x).isSome = true → PublishedBy s (fun m' u' => m' ≠ m ∨ u' ≠ u) x

def CleansUp (s : MediaIngress lib) : Op → Prop
  | .destroyRoom m => Deserted s m
  | .bindPublisher _ m u a v => KeepsReported s m u a v
  | .setupTransport req io => Registers s req io →
    KeepsReported s req.meetingId req.userId (assignedSsrcs req io).1 (assignedSsrcs req io).2
  | _ => True

/-! ## What the operations of the rooms keep -/

/-- The rooms are the same, and what is new in the tables is a publisher's. -/
theorem LiveOnly.of_rooms {s' : MediaIngress lib} (h : LiveOnly s)
    (hrooms : s'.roomManager = s.roomManager)
    (hsources : ∀ x, HasState s' x → HasState s x ∨ x ∈ publisherSsrcs s)
    (hreports : ∀ x, (s'.senderReports x).isSome = true →
      (s.senderReports x).isSome = true ∨ x ∈ publisherSsrcs s)
    (htransports : ∀ key t, s'.transportRegistry.transports.lookup key = some t →
      ∃ key' t', s.transportRegistry.transports.lookup key' = some t' ∧
        t'.meetingId = t.meetingId) : LiveOnly s' := by
  refine ⟨fun x hx => ?_, fun x hx => ?_, fun key t ht => ?_⟩
  · rw [publisherSsrcs_congr hrooms]
    exact (hsources x hx).elim (h.sources x) id
  · rw [publisherSsrcs_congr hrooms]
    exact (hreports x hx).elim (h.senderReports x) id
  · obtain ⟨key', t', ht', heq⟩ := htransports key t ht
    rw [hrooms, ← heq]
    exact h.transports key' t' ht'

/-- Only the transports are different. -/
theorem LiveOnly.withTransports (h : LiveOnly s) {r : TransportRegistry lib}
    (hr : ∀ key t, r.transports.lookup key = some t →
      ∃ key' t', s.transportRegistry.transports.lookup key' = some t' ∧
        t'.meetingId = t.meetingId) : LiveOnly (withTransports s r) :=
  h.of_rooms rfl (fun _ => .inl) (fun _ => .inl) hr

theorem LiveOnly.refresh (h : LiveOnly s) (m : String) : LiveOnly (s.refreshRoomRoutes m) := by
  apply h.of_rooms (refreshRoomRoutes_roomManager s m) (fun x => refreshRoomRoutes_hasState)
  · intro x hx
    rw [refreshRoomRoutes_senderReports] at hx
    exact .inl hx
  · intro key t ht
    rw [refreshRoomRoutes_transportRegistry] at ht
    exact ⟨key, t, ht, rfl⟩

/-- Subscribers of a room come, go or move, and the room is refreshed. -/
theorem LiveOnly.setSubscribers (h : LiveOnly s) {m : String} {room : Room}
    (hroom : s.roomManager.getRoomShared m = some room)
    (subscribers : AList fun _ : String => Subscriber) :
    LiveOnly ((s.setRoom m { room with subscribers }).refreshRoomRoutes m) := by
  have hlive (x : UInt32) (hx : x ∈ publisherSsrcs s) :
      x ∈ publisherSsrcs (s.setRoom m { room with subscribers }) := by
    obtain ⟨hne, hpub⟩ := mem_publisherSsrcs_iff.mp hx
    refine mem_publisherSsrcs_iff.mpr ⟨hne, publishedBy_setRoom hroom hpub (fun _ _ => id) ?_⟩
    intro u p hu hp _
    exact ⟨u, p, hu, hp, trivial⟩
  apply LiveOnly.refresh
  exact ⟨fun x hx => hlive x (h.sources x hx), fun x hx => hlive x (h.senderReports x hx),
    fun key t ht => keepsRooms_setRoom hroom _ _ (h.transports key t ht)⟩

theorem LiveOnly.bindSubscriber (h : LiveOnly s) (place : Nat) (m u : String) (a v : UInt32) :
    LiveOnly (s.bindSubscriber place m u a v).1 := by
  rcases bindSubscriber_cases s place m u a v with heq | ⟨room, sub, hroom, -, -, -, -, heq⟩
  · rw [heq]
    exact h
  · rw [heq]
    exact h.setSubscribers hroom _

theorem LiveOnly.removeSubscriber (h : LiveOnly s) (m u : String) :
    LiveOnly (s.removeSubscriber m u).1 := by
  rcases removeSubscriber_cases s m u with heq | ⟨room, hroom, -, heq⟩
  · rw [heq]
    exact h
  · rw [heq]
    exact h.setSubscribers hroom _

theorem LiveOnly.moveSubscriber (h : LiveOnly s) (m u kind text : String) :
    LiveOnly (s.moveSubscriber m u kind text) := by
  rcases moveSubscriber_cases s m u kind text with heq | ⟨room, sub, hroom, -, heq⟩
  · rw [heq]
    exact h
  · rw [heq]
    exact h.setSubscribers hroom _

theorem LiveOnly.removePublisher (h : LiveOnly s) (m u : String) :
    LiveOnly (s.removePublisher m u).1 := by
  rcases removePublisher_cases s m u with heq | ⟨room, p, hroom, hp, heq⟩
  · rw [heq]
    exact h
  · rw [heq]
    have hlive (x : UInt32) (hx : x ∈ publisherSsrcs s) (hout : x ≠ 0 → p.hasSsrc x = false) :
        x ∈ publisherSsrcs ((s.setRoom m { room with
          publishers := room.publishers.erase u }).forgetPublisher m u p) := by
      rw [publisherSsrcs_congr (forgetPublisher_roomManager _ m u p)]
      obtain ⟨hne, hpub⟩ := mem_publisherSsrcs_iff.mp hx
      refine mem_publisherSsrcs_iff.mpr ⟨hne, publishedBy_setRoom hroom hpub (fun _ _ => id) ?_⟩
      intro u' p' hu' hp' _
      have huu : u' ≠ u := by
        rintro rfl
        rw [hp] at hu'
        obtain rfl := Option.some.inj hu'
        rw [hout hne] at hp'
        cases hp'
      exact ⟨u', p', by rw [← hu']; exact AList.lookup_erase_ne huu, hp', trivial⟩
    refine ⟨fun x hx => ?_, fun x hx => ?_, fun key t ht => ?_⟩
    · obtain ⟨hx, hout⟩ := forgetPublisher_hasState hx
      exact hlive x (h.sources x hx) hout
    · obtain ⟨hx, hout⟩ := forgetPublisher_senderReports hx
      exact hlive x (h.senderReports x hx) hout
    · rw [forgetPublisher_roomManager]
      refine keepsRooms_setRoom hroom _ _ (h.transports key t ?_)
      rw [← ht]
      simp only [forgetPublisher, removePublisherRoutes_transportRegistry]
      rfl

theorem LiveOnly.bindPublisher (h : LiveOnly s) {m u : String} {a v : UInt32} (place : Nat)
    (hkeep : KeepsReported s m u a v) : LiveOnly (s.bindPublisher place m u a v).1 := by
  rcases bindPublisher_cases s place m u a v with
    heq | ⟨room, previous, merged, hroom, hprevious, hmerged, -, heq⟩
  · rw [heq]
    exact h
  · rw [heq]
    dsimp only
    rw [rebindPublisher_eq]
    apply LiveOnly.refresh
    refine ⟨fun x hx => ?_, fun x hx => ?_, fun key t ht => ?_⟩
    · rw [publisherSsrcs_congr (dropAndRegister_roomManager ..)]
      rcases dropAndRegister_hasState hx with ⟨hx, hkept⟩ | ⟨hne, hx⟩
      · have hlive : x ∈ publisherSsrcs s := h.sources x hx
        have hne := (mem_publisherSsrcs_iff.mp hlive).1
        rcases beside_or_own hroom hlive with hbeside | ⟨p, hu, hp⟩
        · exact bound_beside hroom place hne hbeside
        · obtain rfl : previous = p := by rw [hprevious, hu]; rfl
          apply bound_merged hroom place hne
          by_contra hgone
          exact hkept (mem_droppedSources hne hp (by simpa using hgone))
      · exact bound_merged hroom place hne hx
    · rw [publisherSsrcs_congr (dropAndRegister_roomManager ..)]
      rw [dropAndRegister_senderReports] at hx
      have hlive : x ∈ publisherSsrcs s := h.senderReports x hx
      have hne := (mem_publisherSsrcs_iff.mp hlive).1
      rcases beside_or_own hroom hlive with hbeside | ⟨p, hu, hp⟩
      · exact bound_beside hroom place hne hbeside
      · obtain rfl : previous = p := by rw [hprevious, hu]; rfl
        by_cases hx' : merged.hasSsrc x = true
        · exact bound_merged hroom place hne hx'
        · apply bound_beside hroom place hne
          refine hkeep room previous hroom hu x hp ?_ hx
          rw [← hmerged]
          simpa using hx'
    · rw [dropAndRegister_roomManager]
      refine keepsRooms_setRoom hroom _ _ (h.transports key t ?_)
      rw [← ht, dropAndRegister_transportRegistry]
      rfl

/-! ## Transports -/

theorem registerTransport_room {s₁ : MediaIngress lib} {req : SetupRequest} {io : SetupIo}
    (h : s.registerTransport req io = some s₁) :
    (s.roomManager.getRoomShared req.meetingId).isSome = true := by
  have hreg : Registers s req io := registerTransport_isSome.mp (by rw [h]; rfl)
  exact Option.isSome_iff_ne_none.mpr hreg.2.1

theorem LiveOnly.register (h : LiveOnly s) {s₁ : MediaIngress lib} {req : SetupRequest}
    {io : SetupIo} (hs₁ : s.registerTransport req io = some s₁) : LiveOnly s₁ := by
  have hroom := registerTransport_room hs₁
  obtain ⟨dtls, rfl⟩ := registerTransport_some hs₁
  refine ⟨h.sources, h.senderReports, fun key t ht => ?_⟩
  simp only [Sfu.withTransports, TransportRegistry.upsert, lookup_assign] at ht
  split at ht
  · obtain rfl := Option.some.inj ht
    exact hroom
  · exact h.transports key t ht

theorem KeepsReported.bindSubscriber {m u : String} {a v : UInt32} (h : KeepsReported s m u a v)
    (place : Nat) (m' u' : String) (a' v' : UInt32) :
    KeepsReported (s.bindSubscriber place m' u' a' v').1 m u a v := by
  rcases bindSubscriber_cases s place m' u' a' v' with heq | ⟨room', sub, hroom', -, -, -, -, heq⟩
  · rw [heq]
    exact h
  · rw [heq]
    intro room p hroom hp x hx hgone hreport
    rw [refreshRoomRoutes_roomManager, getRoomShared_setRoom hroom'] at hroom
    rw [refreshRoomRoutes_senderReports] at hreport
    have hbeside : PublishedBy s (fun m' u' => m' ≠ m ∨ u' ≠ u) x := by
      split at hroom
      · rename_i hm
        subst hm
        obtain rfl := Option.some.inj hroom
        exact h room' p hroom' hp x hx hgone hreport
      · exact h room p hroom hp x hx hgone hreport
    unfold PublishedBy
    rw [refreshRoomRoutes_roomManager]
    apply publishedBy_setRoom hroom' hbeside (fun _ _ => id)
    intro u₀ p₀ hu₀ hp₀ hother
    exact ⟨u₀, p₀, hu₀, hp₀, hother⟩

theorem LiveOnly.setupTransport (h : LiveOnly s) {req : SetupRequest} {io : SetupIo}
    (hkeep : Registers s req io → KeepsReported s req.meetingId req.userId
      (assignedSsrcs req io).1 (assignedSsrcs req io).2) :
    LiveOnly (s.setupTransport req io).1 := by
  rcases setupTransport_cases s req io with ⟨-, heq⟩ | ⟨s₁, hs₁, heq⟩
  · rw [heq]
    exact h
  · have hreg : Registers s req io := registerTransport_isSome.mp (by rw [hs₁]; rfl)
    have hbound := (h.register hs₁).bindSubscriber io.subscriberPlace req.meetingId req.userId
      (assignedSsrcs req io).1 (assignedSsrcs req io).2
    rcases heq with heq | heq
    · rw [heq]
      exact hbound
    · rw [heq]
      apply hbound.bindPublisher
      apply KeepsReported.bindSubscriber
      obtain ⟨dtls, rfl⟩ := registerTransport_some hs₁
      exact hkeep hreg

theorem LiveOnly.closeTransport (h : LiveOnly s) (m u : String) :
    LiveOnly (s.closeTransport m u).1 := by
  rcases closeTransport_cases s m u with heq | heq
  · rw [heq]
    exact h
  · rw [heq]
    apply LiveOnly.removePublisher
    apply LiveOnly.removeSubscriber
    apply h.withTransports
    intro key t ht
    exact ⟨key, t, (lookup_retain.mp ht).1, rfl⟩

/-! ## Datagrams -/

theorem LiveOnly.sameOwners (h : LiveOnly s) {r : TransportRegistry lib}
    (hr : SameOwners s.transportRegistry r) : LiveOnly (Sfu.withTransports s r) := by
  apply h.withTransports
  intro key t ht
  obtain ⟨t', ht', hid⟩ := hr.symm.lookup ht
  exact ⟨key, t', ht', congrArg Prod.fst hid⟩

theorem LiveOnly.sendWith
    {protect : TransportRegistry lib → Endpoint → Bytes → Option Bytes × TransportRegistry lib}
    (hp : ∀ r e packet, SameOwners r (protect r e packet).2) (h : LiveOnly s) (e : Endpoint)
    (packet : Bytes) : LiveOnly (s.sendWith protect e packet).1 := by
  simp only [MediaIngress.sendWith]
  split
  · exact h.sameOwners (hp _ _ _)
  · exact h

theorem LiveOnly.sendRtp (h : LiveOnly s) (e : Endpoint) (packet : Bytes) :
    LiveOnly (s.sendRtp e packet).1 :=
  h.sendWith (transformAt_sameOwners protectRtp_identity 1) ..

theorem LiveOnly.sendRtcp (h : LiveOnly s) (e : Endpoint) (packet : Bytes) :
    LiveOnly (s.sendRtcp e packet).1 :=
  h.sendWith (transformAt_sameOwners protectRtcp_identity 1) ..

/-- A loop whose body keeps the property. -/
theorem LiveOnly.forEach {A : Type} {f : MediaIngress lib → A → MediaIngress lib × List (Event lib)}
    (hf : ∀ s a, LiveOnly s → LiveOnly (f s a).1) (h : LiveOnly s) (as : List A) :
    LiveOnly (Framework.forEach f s as).1 :=
  forEach_rel (R := fun s s' => LiveOnly s → LiveOnly s') (fun _ => id)
    (fun hs hs' h => hs' (hs h)) hf s as h

/-- What the tables hold for a source, by key. -/
def sourceState (s : MediaIngress lib) (x : UInt32) :=
  (s.router.publishers x, s.publisherEndpoints x, s.pliForwardBySource x,
    s.rembFeedbackBySource x, s.estimatedRembBySource x, s.senderReports x)

/-- The tables change at a publisher's source. -/
theorem LiveOnly.updateSource {s' : MediaIngress lib} (h : LiveOnly s) {y : UInt32}
    (hlive : y ∈ publisherSsrcs s) (hrooms : s'.roomManager = s.roomManager)
    (hstate : ∀ x ≠ y, sourceState s' x = sourceState s x)
    (hfeedback : s'.feedbackRoutes = s.feedbackRoutes)
    (htransports : s'.transportRegistry = s.transportRegistry) : LiveOnly s' := by
  refine h.of_rooms hrooms (fun x hx => ?_) (fun x hx => ?_) (fun key t ht => ?_)
  · by_cases hxy : x = y
    · rw [hxy]
      exact .inr hlive
    · left
      obtain ⟨hrouter, hendpoint, hpli, hremb, hestimate, -⟩ : _ ∧ _ ∧ _ ∧ _ ∧ _ ∧ _ := by
        simpa only [sourceState, Prod.mk.injEq] using hstate x hxy
      simpa only [HasState, hrouter, hendpoint, hpli, hremb, hestimate, hfeedback] using hx
  · by_cases hxy : x = y
    · rw [hxy]
      exact .inr hlive
    · obtain ⟨-, -, -, -, -, hreport⟩ : _ ∧ _ ∧ _ ∧ _ ∧ _ ∧ _ := by
        simpa only [sourceState, Prod.mk.injEq] using hstate x hxy
      rw [hreport] at hx
      exact .inl hx
  · rw [htransports] at ht
    exact ⟨key, t, ht, rfl⟩

theorem LiveOnly.handleSenderReport (h : LiveOnly s) (peer : Endpoint) (now : Nat)
    (sr : RtcpSenderReport) : LiveOnly (handleSenderReport peer now s sr).1 := by
  simp only [MediaIngress.handleSenderReport]
  split
  · exact h
  · rename_i hok
    have hlive : sr.senderSsrc ∈ publisherSsrcs s := by
      rw [← resolvePublisher_isSome, Option.isSome_iff_ne_none]
      simpa using (not_or.mp hok).1
    apply LiveOnly.sendRtcp
    refine h.updateSource hlive rfl (fun x hx => ?_) rfl rfl
    simp only [sourceState, Function.update_of_ne hx]

theorem LiveOnly.handleReceptionReport (h : LiveOnly s) (now : Nat) (rr : RtcpReceptionReport) :
    LiveOnly (handleReceptionReport now s rr).1 := by
  simp only [MediaIngress.handleReceptionReport]
  split
  · exact h
  · exact ⟨h.sources, h.senderReports, h.transports⟩

theorem LiveOnly.retransmit (h : LiveOnly s) (peer : Endpoint) (media source : UInt32)
    (seq : UInt16) : LiveOnly (retransmit peer media source s seq).1 := by
  simp only [MediaIngress.retransmit]
  split
  · exact h
  · split
    · exact h
    · exact h.sendRtp ..

theorem LiveOnly.handleNack (h : LiveOnly s) (peer : Endpoint) (nack : RtcpNackFeedback) :
    LiveOnly (handleNack peer s nack).1 := by
  simp only [MediaIngress.handleNack]
  split
  · exact h
  · exact h.forEach (fun s seq hs => hs.retransmit peer _ _ seq) _

/-- Feedback is for a publisher's source. -/
theorem LiveOnly.resolves (h : LiveOnly s) {peer : Endpoint} {media : UInt32}
    (hne : s.resolveNackSourceSsrc peer media ≠ 0) :
    s.resolveNackSourceSsrc peer media ∈ publisherSsrcs s := by
  unfold resolveNackSourceSsrc at hne ⊢
  split
  · rename_i hzero
    rw [if_pos hzero] at hne
    exact absurd rfl hne
  · rename_i hzero
    rw [if_neg hzero] at hne
    split
    · rename_i hpub
      exact resolvePublisher_isSome.mp hpub
    · rename_i hpub
      rw [if_neg hpub] at hne
      cases hkey : s.feedbackRoutes (feedbackRouteKey peer media) with
      | none =>
        rw [hkey] at hne
        exact absurd rfl hne
      | some source => exact h.sources source (.inr (.inl ⟨_, hkey⟩))

theorem LiveOnly.shouldForwardPli (h : LiveOnly s) {source : UInt32}
    (hlive : source ∈ publisherSsrcs s) (now : Nat) :
    LiveOnly (s.shouldForwardPli source now).1 := by
  simp only [MediaIngress.shouldForwardPli]
  split
  · exact h
  · refine h.updateSource hlive rfl (fun x hx => ?_) rfl rfl
    simp only [sourceState, Function.update_of_ne hx]

theorem LiveOnly.handlePli (h : LiveOnly s) (peer : Endpoint) (now : Nat) (pli : RtcpPliFeedback) :
    LiveOnly (handlePli peer now s pli).1 := by
  simp only [MediaIngress.handlePli]
  split
  · exact h
  · rename_i hne
    have hpli := h.shouldForwardPli (h.resolves hne) now
    split
    · exact hpli
    · split
      · exact hpli
      · exact hpli.sendRtcp ..

theorem LiveOnly.selectAggregatedRemb (h : LiveOnly s) {source : UInt32}
    (hlive : source ∈ publisherSsrcs s) (peer : Endpoint) (remb : RtcpRembFeedback)
    (io : DatagramIo) : LiveOnly (s.selectAggregatedRembForSource source peer remb io).1 := by
  simp only [selectAggregatedRembForSource]
  split
  · exact h
  · split
    · refine h.updateSource hlive rfl (fun x hx => ?_) rfl rfl
      simp only [sourceState, Function.update_of_ne hx]
    · refine h.updateSource hlive rfl (fun x hx => ?_) rfl rfl
      simp only [sourceState, Function.update_of_ne hx]

theorem LiveOnly.handleRembTarget (h : LiveOnly s) (peer : Endpoint) (io : DatagramIo)
    (remb : RtcpRembFeedback) (target : UInt32) :
    LiveOnly (handleRembTarget peer io remb s target).1 := by
  simp only [MediaIngress.handleRembTarget]
  split
  · exact h
  · rename_i hne
    split
    · exact h
    · have hremb := h.selectAggregatedRemb (h.resolves hne) peer remb io
      simp only [andThen]
      split
      · exact hremb
      · exact hremb.sendRtcp ..

theorem LiveOnly.handleControlPacket (h : LiveOnly s) (data : Bytes) (peer : Endpoint)
    (io : DatagramIo) : LiveOnly (s.handleControlPacket data peer io).1 := by
  simp only [MediaIngress.handleControlPacket, andThen]
  apply LiveOnly.forEach fun s remb hs =>
    hs.forEach (fun s target hs => hs.handleRembTarget peer io remb target) remb.targetSsrcs
  apply LiveOnly.forEach fun s pli hs => hs.handlePli peer io.now pli
  apply LiveOnly.forEach fun s nack hs => hs.handleNack peer nack
  apply LiveOnly.forEach fun s rr hs => hs.handleReceptionReport io.now rr
  exact h.forEach (fun s sr hs => hs.handleSenderReport peer io.now sr) _

theorem LiveOnly.observed (h : LiveOnly s) {header : RtpHeader}
    (hlive : header.ssrc ∈ publisherSsrcs s) (packet : Bytes) (location : PublisherLocation)
    (peer : Endpoint) :
    LiveOnly { s.observe location header packet.length peer with
      router := ((s.observe location header packet.length peer).router.route packet).1 } := by
  have hobserved : LiveOnly (s.observe location header packet.length peer) := by
    refine h.updateSource hlive rfl (fun x hx => ?_) rfl rfl
    simp only [sourceState, observe, Function.update_of_ne hx]
  refine hobserved.of_rooms rfl (fun x hx => .inl ?_) (fun x => .inl)
    (fun key t ht => ⟨key, t, ht, rfl⟩)
  simpa only [HasState, route_isSome] using hx

theorem LiveOnly.routeMedia (h : LiveOnly s) (packet : Bytes) (header : RtpHeader)
    (peer : Endpoint) : LiveOnly (s.routeMedia packet header peer).1 := by
  simp only [MediaIngress.routeMedia]
  split
  · exact h
  · rename_i location hlocation
    have hlive : header.ssrc ∈ publisherSsrcs s := by
      rw [← resolvePublisher_isSome, hlocation]
      rfl
    exact (h.observed hlive packet location peer).forEach
      (fun s call hs => hs.sendRtp call.1 call.2) _

theorem LiveOnly.handleMediaPacket (h : LiveOnly s) (data : Bytes) (peer : Endpoint) :
    LiveOnly (s.handleMediaPacket data peer).1 := by
  have hunprotect : LiveOnly (Sfu.withTransports s
      (s.transportRegistry.unprotectRtpFromEndpoint peer data).2) :=
    h.sameOwners (transformAt_sameOwners unprotectRtp_identity 12 _ _ _)
  simp only [MediaIngress.handleMediaPacket]
  split
  · exact h
  · split
    · exact h
    · split
      · exact h.routeMedia ..
      · split
        · exact h
        · split
          · exact hunprotect
          · split
            · exact hunprotect
            · exact hunprotect.routeMedia ..

theorem LiveOnly.handleRtcpOrMedia (h : LiveOnly s) (data : Bytes) (peer : Endpoint)
    (io : DatagramIo) : LiveOnly (s.handleRtcpOrMedia data peer io).1 := by
  have hunprotect : LiveOnly (Sfu.withTransports s
      (s.transportRegistry.unprotectRtcpFromEndpoint peer data).2) :=
    h.sameOwners (transformAt_sameOwners unprotectRtcp_identity 1 _ _ _)
  simp only [MediaIngress.handleRtcpOrMedia]
  split
  · split
    · exact hunprotect
    · split
      · exact hunprotect.handleControlPacket ..
      · exact hunprotect.handleMediaPacket ..
  · split
    · exact h.handleControlPacket ..
    · exact h.handleMediaPacket ..

theorem LiveOnly.handleStunPacket (h : LiveOnly s) (data : Bytes) (peer : Endpoint) :
    LiveOnly (s.handleStunPacket data peer).1 := by
  rcases handleStunPacket_cases s data peer with heq | ⟨key, t, hfind, heq⟩
  · rw [heq]
    exact h
  · have ht := (find_some hfind).1
    rw [heq]
    apply LiveOnly.moveSubscriber
    apply h.withTransports
    intro key' t' ht'
    rw [lookup_set ht] at ht'
    split at ht'
    · obtain rfl := Option.some.inj ht'
      exact ⟨key, t, ht, rfl⟩
    · exact ⟨key', t', ht', rfl⟩

theorem LiveOnly.handlePacket (h : LiveOnly s) (data : Bytes) (peer : Endpoint)
    (io : DatagramIo) : LiveOnly (s.handlePacket data peer io).1 := by
  simp only [MediaIngress.handlePacket]
  split
  · exact h.handleStunPacket ..
  · split
    · simp only [handleDtlsPacket]
      split <;> exact h.sameOwners (handleDtlsFromEndpoint_sameOwners _ _ _ _)
    · split
      · exact h.handleRtcpOrMedia ..
      · exact h.handleMediaPacket ..

theorem LiveOnly.sendEstimatedRemb (h : LiveOnly s) (m u : String) (kbps : UInt32) (now : Nat) :
    LiveOnly (s.sendEstimatedRembToPublisher m u kbps now).1 := by
  simp only [sendEstimatedRembToPublisher]
  split
  · exact h
  · split
    · exact h
    · rename_i publisher hpublisher
      have hhas : publisher.hasSsrc (if publisher.videoSsrc ≠ 0 then publisher.videoSsrc
          else publisher.audioSsrc) = true := by
        split <;> simp [Publisher.hasSsrc]
      generalize (if publisher.videoSsrc ≠ 0 then publisher.videoSsrc
        else publisher.audioSsrc) = source at hhas ⊢
      split
      · exact h
      · rename_i e he
        split
        · exact h
        · have hne : source ≠ 0 := by
            rintro rfl
            simp [resolvePublisherEndpoint] at he
          apply LiveOnly.sendRtcp
          refine h.updateSource (mem_publisherSsrcs_of_publisher hpublisher hne hhas) rfl
            (fun x hx => ?_) rfl rfl
          simp only [sourceState, Function.update_of_ne hx]

/-! ## Whole runs -/

theorem LiveOnly.createRoom (h : LiveOnly s) (place : Nat) (m : String) (n : Nat) :
    LiveOnly { s with roomManager := s.roomManager.createRoom place m n } := by
  have hlive (x : UInt32) (hx : x ∈ publisherSsrcs s) :
      x ∈ publisherSsrcs { s with roomManager := s.roomManager.createRoom place m n } :=
    mem_publisherSsrcs_of_lookups hx fun m' room hroom =>
      ⟨room, createRoom_lookup hroom place m n, fun _ => rfl⟩
  refine ⟨fun x hx => hlive x (h.sources x hx), fun x hx => hlive x (h.senderReports x hx),
    fun key t ht => ?_⟩
  obtain ⟨room, hroom⟩ := Option.isSome_iff_exists.mp (h.transports key t ht)
  exact Option.isSome_iff_exists.mpr ⟨room, createRoom_getRoomShared hroom place m n⟩

theorem LiveOnly.destroyRoom (h : LiveOnly s) {m : String} (hdeserted : Deserted s m) :
    LiveOnly { s with roomManager := s.roomManager.destroyRoom m } := by
  by_cases hm : m = ""
  · rw [RoomManager.destroyRoom, if_pos hm]
    exact h
  have hrooms (m' : String) (hm' : m' ≠ m) :
      (s.roomManager.destroyRoom m).rooms.lookup m' = s.roomManager.rooms.lookup m' := by
    rw [RoomManager.destroyRoom, if_neg hm]
    exact AList.lookup_erase_ne hm'
  have helsewhere (x : UInt32) (hx : x ≠ 0) (hpub : PublishedBy s (fun m' _ => m' ≠ m) x) :
      x ∈ publisherSsrcs { s with roomManager := s.roomManager.destroyRoom m } := by
    obtain ⟨m', room, u, p, hroom, hu, hp, hm'⟩ := hpub
    exact mem_publisherSsrcs_iff.mpr
      ⟨hx, m', room, u, p, (hrooms m' hm').trans hroom, hu, hp, trivial⟩
  have hlive (x : UInt32) (hkept : HasState s x ∨ (s.senderReports x).isSome = true)
      (hx : x ∈ publisherSsrcs s) :
      x ∈ publisherSsrcs { s with roomManager := s.roomManager.destroyRoom m } := by
    have hne := (mem_publisherSsrcs_iff.mp hx).1
    apply helsewhere x hne
    obtain ⟨m', room, hroom, hx'⟩ := mem_publisherSsrcs.mp hx
    by_cases hm' : m' = m
    · subst hm'
      exact hdeserted.sources room (getRoomShared_some.mpr ⟨hm, hroom⟩) x hx' hkept
    · obtain ⟨-, u, p, hu, hp⟩ := mem_roomSources.mp hx'
      exact ⟨m', room, u, p, hroom, hu, hp, hm'⟩
  refine ⟨fun x hx => hlive x (.inl hx) (h.sources x hx),
    fun x hx => hlive x (.inr hx) (h.senderReports x hx), fun key t ht => ?_⟩
  obtain ⟨room, hroom⟩ := Option.isSome_iff_exists.mp (h.transports key t ht)
  obtain ⟨hne, hlookup⟩ := getRoomShared_some.mp hroom
  have hother := hrooms t.meetingId (hdeserted.transports key t ht)
  exact Option.isSome_iff_exists.mpr ⟨room, getRoomShared_some.mpr ⟨hne, hother.trans hlookup⟩⟩

theorem LiveOnly.reorder (h : LiveOnly s) (which : Reorder) : LiveOnly (s.reorder which) := by
  have hlive (x : UInt32) (hx : x ∈ publisherSsrcs s) : x ∈ publisherSsrcs (s.reorder which) := by
    apply mem_publisherSsrcs_of_lookups hx
    intro m room hroom
    obtain ⟨room', hroom', hsame⟩ := reorder_lookup hroom which
    exact ⟨room', hroom', hsame.1⟩
  refine ⟨fun x hx => hlive x (h.sources x (reorder_hasState hx)), fun x hx => ?_,
    fun key t ht => ?_⟩
  · rw [reorder_senderReports] at hx
    exact hlive x (h.senderReports x hx)
  · obtain ⟨t', ht', hid⟩ := (reorder_sameOwners s which).symm.lookup ht
    obtain ⟨room, hroom⟩ := Option.isSome_iff_exists.mp (h.transports key t' ht')
    obtain ⟨room', hroom', -⟩ := reorder_getRoomShared hroom which
    have hm : t'.meetingId = t.meetingId := congrArg Prod.fst hid
    rw [← hm, hroom']
    rfl

/-- One operation. -/
theorem liveOnly_step {o : Op} (hok : CleansUp s o) (h : LiveOnly s) : LiveOnly (s.step o) := by
  cases o with
  | createRoom place m n => exact h.createRoom place m n
  | destroyRoom m => exact h.destroyRoom hok
  | bindPublisher place m u a v => exact h.bindPublisher place hok
  | bindSubscriber place m u a v => exact h.bindSubscriber place m u a v
  | setupTransport req io => exact h.setupTransport hok
  | closeTransport m u => exact h.closeTransport m u
  | removePublisher m u => exact h.removePublisher m u
  | removeSubscriber m u => exact h.removeSubscriber m u
  | sendEstimatedRemb m u kbps now => exact h.sendEstimatedRemb m u kbps now
  | datagram data peer io => exact h.handlePacket data peer io
  | reorder which => exact h.reorder which

theorem liveOnly_new (port : UInt16) (nackCapacity : Nat) :
    LiveOnly (MediaIngress.new port nackCapacity : MediaIngress lib) := by
  refine ⟨fun x hx => ?_, fun x hx => ?_, fun key t ht => ?_⟩
  · simp [HasState, MediaIngress.new, RtpRouter.new] at hx
  · simp [MediaIngress.new] at hx
  · simp [MediaIngress.new, TransportRegistry.new] at ht

/-- In every state of a run whose operations all clean up, the tables hold
publishers' sources and the transports of rooms. -/
theorem liveOnly_run (port : UInt16) (nackCapacity : Nat) (os : List Op)
    (h : Along step CleansUp (MediaIngress.new port nackCapacity : MediaIngress lib) os) :
    LiveOnly (run step (MediaIngress.new port nackCapacity : MediaIngress lib) os) :=
  Along.inv (fun _ _ hok hs => liveOnly_step hok hs) (liveOnly_new port nackCapacity) h

/-- The sender report of a source, with nothing sent so far. -/
def senderReport (ssrc : UInt32) : Bytes :=
  [0x80, 200, 0, 6] ++ u32Bytes ssrc ++ List.replicate 20 0

/-- `u` publishes in the room `a` and sends a report. -/
def reportRun : List Op :=
  [.createRoom 0 "a" 8, .bindPublisher 0 "a" "u" 10 0, .datagram (senderReport 10) listener quietIo]

/-- `u` has left. -/
def emptied : MediaIngress tagLib :=
  run step (.new 5000 16) (reportRun ++ [.removePublisher "a" "u"])

theorem emptied_deserted : Deserted emptied "a" := by
  refine ⟨fun room hroom x hx => ?_, fun key t ht => ?_⟩
  · have hnone : (emptied.roomManager.getRoomShared "a").map roomSources = some [] := by
      decide +kernel
    rw [hroom, Option.map_some, Option.some.injEq] at hnone
    rw [hnone] at hx
    cases hx
  · have hnone : emptied.transportRegistry.transports.keys = [] := by decide +kernel
    have hkey := AList.mem_keys.mp (mem_of_lookup ht)
    rw [hnone] at hkey
    cases hkey

theorem liveOnly_run_reportRun :
    LiveOnly (run step (MediaIngress.new 5000 16 : MediaIngress tagLib)
      (reportRun ++ [.removePublisher "a" "u", .destroyRoom "a"])) := by
  refine liveOnly_run 5000 16 _ ⟨trivial, ?_, trivial, trivial, emptied_deserted, trivial⟩
  intro room p hroom hp x hx hgone hreport
  exact absurd hreport Bool.false_ne_true

/-- A room that is destroyed leaves its publishers in the tables, and a
publisher that changes its SSRC the old sender report. -/
theorem reportRun_leaks :
    ¬ LiveOnly (run step (MediaIngress.new 5000 16 : MediaIngress tagLib)
      (reportRun ++ [.destroyRoom "a"])) ∧
    ¬ LiveOnly (run step (MediaIngress.new 5000 16 : MediaIngress tagLib)
      (reportRun ++ [.bindPublisher 0 "a" "u" 11 0])) := by
  constructor
  · intro h
    have hlive := h.sources 10 (.inl (by decide +kernel))
    revert hlive
    decide +kernel
  · intro h
    have hlive := h.senderReports 10 (by decide +kernel)
    revert hlive
    decide +kernel

end MeetingSystem.Proof.Sfu
