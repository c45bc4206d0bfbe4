import MeetingSystem.Proof.Sfu.Events
import MeetingSystem.Proof.Sfu.SourceTables

/-!
# What has been noted about feedback

Two tables hold what the media plane remembers of PLIs and REMBs, by source.
Only the feedback itself adds to them: all other operations, and everything
else in a control packet, keep what a table has for a source (a hash table may
change its order) or forget it (`onlyForgets_step`, `handlePacket_control`).
-/

namespace MeetingSystem.Proof.Sfu

open MeetingSystem.Framework MeetingSystem.Impl.Sfu MediaIngress

variable {lib : SrtpLib} {s s' s'' : MediaIngress lib}

/-- What is noted about a source is the same after it, or gone. -/
def OnlyForgets (s s' : MediaIngress lib) : Prop :=
  ∀ x, s'.pliForwardBySource x = s.pliForwardBySource x ∧
      (s'.rembFeedbackBySource x).entries.Perm (s.rembFeedbackBySource x).entries ∨
    s'.pliForwardBySource x = none ∧ s'.rembFeedbackBySource x = ∅

/-- Both tables. -/
def feedbackTables (s : MediaIngress lib) :=
  (s.pliForwardBySource, s.rembFeedbackBySource)

theorem OnlyForgets.of_eq (h : feedbackTables s' = feedbackTables s) : OnlyForgets s s' := by
  obtain ⟨hpli, hremb⟩ : _ ∧ _ := by simpa only [feedbackTables, Prod.mk.injEq] using h
  exact fun x => .inl ⟨by rw [hpli], by rw [hremb]⟩

theorem OnlyForgets.refl (s : MediaIngress lib) : OnlyForgets s s := .of_eq rfl

theorem OnlyForgets.trans (h : OnlyForgets s s') (h' : OnlyForgets s' s'') : OnlyForgets s s'' := by
  intro x
  rcases h' x with ⟨hpli', hremb'⟩ | hgone'
  · rcases h x with ⟨hpli, hremb⟩ | ⟨hpli, hremb⟩
    · exact .inl ⟨hpli'.trans hpli, hremb'.trans hremb⟩
    · rw [hremb] at hremb'
      exact .inr ⟨hpli'.trans hpli, AList.ext hremb'.eq_nil⟩
  · exact .inr hgone'

/-! ## Routes and rooms -/

theorem onlyForgets_removePublisherRoutes (s : MediaIngress lib) (source : UInt32) :
    OnlyForgets s (s.removePublisherRoutes source) := by
  unfold removePublisherRoutes
  split
  · exact .refl s
  · intro x
    by_cases hx : x = source
    · subst hx
      exact .inr ⟨Function.update_self .., Function.update_self ..⟩
    · refine .inl ⟨Function.update_of_ne hx .., ?_⟩
      simp only [Function.update_of_ne hx]
      exact .refl _

theorem feedbackTables_refreshRoomRoutes (s : MediaIngress lib) (m : String) :
    feedbackTables (s.refreshRoomRoutes m) = feedbackTables s :=
  refreshRoomRoutes_eq feedbackTables (fun _ _ _ => rfl) (fun _ _ => rfl) s m

theorem onlyForgets_dropAndRegister (s : MediaIngress lib) (previous merged : Publisher) :
    OnlyForgets s (dropAndRegister s previous merged) := by
  have hremove : ∀ (p : Prop) [Decidable p] (s : MediaIngress lib) (source : UInt32),
      OnlyForgets s (if p then s.removePublisherRoutes source else s) := by
    intro p _ s source
    split
    · exact onlyForgets_removePublisherRoutes s source
    · exact .refl s
  have hregister : ∀ (p : Prop) [Decidable p] (s : MediaIngress lib) (source : UInt32),
      OnlyForgets s (if p then s.registerPublisher source else s) := by
    intro p _ s source
    split <;> exact .of_eq rfl
  exact (((hremove _ s _).trans (hremove _ _ _)).trans (hregister _ _ _)).trans (hregister _ _ _)

theorem onlyForgets_bindPublisher (s : MediaIngress lib) (place : Nat) (m u : String)
    (a v : UInt32) : OnlyForgets s (s.bindPublisher place m u a v).1 := by
  rcases bindPublisher_cases s place m u a v with heq | ⟨room, previous, merged, -, -, -, -, heq⟩
  · rw [heq]
    exact .refl s
  · rw [heq, rebindPublisher_eq]
    generalize hroom : s.setRoom m _ = s₁
    have hset : OnlyForgets s s₁ := by
      rw [← hroom]
      exact .of_eq rfl
    exact (hset.trans (onlyForgets_dropAndRegister s₁ previous merged)).trans
      (.of_eq (feedbackTables_refreshRoomRoutes _ m))

theorem feedbackTables_bindSubscriber (s : MediaIngress lib) (place : Nat) (m u : String)
    (a v : UInt32) : feedbackTables (s.bindSubscriber place m u a v).1 = feedbackTables s := by
  rcases bindSubscriber_cases s place m u a v with heq | ⟨room, sub, -, -, -, -, -, heq⟩
  · rw [heq]
  · rw [heq, feedbackTables_refreshRoomRoutes]
    rfl

theorem feedbackTables_removeSubscriber (s : MediaIngress lib) (m u : String) :
    feedbackTables (s.removeSubscriber m u).1 = feedbackTables s := by
  rcases removeSubscriber_cases s m u with heq | ⟨room, -, -, heq⟩
  · rw [heq]
  · rw [heq, feedbackTables_refreshRoomRoutes]
    rfl

theorem onlyForgets_removePublisher (s : MediaIngress lib) (m u : String) :
    OnlyForgets s (s.removePublisher m u).1 := by
  rcases removePublisher_cases s m u with heq | ⟨room, p, -, -, heq⟩
  · rw [heq]
    exact .refl s
  · rw [heq]
    generalize hroom : s.setRoom m _ = s₁
    have hset : OnlyForgets s s₁ := by
      rw [← hroom]
      exact .of_eq rfl
    refine hset.trans (.trans (onlyForgets_removePublisherRoutes s₁ p.audioSsrc) ?_)
    exact (onlyForgets_removePublisherRoutes _ p.videoSsrc).trans (.of_eq rfl)

theorem onlyForgets_setupTransport (s : MediaIngress lib) (req : SetupRequest) (io : SetupIo) :
    OnlyForgets s (s.setupTransport req io).1 := by
  rcases setupTransport_cases s req io with ⟨-, heq⟩ | ⟨s₁, hs₁, hcases⟩
  · rw [heq]
    exact .refl s
  · obtain ⟨dtls, heq⟩ := registerTransport_some hs₁
    have hregistered : OnlyForgets s s₁ := by
      rw [heq]
      exact .of_eq rfl
    have hsubscriber : OnlyForgets s (setupSubscriber s₁ req io) :=
      hregistered.trans (.of_eq (feedbackTables_bindSubscriber s₁ ..))
    rcases hcases with hcase | hcase
    · rwa [hcase]
    · rw [hcase]
      exact hsubscriber.trans (onlyForgets_bindPublisher _ _ _ _ _ _)

theorem onlyForgets_closeTransport (s : MediaIngress lib) (m u : String) :
    OnlyForgets s (s.closeTransport m u).1 := by
  rcases closeTransport_cases s m u with heq | heq
  · rw [heq]
    exact .refl s
  · rw [heq]
    refine OnlyForgets.trans (.of_eq ?_) (onlyForgets_removePublisher _ m u)
    rw [feedbackTables_removeSubscriber]
    rfl

theorem feedbackTables_moveSubscriber (s : MediaIngress lib) (m u kind text : String) :
    feedbackTables (s.moveSubscriber m u kind text) = feedbackTables s := by
  rcases moveSubscriber_cases s m u kind text with heq | ⟨room, sub, -, -, heq⟩
  · rw [heq]
  · rw [heq, feedbackTables_refreshRoomRoutes]
    rfl

theorem onlyForgets_reorder (s : MediaIngress lib) (which : Reorder) :
    OnlyForgets s (s.reorder which) := by
  cases which with
  | rooms | transports => exact .of_eq rfl
  | publishers m u | subscribers m u =>
    simp only [MediaIngress.reorder, reorderRoom]
    split <;> exact .of_eq rfl
  | rembFeedback source key =>
    intro x
    refine .inl ⟨rfl, ?_⟩
    by_cases hx : x = source
    · subst hx
      simp only [MediaIngress.reorder, Function.update_self]
      exact entries_toFront_perm key _
    · simp only [MediaIngress.reorder, Function.update_of_ne hx]
      exact .refl _

/-! ## Datagrams -/

theorem feedbackTables_sendWith
    (protect : TransportRegistry lib → Endpoint → Bytes → Option Bytes × TransportRegistry lib)
    (s : MediaIngress lib) (e : Endpoint) (packet : Bytes) :
    feedbackTables (s.sendWith protect e packet).1 = feedbackTables s := by
  simp only [sendWith]
  split <;> rfl

theorem feedbackTables_forEach {A : Type}
    {f : MediaIngress lib → A → MediaIngress lib × List (Event lib)}
    (hf : ∀ s a, feedbackTables (f s a).1 = feedbackTables s) (s : MediaIngress lib) (as : List A) :
    feedbackTables (forEach f s as).1 = feedbackTables s :=
  forEach_rel (R := fun s s' => feedbackTables s' = feedbackTables s) (fun _ => rfl)
    (fun h h' => h'.trans h) hf s as

theorem feedbackTables_handleSenderReport (peer : Endpoint) (now : Nat) (s : MediaIngress lib)
    (sr : RtcpSenderReport) :
    feedbackTables (handleSenderReport peer now s sr).1 = feedbackTables s := by
  simp only [handleSenderReport]
  split
  · rfl
  · exact (feedbackTables_sendWith ..).trans rfl

theorem feedbackTables_handleReceptionReport (now : Nat) (s : MediaIngress lib)
    (rr : RtcpReceptionReport) :
    feedbackTables (handleReceptionReport now s rr).1 = feedbackTables s := by
  simp only [handleReceptionReport]
  split <;> rfl

theorem feedbackTables_handleNack (peer : Endpoint) (s : MediaIngress lib)
    (nack : RtcpNackFeedback) : feedbackTables (handleNack peer s nack).1 = feedbackTables s := by
  simp only [handleNack]
  split
  · rfl
  · refine feedbackTables_forEach (fun s seq => ?_) s _
    simp only [retransmit]
    split
    · rfl
    · split
      · rfl
      · exact feedbackTables_sendWith ..

theorem feedbackTables_handleMediaPacket (s : MediaIngress lib) (data : Bytes) (peer : Endpoint) :
    feedbackTables (s.handleMediaPacket data peer).1 = feedbackTables s := by
  have hroute : ∀ (s : MediaIngress lib) packet header,
      feedbackTables (s.routeMedia packet header peer).1 = feedbackTables s := by
    intro s packet header
    simp only [routeMedia]
    split
    · rfl
    · exact (feedbackTables_forEach (fun s call => feedbackTables_sendWith _ s call.1 call.2) _ _).trans
        rfl
  simp only [handleMediaPacket]
  split
  · rfl
  · split
    · rfl
    · split
      · exact hroute ..
      · split
        · rfl
        · split
          · rfl
          · split
            · rfl
            · exact (hroute ..).trans rfl

/-- A datagram that no control packet comes out of. -/
theorem feedbackTables_handlePacket {data : Bytes} {peer : Endpoint}
    (h : controlOf s data peer = none) (io : DatagramIo) :
    feedbackTables (s.handlePacket data peer io).1 = feedbackTables s := by
  simp only [handlePacket]
  split
  · rcases handleStunPacket_cases s data peer with heq | ⟨key, t, -, heq⟩
    · rw [heq]
    · rw [heq, feedbackTables_moveSubscriber]
      rfl
  · rename_i hstun
    split
    · simp only [handleDtlsPacket]
      split <;> rfl
    · rename_i hdtls
      split
      · rename_i hrtcp
        have hreaches : reachesRtcp data = true := by simp [reachesRtcp, hstun, hdtls, hrtcp]
        rw [controlOf, if_pos hreaches] at h
        simp only [handleRtcpOrMedia]
        split
        · rename_i hsecure
          rw [if_pos hsecure] at h
          split
          · rfl
          · rename_i control hcontrol
            have hplain : ¬ isCompound control = true := by simpa [hcontrol] using h
            rw [if_neg hplain]
            exact (feedbackTables_handleMediaPacket ..).trans rfl
        · rename_i hsecure
          have hplain : ¬ isCompound data = true := by simpa [hsecure] using h
          rw [if_neg hplain]
          exact feedbackTables_handleMediaPacket ..
      · exact feedbackTables_handleMediaPacket ..

theorem handlePacket_control {data control : Bytes} {peer : Endpoint}
    (h : controlOf s data peer = some control) (io : DatagramIo) :
    s.handlePacket data peer io =
      (mediaState s data peer).handleControlPacket control peer io := by
  by_cases hreaches : reachesRtcp data = true
  · rw [controlOf, if_pos hreaches] at h
    obtain ⟨hstun, hdtls, hrtcp⟩ : ¬ isStunPacket data = true ∧
        ¬ DtlsTransport.looksLikeDtlsRecord data = true ∧ looksLikeRtcp data = true := by
      simpa [reachesRtcp] using hreaches
    rw [handlePacket, if_neg hstun, if_neg hdtls, if_pos hrtcp]
    simp only [handleRtcpOrMedia]
    by_cases hsecure : s.endpointRequiresSecureMedia peer = true
    · rw [if_pos hsecure] at h
      obtain ⟨hcontrol, hcompound⟩ := Option.filter_eq_some_iff.mp h
      rw [if_pos hsecure, hcontrol, mediaState, if_pos ⟨hreaches, hsecure⟩]
      exact if_pos hcompound
    · rw [if_neg hsecure] at h
      obtain ⟨hcontrol, hcompound⟩ := Option.filter_eq_some_iff.mp h
      obtain rfl := Option.some.inj hcontrol
      rw [if_neg hsecure, if_pos hcompound, mediaState, if_neg fun hboth => hsecure hboth.2]
  · rw [controlOf, if_neg hreaches] at h
    cases h

theorem feedbackTables_mediaState (s : MediaIngress lib) (data : Bytes) (peer : Endpoint) :
    feedbackTables (mediaState s data peer) = feedbackTables s := by
  simp only [mediaState]
  split <;> rfl

/-- An operation is a datagram that a control packet comes out of, or not. -/
theorem controlOf_cases (s : MediaIngress lib) (op : Op) :
    (∃ data peer io control, op = .datagram data peer io ∧
      controlOf s data peer = some control) ∨
    ∀ data peer io, op = .datagram data peer io → controlOf s data peer = none := by
  by_cases h : ∃ data peer io control, op = .datagram data peer io ∧
      controlOf s data peer = some control
  · exact .inl h
  · refine .inr fun data peer io hop => Option.eq_none_iff_forall_ne_some.mpr ?_
    intro control hsome
    exact h ⟨data, peer, io, control, hop, hsome⟩

/-- The state in which the PLIs of a control packet are handled. -/
def beforePlis (s : MediaIngress lib) (control : Bytes) (peer : Endpoint) (now : Nat) :
    MediaIngress lib :=
  let s := (forEach (handleSenderReport peer now) s (RtcpHandler.parseSenderReports control)).1
  let s := (forEach (handleReceptionReport now) s (RtcpHandler.parseReceptionReports control)).1
  (forEach (handleNack peer) s (RtcpHandler.parseNackFeedback control)).1

theorem feedbackTables_beforePlis (s : MediaIngress lib) (control : Bytes) (peer : Endpoint)
    (now : Nat) : feedbackTables (beforePlis s control peer now) = feedbackTables s := by
  simp only [beforePlis]
  rw [feedbackTables_forEach (feedbackTables_handleNack peer),
    feedbackTables_forEach (feedbackTables_handleReceptionReport now),
    feedbackTables_forEach (feedbackTables_handleSenderReport peer now)]

/-- A control packet: first the PLIs, then the REMBs. -/
theorem handleControlPacket_eq (s : MediaIngress lib) (control : Bytes) (peer : Endpoint)
    (io : DatagramIo) :
    (s.handleControlPacket control peer io).1 =
      (forEach (handleRemb peer io)
        (forEach (handlePli peer io.now) (beforePlis s control peer io.now)
          (RtcpHandler.parsePliFeedback control)).1 (RtcpHandler.parseRembFeedback control)).1 := rfl

theorem handlePli_rembFeedback (peer : Endpoint) (now : Nat) (s : MediaIngress lib)
    (pli : RtcpPliFeedback) :
    (handlePli peer now s pli).1.rembFeedbackBySource = s.rembFeedbackBySource := by
  have hforward : ∀ source, (s.shouldForwardPli source now).1.rembFeedbackBySource =
      s.rembFeedbackBySource := by
    intro source
    simp only [shouldForwardPli]
    split <;> rfl
  simp only [handlePli]
  split
  · rfl
  · split
    · exact hforward _
    · split
      · exact hforward _
      · exact (congrArg Prod.snd (feedbackTables_sendWith ..)).trans (hforward _)

theorem handleRembTarget_pliForward (peer : Endpoint) (io : DatagramIo) (remb : RtcpRembFeedback)
    (s : MediaIngress lib) (target : UInt32) :
    (handleRembTarget peer io remb s target).1.pliForwardBySource = s.pliForwardBySource := by
  have hselect : ∀ source, (s.selectAggregatedRembForSource source peer remb io).1.pliForwardBySource =
      s.pliForwardBySource := by
    intro source
    simp only [selectAggregatedRembForSource]
    split
    · rfl
    · split <;> rfl
  simp only [handleRembTarget]
  split
  · rfl
  · split
    · rfl
    · simp only [andThen]
      split
      · exact hselect _
      · exact (congrArg Prod.fst (feedbackTables_sendWith ..)).trans (hselect _)

theorem feedbackTables_sendEstimatedRemb (s : MediaIngress lib) (m u : String) (kbps : UInt32)
    (now : Nat) :
    feedbackTables (s.sendEstimatedRembToPublisher m u kbps now).1 = feedbackTables s := by
  simp only [sendEstimatedRembToPublisher]
  split
  · rfl
  · split
    · rfl
    · rename_i publisher _
      generalize (if publisher.videoSsrc ≠ 0 then publisher.videoSsrc
        else publisher.audioSsrc) = source
      split
      · rfl
      · split
        · rfl
        · exact (feedbackTables_sendWith ..).trans rfl

/-- Every operation but a control packet. -/
theorem onlyForgets_step {op : Op}
    (h : ∀ data peer io, op = .datagram data peer io → controlOf s data peer = none) :
    OnlyForgets s (s.step op) := by
  cases op with
  | createRoom | destroyRoom => exact .of_eq rfl
  | bindPublisher place m u a v => exact onlyForgets_bindPublisher s place m u a v
  | bindSubscriber place m u a v => exact .of_eq (feedbackTables_bindSubscriber s place m u a v)
  | setupTransport req io => exact onlyForgets_setupTransport s req io
  | closeTransport m u => exact onlyForgets_closeTransport s m u
  | removePublisher m u => exact onlyForgets_removePublisher s m u
  | removeSubscriber m u => exact .of_eq (feedbackTables_removeSubscriber s m u)
  | sendEstimatedRemb m u kbps now => exact .of_eq (feedbackTables_sendEstimatedRemb s m u kbps now)
  | datagram data peer io => exact .of_eq (feedbackTables_handlePacket (h data peer io rfl) io)
  | reorder which => exact onlyForgets_reorder s which

end MeetingSystem.Proof.Sfu
