import MeetingSystem.Framework.ReverseIndex
import MeetingSystem.Impl.Sfu.Operations
import MeetingSystem.Proof.Sfu.Registry
import MeetingSystem.Proof.Sfu.Texts

/-!
# The routes and the feedback table

The router's routes and the feedback table of `MediaIngress` are a route table
with a reverse index (`table`): refreshing a room rebuilds the routes of its
sources (`table_refreshRoomRoutes`), removing a publisher clears them
(`table_removePublisherRoutes`). A lemma `…_cases` says what an operation can
do to rooms and routes; a datagram other than a STUN request does nothing to
them (`handlePacket_frame`).
-/

namespace MeetingSystem.Proof.Sfu

open MeetingSystem.Framework MeetingSystem.Impl.Sfu MediaIngress

variable {lib : SrtpLib} {s : MediaIngress lib}

/-! ## The router -/

theorem routes_setRoute (r : RtpRouter) (source : UInt32) (route : Option PublisherRoute) :
    (r.setRoute source route).routes =
      Function.update r.routes source ((route.map PublisherRoute.subscribers).getD []) := by
  funext x
  by_cases hx : x = source
  · subst hx
    cases route <;> simp [RtpRouter.routes, RtpRouter.setRoute]
  · simp [RtpRouter.routes, RtpRouter.setRoute, Function.update_of_ne hx]

theorem routes_getD (r : RtpRouter) (source : UInt32) :
    ((r.publishers source).getD r.newRoute).subscribers = r.routes source := by
  unfold RtpRouter.routes
  cases r.publishers source <;> rfl

theorem routes_registerPublisher (r : RtpRouter) (source : UInt32) :
    (r.registerPublisher source).routes = r.routes := by
  unfold RtpRouter.registerPublisher
  split
  · rfl
  · rw [routes_setRoute, Option.map_some, Option.getD_some, routes_getD, Function.update_eq_self]

theorem routes_unregisterPublisher (r : RtpRouter) (source : UInt32) :
    (r.unregisterPublisher source).routes = Function.update r.routes source [] :=
  routes_setRoute r source none

theorem routes_removeSubscribers (r : RtpRouter) (source : UInt32) :
    (r.removeSubscribers source).routes = Function.update r.routes source [] := by
  unfold RtpRouter.removeSubscribers
  split
  · rename_i h
    have hnil : r.routes source = [] := by simp [RtpRouter.routes, h]
    rw [← hnil, Function.update_eq_self]
  · rw [routes_setRoute]
    rfl

theorem routes_addSubscriber (r : RtpRouter) {source rewritten : UInt32} (e : Endpoint)
    (hs : source ≠ 0) (hr : rewritten ≠ 0) :
    (r.addSubscriber source rewritten e).routes =
      Function.update r.routes source (r.routes source ++ [⟨rewritten, e⟩]) := by
  rw [RtpRouter.addSubscriber, if_neg (by simp [hs, hr]), routes_setRoute, ← routes_getD]
  rfl

theorem routes_route (r : RtpRouter) (packet : Bytes) : (r.route packet).1.routes = r.routes := by
  unfold RtpRouter.route
  split
  · rfl
  · rename_i parsed _
    split
    · rfl
    · rename_i route h
      have hsubs : route.subscribers = r.routes parsed.header.ssrc := by
        rw [RtpRouter.routes, h]
      rw [routes_setRoute]
      rw [Option.map_some, Option.getD_some, hsubs, Function.update_eq_self]

/-! ## The two tables as one -/

def routeKey (r : SubscriberRoute) : String := feedbackRouteKey r.endpoint r.rewrittenSsrc

/-- The router's routes with the feedback table as their reverse index. -/
def table (s : MediaIngress lib) : RouteTable UInt32 SubscriberRoute String :=
  { forward := s.router.routes, reverse := s.feedbackRoutes }

theorem table_clearRoutes (s : MediaIngress lib) (source : UInt32) :
    table (s.clearRoutes source) = (table s).clear source := by
  simp only [table, clearRoutes, RouteTable.clear, routes_removeSubscribers]
  rfl

theorem table_addRoute {source : UInt32} {route : SubscriberRoute} (hs : source ≠ 0)
    (hr : route.rewrittenSsrc ≠ 0) (s : MediaIngress lib) :
    table (addRoute source s route) = RouteTable.add routeKey source (table s) route := by
  simp only [table, addRoute, RouteTable.add, routes_addSubscriber _ _ hs hr]
  rfl

theorem table_foldl_addRoute {source : UInt32} (hs : source ≠ 0) {routes : List SubscriberRoute}
    (hr : ∀ r ∈ routes, r.rewrittenSsrc ≠ 0) (s : MediaIngress lib) :
    table (routes.foldl (addRoute source) s) =
      routes.foldl (RouteTable.add routeKey source) (table s) := by
  induction routes generalizing s with
  | nil => rfl
  | cons r routes ih =>
    rw [List.foldl_cons, ih (fun r' hr' => hr r' (List.mem_cons_of_mem _ hr')),
      table_addRoute hs (hr r List.mem_cons_self), List.foldl_cons]

theorem roomRoutes_ne_zero {m : String} {room : Room} {source : UInt32} (hs : source ≠ 0)
    {r : SubscriberRoute} (hr : r ∈ roomRoutes m room source) : r.rewrittenSsrc ≠ 0 := by
  simp only [roomRoutes, List.mem_filterMap] at hr
  obtain ⟨sub, -, hsub⟩ := hr
  split at hsub
  · simp at hsub
  · split at hsub
    · simp at hsub
    · obtain ⟨e, -, rfl⟩ := Option.map_eq_some_iff.mp hsub
      exact rewrittenSsrc_ne_zero hs m sub _ _

/-! ## Refreshing -/

/-- What adding and clearing routes leaves alone, refreshing does too. -/
theorem refreshPublisherRoutes_eq {A : Type*} (π : MediaIngress lib → A)
    (hadd : ∀ source s route, π (addRoute source s route) = π s)
    (hclear : ∀ s source, π (s.clearRoutes source) = π s) (m : String) (s : MediaIngress lib)
    (source : UInt32) : π (refreshPublisherRoutes m s source) = π s := by
  unfold refreshPublisherRoutes
  split
  · rfl
  · split
    · rfl
    · exact (run_eq π (hadd source) _ _).trans (hclear s source)

theorem refreshRoomRoutes_eq {A : Type*} (π : MediaIngress lib → A)
    (hadd : ∀ source s route, π (addRoute source s route) = π s)
    (hclear : ∀ s source, π (s.clearRoutes source) = π s) (s : MediaIngress lib) (m : String) :
    π (s.refreshRoomRoutes m) = π s := by
  unfold refreshRoomRoutes
  split
  · rfl
  · exact run_eq π (refreshPublisherRoutes_eq π hadd hclear m) s _

theorem refreshPublisherRoutes_roomManager (m : String) (s : MediaIngress lib) (source : UInt32) :
    (refreshPublisherRoutes m s source).roomManager = s.roomManager :=
  refreshPublisherRoutes_eq MediaIngress.roomManager (fun _ _ _ => rfl) (fun _ _ => rfl) m s source

theorem refreshRoomRoutes_roomManager (s : MediaIngress lib) (m : String) :
    (s.refreshRoomRoutes m).roomManager = s.roomManager :=
  refreshRoomRoutes_eq MediaIngress.roomManager (fun _ _ _ => rfl) (fun _ _ => rfl) s m

theorem table_refreshPublisherRoutes {m : String} {room : Room}
    (hroom : s.roomManager.getRoomShared m = some room) {source : UInt32} (hs : source ≠ 0) :
    table (refreshPublisherRoutes m s source) =
      RouteTable.rebuild routeKey (roomRoutes m room) (table s) source := by
  rw [refreshPublisherRoutes, if_neg hs, hroom]
  show table ((roomRoutes m room source).foldl (addRoute source) (s.clearRoutes source)) = _
  rw [table_foldl_addRoute hs (fun r hr => roomRoutes_ne_zero hs hr), table_clearRoutes]
  rfl

theorem table_foldl_refresh {m : String} {room : Room} {sources : List UInt32}
    (hs : ∀ source ∈ sources, source ≠ 0) (hroom : s.roomManager.getRoomShared m = some room) :
    table (sources.foldl (refreshPublisherRoutes m) s) =
      sources.foldl (RouteTable.rebuild routeKey (roomRoutes m room)) (table s) := by
  induction sources generalizing s with
  | nil => rfl
  | cons source sources ih =>
    have hroom' : (refreshPublisherRoutes m s source).roomManager.getRoomShared m = some room := by
      rw [refreshPublisherRoutes_roomManager, hroom]
    rw [List.foldl_cons, ih (fun x hx => hs x (List.mem_cons_of_mem _ hx)) hroom',
      table_refreshPublisherRoutes hroom (hs source List.mem_cons_self), List.foldl_cons]

theorem mem_roomSources {room : Room} {source : UInt32} :
    source ∈ roomSources room ↔
      source ≠ 0 ∧ ∃ u p, room.publishers.lookup u = some p ∧ p.hasSsrc source = true := by
  simp only [roomSources, Room.snapshotPublishers, List.mem_flatMap, List.mem_map, List.mem_filter,
    List.mem_cons, List.not_mem_nil, or_false, decide_eq_true_eq, Publisher.hasSsrc]
  constructor
  · rintro ⟨p, ⟨⟨u, q⟩, hmem, rfl⟩, hp, hne⟩
    exact ⟨hne, u, q, mem_entries.mp hmem, by simpa [eq_comm] using hp⟩
  · rintro ⟨hne, u, p, hu, hp⟩
    exact ⟨p, ⟨⟨u, p⟩, mem_entries.mpr hu, rfl⟩, by simpa [eq_comm] using hp, hne⟩

/-- Refreshing a room rebuilds the routes of its sources. -/
theorem table_refreshRoomRoutes {m : String} {room : Room}
    (hroom : s.roomManager.getRoomShared m = some room) :
    table (s.refreshRoomRoutes m) =
      (roomSources room).foldl (RouteTable.rebuild routeKey (roomRoutes m room)) (table s) := by
  rw [refreshRoomRoutes, hroom]
  exact table_foldl_refresh (fun source h => (mem_roomSources.mp h).1) hroom

theorem table_removePublisherRoutes {source : UInt32} (hs : source ≠ 0) (s : MediaIngress lib) :
    table (s.removePublisherRoutes source) = (table s).clear source := by
  simp only [table, removePublisherRoutes, if_neg hs, RouteTable.clear,
    routes_unregisterPublisher, routes_removeSubscribers, Function.update_idem]
  rfl

theorem removePublisherRoutes_roomManager (s : MediaIngress lib) (source : UInt32) :
    (s.removePublisherRoutes source).roomManager = s.roomManager := by
  unfold removePublisherRoutes
  split <;> rfl

/-! ## What the operations do to rooms and routes -/

theorem getRoomShared_setRoom {m : String} {room : Room}
    (h : s.roomManager.getRoomShared m = some room) (room' : Room) (m' : String) :
    (s.setRoom m room').roomManager.getRoomShared m' =
      if m' = m then some room' else s.roomManager.getRoomShared m' := by
  simp only [RoomManager.getRoomShared] at h ⊢
  split at h
  · simp at h
  · rename_i hm
    have hmem : m ∈ s.roomManager.rooms := mem_of_lookup h
    by_cases hm' : m' = m
    · subst hm'
      simp [hm, setRoom, RoomManager.setRoom, lookup_replace_self _ hmem]
    · simp [hm', setRoom, RoomManager.setRoom, lookup_replace_ne _ _ hm']

/-- The room once `BindSubscriber` has bound the user. -/
def withSubscriber (place : Nat) (u : String) (a v : UInt32) (room : Room) : Option Room :=
  let existing := (room.getSubscriber u).getD
    { userId := u, endpoint := "", audioEndpoint := "", videoEndpoint := ""
      audioSsrc := 0, videoSsrc := 0 }
  room.addSubscriber place
    { existing with
      userId := u
      audioSsrc := mergeSsrc a existing.audioSsrc
      videoSsrc := mergeSsrc v existing.videoSsrc }

theorem bindSubscriber_cases (s : MediaIngress lib) (place : Nat) (m u : String) (a v : UInt32) :
    s.bindSubscriber place m u a v = (s, false) ∨
    ∃ room sub, s.roomManager.getRoomShared m = some room ∧ u ≠ "" ∧
      (∀ old, room.subscribers.lookup u = some old → sub.endpoint = old.endpoint ∧
        sub.audioEndpoint = old.audioEndpoint ∧ sub.videoEndpoint = old.videoEndpoint) ∧
      (room.subscribers.lookup u = none → sub.endpoint = "" ∧ sub.audioEndpoint = "" ∧
        sub.videoEndpoint = "") ∧
      withSubscriber place u a v room =
        some { room with subscribers := assign place u sub room.subscribers } ∧
      s.bindSubscriber place m u a v =
        ((s.setRoom m { room with
          subscribers := assign place u sub room.subscribers }).refreshRoomRoutes m, true) := by
  simp only [bindSubscriber]
  split
  · exact .inl rfl
  · rename_i hempty
    obtain ⟨-, hu⟩ := not_or.mp hempty
    split
    · exact .inl rfl
    · rename_i room hroom
      right
      simp only [withSubscriber, Room.getSubscriber, if_neg hu, Room.addSubscriber]
      refine ⟨room, _, hroom, hu, ?_, ?_, rfl, rfl⟩
      · intro old hold
        simp [hold]
      · intro hnone
        simp [hnone]

theorem removeSubscriber_cases (s : MediaIngress lib) (m u : String) :
    s.removeSubscriber m u = (s, false) ∨
    ∃ room, s.roomManager.getRoomShared m = some room ∧
      room.removeSubscriber u = some { room with subscribers := room.subscribers.erase u } ∧
      s.removeSubscriber m u = ((s.setRoom m { room with
        subscribers := room.subscribers.erase u }).refreshRoomRoutes m, true) := by
  simp only [removeSubscriber]
  split
  · exact .inl rfl
  · split
    · exact .inl rfl
    · rename_i room hroom
      split
      · exact .inl rfl
      · rename_i room' hremove
        have hremoved := hremove
        rw [Room.removeSubscriber] at hremove
        split at hremove
        · cases hremove
        · obtain rfl := Option.some.inj hremove
          exact .inr ⟨room, hroom, hremoved, rfl⟩

/-- The publisher that `BindPublisher` makes of the one there was. -/
def mergedPublisher (u : String) (previous : Publisher) (a v : UInt32) : Publisher :=
  { userId := u
    audioSsrc := mergeSsrc a previous.audioSsrc
    videoSsrc := mergeSsrc v previous.videoSsrc }

/-- The room once `BindPublisher` has bound the user. -/
def withPublisher (place : Nat) (u : String) (a v : UInt32) (room : Room) : Option Room :=
  let previous := (room.getPublisher u).getD { userId := u, audioSsrc := 0, videoSsrc := 0 }
  let merged := mergedPublisher u previous a v
  if merged.audioSsrc = 0 ∧ merged.videoSsrc = 0 then none else room.addPublisher place merged

theorem bindPublisher_cases (s : MediaIngress lib) (place : Nat) (m u : String) (a v : UInt32) :
    s.bindPublisher place m u a v = (s, false) ∨
    ∃ room previous merged, s.roomManager.getRoomShared m = some room ∧
      previous = (room.publishers.lookup u).getD { userId := u, audioSsrc := 0, videoSsrc := 0 } ∧
      merged = mergedPublisher u previous a v ∧
      withPublisher place u a v room =
        some { room with publishers := assign place u merged room.publishers } ∧
      s.bindPublisher place m u a v =
        ((s.setRoom m { room with
          publishers := assign place u merged room.publishers }).rebindPublisher m previous merged,
          true) := by
  simp only [bindPublisher]
  split
  · exact .inl rfl
  · rename_i hempty
    obtain ⟨-, hu⟩ := not_or.mp hempty
    split
    · exact .inl rfl
    · rename_i room hroom
      split
      · exact .inl rfl
      · rename_i hzero
        split
        · exact .inl rfl
        · rename_i room' hadd
          have hwith : withPublisher place u a v room = some room' := (if_neg hzero).trans hadd
          right
          simp only [Room.addPublisher, if_neg hu] at hadd
          split at hadd
          · simp at hadd
          · obtain rfl := Option.some.inj hadd
            exact ⟨room, _, _, hroom, by rw [Room.getPublisher, if_neg hu], rfl, hwith, rfl⟩

theorem removePublisher_cases (s : MediaIngress lib) (m u : String) :
    s.removePublisher m u = (s, false) ∨
    ∃ room p, s.roomManager.getRoomShared m = some room ∧ room.publishers.lookup u = some p ∧
      s.removePublisher m u = ((s.setRoom m { room with
        publishers := room.publishers.erase u }).forgetPublisher m u p, true) := by
  simp only [removePublisher]
  split
  · exact .inl rfl
  · rename_i hempty
    obtain ⟨-, hu⟩ := not_or.mp hempty
    split
    · exact .inl rfl
    · rename_i room hroom
      simp only [Room.getPublisher, Room.removePublisher, if_neg hu]
      split
      · rename_i p room' hp hremove
        split at hremove
        · simp at hremove
        · obtain rfl := Option.some.inj hremove
          exact .inr ⟨room, p, hroom, hp, rfl⟩
      · exact .inl rfl

theorem moveSubscriber_cases (s : MediaIngress lib) (m u kind text : String) :
    s.moveSubscriber m u kind text = s ∨
    ∃ room sub, s.roomManager.getRoomShared m = some room ∧ room.getSubscriber u = some sub ∧
      s.moveSubscriber m u kind text = (s.setRoom m { room with
        subscribers := room.subscribers.replace u
          (selectSubscriberEndpoint sub kind text) }).refreshRoomRoutes m := by
  simp only [moveSubscriber]
  split
  · exact .inl rfl
  · rename_i room hroom
    split
    · exact .inl rfl
    · rename_i sub hsub
      exact .inr ⟨room, sub, hroom, hsub, rfl⟩

/-- The same state with other transports. -/
def withTransports (s : MediaIngress lib) (registry : TransportRegistry lib) : MediaIngress lib :=
  { s with transportRegistry := registry }

theorem registerTransport_some {s₁ : MediaIngress lib} {req : SetupRequest} {io : SetupIo}
    (h : s.registerTransport req io = some s₁) :
    ∃ dtls, s₁ = withTransports s (s.transportRegistry.upsert io.transportPlace
      (newTransport req io dtls) (TransportRegistry.kind req.publishAudio req.publishVideo)) := by
  simp only [registerTransport] at h
  split at h
  · simp at h
  · split at h
    · simp at h
    · split at h
      · simp at h
      · exact ⟨_, (Option.some.inj h).symm⟩

/-- The SSRCs that `SetupTransport` assigns. -/
def assignedSsrcs (req : SetupRequest) (io : SetupIo) : UInt32 × UInt32 :=
  (if req.publishAudio then io.audioSsrc else 0, if req.publishVideo then io.videoSsrc else 0)

/-- `SetupTransport` up to and with its `BindSubscriber`. -/
def setupSubscriber (s : MediaIngress lib) (req : SetupRequest) (io : SetupIo) :
    MediaIngress lib :=
  (s.bindSubscriber io.subscriberPlace req.meetingId req.userId (assignedSsrcs req io).1
    (assignedSsrcs req io).2).1

theorem setupTransport_cases (s : MediaIngress lib) (req : SetupRequest) (io : SetupIo) :
    s.registerTransport req io = none ∧ (s.setupTransport req io).1 = s ∨
    ∃ s₁, s.registerTransport req io = some s₁ ∧
      ((s.setupTransport req io).1 = setupSubscriber s₁ req io ∨
        (s.setupTransport req io).1 =
          ((setupSubscriber s₁ req io).bindPublisher io.publisherPlace req.meetingId req.userId
            (assignedSsrcs req io).1 (assignedSsrcs req io).2).1) := by
  simp only [setupTransport, setupSubscriber, assignedSsrcs]
  split
  · rename_i hs₁
    exact .inl ⟨hs₁, rfl⟩
  · rename_i s₁ hs₁
    refine .inr ⟨s₁, hs₁, ?_⟩
    generalize (if req.publishAudio = true then io.audioSsrc else 0) = a
    generalize (if req.publishVideo = true then io.videoSsrc else 0) = v
    generalize makeHostCandidate _ _ = candidate
    split
    · exact .inl rfl
    · split
      · exact .inl rfl
      · exact .inr rfl

theorem closeTransport_cases (s : MediaIngress lib) (m u : String) :
    (s.closeTransport m u).1 = s ∨
    (s.closeTransport m u).1 =
      (((withTransports s (s.transportRegistry.eraseUserTransports m u)).removeSubscriber m u).1.removePublisher
        m u).1 := by
  simp only [closeTransport]
  split
  · exact .inl rfl
  · exact .inr rfl

/-! ## What datagrams leave alone -/

/-- The rooms and the routes. -/
def routing (s : MediaIngress lib) : RoomManager × RouteTable UInt32 SubscriberRoute String :=
  (s.roomManager, table s)

/-- The rooms, the routes and the owners of the transports are the same. -/
structure Frame (s s' : MediaIngress lib) : Prop where
  routing : routing s' = routing s
  owners : SameOwners s.transportRegistry s'.transportRegistry

/-- So are the packets that the router keeps. -/
structure Quiet (s s' : MediaIngress lib) : Prop extends Frame s s' where
  router : s'.router = s.router

theorem Frame.refl (s : MediaIngress lib) : Frame s s := ⟨rfl, .refl _⟩

theorem Frame.trans {s s' s'' : MediaIngress lib} (h : Frame s s') (h' : Frame s' s'') :
    Frame s s'' := ⟨h'.routing.trans h.routing, h.owners.trans h'.owners⟩

theorem Quiet.refl (s : MediaIngress lib) : Quiet s s := ⟨.refl s, rfl⟩

theorem Quiet.trans {s s' s'' : MediaIngress lib} (h : Quiet s s') (h' : Quiet s' s'') :
    Quiet s s'' := ⟨h.toFrame.trans h'.toFrame, h'.router.trans h.router⟩

theorem Frame.withTransports {r : TransportRegistry lib} (h : SameOwners s.transportRegistry r) :
    Frame s (withTransports s r) := ⟨rfl, h⟩

theorem sendWith_quiet
    {protect : TransportRegistry lib → Endpoint → Bytes → Option Bytes × TransportRegistry lib}
    (hp : ∀ r e packet, SameOwners r (protect r e packet).2) (s : MediaIngress lib)
    (e : Endpoint) (packet : Bytes) : Quiet s (s.sendWith protect e packet).1 := by
  simp only [sendWith]
  split
  · exact ⟨⟨rfl, hp _ _ _⟩, rfl⟩
  · exact .refl s

theorem sendRtp_quiet (s : MediaIngress lib) (e : Endpoint) (packet : Bytes) :
    Quiet s (s.sendRtp e packet).1 :=
  sendWith_quiet (transformAt_sameOwners protectRtp_identity 1) ..

theorem sendRtcp_quiet (s : MediaIngress lib) (e : Endpoint) (packet : Bytes) :
    Quiet s (s.sendRtcp e packet).1 :=
  sendWith_quiet (transformAt_sameOwners protectRtcp_identity 1) ..

theorem handleSenderReport_quiet (peer : Endpoint) (now : Nat) (s : MediaIngress lib)
    (sr : RtcpSenderReport) : Quiet s (handleSenderReport peer now s sr).1 := by
  simp only [handleSenderReport]
  split
  · exact .refl s
  · refine Quiet.trans ?_ (sendRtcp_quiet ..)
    exact ⟨⟨rfl, .refl _⟩, rfl⟩

theorem handleReceptionReport_quiet (now : Nat) (s : MediaIngress lib)
    (rr : RtcpReceptionReport) : Quiet s (handleReceptionReport now s rr).1 := by
  simp only [handleReceptionReport]
  split
  · exact .refl s
  · exact ⟨⟨rfl, .refl _⟩, rfl⟩

theorem retransmit_quiet (peer : Endpoint) (media source : UInt32) (s : MediaIngress lib)
    (seq : UInt16) : Quiet s (retransmit peer media source s seq).1 := by
  simp only [retransmit]
  split
  · exact .refl s
  · split
    · exact .refl s
    · exact sendRtp_quiet ..

theorem handleNack_quiet (peer : Endpoint) (s : MediaIngress lib) (nack : RtcpNackFeedback) :
    Quiet s (handleNack peer s nack).1 := by
  simp only [handleNack]
  split
  · exact .refl s
  · exact forEach_rel .refl .trans (retransmit_quiet peer _ _) ..

theorem shouldForwardPli_quiet (s : MediaIngress lib) (source : UInt32) (now : Nat) :
    Quiet s (s.shouldForwardPli source now).1 := by
  simp only [shouldForwardPli]
  split
  · exact .refl s
  · exact ⟨⟨rfl, .refl _⟩, rfl⟩

theorem handlePli_quiet (peer : Endpoint) (now : Nat) (s : MediaIngress lib)
    (pli : RtcpPliFeedback) : Quiet s (handlePli peer now s pli).1 := by
  simp only [handlePli]
  split
  · exact .refl s
  · split
    · exact shouldForwardPli_quiet ..
    · split
      · exact shouldForwardPli_quiet ..
      · exact (shouldForwardPli_quiet ..).trans (sendRtcp_quiet ..)

theorem selectAggregatedRemb_quiet (s : MediaIngress lib) (source : UInt32) (peer : Endpoint)
    (remb : RtcpRembFeedback) (io : DatagramIo) :
    Quiet s (s.selectAggregatedRembForSource source peer remb io).1 := by
  simp only [selectAggregatedRembForSource]
  split
  · exact .refl s
  · split <;> exact ⟨⟨rfl, .refl _⟩, rfl⟩

theorem handleRembTarget_quiet (peer : Endpoint) (io : DatagramIo) (remb : RtcpRembFeedback)
    (s : MediaIngress lib) (target : UInt32) :
    Quiet s (handleRembTarget peer io remb s target).1 := by
  simp only [handleRembTarget]
  split
  · exact .refl s
  · split
    · exact .refl s
    · simp only [andThen]
      split
      · exact selectAggregatedRemb_quiet ..
      · exact (selectAggregatedRemb_quiet ..).trans (sendRtcp_quiet ..)

theorem handleRemb_quiet (peer : Endpoint) (io : DatagramIo) (s : MediaIngress lib)
    (remb : RtcpRembFeedback) : Quiet s (handleRemb peer io s remb).1 :=
  forEach_rel .refl .trans (handleRembTarget_quiet peer io remb) ..

theorem handleControlPacket_quiet (s : MediaIngress lib) (data : Bytes) (peer : Endpoint)
    (io : DatagramIo) : Quiet s (s.handleControlPacket data peer io).1 := by
  simp only [handleControlPacket, andThen]
  apply Quiet.trans (forEach_rel .refl .trans (handleSenderReport_quiet peer io.now) ..)
  apply Quiet.trans (forEach_rel .refl .trans (handleReceptionReport_quiet io.now) ..)
  apply Quiet.trans (forEach_rel .refl .trans (handleNack_quiet peer) ..)
  apply Quiet.trans (forEach_rel .refl .trans (handlePli_quiet peer io.now) ..)
  exact forEach_rel .refl .trans (handleRemb_quiet peer io) ..

/-- A media packet has been observed and the router has taken it. -/
theorem observed_frame (s : MediaIngress lib) (packet : Bytes) (location : PublisherLocation)
    (header : RtpHeader) (peer : Endpoint) :
    Frame s { s.observe location header packet.length peer with
      router := ((s.observe location header packet.length peer).router.route packet).1 } := by
  refine ⟨?_, .refl _⟩
  simp only [routing, table, observe, routes_route]

theorem routeMedia_frame (s : MediaIngress lib) (packet : Bytes) (header : RtpHeader)
    (peer : Endpoint) : Frame s (s.routeMedia packet header peer).1 := by
  simp only [routeMedia]
  split
  · exact .refl s
  · rename_i location _
    apply (observed_frame s packet location header peer).trans
    exact forEach_rel .refl .trans (fun s call => (sendRtp_quiet s call.1 call.2).toFrame) ..

theorem handleMediaPacket_frame (s : MediaIngress lib) (data : Bytes) (peer : Endpoint) :
    Frame s (s.handleMediaPacket data peer).1 := by
  have hunprotect : Frame s
      (withTransports s (s.transportRegistry.unprotectRtpFromEndpoint peer data).2) :=
    .withTransports (transformAt_sameOwners unprotectRtp_identity 12 _ _ _)
  simp only [handleMediaPacket]
  split
  · exact .refl s
  · split
    · exact .refl s
    · split
      · exact routeMedia_frame ..
      · split
        · exact .refl s
        · split
          · exact hunprotect
          · split
            · exact hunprotect
            · exact hunprotect.trans (routeMedia_frame ..)

theorem handleRtcpOrMedia_frame (s : MediaIngress lib) (data : Bytes) (peer : Endpoint)
    (io : DatagramIo) : Frame s (s.handleRtcpOrMedia data peer io).1 := by
  have hunprotect : Frame s
      (withTransports s (s.transportRegistry.unprotectRtcpFromEndpoint peer data).2) :=
    .withTransports (transformAt_sameOwners unprotectRtcp_identity 1 _ _ _)
  simp only [handleRtcpOrMedia]
  split
  · split
    · exact hunprotect
    · split
      · exact hunprotect.trans (handleControlPacket_quiet ..).toFrame
      · exact hunprotect.trans (handleMediaPacket_frame ..)
  · split
    · exact (handleControlPacket_quiet ..).toFrame
    · exact handleMediaPacket_frame ..

theorem handleDtlsPacket_frame (s : MediaIngress lib) (data : Bytes) (peer : Endpoint)
    (io : DtlsIo) : Frame s (s.handleDtlsPacket data peer io).1 := by
  simp only [handleDtlsPacket]
  split <;> exact ⟨rfl, handleDtlsFromEndpoint_sameOwners _ _ _ _⟩

theorem handleStunPacket_cases (s : MediaIngress lib) (data : Bytes) (peer : Endpoint) :
    (s.handleStunPacket data peer).1 = s ∨
    ∃ key t, s.transportRegistry.find (fun t =>
        t.iceSession.matchesUsername (parseStunUsername data)) = some (key, t) ∧
      (s.handleStunPacket data peer).1 =
        (withTransports s (s.transportRegistry.set key
          { t with iceSession := t.iceSession.selectEndpoint peer })).moveSubscriber t.meetingId
          t.userId (TransportRegistry.mediaKindOf key) (endpointKey peer) := by
  simp only [handleStunPacket, TransportRegistry.selectEndpointForUsername]
  split
  · exact .inl rfl
  · split
    · exact .inl rfl
    · rename_i m u kind hsel
      split at hsel
      · simp at hsel
      · rename_i key t hfind
        right
        simp only [Option.some.injEq, Prod.mk.injEq] at hsel
        obtain ⟨rfl, rfl, rfl⟩ := hsel
        exact ⟨key, t, hfind, rfl⟩

/-- Every datagram but a STUN request leaves rooms, routes and owners alone. -/
theorem handlePacket_frame (s : MediaIngress lib) (data : Bytes) (peer : Endpoint)
    (io : DatagramIo) :
    Frame s (s.handlePacket data peer io).1 ∨
      s.handlePacket data peer io = s.handleStunPacket data peer := by
  simp only [handlePacket]
  split
  · exact .inr rfl
  · left
    split
    · exact handleDtlsPacket_frame ..
    · split
      · exact handleRtcpOrMedia_frame ..
      · exact handleMediaPacket_frame ..

theorem sendEstimatedRemb_quiet (s : MediaIngress lib) (m u : String) (kbps : UInt32)
    (now : Nat) : Quiet s (s.sendEstimatedRembToPublisher m u kbps now).1 := by
  simp only [sendEstimatedRembToPublisher]
  split
  · exact .refl s
  · split
    · exact .refl s
    · rename_i publisher _
      generalize (if publisher.videoSsrc ≠ 0 then publisher.videoSsrc
        else publisher.audioSsrc) = source
      split
      · exact .refl s
      · split
        · exact .refl s
        · refine Quiet.trans ?_ (sendRtcp_quiet ..)
          exact ⟨⟨rfl, .refl _⟩, rfl⟩

end MeetingSystem.Proof.Sfu
