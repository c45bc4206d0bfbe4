import MeetingSystem.Proof.Sfu.RouteTables

/-!
# Invariants of the routes

* `backed_step`: every feedback entry has a matching route, whatever happens;
* `grounded_step`: as long as no room is destroyed, every route leads from a
  source of some room to an endpoint of one of its subscribers.
-/

namespace MeetingSystem.Proof.Sfu

open MeetingSystem.Framework MeetingSystem.Impl.Sfu MediaIngress

variable {lib : SrtpLib} {s : MediaIngress lib}

/-! ## Publishers that come and go -/

/-- The SSRCs that a publisher gives up when it is bound again. -/
def droppedSources (previous merged : Publisher) : List UInt32 :=
  (if previous.audioSsrc ≠ 0 ∧ previous.audioSsrc ≠ merged.audioSsrc then [previous.audioSsrc]
    else []) ++
  (if previous.videoSsrc ≠ 0 ∧ previous.videoSsrc ≠ merged.videoSsrc then [previous.videoSsrc]
    else [])

theorem mem_droppedSources {previous merged : Publisher} {source : UInt32} (hs : source ≠ 0)
    (hp : previous.hasSsrc source = true) (hm : merged.hasSsrc source = false) :
    source ∈ droppedSources previous merged := by
  simp only [Publisher.hasSsrc, decide_eq_true_eq, decide_eq_false_iff_not, not_or] at hp hm
  obtain ⟨hma, hmv⟩ := hm
  rcases hp with rfl | rfl
  · simp [droppedSources, hs, Ne.symm hma]
  · simp [droppedSources, hs, Ne.symm hmv]

theorem registerPublisher_table (s : MediaIngress lib) (source : UInt32) :
    table (s.registerPublisher source) = table s := by
  simp only [table, MediaIngress.registerPublisher, routes_registerPublisher]

/-- `BindPublisher` up to its refresh. -/
def dropAndRegister (s : MediaIngress lib) (previous merged : Publisher) : MediaIngress lib :=
  let s := if previous.audioSsrc ≠ 0 ∧ previous.audioSsrc ≠ merged.audioSsrc then
    s.removePublisherRoutes previous.audioSsrc else s
  let s := if previous.videoSsrc ≠ 0 ∧ previous.videoSsrc ≠ merged.videoSsrc then
    s.removePublisherRoutes previous.videoSsrc else s
  let s := if merged.audioSsrc ≠ 0 then s.registerPublisher merged.audioSsrc else s
  if merged.videoSsrc ≠ 0 then s.registerPublisher merged.videoSsrc else s

theorem rebindPublisher_eq (s : MediaIngress lib) (m : String) (previous merged : Publisher) :
    s.rebindPublisher m previous merged =
      (dropAndRegister s previous merged).refreshRoomRoutes m := rfl

theorem removePublisherRoutes_transportRegistry (s : MediaIngress lib) (source : UInt32) :
    (s.removePublisherRoutes source).transportRegistry = s.transportRegistry := by
  unfold removePublisherRoutes
  split <;> rfl

theorem dropAndRegister_roomManager (s : MediaIngress lib) (previous merged : Publisher) :
    (dropAndRegister s previous merged).roomManager = s.roomManager := by
  simp only [dropAndRegister, MediaIngress.registerPublisher,
    apply_ite MediaIngress.roomManager, removePublisherRoutes_roomManager, ite_self]

theorem dropAndRegister_transportRegistry (s : MediaIngress lib) (previous merged : Publisher) :
    (dropAndRegister s previous merged).transportRegistry = s.transportRegistry := by
  simp only [dropAndRegister, MediaIngress.registerPublisher,
    apply_ite MediaIngress.transportRegistry, removePublisherRoutes_transportRegistry, ite_self]

/-- A publisher that is bound again gives up its old sources. -/
theorem table_dropAndRegister (s : MediaIngress lib) (previous merged : Publisher) :
    table (dropAndRegister s previous merged) =
      (table s).clearAll (droppedSources previous merged) := by
  simp only [dropAndRegister, apply_ite table, registerPublisher_table, ite_self]
  simp only [droppedSources]
  split
  · rename_i hv
    rw [table_removePublisherRoutes hv.1]
    split
    · rename_i ha
      rw [table_removePublisherRoutes ha.1]
      rfl
    · rfl
  · split
    · rename_i ha
      rw [table_removePublisherRoutes ha.1]
      rfl
    · rfl

theorem table_forgetPublisher (s : MediaIngress lib) (m u : String) (p : Publisher) :
    table (s.forgetPublisher m u p) =
      (table s).clearAll ([p.audioSsrc, p.videoSsrc].filter (· ≠ 0)) := by
  show table ((s.removePublisherRoutes p.audioSsrc).removePublisherRoutes p.videoSsrc) = _
  have hzero (s : MediaIngress lib) : s.removePublisherRoutes 0 = s := if_pos rfl
  by_cases ha : p.audioSsrc = 0
  · by_cases hv : p.videoSsrc = 0
    · simp [ha, hv, hzero, RouteTable.clearAll]
    · simp [ha, hv, hzero, RouteTable.clearAll, table_removePublisherRoutes]
  · by_cases hv : p.videoSsrc = 0
    · simp [ha, hv, hzero, RouteTable.clearAll, table_removePublisherRoutes]
    · simp [ha, hv, RouteTable.clearAll, table_removePublisherRoutes]

/-! ## What clearing and rebuilding keep -/

/-- A property of the route table that clearing sources and refreshing rooms
keep. -/
structure Stable (P : RouteTable UInt32 SubscriberRoute String → Prop) : Prop where
  clearAll : ∀ t sources, P t → P (t.clearAll sources)
  rebuildAll : ∀ t m room, P t →
    P ((roomSources room).foldl (RouteTable.rebuild routeKey (roomRoutes m room)) t)

section Stable

variable {P : RouteTable UInt32 SubscriberRoute String → Prop}

theorem Stable.refresh (hP : Stable P) (h : P (table s)) (m : String) :
    P (table (s.refreshRoomRoutes m)) := by
  cases hroom : s.roomManager.getRoomShared m with
  | none =>
    rw [refreshRoomRoutes, hroom]
    exact h
  | some room =>
    rw [table_refreshRoomRoutes hroom]
    exact hP.rebuildAll _ _ _ h

theorem Stable.bindSubscriber (hP : Stable P) (h : P (table s)) (place : Nat) (m u : String)
    (a v : UInt32) : P (table (s.bindSubscriber place m u a v).1) := by
  rcases bindSubscriber_cases s place m u a v with heq | ⟨room, sub, -, -, -, -, -, heq⟩
  · rw [heq]
    exact h
  · rw [heq]
    apply hP.refresh
    exact h

theorem Stable.removeSubscriber (hP : Stable P) (h : P (table s)) (m u : String) :
    P (table (s.removeSubscriber m u).1) := by
  rcases removeSubscriber_cases s m u with heq | ⟨room, -, -, heq⟩
  · rw [heq]
    exact h
  · rw [heq]
    apply hP.refresh
    exact h

theorem Stable.bindPublisher (hP : Stable P) (h : P (table s)) (place : Nat) (m u : String)
    (a v : UInt32) : P (table (s.bindPublisher place m u a v).1) := by
  rcases bindPublisher_cases s place m u a v with heq | ⟨room, previous, merged, -, -, -, -, heq⟩
  · rw [heq]
    exact h
  · rw [heq]
    dsimp only
    rw [rebindPublisher_eq]
    apply hP.refresh
    rw [table_dropAndRegister]
    exact hP.clearAll _ _ h

theorem Stable.removePublisher (hP : Stable P) (h : P (table s)) (m u : String) :
    P (table (s.removePublisher m u).1) := by
  rcases removePublisher_cases s m u with heq | ⟨room, p, -, -, heq⟩
  · rw [heq]
    exact h
  · rw [heq, table_forgetPublisher]
    exact hP.clearAll _ _ h

theorem Stable.setupTransport (hP : Stable P) (h : P (table s)) (req : SetupRequest)
    (io : SetupIo) : P (table (s.setupTransport req io).1) := by
  rcases setupTransport_cases s req io with ⟨-, heq⟩ | ⟨s₁, hs₁, heq⟩
  · rw [heq]
    exact h
  · obtain ⟨dtls, rfl⟩ := registerTransport_some hs₁
    unfold setupSubscriber at heq
    rcases heq with heq | heq
    · rw [heq]
      apply hP.bindSubscriber
      exact h
    · rw [heq]
      apply hP.bindPublisher
      apply hP.bindSubscriber
      exact h

theorem Stable.closeTransport (hP : Stable P) (h : P (table s)) (m u : String) :
    P (table (s.closeTransport m u).1) := by
  rcases closeTransport_cases s m u with heq | heq
  · rw [heq]
    exact h
  · rw [heq]
    apply hP.removePublisher
    apply hP.removeSubscriber
    exact h

theorem Stable.handlePacket (hP : Stable P) (h : P (table s)) (data : Bytes) (peer : Endpoint)
    (io : DatagramIo) : P (table (s.handlePacket data peer io).1) := by
  rcases handlePacket_frame s data peer io with hf | heq
  · have ht : table (s.handlePacket data peer io).1 = table s := congrArg Prod.snd hf.routing
    rw [ht]
    exact h
  · rw [heq]
    rcases handleStunPacket_cases s data peer with heq | ⟨key, t, -, heq⟩
    · rw [heq]
      exact h
    · rw [heq]
      rcases moveSubscriber_cases (withTransports s _) t.meetingId t.userId _ _ with
        heq | ⟨room, sub, -, -, heq⟩
      · rw [heq]
        exact h
      · rw [heq]
        apply hP.refresh
        exact h

theorem reorder_table (s : MediaIngress lib) (which : Reorder) :
    table (s.reorder which) = table s := by
  cases which with
  | publishers m u | subscribers m u =>
    simp only [reorder, reorderRoom]
    split <;> rfl
  | rooms | transports | rembFeedback => rfl

theorem Stable.step (hP : Stable P) (o : Op) (h : P (table s)) : P (table (s.step o)) := by
  cases o with
  | createRoom | destroyRoom => exact h
  | bindPublisher => exact hP.bindPublisher h ..
  | bindSubscriber => exact hP.bindSubscriber h ..
  | setupTransport => exact hP.setupTransport h ..
  | closeTransport => exact hP.closeTransport h ..
  | removePublisher => exact hP.removePublisher h ..
  | removeSubscriber => exact hP.removeSubscriber h ..
  | sendEstimatedRemb m u kbps now =>
    have ht := congrArg Prod.snd (sendEstimatedRemb_quiet s m u kbps now).routing
    show P (routing (s.sendEstimatedRembToPublisher m u kbps now).1).2
    rw [ht]
    exact h
  | datagram => exact hP.handlePacket h ..
  | reorder which =>
    show P (table (s.reorder which))
    rw [reorder_table]
    exact h

theorem Stable.after (hP : Stable P) (h : P (table s)) (os : List Op) :
    P (table (run MediaIngress.step s os)) :=
  run_inv (P := fun s => P (table s)) (fun _ o => hP.step o) h os

end Stable

/-! ## Every feedback entry has its route -/

theorem backed_stable : Stable (RouteTable.Backed routeKey) where
  clearAll _ sources h := RouteTable.clearAll_backed h sources
  rebuildAll _ _ _ h := RouteTable.rebuildAll_backed h _

/-- Routes that can be named by feedback. -/
def NonZero (t : RouteTable UInt32 SubscriberRoute String) : Prop :=
  ∀ source, ∀ r ∈ t.forward source, source ≠ 0 ∧ r.rewrittenSsrc ≠ 0

theorem nonZero_stable : Stable NonZero where
  clearAll t sources h source r hr := by
    rw [RouteTable.clearAll_forward] at hr
    split at hr
    · simp at hr
    · exact h source r hr
  rebuildAll t m room h source r hr := by
    rw [RouteTable.rebuildAll_forward] at hr
    split at hr
    · rename_i hs
      have hne := (mem_roomSources.mp hs).1
      exact ⟨hne, roomRoutes_ne_zero hne hr⟩
    · exact h source r hr

theorem routes_new (port : UInt16) (nackCapacity : Nat) (source : UInt32) :
    (MediaIngress.new port nackCapacity : MediaIngress lib).router.routes source = [] := rfl

/-- In every reachable state, every feedback entry has its route. -/
theorem backed_of_reachable (h : Reachable s) : (table s).Backed routeKey := by
  obtain ⟨port, nackCapacity, os, rfl⟩ := h
  apply backed_stable.after
  intro k source hk
  simp [table, MediaIngress.new] at hk

theorem nonZero_of_reachable (h : Reachable s) : NonZero (table s) := by
  obtain ⟨port, nackCapacity, os, rfl⟩ := h
  apply nonZero_stable.after
  intro source r hr
  simp [table, routes_new] at hr

/-! ## Every route has a source and a subscriber -/

/-- One of the subscriber's endpoint texts is read as `e`. -/
def HasEndpoint (sub : Subscriber) (e : Endpoint) : Prop :=
  ∃ text ∈ [sub.endpoint, sub.audioEndpoint, sub.videoEndpoint], parseEndpoint text = some e

/-- A room with the source and with a subscriber at the endpoint. -/
structure Grounds (room : Room) (source : UInt32) (e : Endpoint) : Prop where
  source_mem : source ∈ roomSources room
  subscriber : ∃ u sub, room.subscribers.lookup u = some sub ∧ HasEndpoint sub e

def GroundedAt (s : MediaIngress lib) (source : UInt32) (e : Endpoint) : Prop :=
  ∃ m room, s.roomManager.getRoomShared m = some room ∧ Grounds room source e

def Grounded (s : MediaIngress lib) : Prop :=
  ∀ source, ∀ r ∈ s.router.routes source, GroundedAt s source r.endpoint

theorem subscriberEndpoint_mem (sub : Subscriber) (video : Bool) :
    subscriberEndpoint sub video ∈ [sub.endpoint, sub.audioEndpoint, sub.videoEndpoint] := by
  simp only [subscriberEndpoint]
  split
  · split
    · simp
    · split <;> simp
  · split
    · simp
    · split <;> simp

theorem roomRoutes_grounds {m : String} {room : Room} {source : UInt32}
    (hs : source ∈ roomSources room) {r : SubscriberRoute} (hr : r ∈ roomRoutes m room source) :
    Grounds room source r.endpoint := by
  simp only [roomRoutes, List.mem_filterMap] at hr
  obtain ⟨sub, hmem, hsub⟩ := hr
  obtain ⟨x, hx, rfl⟩ := List.mem_map.mp hmem
  split at hsub
  · simp at hsub
  · split at hsub
    · simp at hsub
    · obtain ⟨e, he, rfl⟩ := Option.map_eq_some_iff.mp hsub
      exact ⟨hs, x.1, x.2, mem_entries.mp hx, _, subscriberEndpoint_mem _ _, he⟩

theorem GroundedAt.of_rooms {s' : MediaIngress lib} {source : UInt32} {e : Endpoint}
    (h : GroundedAt s source e) (heq : s'.roomManager = s.roomManager) :
    GroundedAt s' source e := by
  rw [GroundedAt, heq]
  exact h

theorem Grounded.of_routing {s' : MediaIngress lib} (h : Grounded s)
    (heq : routing s' = routing s) : Grounded s' := by
  obtain ⟨hrooms, ht⟩ := Prod.mk.inj heq
  have hroutes : s'.router.routes = s.router.routes := congrArg RouteTable.forward ht
  intro source r hr
  rw [hroutes] at hr
  exact (h source r hr).of_rooms hrooms

/-- A change of a room without the source. -/
theorem GroundedAt.setRoom {m : String} {room : Room} {source : UInt32} {e : Endpoint}
    (h : GroundedAt s source e) (hroom : s.roomManager.getRoomShared m = some room)
    (hs : source ∉ roomSources room) (room' : Room) : GroundedAt (s.setRoom m room') source e := by
  obtain ⟨m₀, room₀, h₀, hg⟩ := h
  refine ⟨m₀, room₀, ?_, hg⟩
  rw [getRoomShared_setRoom hroom, if_neg]
  · exact h₀
  · rintro rfl
    rw [hroom] at h₀
    obtain rfl := Option.some.inj h₀
    exact hs hg.source_mem

/-- After a refresh it is enough to know the routes of the other sources. -/
theorem Grounded.refresh {m : String} {room : Room}
    (hroom : s.roomManager.getRoomShared m = some room)
    (h : ∀ source ∉ roomSources room, ∀ r ∈ s.router.routes source,
      GroundedAt s source r.endpoint) : Grounded (s.refreshRoomRoutes m) := by
  intro source r hr
  have ht := congrArg (fun t => RouteTable.forward t source) (table_refreshRoomRoutes hroom)
  simp only [RouteTable.rebuildAll_forward] at ht
  refine GroundedAt.of_rooms ?_ (refreshRoomRoutes_roomManager s m)
  have hr' : r ∈ (table (s.refreshRoomRoutes m)).forward source := hr
  rw [ht] at hr'
  split at hr'
  · rename_i hs
    exact ⟨m, room, hroom, roomRoutes_grounds hs hr'⟩
  · rename_i hs
    exact h source hs r hr'

/-- Subscribers of a room come, go or move, and the room is refreshed. -/
theorem Grounded.setSubscribers (h : Grounded s) {m : String} {room : Room}
    (hroom : s.roomManager.getRoomShared m = some room)
    (subscribers : AList fun _ : String => Subscriber) :
    Grounded ((s.setRoom m { room with subscribers }).refreshRoomRoutes m) := by
  have hroom' : (s.setRoom m { room with subscribers }).roomManager.getRoomShared m =
      some { room with subscribers } := by
    rw [getRoomShared_setRoom hroom, if_pos rfl]
  apply Grounded.refresh hroom'
  intro source hs r hr
  exact (h source r hr).setRoom hroom hs _

theorem Grounded.bindSubscriber (h : Grounded s) (place : Nat) (m u : String) (a v : UInt32) :
    Grounded (s.bindSubscriber place m u a v).1 := by
  rcases bindSubscriber_cases s place m u a v with heq | ⟨room, sub, hroom, -, -, -, -, heq⟩
  · rw [heq]
    exact h
  · rw [heq]
    exact h.setSubscribers hroom _

theorem Grounded.removeSubscriber (h : Grounded s) (m u : String) :
    Grounded (s.removeSubscriber m u).1 := by
  rcases removeSubscriber_cases s m u with heq | ⟨room, hroom, -, heq⟩
  · rw [heq]
    exact h
  · rw [heq]
    exact h.setSubscribers hroom _

/-- A source of a publisher that is not touched stays a source of its room. -/
theorem mem_roomSources_or {room : Room} {u : String} {source : UInt32}
    (hs : source ∈ roomSources room) :
    (∃ p, room.publishers.lookup u = some p ∧ p.hasSsrc source = true) ∨
    ∀ publishers : AList fun _ : String => Publisher,
      (∀ u' ≠ u, publishers.lookup u' = room.publishers.lookup u') →
      source ∈ roomSources { room with publishers } := by
  obtain ⟨hne, u', p, hu', hp⟩ := mem_roomSources.mp hs
  by_cases huu : u' = u
  · subst huu
    exact .inl ⟨p, hu', hp⟩
  · refine .inr fun publishers hsame => mem_roomSources.mpr ⟨hne, u', p, ?_, hp⟩
    rw [hsame u' huu]
    exact hu'

theorem Grounded.bindPublisher (h : Grounded s) (place : Nat) (m u : String) (a v : UInt32) :
    Grounded (s.bindPublisher place m u a v).1 := by
  rcases bindPublisher_cases s place m u a v with
    heq | ⟨room, previous, merged, hroom, hprevious, -, -, heq⟩
  · rw [heq]
    exact h
  · rw [heq]
    dsimp only
    rw [rebindPublisher_eq]
    generalize hpubs : assign place u merged room.publishers = publishers
    have hlookup (u' : String) :
        publishers.lookup u' = if u' = u then some merged else room.publishers.lookup u' := by
      rw [← hpubs, lookup_assign]
    have hroom' : (dropAndRegister (s.setRoom m { room with publishers }) previous
        merged).roomManager.getRoomShared m = some { room with publishers } := by
      rw [dropAndRegister_roomManager, getRoomShared_setRoom hroom, if_pos rfl]
    apply Grounded.refresh hroom'
    intro source hs r hr
    have hr' : r ∈ (table (dropAndRegister (s.setRoom m { room with publishers }) previous
        merged)).forward source := hr
    rw [table_dropAndRegister, RouteTable.clearAll_forward] at hr'
    split at hr'
    · simp at hr'
    · rename_i hkept
      refine GroundedAt.of_rooms ?_ (dropAndRegister_roomManager ..)
      apply (h source r hr').setRoom hroom
      intro hold
      rcases mem_roomSources_or (u := u) hold with ⟨p, hp, hssrc⟩ | hother
      · obtain rfl : previous = p := by rw [hprevious, hp]; rfl
        have hne := (mem_roomSources.mp hold).1
        apply hkept
        apply mem_droppedSources hne hssrc
        by_contra hmerged
        refine hs (mem_roomSources.mpr ⟨hne, u, merged, ?_, by simpa using hmerged⟩)
        rw [hlookup, if_pos rfl]
      · apply hs
        apply hother
        intro u' hu'
        rw [hlookup, if_neg hu']

theorem forgetPublisher_roomManager (s : MediaIngress lib) (m u : String) (p : Publisher) :
    (s.forgetPublisher m u p).roomManager = s.roomManager :=
  (removePublisherRoutes_roomManager ..).trans (removePublisherRoutes_roomManager ..)

theorem Grounded.removePublisher (h : Grounded s) (m u : String) :
    Grounded (s.removePublisher m u).1 := by
  rcases removePublisher_cases s m u with heq | ⟨room, p, hroom, hp, heq⟩
  · rw [heq]
    exact h
  · rw [heq]
    intro source r hr
    have hr' : r ∈ (table ((s.setRoom m { room with
        publishers := room.publishers.erase u }).forgetPublisher m u p)).forward source := hr
    rw [table_forgetPublisher, RouteTable.clearAll_forward] at hr'
    split at hr'
    · simp at hr'
    · rename_i hkept
      refine GroundedAt.of_rooms ?_ (forgetPublisher_roomManager ..)
      obtain ⟨m₀, room₀, h₀, hg⟩ := h source r hr'
      by_cases hm : m₀ = m
      · subst hm
        rw [hroom] at h₀
        obtain rfl := Option.some.inj h₀
        refine ⟨m₀, { room with publishers := room.publishers.erase u },
          by rw [getRoomShared_setRoom hroom, if_pos rfl], ?_, hg.subscriber⟩
        rcases mem_roomSources_or (u := u) hg.source_mem with ⟨q, hq, hssrc⟩ | hother
        · rw [hp] at hq
          obtain rfl := Option.some.inj hq
          have hne := (mem_roomSources.mp hg.source_mem).1
          have hmem : p.audioSsrc = source ∨ p.videoSsrc = source := by
            simpa only [Publisher.hasSsrc, decide_eq_true_eq] using hssrc
          refine absurd (List.mem_filter.mpr ⟨?_, by simpa using hne⟩) hkept
          rcases hmem with rfl | rfl
          · exact List.mem_cons_self
          · exact List.mem_cons_of_mem _ List.mem_cons_self
        · apply hother
          intro u' hu'
          exact AList.lookup_erase_ne hu'
      · exact ⟨m₀, room₀, by rw [getRoomShared_setRoom hroom, if_neg hm]; exact h₀, hg⟩

theorem Grounded.withTransports (h : Grounded s) (r : TransportRegistry lib) :
    Grounded (withTransports s r) := h

theorem Grounded.setupTransport (h : Grounded s) (req : SetupRequest) (io : SetupIo) :
    Grounded (s.setupTransport req io).1 := by
  rcases setupTransport_cases s req io with ⟨-, heq⟩ | ⟨s₁, hs₁, heq⟩
  · rw [heq]
    exact h
  · obtain ⟨dtls, rfl⟩ := registerTransport_some hs₁
    rcases heq with heq | heq
    · rw [heq]
      exact (h.withTransports _).bindSubscriber _ _ _ _ _
    · rw [heq]
      exact ((h.withTransports _).bindSubscriber _ _ _ _ _).bindPublisher _ _ _ _ _

theorem Grounded.closeTransport (h : Grounded s) (m u : String) :
    Grounded (s.closeTransport m u).1 := by
  rcases closeTransport_cases s m u with heq | heq
  · rw [heq]
    exact h
  · rw [heq]
    exact ((h.withTransports _).removeSubscriber m u).removePublisher m u

theorem Grounded.moveSubscriber (h : Grounded s) (m u kind text : String) :
    Grounded (s.moveSubscriber m u kind text) := by
  rcases moveSubscriber_cases s m u kind text with heq | ⟨room, sub, hroom, -, heq⟩
  · rw [heq]
    exact h
  · rw [heq]
    exact h.setSubscribers hroom _

theorem Grounded.handlePacket (h : Grounded s) (data : Bytes) (peer : Endpoint)
    (io : DatagramIo) : Grounded (s.handlePacket data peer io).1 := by
  rcases handlePacket_frame s data peer io with hf | heq
  · exact h.of_routing hf.routing
  · rw [heq]
    rcases handleStunPacket_cases s data peer with heq | ⟨key, t, -, heq⟩
    · rw [heq]
      exact h
    · rw [heq]
      exact (h.withTransports _).moveSubscriber _ _ _ _

/-- The rooms hold the same publishers and subscribers, in any order. -/
def SameEntries (room room' : Room) : Prop :=
  (∀ u, room'.publishers.lookup u = room.publishers.lookup u) ∧
    ∀ u, room'.subscribers.lookup u = room.subscribers.lookup u

theorem GroundedAt.of_lookups {s' : MediaIngress lib} {source : UInt32} {e : Endpoint}
    (h : GroundedAt s source e)
    (hrooms : ∀ m room, s.roomManager.getRoomShared m = some room →
      ∃ room', s'.roomManager.getRoomShared m = some room' ∧
        SameEntries room room') : GroundedAt s' source e := by
  obtain ⟨m, room, hroom, hs, u, sub, hu, hsub⟩ := h
  obtain ⟨room', hroom', hpubs, hsubs⟩ := hrooms m room hroom
  refine ⟨m, room', hroom', ?_, u, sub, by rw [hsubs, hu], hsub⟩
  simpa only [mem_roomSources, hpubs] using hs

theorem getRoomShared_some {r : RoomManager} {m : String} {room : Room} :
    r.getRoomShared m = some room ↔ m ≠ "" ∧ r.rooms.lookup m = some room := by
  simp only [RoomManager.getRoomShared]
  split
  · rename_i h
    simp [h]
  · rename_i h
    simp [h]

theorem createRoom_lookup {r : RoomManager} {m : String} {room : Room}
    (h : r.rooms.lookup m = some room) (place : Nat) (m' : String) (n : Nat) :
    (r.createRoom place m' n).rooms.lookup m = some room := by
  simp only [RoomManager.createRoom]
  split
  · exact h
  · by_cases hmem : m' ∈ r.rooms
    · simpa [emplace, hmem] using h
    · rw [lookup_emplace hmem, if_neg]
      · exact h
      · rintro rfl
        exact hmem (mem_of_lookup h)

theorem createRoom_getRoomShared {r : RoomManager} {m : String} {room : Room}
    (h : r.getRoomShared m = some room) (place : Nat) (m' : String) (n : Nat) :
    (r.createRoom place m' n).getRoomShared m = some room := by
  obtain ⟨hm, hlookup⟩ := getRoomShared_some.mp h
  exact getRoomShared_some.mpr ⟨hm, createRoom_lookup hlookup place m' n⟩

theorem reorderRoom_lookup {m : String} {room : Room}
    (h : s.roomManager.rooms.lookup m = some room) (m' : String) {f : Room → Room}
    (hf : ∀ room, SameEntries room (f room)) :
    ∃ room', (s.reorderRoom m' f).roomManager.rooms.lookup m = some room' ∧
      SameEntries room room' := by
  simp only [reorderRoom]
  split
  · exact ⟨room, h, fun _ => rfl, fun _ => rfl⟩
  · rename_i room₀ hroom₀
    by_cases hm : m = m'
    · subst hm
      rw [hroom₀] at h
      obtain rfl := Option.some.inj h
      exact ⟨f room₀, lookup_replace_self _ (mem_of_lookup hroom₀), hf room₀⟩
    · exact ⟨room, (lookup_replace_ne _ _ hm).trans h, fun _ => rfl, fun _ => rfl⟩

theorem reorder_lookup {m : String} {room : Room}
    (h : s.roomManager.rooms.lookup m = some room) (which : Reorder) :
    ∃ room', (s.reorder which).roomManager.rooms.lookup m = some room' ∧
      SameEntries room room' := by
  cases which with
  | rooms m' => exact ⟨room, (lookup_toFront ..).trans h, fun _ => rfl, fun _ => rfl⟩
  | publishers m' u =>
    exact reorderRoom_lookup h m' fun room => ⟨fun u' => lookup_toFront .., fun _ => rfl⟩
  | subscribers m' u =>
    exact reorderRoom_lookup h m' fun room => ⟨fun _ => rfl, fun u' => lookup_toFront ..⟩
  | transports | rembFeedback => exact ⟨room, h, fun _ => rfl, fun _ => rfl⟩

theorem reorder_getRoomShared {m : String} {room : Room}
    (h : s.roomManager.getRoomShared m = some room) (which : Reorder) :
    ∃ room', (s.reorder which).roomManager.getRoomShared m = some room' ∧
      SameEntries room room' := by
  obtain ⟨hm, hlookup⟩ := getRoomShared_some.mp h
  obtain ⟨room', hroom', hsame⟩ := reorder_lookup hlookup which
  exact ⟨room', getRoomShared_some.mpr ⟨hm, hroom'⟩, hsame⟩

/-- Every operation but the destruction of a room. -/
def keepsRooms : Op → Bool
  | .destroyRoom _ => false
  | _ => true

/-- Every route has its source and a subscriber, until a room is destroyed. -/
theorem grounded_step {o : Op} (ho : keepsRooms o = true) (h : Grounded s) :
    Grounded (s.step o) := by
  cases o with
  | createRoom place m n =>
    intro source r hr
    apply (h source r hr).of_lookups
    intro m' room hroom
    exact ⟨room, createRoom_getRoomShared hroom place m n, fun _ => rfl, fun _ => rfl⟩
  | destroyRoom m => exact absurd ho Bool.false_ne_true
  | bindPublisher place m u a v => exact h.bindPublisher place m u a v
  | bindSubscriber place m u a v => exact h.bindSubscriber place m u a v
  | setupTransport req io => exact h.setupTransport req io
  | closeTransport m u => exact h.closeTransport m u
  | removePublisher m u => exact h.removePublisher m u
  | removeSubscriber m u => exact h.removeSubscriber m u
  | sendEstimatedRemb m u kbps now => exact h.of_routing (sendEstimatedRemb_quiet ..).routing
  | datagram data peer io => exact h.handlePacket data peer io
  | reorder which =>
    intro source r hr
    have hroutes : (s.reorder which).router.routes = s.router.routes :=
      congrArg RouteTable.forward (reorder_table s which)
    have hr' : r ∈ (s.reorder which).router.routes source := hr
    rw [hroutes] at hr'
    exact (h source r hr').of_lookups fun m room hroom => reorder_getRoomShared hroom which

theorem grounded_new (port : UInt16) (nackCapacity : Nat) :
    Grounded (MediaIngress.new port nackCapacity : MediaIngress lib) := by
  intro source r hr
  simp [routes_new] at hr

end MeetingSystem.Proof.Sfu
