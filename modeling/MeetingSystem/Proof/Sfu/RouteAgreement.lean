import MeetingSystem.Proof.Sfu.RouteSteps

/-!
# The routes and the feedback table agree

A NACK names a route by the endpoint it comes from and the SSRC the route
rewrites to; the feedback table leads back to the source. The table holds one
source for each such pair, so this needs that no two sources share one.

`routes_agree`: it is enough that the rewritten SSRCs toward an endpoint are
distinct after every operation and, inside `SetupTransport` and
`CloseTransport`, between the two operations these run. The second part is
needed: `closeRun` has distinct SSRCs after every operation, but in the middle
of its last one a route takes the pair of a route of another room, and takes
it along when it is removed (`closeRun_disagrees`).
-/

namespace MeetingSystem.Proof.Sfu

open MeetingSystem.Framework MeetingSystem.Impl.Sfu MediaIngress

variable {lib : SrtpLib} {s : MediaIngress lib}

/-! ## The statement -/

/-- The SSRCs of all publishers. -/
def publisherSsrcs (s : MediaIngress lib) : List UInt32 :=
  s.roomManager.rooms.entries.flatMap fun x => roomSources x.2

/-- Routes of different sources toward one endpoint have different SSRCs. -/
def RewritesDistinct (s : MediaIngress lib) : Prop :=
  ∀ source source' route route', route ∈ s.router.routes source →
    route' ∈ s.router.routes source' → source ≠ source' → route.endpoint = route'.endpoint →
    route.rewrittenSsrc ≠ route'.rewrittenSsrc

/-- What a deployment with well-chosen SSRCs looks like. -/
structure WellChosen (s : MediaIngress lib) : Prop where
  publishers : (publisherSsrcs s).Nodup
  rewrites : RewritesDistinct s
  foreign : ∀ source, ∀ route ∈ s.router.routes source,
    route.rewrittenSsrc ∈ publisherSsrcs s → route.rewrittenSsrc = source

/-- The states that `SetupTransport` and `CloseTransport` pass through between
the operations they consist of. -/
def stages (s : MediaIngress lib) : Op → List (MediaIngress lib)
  | .setupTransport req io => ((s.registerTransport req io).map (setupSubscriber · req io)).toList
  | .closeTransport m u =>
    [((withTransports s (s.transportRegistry.eraseUserTransports m u)).removeSubscriber m u).1]
  | _ => []

/-- Every route is resolved from its endpoint and SSRC, and every feedback
entry has its route. -/
structure Agree (s : MediaIngress lib) : Prop where
  resolves : ∀ source, ∀ route ∈ s.router.routes source,
    s.resolveNackSourceSsrc route.endpoint route.rewrittenSsrc = source
  backed : ∀ key source, s.feedbackRoutes key = some source →
    ∃ route ∈ s.router.routes source, key = feedbackRouteKey route.endpoint route.rewrittenSsrc

/-! ## Every route is in the feedback table -/

def Indexed (s : MediaIngress lib) : Prop := (table s).Indexed routeKey

/-- The routes with one endpoint and SSRC are in the table. -/
def IndexedAt (key : String) (s : MediaIngress lib) : Prop := (table s).IndexedAt routeKey key

/-- Only one source has routes with the endpoint and SSRC. -/
def SeparateAt (key : String) (s : MediaIngress lib) : Prop := (table s).SeparateAt routeKey key

theorem RewritesDistinct.separate (h : RewritesDistinct s) : (table s).Separate routeKey := by
  intro source source' r r' hr hr' hkey
  obtain ⟨he, hssrc⟩ := feedbackRouteKey_inj hkey
  by_contra hne
  exact h source source' r r' hr hr' hne he hssrc

variable {key : String}

theorem IndexedAt.of_table {s' : MediaIngress lib} (h : IndexedAt key s) (heq : table s' = table s) :
    IndexedAt key s' := by
  rw [IndexedAt, heq]
  exact h

theorem IndexedAt.setRoom (h : IndexedAt key s) (m : String) (room : Room) : IndexedAt key (s.setRoom m room) := h

theorem IndexedAt.withTransports (h : IndexedAt key s) (r : TransportRegistry lib) :
    IndexedAt key (withTransports s r) := h

theorem IndexedAt.refresh (h : IndexedAt key s) {m : String}
    (hsep : SeparateAt key (s.refreshRoomRoutes m)) : IndexedAt key (s.refreshRoomRoutes m) := by
  cases hroom : s.roomManager.getRoomShared m with
  | none =>
    rw [refreshRoomRoutes, hroom]
    exact h
  | some room =>
    rw [SeparateAt, table_refreshRoomRoutes hroom] at hsep
    rw [IndexedAt, table_refreshRoomRoutes hroom]
    exact RouteTable.rebuildAll_indexedAt h _ hsep

theorem IndexedAt.bindSubscriber (h : IndexedAt key s) {place : Nat} {m u : String} {a v : UInt32}
    (hsep : SeparateAt key (s.bindSubscriber place m u a v).1) :
    IndexedAt key (s.bindSubscriber place m u a v).1 := by
  rcases bindSubscriber_cases s place m u a v with heq | ⟨room, sub, -, -, -, -, -, heq⟩
  · rw [heq]
    exact h
  · rw [heq] at hsep ⊢
    exact (h.setRoom m _).refresh hsep

theorem IndexedAt.removeSubscriber (h : IndexedAt key s) {m u : String}
    (hsep : SeparateAt key (s.removeSubscriber m u).1) : IndexedAt key (s.removeSubscriber m u).1 := by
  rcases removeSubscriber_cases s m u with heq | ⟨room, -, -, heq⟩
  · rw [heq]
    exact h
  · rw [heq] at hsep ⊢
    exact (h.setRoom m _).refresh hsep

theorem IndexedAt.bindPublisher (h : IndexedAt key s) {place : Nat} {m u : String} {a v : UInt32}
    (hsep : SeparateAt key (s.bindPublisher place m u a v).1) :
    IndexedAt key (s.bindPublisher place m u a v).1 := by
  rcases bindPublisher_cases s place m u a v with heq | ⟨room, previous, merged, -, -, -, -, heq⟩
  · rw [heq]
    exact h
  · rw [heq] at hsep ⊢
    dsimp only at hsep ⊢
    rw [rebindPublisher_eq] at hsep ⊢
    refine IndexedAt.refresh ?_ hsep
    rw [IndexedAt, table_dropAndRegister]
    exact RouteTable.clearAll_indexedAt h _

theorem IndexedAt.removePublisher (h : IndexedAt key s) (m u : String) :
    IndexedAt key (s.removePublisher m u).1 := by
  rcases removePublisher_cases s m u with heq | ⟨room, p, -, -, heq⟩
  · rw [heq]
    exact h
  · rw [heq, IndexedAt, table_forgetPublisher]
    exact RouteTable.clearAll_indexedAt h _

theorem IndexedAt.setupTransport (h : IndexedAt key s) {req : SetupRequest} {io : SetupIo}
    (hsep : SeparateAt key (s.setupTransport req io).1)
    (hstage : ∀ s' ∈ stages s (.setupTransport req io), SeparateAt key s') :
    IndexedAt key (s.setupTransport req io).1 := by
  rcases setupTransport_cases s req io with ⟨-, heq⟩ | ⟨s₁, hs₁, heq⟩
  · rw [heq]
    exact h
  · have hsub : SeparateAt key (setupSubscriber s₁ req io) := by
      apply hstage
      simp [stages, hs₁]
    obtain ⟨dtls, rfl⟩ := registerTransport_some hs₁
    have hbound := (h.withTransports _).bindSubscriber hsub
    rcases heq with heq | heq
    · rw [heq]
      exact hbound
    · rw [heq] at hsep ⊢
      exact hbound.bindPublisher hsep

theorem IndexedAt.closeTransport (h : IndexedAt key s) {m u : String}
    (hstage : ∀ s' ∈ stages s (.closeTransport m u), SeparateAt key s') :
    IndexedAt key (s.closeTransport m u).1 := by
  rcases closeTransport_cases s m u with heq | heq
  · rw [heq]
    exact h
  · rw [heq]
    apply IndexedAt.removePublisher
    apply (h.withTransports _).removeSubscriber
    exact hstage _ List.mem_cons_self

theorem IndexedAt.moveSubscriber (h : IndexedAt key s) {m u kind text : String}
    (hsep : SeparateAt key (s.moveSubscriber m u kind text)) :
    IndexedAt key (s.moveSubscriber m u kind text) := by
  rcases moveSubscriber_cases s m u kind text with heq | ⟨room, sub, -, -, heq⟩
  · rw [heq]
    exact h
  · rw [heq] at hsep ⊢
    exact (h.setRoom m _).refresh hsep

theorem IndexedAt.handlePacket (h : IndexedAt key s) {data : Bytes} {peer : Endpoint} {io : DatagramIo}
    (hsep : SeparateAt key (s.handlePacket data peer io).1) :
    IndexedAt key (s.handlePacket data peer io).1 := by
  rcases handlePacket_frame s data peer io with hf | heq
  · exact h.of_table (congrArg Prod.snd hf.routing)
  · rw [heq] at hsep ⊢
    rcases handleStunPacket_cases s data peer with heq | ⟨key, t, -, heq⟩
    · rw [heq]
      exact h
    · rw [heq] at hsep ⊢
      exact (h.withTransports _).moveSubscriber hsep

theorem indexedAt_step {o : Op} (h : IndexedAt key s) (hsep : SeparateAt key (s.step o))
    (hstage : ∀ s' ∈ stages s o, SeparateAt key s') : IndexedAt key (s.step o) := by
  cases o with
  | createRoom | destroyRoom => exact h.of_table rfl
  | bindPublisher => exact h.bindPublisher hsep
  | bindSubscriber => exact h.bindSubscriber hsep
  | setupTransport => exact h.setupTransport hsep hstage
  | closeTransport => exact h.closeTransport hstage
  | removePublisher m u => exact h.removePublisher m u
  | removeSubscriber => exact h.removeSubscriber hsep
  | sendEstimatedRemb m u kbps now =>
    exact h.of_table (congrArg Prod.snd (sendEstimatedRemb_quiet s m u kbps now).routing)
  | datagram => exact h.handlePacket hsep
  | reorder which => exact h.of_table (reorder_table s which)

theorem indexedAt_new (key : String) (port : UInt16) (nackCapacity : Nat) :
    IndexedAt key (MediaIngress.new port nackCapacity : MediaIngress lib) := by
  intro source route hroute
  simp [table, MediaIngress.new, RtpRouter.new, RtpRouter.routes] at hroute

/-! ## Agreement -/

theorem findPublisher_isSome {room : Room} {ssrc : UInt32} :
    (room.findPublisherBySsrc ssrc).isSome = true ↔ ssrc ∈ roomSources room := by
  rw [mem_roomSources, Room.findPublisherBySsrc]
  split
  · rename_i h
    simp [h]
  · rename_i h
    simp only [Option.isSome_map, List.find?_isSome]
    constructor
    · rintro ⟨x, hx, hp⟩
      exact ⟨h, x.1, x.2, mem_entries.mp hx, hp⟩
    · rintro ⟨-, u, p, hu, hp⟩
      exact ⟨⟨u, p⟩, mem_entries.mpr hu, hp⟩

/-- `ResolvePublisher` finds the publishers' SSRCs. -/
theorem resolvePublisher_isSome {ssrc : UInt32} :
    (s.resolvePublisher ssrc).isSome = true ↔ ssrc ∈ publisherSsrcs s := by
  simp only [resolvePublisher, RoomManager.findPublisherBySsrc, List.findSome?_isSome_iff,
    Option.isSome_map, findPublisher_isSome, publisherSsrcs, List.mem_flatMap]

theorem agree_of_wellChosen (hindexed : Indexed s) (hbacked : (table s).Backed routeKey)
    (hne : NonZero (table s)) (h : WellChosen s) : Agree s := by
  refine ⟨fun source route hroute => ?_, fun key source hkey => ?_⟩
  · rw [resolveNackSourceSsrc, if_neg (hne source route hroute).2]
    split
    · rename_i hpub
      exact h.foreign source route hroute (resolvePublisher_isSome.mp hpub)
    · have hf : s.feedbackRoutes (feedbackRouteKey route.endpoint route.rewrittenSsrc) =
          some source := hindexed source route hroute
      rw [hf]
      rfl
  · obtain ⟨route, hroute, hk⟩ := hbacked key source hkey
    exact ⟨route, hroute, hk.symm⟩

/-- After every run whose SSRCs are well chosen, also in the middle of
`SetupTransport` and `CloseTransport`, the two tables agree. -/
theorem routes_agree (port : UInt16) (nackCapacity : Nat) (os : List Op)
    (h : Along step (fun s o => WellChosen (s.step o) ∧ ∀ s' ∈ stages s o, RewritesDistinct s')
      (MediaIngress.new port nackCapacity : MediaIngress lib) os) :
    Agree (run step (MediaIngress.new port nackCapacity : MediaIngress lib) os) := by
  have hreach : Reachable (run step (MediaIngress.new port nackCapacity : MediaIngress lib) os) :=
    ⟨port, nackCapacity, os, rfl⟩
  have hnew : WellChosen (MediaIngress.new port nackCapacity : MediaIngress lib) :=
    ⟨List.nodup_nil, fun source source' route route' hr => by simp [routes_new] at hr,
      fun source route hr => by simp [routes_new] at hr⟩
  have hinv := Along.inv (P := fun s => (∀ key, IndexedAt key s) ∧ WellChosen s)
    (fun s o hok hs => ⟨fun key => indexedAt_step (hs.1 key) (hok.1.rewrites.separate.at key)
      fun s' hs' => (hok.2 s' hs').separate.at key, hok.1⟩)
    ⟨fun key => indexedAt_new key port nackCapacity, hnew⟩ h
  exact agree_of_wellChosen (RouteTable.indexed_of_at hinv.1) (backed_of_reachable hreach)
    (nonZero_of_reachable hreach) hinv.2

/-! ## A run that needs the middle of `CloseTransport` -/

/-- `WellChosen` on the sources that publishers have. -/
def wellChosenHere (s : MediaIngress lib) : Bool :=
  (publisherSsrcs s).Nodup ∧
  ((publisherSsrcs s).all fun source => (publisherSsrcs s).all fun source' =>
    (s.router.routes source).all fun route => (s.router.routes source').all fun route' =>
      source ≠ source' → route.endpoint = route'.endpoint →
        route.rewrittenSsrc ≠ route'.rewrittenSsrc) ∧
  (publisherSsrcs s).all fun source => (s.router.routes source).all fun route =>
    route.rewrittenSsrc ∈ publisherSsrcs s → route.rewrittenSsrc = source

theorem Grounded.mem_publisherSsrcs (h : Grounded s) {source : UInt32} {r : SubscriberRoute}
    (hr : r ∈ s.router.routes source) : source ∈ publisherSsrcs s := by
  obtain ⟨m, room, hroom, hg⟩ := h source r hr
  have hlookup := (getRoomShared_some.mp hroom).2
  exact List.mem_flatMap.mpr ⟨⟨m, room⟩, mem_entries.mpr hlookup, hg.source_mem⟩

theorem wellChosen_of_here (hg : Grounded s) (h : wellChosenHere s = true) : WellChosen s := by
  simp only [wellChosenHere, List.all_eq_true, decide_eq_true_eq] at h
  exact ⟨h.1, fun source source' route route' hr hr' =>
    h.2.1 source (hg.mem_publisherSsrcs hr) source' (hg.mem_publisherSsrcs hr') route hr route' hr',
    fun source route hr => h.2.2 source (hg.mem_publisherSsrcs hr) route hr⟩

theorem Grounded.stages (h : Grounded s) {o : Op} {s' : MediaIngress lib} (hs' : s' ∈ stages s o) :
    Grounded s' := by
  cases o with
  | setupTransport req io =>
    simp only [Sfu.stages, Option.mem_toList, Option.map_eq_some_iff] at hs'
    obtain ⟨s₁, hs₁, rfl⟩ := hs'
    obtain ⟨dtls, rfl⟩ := registerTransport_some hs₁
    exact (h.withTransports _).bindSubscriber _ _ _ _ _
  | closeTransport m u =>
    obtain rfl := List.mem_singleton.mp hs'
    exact (h.withTransports _).removeSubscriber m u
  | _ => simp [Sfu.stages] at hs'

/-- A STUN binding request with a `USERNAME` attribute. -/
def stunRequest (username : String) : Bytes :=
  let name := username.toList.map fun c => c.toNat.toUInt8
  let padded := name ++ List.replicate ((4 - name.length % 4) % 4) 0
  ([0x00, 0x01, 0x00, (padded.length + 4).toUInt8, 0x21, 0x12, 0xA4, 0x42] : Bytes) ++
    List.replicate 12 0 ++ [0x00, 0x06, 0x00, name.length.toUInt8] ++ padded

/-- Answers of OpenSSL under which a handshake goes on. -/
def handshaking : DtlsIo :=
  { written := true, handshake := .want, peerDigest := none, srtpProfile := none
    outgoing := [], drained := true, exporter := none }

def quietIo : DatagramIo := { now := 0, dtls := handshaking, rembPlace := fun _ => 0 }

/-- A user who only listens sets up a transport. -/
def listen (m u clientUfrag serverUfrag : String) : Op :=
  .setupTransport
    { meetingId := m, userId := u, publishAudio := false, publishVideo := false
      clientIceUfrag := clientUfrag, clientIcePwd := "pwd", clientDtlsFingerprint := "AA"
      advertisedAddress := "10.0.0.1:5000" }
    { initialized := true, audioSsrc := 0, videoSsrc := 0, serverIceUfrag := serverUfrag
      serverIcePwd := "pwd", start := ⟨true, true, true, .want⟩, serverDtlsFingerprint := "BB"
      transportPlace := 0, subscriberPlace := 0, publisherPlace := 0 }

def listener : Endpoint := ⟨10, 0, 0, 7, 5004⟩

/-- `w` listens in the rooms `a` and `b` from one endpoint and prefers SSRC 77
in both. In `a` the route of `u` has a hashed SSRC, as there was a second
publisher. -/
def listenRun : List Op :=
  [.createRoom 0 "a" 8, .createRoom 0 "b" 8,
    .bindPublisher 0 "a" "u" 10 0, .bindPublisher 0 "a" "v" 20 0,
    listen "a" "w" "c1" "s1", .bindSubscriber 0 "a" "w" 77 0,
    .datagram (stunRequest "s1:c1") listener quietIo,
    .bindSubscriber 0 "a" "u" 0 0, .removePublisher "a" "v",
    .bindPublisher 0 "b" "x" 30 0, listen "b" "w" "c2" "s2", .bindSubscriber 0 "b" "w" 77 0,
    .datagram (stunRequest "s2:c2") listener quietIo]

theorem listenRun_wellChosen :
    Along step (fun s o => WellChosen (s.step o) ∧ ∀ s' ∈ stages s o, RewritesDistinct s')
      (MediaIngress.new 5000 16 : MediaIngress tagLib) listenRun := by
  have hhere : Along step (fun s o => keepsRooms o = true ∧ wellChosenHere (s.step o) = true ∧
      ∀ s' ∈ stages s o, wellChosenHere s' = true)
      (MediaIngress.new 5000 16 : MediaIngress tagLib) listenRun := by
    decide +kernel
  exact Along.of_inv (P := Grounded) (fun s o hok hg => grounded_step hok.1 hg)
    (fun s o hok hg => ⟨wellChosen_of_here (grounded_step hok.1 hg) hok.2.1, fun s' hs' =>
      (wellChosen_of_here (hg.stages hs') (hok.2.2 s' hs')).rewrites⟩)
    (grounded_new 5000 16) hhere

theorem routes_agree_listenRun :
    (⟨77, listener⟩ : SubscriberRoute) ∈
      (run step (MediaIngress.new 5000 16 : MediaIngress tagLib) listenRun).router.routes 30 ∧
    Agree (run step (MediaIngress.new 5000 16 : MediaIngress tagLib) listenRun) :=
  ⟨by decide +kernel, routes_agree 5000 16 listenRun listenRun_wellChosen⟩

/-- Closing `u`'s transport first gives `u`'s route the SSRC 77 and then
removes it, and with it the feedback entry of the route from `b`. -/
def closeRun : List Op := listenRun ++ [.closeTransport "a" "u"]

theorem along_wellChosen {port : UInt16} {nackCapacity : Nat} {os : List Op}
    (h : Along step (fun s o => keepsRooms o = true ∧ wellChosenHere (s.step o) = true)
      (MediaIngress.new port nackCapacity : MediaIngress lib) os) :
    Along step (fun s o => WellChosen (s.step o))
      (MediaIngress.new port nackCapacity : MediaIngress lib) os :=
  Along.of_inv (P := Grounded) (fun _ _ hok hg => grounded_step hok.1 hg)
    (fun _ _ hok hg => wellChosen_of_here (grounded_step hok.1 hg) hok.2)
    (grounded_new port nackCapacity) h

/-- SSRCs that are well chosen after every operation are not enough. -/
theorem closeRun_disagrees :
    Along step (fun s o => WellChosen (s.step o)) (MediaIngress.new 5000 16 : MediaIngress tagLib)
      closeRun ∧
    ¬ Agree (run step (MediaIngress.new 5000 16 : MediaIngress tagLib) closeRun) := by
  refine ⟨along_wellChosen (by decide +kernel), fun h => ?_⟩
  have hroute : (⟨77, listener⟩ : SubscriberRoute) ∈
      (run step (MediaIngress.new 5000 16 : MediaIngress tagLib) closeRun).router.routes 30 := by
    decide +kernel
  have hresolves := h.resolves 30 _ hroute
  revert hresolves
  decide +kernel

end MeetingSystem.Proof.Sfu
