import MeetingSystem.Proof.Sfu.RoomGroups

/-!
# Routes that are up to date

Every operation on a room but `RemovePublisher` ends with a refresh of the
room. `RemovePublisher` only clears the routes of the publisher that leaves,
although the SSRCs of the other routes depend on the number of publishers:
after `talkRun_stale` the next STUN keepalive changes the SSRC of a stream. The
other way to fail is that rooms get into each other's way, with an SSRC that
two publishers share or with two streams toward one endpoint under one SSRC.
`upToDate_run`: there is no third one.
-/

namespace MeetingSystem.Proof.Sfu

open MeetingSystem.Framework MeetingSystem.Impl.Sfu MediaIngress

variable {lib : SrtpLib} {s : MediaIngress lib}

/-! ## Keepalives and operations -/

/-- A STUN request from the endpoint that its transport has selected and that
the subscriber receives the kind of media at. -/
structure Keepalive (s : MediaIngress lib) (data : Bytes) (peer : Endpoint) : Prop where
  stun : isStunPacket data = true
  selected : ∀ key t, s.transportRegistry.find (fun t =>
    t.iceSession.matchesUsername (parseStunUsername data)) = some (key, t) →
    t.selects peer = true ∧ ∀ room sub, s.roomManager.getRoomShared t.meetingId = some room →
      room.getSubscriber t.userId = some sub →
      selectSubscriberEndpoint sub (TransportRegistry.mediaKindOf key) (endpointKey peer) = sub

/-- An operation, with what the entries that it adds to its room do to the
order of the room's tables. -/
structure Call where
  rehash : List Reorder
  op : Op

def reordered (s : MediaIngress lib) (c : Call) : MediaIngress lib :=
  run MediaIngress.reorder s c.rehash

def callStep (s : MediaIngress lib) (c : Call) : MediaIngress lib := (reordered s c).step c.op

/-- The room whose tables are brought into another order. -/
def reorderedRoom : Reorder → Option String
  | .publishers m _ => some m
  | .subscribers m _ => some m
  | _ => none

/-- Tables of a room change their order only when they grow. -/
structure Rehashes (s : MediaIngress lib) (c : Call) : Prop where
  grown : ∀ which ∈ c.rehash, ∀ m, reorderedRoom which = some m → grows (reordered s c) c.op = some m
  alone : ∀ which, c.op = .reorder which → reorderedRoom which = none

/-- What an operation takes from a publisher, the others do not miss. -/
def GivesUp (s : MediaIngress lib) : Op → Prop
  | .bindPublisher place m u a v => RebindsAlone s place m u a v
  | .setupTransport req io => ∀ s₁, s.registerTransport req io = some s₁ →
    RebindsAlone (setupSubscriber s₁ req io) io.publisherPlace req.meetingId req.userId
      (assignedSsrcs req io).1 (assignedSsrcs req io).2
  | .removePublisher m u => LeavesAlone s m u
  | .closeTransport m u =>
    LeavesAlone ((withTransports s (s.transportRegistry.eraseUserTransports m u)).removeSubscriber
      m u).1 m u
  | _ => True

/-- The room that an operation refreshes, as its arguments change the room, is
apart from the others, also between the two halves of `SetupTransport`. -/
def KeepsRoomsApart (s : MediaIngress lib) : Op → Prop
  | .bindPublisher place m u a v => KeepsApart s.roomManager m (withPublisher place u a v)
  | .bindSubscriber place m u a v => KeepsApart s.roomManager m (withSubscriber place u a v)
  | .setupTransport req io =>
    let bound := withSubscriber io.subscriberPlace req.userId (assignedSsrcs req io).1
      (assignedSsrcs req io).2
    (s.registerTransport req io).isSome →
      KeepsApart s.roomManager req.meetingId bound ∧
      KeepsApart s.roomManager req.meetingId fun room => (bound room).bind
        (withPublisher io.publisherPlace req.userId (assignedSsrcs req io).1
          (assignedSsrcs req io).2)
  | .removeSubscriber m u | .closeTransport m u =>
    KeepsApart s.roomManager m (·.removeSubscriber u)
  | .datagram data peer _ =>
    isStunPacket data = true → ∀ key t, s.transportRegistry.find (fun t =>
        t.iceSession.matchesUsername (parseStunUsername data)) = some (key, t) →
      KeepsApart s.roomManager t.meetingId
        (withEndpoint t.userId (TransportRegistry.mediaKindOf key) (endpointKey peer))
  | _ => True

/-- Rooms stay apart and publishers leave without a trace. -/
structure Settles (s : MediaIngress lib) (c : Call) : Prop where
  rehashes : Rehashes s c
  apart : KeepsRoomsApart (reordered s c) c.op
  givesUp : GivesUp (reordered s c) c.op

/-! ## Whole operations -/

/-- The transport is registered and the user bound as a subscriber; the other
rooms are as they were. -/
theorem SettledBut.setupSubscriber {s₁ : MediaIngress lib} {req : SetupRequest} {io : SetupIo}
    (hs₁ : s.registerTransport req io = some s₁) (h : SettledBut s (some req.meetingId))
    (hapart : KeepsApart s.roomManager req.meetingId (withSubscriber io.subscriberPlace req.userId
      (assignedSsrcs req io).1 (assignedSsrcs req io).2)) :
    SettledBut (setupSubscriber s₁ req io) none ∧
      ∃ room room', s.roomManager.getRoomShared req.meetingId = some room ∧
        withSubscriber io.subscriberPlace req.userId (assignedSsrcs req io).1
          (assignedSsrcs req io).2 room = some room' ∧
        ∀ m, (setupSubscriber s₁ req io).roomManager.getRoomShared m =
          if m = req.meetingId then some room' else s.roomManager.getRoomShared m := by
  have hreg : Registers s req io := registerTransport_isSome.mp (by rw [hs₁]; rfl)
  obtain ⟨dtls, rfl⟩ := registerTransport_some hs₁
  obtain ⟨room, hroom⟩ := Option.ne_none_iff_exists'.mp hreg.2.1
  clear hs₁
  generalize s.transportRegistry.upsert _ _ _ = registry
  rcases bindSubscriber_cases (Sfu.withTransports s registry) io.subscriberPlace req.meetingId
    req.userId (assignedSsrcs req io).1 (assignedSsrcs req io).2 with
    heq | ⟨room₁, sub, hroom₁, -, -, -, hwith, heq⟩
  · have hbound := (bindSubscriber_binds (s := Sfu.withTransports s registry) hreg.1.2.1 hroom
      io.subscriberPlace (assignedSsrcs req io).1 (assignedSsrcs req io).2).1
    rw [heq] at hbound
    cases hbound
  · rw [Sfu.setupSubscriber, heq]
    refine ⟨SettledBut.setRoom h hroom₁ (hapart room₁ _ hroom₁ hwith), room₁, _, hroom₁, hwith,
      fun m => ?_⟩
    rw [refreshRoomRoutes_roomManager, getRoomShared_setRoom hroom₁]
    rfl

theorem SettledBut.setupTransport {req : SetupRequest} {io : SetupIo}
    (h : SettledBut s (grows s (.setupTransport req io)))
    (hapart : KeepsRoomsApart s (.setupTransport req io))
    (hgives : GivesUp s (.setupTransport req io)) :
    SettledBut (s.setupTransport req io).1 none := by
  rcases setupTransport_cases s req io with ⟨hs₁, heq⟩ | ⟨s₁, hs₁, heq⟩
  · rw [heq]
    rw [grows, hs₁] at h
    exact h
  · rw [grows, hs₁] at h
    obtain ⟨hbound, hpublished⟩ := hapart (by rw [hs₁]; rfl)
    obtain ⟨hsub, room, room', hroom, hwith, hrooms⟩ := SettledBut.setupSubscriber hs₁ h hbound
    rcases heq with heq | heq
    · rw [heq]
      exact hsub
    · rw [heq]
      refine (hsub.mono _).bindPublisher (fun room₁ room₂ hroom₁ hwith₂ => ?_) (hgives s₁ hs₁)
      rw [hrooms, if_pos rfl] at hroom₁
      obtain rfl := Option.some.inj hroom₁
      have hapart₂ := hpublished room room₂ hroom (by dsimp only; rw [hwith]; exact hwith₂)
      intro m room₃ hm hroom₃
      rw [hrooms, if_neg hm] at hroom₃
      exact hapart₂ m room₃ hm hroom₃

theorem SettledBut.closeTransport {m u : String} (h : SettledBut s none)
    (hapart : KeepsRoomsApart s (.closeTransport m u))
    (hgives : GivesUp s (.closeTransport m u)) :
    SettledBut (s.closeTransport m u).1 none := by
  rcases closeTransport_cases s m u with heq | heq
  · rw [heq]
    exact h
  · rw [heq]
    apply SettledBut.removePublisher
    · exact (h.withTransports _).removeSubscriber hapart
    · exact hgives

theorem SettledBut.handlePacket {data : Bytes} {peer : Endpoint} {io : DatagramIo}
    (h : SettledBut s none) (hapart : KeepsRoomsApart s (.datagram data peer io)) :
    SettledBut (s.handlePacket data peer io).1 none := by
  rcases handlePacket_frame s data peer io with hf | heq
  · exact h.of_routing hf.routing
  · rw [heq]
    by_cases hstun : isStunPacket data = true
    · rcases handleStunPacket_cases s data peer with heq | ⟨key, t, hfind, heq⟩
      · rw [heq]
        exact h
      · rw [heq]
        exact (h.withTransports _).moveSubscriber (hapart hstun key t hfind)
    · have hnone : parseStunUsername data = "" := if_pos hstun
      rw [handleStunPacket, if_pos hnone]
      exact h

/-- A room that was not there before has no publishers. -/
theorem createRoom_new {r : RoomManager} {m m' : String} {place n : Nat} {room : Room}
    (hold : r.getRoomShared m' = none)
    (hroom : (r.createRoom place m n).getRoomShared m' = some room) : roomSources room = [] := by
  obtain ⟨hne, hlookup⟩ := getRoomShared_some.mp hroom
  have hnone : r.rooms.lookup m' = none := by
    rw [RoomManager.getRoomShared, if_neg hne] at hold
    exact hold
  unfold RoomManager.createRoom at hlookup
  split at hlookup
  · rw [hnone] at hlookup
    cases hlookup
  · by_cases hmem : m ∈ r.rooms
    · simp only [emplace, hmem, dif_pos] at hlookup
      rw [hnone] at hlookup
      cases hlookup
    · rw [lookup_emplace hmem] at hlookup
      split at hlookup
      · obtain rfl := Option.some.inj hlookup
        rfl
      · rw [hnone] at hlookup
        cases hlookup

theorem SettledBut.createRoom (h : SettledBut s none) (place : Nat) (m : String) (n : Nat) :
    SettledBut { s with roomManager := s.roomManager.createRoom place m n } none := by
  intro m' room _ hroom
  cases hold : s.roomManager.getRoomShared m' with
  | some room' =>
    have hkept := createRoom_getRoomShared hold place m n
    rw [hkept] at hroom
    obtain rfl := Option.some.inj hroom
    exact h m' room' (by simp) hold
  | none =>
    have hsources : (roomGroup m' room).sources = [] := createRoom_new hold hroom
    refine ⟨fun x hx => ?_, fun k x hk => ?_, fun k _ x hx => ?_⟩
    · rw [hsources] at hx
      cases hx
    · have hx := (RouteGroup.owner_some hk).1
      rw [hsources] at hx
      cases hx
    · rw [hsources] at hx
      cases hx

theorem SettledBut.destroyRoom (h : SettledBut s none) (m : String) :
    SettledBut { s with roomManager := s.roomManager.destroyRoom m } none := by
  intro m' room _ hroom
  refine h m' room (by simp) (getRoomShared_some.mpr ?_)
  obtain ⟨hne, hlookup⟩ := getRoomShared_some.mp hroom
  refine ⟨hne, ?_⟩
  unfold RoomManager.destroyRoom at hlookup
  split at hlookup
  · exact hlookup
  · exact (lookup_of_erase hlookup).2

theorem reorder_room {which : Reorder} {m : String} (h : reorderedRoom which ≠ some m) :
    (s.reorder which).roomManager.getRoomShared m = s.roomManager.getRoomShared m := by
  have hroom (m' : String) (hm : m' ≠ m) (f : Room → Room) :
      (s.reorderRoom m' f).roomManager.getRoomShared m = s.roomManager.getRoomShared m := by
    unfold reorderRoom
    split
    · rfl
    · simp only [RoomManager.getRoomShared, setRoom, RoomManager.setRoom,
        lookup_replace_ne _ _ (Ne.symm hm)]
  cases which with
  | rooms => simp only [RoomManager.getRoomShared, reorder, lookup_toFront]
  | publishers m' u => exact hroom m' (fun e => h (congrArg some e)) _
  | subscribers m' u => exact hroom m' (fun e => h (congrArg some e)) _
  | transports | rembFeedback => rfl

theorem settledBut_step {o : Op} (h : SettledBut s (grows s o))
    (halone : ∀ which, o = .reorder which → reorderedRoom which = none)
    (hapart : KeepsRoomsApart s o) (hgives : GivesUp s o) :
    SettledBut (s.step o) none := by
  cases o with
  | createRoom place m n => exact SettledBut.createRoom h place m n
  | destroyRoom m => exact SettledBut.destroyRoom h m
  | bindPublisher place m u a v => exact h.bindPublisher hapart hgives
  | bindSubscriber place m u a v => exact h.bindSubscriber hapart
  | setupTransport req io => exact h.setupTransport hapart hgives
  | closeTransport m u => exact SettledBut.closeTransport h hapart hgives
  | removePublisher m u => exact SettledBut.removePublisher h hgives
  | removeSubscriber m u => exact SettledBut.removeSubscriber h hapart
  | sendEstimatedRemb m u kbps now =>
    exact SettledBut.of_routing h (sendEstimatedRemb_quiet ..).routing
  | datagram data peer io => exact SettledBut.handlePacket h hapart
  | reorder which =>
    intro m room hm hroom
    have hroom' : (s.reorder which).roomManager.getRoomShared m = some room := hroom
    rw [reorder_room (by rw [halone which rfl]; simp)] at hroom'
    have ht : table (s.step (.reorder which)) = table s := reorder_table s which
    rw [ht]
    exact h m room (by simp [grows]) hroom'

/-- What a rehash leaves settled. -/
theorem SettledBut.rehash {o : Option String} {rs : List Reorder} (h : SettledBut s none)
    (hrs : ∀ which ∈ rs, ∀ m, reorderedRoom which = some m → o = some m) :
    SettledBut (run MediaIngress.reorder s rs) o := by
  have hrun : table (run MediaIngress.reorder s rs) = table s ∧ ∀ m, o ≠ some m →
      (run MediaIngress.reorder s rs).roomManager.getRoomShared m =
        s.roomManager.getRoomShared m := by
    clear h
    induction rs generalizing s with
    | nil => exact ⟨rfl, fun _ _ => rfl⟩
    | cons which rs ih =>
      obtain ⟨ht, hrooms⟩ := ih (s := s.reorder which)
        fun which' hmem => hrs which' (List.mem_cons_of_mem _ hmem)
      refine ⟨ht.trans (reorder_table s which), fun m hm => ?_⟩
      rw [run_cons, hrooms m hm]
      apply reorder_room
      intro hwhich
      exact hm (hrs which List.mem_cons_self m hwhich)
  obtain ⟨ht, hrooms⟩ := hrun
  intro m room hm hroom
  rw [ht]
  rw [hrooms m hm] at hroom
  exact h m room (by simp) hroom

theorem upToDate_call {c : Call} (hok : Settles s c) (h : UpToDate s) : UpToDate (callStep s c) := by
  rw [upToDate_iff] at h ⊢
  exact settledBut_step (h.rehash hok.rehashes.grown) hok.rehashes.alone hok.apart hok.givesUp

theorem upToDate_new (port : UInt16) (nackCapacity : Nat) :
    UpToDate (MediaIngress.new port nackCapacity : MediaIngress lib) := by
  rw [upToDate_iff]
  intro m room _ hroom
  simp [MediaIngress.new, RoomManager.new, RoomManager.getRoomShared] at hroom

/-! ## Keepalives -/

theorem setRoom_self {m : String} {room : Room}
    (h : s.roomManager.getRoomShared m = some room) : s.setRoom m room = s := by
  rw [MediaIngress.setRoom, RoomManager.setRoom, replace_self (getRoomShared_some.mp h).2]

/-- The endpoint is where the subscriber is already. -/
theorem moveSubscriber_self {m u kind text : String}
    (h : ∀ room sub, s.roomManager.getRoomShared m = some room → room.getSubscriber u = some sub →
      selectSubscriberEndpoint sub kind text = sub) :
    s.moveSubscriber m u kind text = s ∨
      s.moveSubscriber m u kind text = s.refreshRoomRoutes m := by
  rcases moveSubscriber_cases s m u kind text with heq | ⟨room, sub, hroom, hsub, heq⟩
  · exact .inl heq
  · have hlookup : room.subscribers.lookup u = some sub := by
      unfold Room.getSubscriber at hsub
      split at hsub
      · cases hsub
      · exact hsub
    rw [heq, h room sub hroom hsub, replace_self hlookup]
    exact .inr (congrArg (·.refreshRoomRoutes m) (setRoom_self hroom))

theorem UpToDate.keepalive (h : UpToDate s) {data : Bytes} {peer : Endpoint}
    (hkeep : Keepalive s data peer) (io : DatagramIo) :
    table (s.handlePacket data peer io).1 = table s := by
  have hstun : s.handlePacket data peer io = s.handleStunPacket data peer := by
    rw [MediaIngress.handlePacket, if_pos hkeep.stun]
  rw [hstun]
  simp only [handleStunPacket, TransportRegistry.selectEndpointForUsername]
  split
  · rfl
  · cases hfind : s.transportRegistry.find fun t =>
      t.iceSession.matchesUsername (parseStunUsername data) with
    | none => rfl
    | some x =>
      obtain ⟨key, t⟩ := x
      obtain ⟨-, hsub⟩ := hkeep.selected key t hfind
      show table ((withTransports s (s.transportRegistry.set key
        { t with iceSession := t.iceSession.selectEndpoint peer })).moveSubscriber t.meetingId
          t.userId (TransportRegistry.mediaKindOf key) (endpointKey peer)) = table s
      generalize s.transportRegistry.set key
        { t with iceSession := t.iceSession.selectEndpoint peer } = r
      have hup : UpToDate (withTransports s r) :=
        upToDate_iff.mpr ((upToDate_iff.mp h).withTransports r)
      rcases @moveSubscriber_self _ (withTransports s r) _ _ _ _ hsub with heq | heq
      · rw [heq]
        rfl
      · rw [heq, hup]
        rfl

/-- In every state of a run whose operations settle, refreshing changes
nothing, and neither does a keepalive. -/
theorem upToDate_run (port : UInt16) (nackCapacity : Nat) (cs : List Call)
    (h : Along callStep Settles (MediaIngress.new port nackCapacity : MediaIngress lib) cs) :
    UpToDate (run callStep (MediaIngress.new port nackCapacity : MediaIngress lib) cs) ∧
    ∀ data peer io,
      Keepalive (run callStep (MediaIngress.new port nackCapacity : MediaIngress lib) cs) data peer →
      table ((run callStep (MediaIngress.new port nackCapacity : MediaIngress lib) cs).handlePacket
        data peer io).1 =
      table (run callStep (MediaIngress.new port nackCapacity : MediaIngress lib) cs) := by
  have hrun := Along.inv (fun _ _ hok hs => upToDate_call hok hs) (upToDate_new port nackCapacity) h
  exact ⟨hrun, fun data peer io hkeep => hrun.keepalive hkeep io⟩

/-! ## Two runs -/

/-- `Keepalive` as a test. -/
def keepaliveHere (s : MediaIngress lib) (data : Bytes) (peer : Endpoint) : Bool :=
  isStunPacket data &&
  (s.transportRegistry.find fun t =>
    t.iceSession.matchesUsername (parseStunUsername data)).all fun x => x.2.selects peer &&
      ((s.roomManager.getRoomShared x.2.meetingId).bind (·.getSubscriber x.2.userId)).all fun sub =>
        selectSubscriberEndpoint sub (TransportRegistry.mediaKindOf x.1) (endpointKey peer) = sub

theorem keepalive_of_here {data : Bytes} {peer : Endpoint}
    (h : keepaliveHere s data peer = true) : Keepalive s data peer := by
  obtain ⟨hstun, hselected⟩ := Bool.and_eq_true_iff.mp h
  refine ⟨hstun, fun key t hfind => ?_⟩
  rw [hfind, Option.all_some] at hselected
  obtain ⟨hselects, hsubscriber⟩ := Bool.and_eq_true_iff.mp hselected
  refine ⟨hselects, fun room sub hroom hsub => ?_⟩
  rw [hroom, Option.bind_some, hsub, Option.all_some] at hsubscriber
  exact of_decide_eq_true hsubscriber

/-- `w` listens in a room where `u` and `v` speak, and prefers SSRC 77. -/
def talkRun : List Op :=
  [.createRoom 0 "a" 8, .bindPublisher 0 "a" "u" 10 0, .bindPublisher 0 "a" "v" 20 0,
    listen "a" "w" "c1" "s1", .bindSubscriber 0 "a" "w" 77 0,
    .datagram (stunRequest "s1:c1") listener quietIo]

/-- After some operations that leave the order of the tables alone. -/
def after (os : List Op) : MediaIngress tagLib :=
  run callStep (.new 5000 16) (os.map (Call.mk []))

/-- When `v` leaves, the stream of `u` keeps the SSRC that it had beside the
other one until the next keepalive. -/
theorem talkRun_stale :
    ¬ UpToDate (after (talkRun ++ [.removePublisher "a" "v"])) ∧
    Keepalive (after (talkRun ++ [.removePublisher "a" "v"])) (stunRequest "s1:c1") listener ∧
    (after (talkRun ++ [.removePublisher "a" "v"])).router.routes 10 ≠
      ((after (talkRun ++ [.removePublisher "a" "v"])).handlePacket (stunRequest "s1:c1") listener
        quietIo).1.router.routes 10 := by
  refine ⟨fun h => ?_, keepalive_of_here (by decide +kernel), by decide +kernel⟩
  have hroutes := congrArg (fun t => RouteTable.forward t 10) (h "a")
  revert hroutes
  decide +kernel

/-- There is only one room. -/
def oneRoom (r : RoomManager) : Bool := r.rooms.keys.length ≤ 1

theorem keepsApart_of_one {r : RoomManager} (h : oneRoom r = true) (m : String)
    (change : Room → Option Room) : KeepsApart r m change := by
  intro room _ hroom _ m' room' hne hroom'
  have hm := AList.mem_keys.mp (mem_of_lookup (getRoomShared_some.mp hroom).2)
  have hm' := AList.mem_keys.mp (mem_of_lookup (getRoomShared_some.mp hroom').2)
  have hlength : r.rooms.keys.length ≤ 1 := of_decide_eq_true h
  match hkeys : r.rooms.keys with
  | [] =>
    rw [hkeys] at hm
    cases hm
  | [k] =>
    rw [hkeys, List.mem_singleton] at hm hm'
    exact absurd (hm'.trans hm.symm) hne
  | k :: k' :: ks =>
    rw [hkeys] at hlength
    simp at hlength

theorem keepsRoomsApart_of_one (h : oneRoom s.roomManager = true) (o : Op) :
    KeepsRoomsApart s o := by
  cases o with
  | setupTransport req io =>
    exact fun _ => ⟨keepsApart_of_one h _ _, keepsApart_of_one h _ _⟩
  | datagram data peer io => exact fun _ _ _ _ => keepsApart_of_one h _ _
  | bindPublisher | bindSubscriber | removeSubscriber | closeTransport =>
    exact keepsApart_of_one h _ _
  | _ => trivial

/-- The user is none of the publishers yet. -/
def newPublisher (s : MediaIngress lib) (m u : String) : Bool :=
  ((s.roomManager.getRoomShared m).bind (·.publishers.lookup u)).isNone

theorem rebindsAlone_of_new {place : Nat} {m u : String} {a v : UInt32}
    (h : newPublisher s m u = true) : RebindsAlone s place m u a v := by
  intro room p hroom hp
  rw [newPublisher, hroom, Option.bind_some, hp] at h
  cases h

/-- `Leaves` as a test, for a publisher with an SSRC of its own. -/
def leavesHere (s : MediaIngress lib) (m : String) (room : Room) (u : String) (p : Publisher) :
    Bool :=
  ((publisherSsrcs (s.setRoom m (withoutPublisher room u))).all fun x => ¬ p.hasSsrc x) &&
  ((roomSources (withoutPublisher room u)).all fun x => room.snapshotSubscribers.all fun sub =>
    rewrittenSsrc m sub x (sourceIsVideo room x)
      (publisherCount (withoutPublisher room u) (sourceIsVideo room x)) =
    rewrittenSsrc m sub x (sourceIsVideo room x) (publisherCount room (sourceIsVideo room x))) &&
  (roomSources (withoutPublisher room u)).all fun y =>
    (roomRoutes m (withoutPublisher room u) y).all fun r =>
      ¬ (s.feedbackRoutes (routeKey r)).any p.hasSsrc

theorem leaves_of_here {m u : String} {room : Room} {p : Publisher}
    (h : leavesHere s m room u p = true) : Leaves s m room u p := by
  obtain ⟨h, hkeys⟩ := Bool.and_eq_true_iff.mp h
  obtain ⟨hown, hrewrites⟩ := Bool.and_eq_true_iff.mp h
  refine ⟨fun x hx m' room' hroom' hmem => ?_, fun x hmem _ sub hsub _ => ?_,
    fun k x hk hx y hy r hr hkey => ?_⟩
  · have hnot := List.all_eq_true.mp hown x (mem_publisherSsrcs_of_room hroom' hmem)
    simp [hx] at hnot
  · have hall := List.all_eq_true.mp (List.all_eq_true.mp hrewrites x hmem) sub hsub
    exact of_decide_eq_true hall
  · have hall := List.all_eq_true.mp (List.all_eq_true.mp hkeys y hy) r hr
    rw [hkey, hk] at hall
    simp [hx] at hall

/-- `GivesUp` as a test, for users who do not publish yet. -/
def givesUpHere (s : MediaIngress lib) : Op → Bool
  | .bindPublisher _ m u _ _ => newPublisher s m u
  | .setupTransport req io => (s.registerTransport req io).all fun s₁ =>
    newPublisher (setupSubscriber s₁ req io) req.meetingId req.userId
  | .removePublisher m u => (s.roomManager.getRoomShared m).all fun room =>
    (room.publishers.lookup u).all (leavesHere s m room u)
  | .closeTransport _ _ => false
  | _ => true

theorem givesUp_of_here {o : Op} (h : givesUpHere s o = true) : GivesUp s o := by
  cases o with
  | bindPublisher place m u a v => exact rebindsAlone_of_new h
  | setupTransport req io =>
    intro s₁ hs₁
    apply rebindsAlone_of_new
    rw [givesUpHere, hs₁, Option.all_some] at h
    exact h
  | removePublisher m u =>
    intro room p hroom hp
    apply leaves_of_here
    rw [givesUpHere, hroom, Option.all_some, hp, Option.all_some] at h
    exact h
  | closeTransport m u => cases h
  | _ => trivial

/-- `Settles` as a test, in one room and without a change of order. -/
def settlesHere (s : MediaIngress lib) (o : Op) : Bool :=
  oneRoom s.roomManager && givesUpHere s o && match o with
    | .reorder _ => false
    | _ => true

theorem settles_of_here {o : Op} (h : settlesHere s o = true) : Settles s ⟨[], o⟩ := by
  obtain ⟨h, hop⟩ := Bool.and_eq_true_iff.mp h
  obtain ⟨hone, hgives⟩ := Bool.and_eq_true_iff.mp h
  refine ⟨⟨fun which hwhich => ?_, fun which hwhich => ?_⟩, keepsRoomsApart_of_one hone o,
    givesUp_of_here hgives⟩
  · cases hwhich
  · obtain rfl : o = .reorder which := hwhich
    cases hop

theorem along_settles {os : List Op} (h : Along step (fun s o => settlesHere s o = true) s os) :
    Along callStep Settles s (os.map (Call.mk [])) := by
  induction os generalizing s with
  | nil => trivial
  | cons o os ih => exact ⟨settles_of_here h.1, ih h.2⟩

/-- The third of three publishers leaves. -/
theorem upToDate_run_talkRun :
    UpToDate (after (talkRun ++ [.bindPublisher 0 "a" "x" 30 0, .removePublisher "a" "x"])) ∧
    table ((after (talkRun ++ [.bindPublisher 0 "a" "x" 30 0,
      .removePublisher "a" "x"])).handlePacket (stunRequest "s1:c1") listener quietIo).1 =
    table (after (talkRun ++ [.bindPublisher 0 "a" "x" 30 0, .removePublisher "a" "x"])) := by
  have hhere : Along step (fun s o => settlesHere s o = true)
      (MediaIngress.new 5000 16 : MediaIngress tagLib)
      (talkRun ++ [.bindPublisher 0 "a" "x" 30 0, .removePublisher "a" "x"]) := by
    decide +kernel
  obtain ⟨hup, hkeep⟩ := upToDate_run 5000 16 _ (along_settles hhere)
  exact ⟨hup, hkeep (stunRequest "s1:c1") listener quietIo
    (keepalive_of_here (by decide +kernel))⟩

end MeetingSystem.Proof.Sfu
