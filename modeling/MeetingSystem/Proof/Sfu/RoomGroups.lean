import MeetingSystem.Framework.RouteGroups
import MeetingSystem.Proof.Sfu.SetupAtomic
import MeetingSystem.Proof.Sfu.SourceTables

/-!
# Rooms as groups of sources

A room is a group of sources with the routes that `RefreshRoomRoutes` computes
for them (`roomGroup`), and the routes are up to date if refreshing changes
nothing, in no room (`UpToDate`). Operations that end with a refresh settle
their own room, and the others stay as they are if the room that changes stays
apart from them (`KeepsApart`); `RemovePublisher` does not refresh, and needs
more (`Leaves`).
-/

namespace MeetingSystem.Proof.Sfu

open MeetingSystem.Framework MeetingSystem.Impl.Sfu MediaIngress

variable {lib : SrtpLib} {s : MediaIngress lib}

/-- `RefreshRoomRoutes` changes nothing. -/
def UpToDate (s : MediaIngress lib) : Prop := ∀ m, table (s.refreshRoomRoutes m) = table s

/-- The sources of a room and the routes they should have. -/
def roomGroup (m : String) (room : Room) : RouteGroup UInt32 SubscriberRoute :=
  { sources := roomSources room, target := roomRoutes m room }

/-- Where this room, as the room of `m`, and another one have a source or an
endpoint and SSRC in common, they agree on the routes of the one and on the
source of the other. -/
def ApartFrom (r : RoomManager) (m : String) (room : Room) : Prop :=
  ∀ m' room', m' ≠ m → r.getRoomShared m' = some room' →
    (roomGroup m room).Apart routeKey (roomGroup m' room')

/-- The room of `m` is apart from the others once it is changed. -/
def KeepsApart (r : RoomManager) (m : String) (change : Room → Option Room) : Prop :=
  ∀ room room', r.getRoomShared m = some room → change room = some room' → ApartFrom r m room'

/-- The room once the user receives a kind of media at another endpoint. -/
def withEndpoint (u kind text : String) (room : Room) : Option Room :=
  (room.getSubscriber u).map fun sub =>
    { room with subscribers := room.subscribers.replace u (selectSubscriberEndpoint sub kind text) }

/-- Publishers that have the SSRC have no listeners. -/
def Unheard (r : RoomManager) (x : UInt32) : Prop :=
  ∀ m room, r.getRoomShared m = some room → x ∈ roomSources room → roomRoutes m room x = []

/-- Whether a source is a video source. -/
def sourceIsVideo (room : Room) (x : UInt32) : Bool :=
  (room.findPublisherBySsrc x).any fun (_, publisher) => publisher.videoSsrc = x

def sourceUserId (room : Room) (x : UInt32) : String :=
  ((room.findPublisherBySsrc x).map Prod.fst).getD ""

/-- The number of publishers that send a kind of media. -/
def publisherCount (room : Room) (video : Bool) : Nat :=
  room.snapshotPublishers.countP fun publisher =>
    (if video then publisher.videoSsrc else publisher.audioSsrc) ≠ 0

/-- The subscriber is not the source itself and has an endpoint for its kind of
media. -/
def Listens (room : Room) (x : UInt32) (sub : Subscriber) : Prop :=
  ¬ (1 < room.subscriberCount ∧ sourceUserId room x ≠ "" ∧ sub.userId = sourceUserId room x) ∧
  (parseEndpoint (subscriberEndpoint sub (sourceIsVideo room x))).isSome = true

def withoutPublisher (room : Room) (u : String) : Room :=
  { room with publishers := room.publishers.erase u }

/-- A publisher that leaves is missed by no one: others with its SSRCs are not
listened to, the SSRCs of the streams that remain do not depend on it, and none
of these has the endpoint and SSRC of one of its own. -/
structure Leaves (s : MediaIngress lib) (m : String) (room : Room) (u : String)
    (p : Publisher) : Prop where
  unheard : ∀ x, p.hasSsrc x = true →
    Unheard (s.setRoom m (withoutPublisher room u)).roomManager x
  rewrites : ∀ x ∈ roomSources (withoutPublisher room u), p.hasSsrc x = false →
    ∀ sub ∈ room.snapshotSubscribers, Listens room x sub →
      rewrittenSsrc m sub x (sourceIsVideo room x)
        (publisherCount (withoutPublisher room u) (sourceIsVideo room x)) =
      rewrittenSsrc m sub x (sourceIsVideo room x) (publisherCount room (sourceIsVideo room x))
  keys : ∀ k x, s.feedbackRoutes k = some x → p.hasSsrc x = true →
    ∀ y ∈ roomSources (withoutPublisher room u), ∀ r ∈ roomRoutes m (withoutPublisher room u) y,
      routeKey r ≠ k

def LeavesAlone (s : MediaIngress lib) (m u : String) : Prop :=
  ∀ room p, s.roomManager.getRoomShared m = some room → room.publishers.lookup u = some p →
    Leaves s m room u p

/-- Publishers of other rooms with an SSRC that the user gives up are not
listened to. -/
def RebindsAlone (s : MediaIngress lib) (place : Nat) (m u : String) (a v : UInt32) : Prop :=
  ∀ room p, s.roomManager.getRoomShared m = some room → room.publishers.lookup u = some p →
    let room' := { room with
      publishers := assign place u (mergedPublisher u p a v) room.publishers }
    ∀ x, p.hasSsrc x = true → x ∉ roomSources room' →
      Unheard (s.setRoom m room').roomManager x

/-- The room that an operation adds entries to. -/
def grows (s : MediaIngress lib) : Op → Option String
  | .bindPublisher place m u a v => if (s.bindPublisher place m u a v).2 then some m else none
  | .bindSubscriber place m u a v => if (s.bindSubscriber place m u a v).2 then some m else none
  | .setupTransport req io =>
    if (s.registerTransport req io).isSome then some req.meetingId else none
  | _ => none

/-! ## Rooms as groups -/

theorem table_refresh {m : String} {room : Room}
    (hroom : s.roomManager.getRoomShared m = some room) :
    table (s.refreshRoomRoutes m) = (roomGroup m room).refresh routeKey (table s) :=
  table_refreshRoomRoutes hroom

/-- Every room but one is settled. -/
def SettledBut (s : MediaIngress lib) (o : Option String) : Prop :=
  ∀ m room, o ≠ some m → s.roomManager.getRoomShared m = some room →
    (roomGroup m room).Settled routeKey (table s)

theorem upToDate_iff : UpToDate s ↔ SettledBut s none := by
  constructor
  · intro h m room _ hroom
    rw [RouteGroup.settled_iff, ← table_refresh hroom]
    exact h m
  · intro h m
    cases hroom : s.roomManager.getRoomShared m with
    | none => rw [refreshRoomRoutes, hroom]
    | some room =>
      rw [table_refresh hroom, ← RouteGroup.settled_iff]
      exact h m room (by simp) hroom

/-- Rooms whose routes are up to date are apart. -/
theorem UpToDate.apartFrom (h : UpToDate s) {m : String} {room : Room}
    (hroom : s.roomManager.getRoomShared m = some room) : ApartFrom s.roomManager m room := by
  intro m' room' _ hroom'
  have hs := upToDate_iff.mp h
  exact (hs m room (by simp) hroom).apart (hs m' room' (by simp) hroom')

theorem SettledBut.mono (h : SettledBut s none) (o : Option String) : SettledBut s o :=
  fun m room _ hroom => h m room (by simp) hroom

/-- Rooms and routes are the same. -/
theorem SettledBut.of_routing {s' : MediaIngress lib} {o : Option String} (h : SettledBut s o)
    (heq : routing s' = routing s) : SettledBut s' o := by
  obtain ⟨hrooms, ht⟩ := Prod.mk.inj heq
  intro m room hm hroom
  rw [ht]
  rw [hrooms] at hroom
  exact h m room hm hroom

theorem SettledBut.withTransports {o : Option String} (h : SettledBut s o)
    (r : TransportRegistry lib) : SettledBut (withTransports s r) o := h

/-! ## Operations that refresh -/

/-- A room changes, some sources are cleared, and the room is refreshed. -/
theorem SettledBut.refresh {s' : MediaIngress lib} {m : String} {room : Room}
    {drops : List UInt32} (h : SettledBut s (some m))
    (hroom : s'.roomManager.getRoomShared m = some room)
    (hrooms : ∀ m' ≠ m, s'.roomManager.getRoomShared m' = s.roomManager.getRoomShared m')
    (ht : table s' = (table s).clearAll drops) (hapart : ApartFrom s.roomManager m room)
    (hdrops : ∀ x ∈ drops, x ∉ roomSources room → Unheard s'.roomManager x) :
    SettledBut (s'.refreshRoomRoutes m) none := by
  intro m' room' _ hroom'
  rw [refreshRoomRoutes_roomManager] at hroom'
  rw [table_refresh hroom]
  by_cases hm : m' = m
  · subst hm
    rw [hroom] at hroom'
    obtain rfl := Option.some.inj hroom'
    exact RouteGroup.refresh_settled _ _
  · have hold : (roomGroup m' room').Settled routeKey (table s) := by
      apply h m' room'
      · intro e
        exact hm (Option.some.inj e).symm
      · rw [← hrooms m' hm, hroom']
    rw [ht]
    apply hold.refresh_other (hapart m' room' hm ((hrooms m' hm).symm.trans hroom'))
    intro x hx hmem hout
    exact hdrops x hx hout m' room' hroom' hmem

/-- A room is changed in anything and its routes are computed again. -/
theorem SettledBut.setRoom {m : String} {room room' : Room} (h : SettledBut s (some m))
    (hroom : s.roomManager.getRoomShared m = some room) (hapart : ApartFrom s.roomManager m room') :
    SettledBut ((s.setRoom m room').refreshRoomRoutes m) none := by
  have hroom' : (s.setRoom m room').roomManager.getRoomShared m = some room' := by
    rw [getRoomShared_setRoom hroom, if_pos rfl]
  have ht : table (s.setRoom m room') = (table s).clearAll [] := rfl
  refine h.refresh hroom' (fun m' hm' => ?_) ht hapart (by simp)
  rw [getRoomShared_setRoom hroom, if_neg hm']

theorem SettledBut.bindSubscriber {place : Nat} {m u : String} {a v : UInt32}
    (h : SettledBut s (grows s (.bindSubscriber place m u a v)))
    (hapart : KeepsApart s.roomManager m (withSubscriber place u a v)) :
    SettledBut (s.bindSubscriber place m u a v).1 none := by
  simp only [grows] at h
  rcases bindSubscriber_cases s place m u a v with heq | ⟨room, sub, hroom, -, -, -, hwith, heq⟩
  · rw [heq] at h ⊢
    exact h
  · rw [heq] at h ⊢
    exact h.setRoom hroom (hapart room _ hroom hwith)

theorem SettledBut.removeSubscriber {m u : String} (h : SettledBut s none)
    (hapart : KeepsApart s.roomManager m (·.removeSubscriber u)) :
    SettledBut (s.removeSubscriber m u).1 none := by
  rcases removeSubscriber_cases s m u with heq | ⟨room, hroom, hremove, heq⟩
  · rw [heq]
    exact h
  · rw [heq]
    exact (h.mono _).setRoom hroom (hapart room _ hroom hremove)

theorem SettledBut.moveSubscriber {m u kind text : String} (h : SettledBut s none)
    (hapart : KeepsApart s.roomManager m (withEndpoint u kind text)) :
    SettledBut (s.moveSubscriber m u kind text) none := by
  rcases moveSubscriber_cases s m u kind text with heq | ⟨room, sub, hroom, hsub, heq⟩
  · rw [heq]
    exact h
  · rw [heq]
    apply (h.mono _).setRoom hroom (hapart room _ hroom ?_)
    rw [withEndpoint, hsub]
    rfl

theorem hasSsrc_of_dropped {previous merged : Publisher} {x : UInt32}
    (h : x ∈ droppedSources previous merged) : x ≠ 0 ∧ previous.hasSsrc x = true := by
  simp only [droppedSources, List.mem_append] at h
  rcases h with h | h
  · split at h
    · rename_i ha
      obtain rfl := List.mem_singleton.mp h
      exact ⟨ha.1, by simp [Publisher.hasSsrc]⟩
    · cases h
  · split at h
    · rename_i hv
      obtain rfl := List.mem_singleton.mp h
      exact ⟨hv.1, by simp [Publisher.hasSsrc]⟩
    · cases h

theorem SettledBut.bindPublisher {place : Nat} {m u : String} {a v : UInt32}
    (h : SettledBut s (grows s (.bindPublisher place m u a v)))
    (hapart : KeepsApart s.roomManager m (withPublisher place u a v))
    (hrebinds : RebindsAlone s place m u a v) :
    SettledBut (s.bindPublisher place m u a v).1 none := by
  simp only [grows] at h
  rcases bindPublisher_cases s place m u a v with
    heq | ⟨room, previous, merged, hroom, hprevious, rfl, hwith, heq⟩
  · rw [heq] at h ⊢
    exact h
  · replace hapart := hapart room _ hroom hwith
    rw [heq] at h ⊢
    dsimp only
    rw [rebindPublisher_eq]
    generalize hmerged : mergedPublisher u previous a v = merged at h hapart ⊢
    have hroom' : (dropAndRegister (s.setRoom m { room with
        publishers := assign place u merged room.publishers }) previous
        merged).roomManager.getRoomShared m =
        some { room with publishers := assign place u merged room.publishers } := by
      rw [dropAndRegister_roomManager, getRoomShared_setRoom hroom, if_pos rfl]
    refine SettledBut.refresh h hroom' (fun m' hm' => ?_) (table_dropAndRegister ..) hapart
      (fun x hx hout => ?_)
    · rw [dropAndRegister_roomManager, getRoomShared_setRoom hroom, if_neg hm']
    · rw [dropAndRegister_roomManager]
      obtain ⟨hne, hhas⟩ := hasSsrc_of_dropped hx
      cases hu : room.publishers.lookup u with
      | none =>
        rw [hprevious, hu] at hhas
        simp [Publisher.hasSsrc, Ne.symm hne] at hhas
      | some p =>
        obtain rfl : previous = p := by rw [hprevious, hu]; rfl
        subst hmerged
        exact hrebinds room previous hroom hu x hhas hout

/-! ## A publisher that leaves -/

/-- The publishers before and after the one that leaves. -/
theorem split_publishers {room : Room} {u : String} {p : Publisher}
    (hp : room.publishers.lookup u = some p) :
    ∃ as bs, room.publishers.entries = as ++ ⟨u, p⟩ :: bs ∧
      (withoutPublisher room u).publishers.entries = as ++ bs := by
  obtain ⟨q, as, bs, -, hentries, herase⟩ :=
    List.exists_of_kerase (AList.mem_keys.mp (mem_of_lookup hp))
  refine ⟨as, bs, ?_, herase⟩
  have hq : room.publishers.lookup u = some q := by
    apply mem_entries.mp
    rw [hentries]
    exact List.mem_append_right _ List.mem_cons_self
  rw [hp] at hq
  obtain rfl := Option.some.inj hq
  exact hentries

theorem find_withoutPublisher {room : Room} {u : String} {p : Publisher} {x : UInt32}
    (hp : room.publishers.lookup u = some p) (hx : p.hasSsrc x = false) :
    (withoutPublisher room u).findPublisherBySsrc x = room.findPublisherBySsrc x := by
  obtain ⟨as, bs, hentries, hentries'⟩ := split_publishers hp
  unfold Room.findPublisherBySsrc
  rw [hentries, hentries', List.find?_append, List.find?_append, List.find?_cons_of_neg]
  simp [hx]

/-- The route of a source toward one subscriber. -/
def routeToward (m : String) (room : Room) (x : UInt32) (sub : Subscriber) :
    Option SubscriberRoute :=
  if 1 < room.subscriberCount ∧ sourceUserId room x ≠ "" ∧ sub.userId = sourceUserId room x then
    none
  else if subscriberEndpoint sub (sourceIsVideo room x) = "" then none
  else
    (parseEndpoint (subscriberEndpoint sub (sourceIsVideo room x))).map fun endpoint =>
      { endpoint
        rewrittenSsrc := rewrittenSsrc m sub x (sourceIsVideo room x)
          (publisherCount room (sourceIsVideo room x)) }

theorem roomRoutes_eq (m : String) (room : Room) (x : UInt32) :
    roomRoutes m room x = room.snapshotSubscribers.filterMap (routeToward m room x) := rfl

/-- The routes of a source that remains. -/
theorem roomRoutes_withoutPublisher {m u : String} {room : Room} {p : Publisher} {x : UInt32}
    (hp : room.publishers.lookup u = some p) (hx : p.hasSsrc x = false)
    (hrewrites : ∀ sub ∈ room.snapshotSubscribers, Listens room x sub →
      rewrittenSsrc m sub x (sourceIsVideo room x)
        (publisherCount (withoutPublisher room u) (sourceIsVideo room x)) =
      rewrittenSsrc m sub x (sourceIsVideo room x) (publisherCount room (sourceIsVideo room x))) :
    roomRoutes m (withoutPublisher room u) x = roomRoutes m room x := by
  have hvideo : sourceIsVideo (withoutPublisher room u) x = sourceIsVideo room x := by
    rw [sourceIsVideo, find_withoutPublisher hp hx, ← sourceIsVideo]
  have huser : sourceUserId (withoutPublisher room u) x = sourceUserId room x := by
    rw [sourceUserId, find_withoutPublisher hp hx, ← sourceUserId]
  have hcount : (withoutPublisher room u).subscriberCount = room.subscriberCount := rfl
  rw [roomRoutes_eq, roomRoutes_eq]
  apply List.filterMap_congr
  intro sub hsub
  rw [routeToward, routeToward, hvideo, huser, hcount]
  split
  · rfl
  · rename_i hself
    split
    · rfl
    · cases hparse : parseEndpoint (subscriberEndpoint sub (sourceIsVideo room x)) with
      | none => rfl
      | some e =>
        rw [Option.map_some, Option.map_some, hrewrites sub hsub ⟨hself, by rw [hparse]; rfl⟩]

theorem roomSources_split {room room' : Room} {as bs : List (Sigma fun _ : String => Publisher)}
    {u : String} {p : Publisher} (hentries : room.publishers.entries = as ++ ⟨u, p⟩ :: bs)
    (hentries' : room'.publishers.entries = as ++ bs) :
    ∃ xs ys, roomSources room = xs ++ ([p.audioSsrc, p.videoSsrc].filter (· ≠ 0) ++ ys) ∧
      roomSources room' = xs ++ ys := by
  refine ⟨(as.map fun x => x.2).flatMap fun publisher =>
    [publisher.audioSsrc, publisher.videoSsrc].filter (· ≠ 0), (bs.map fun x => x.2).flatMap
      fun publisher => [publisher.audioSsrc, publisher.videoSsrc].filter (· ≠ 0), ?_, ?_⟩
  · simp only [roomSources, Room.snapshotPublishers, hentries, List.map_append, List.map_cons,
      List.flatMap_append, List.flatMap_cons]
  · simp only [roomSources, Room.snapshotPublishers, hentries', List.map_append,
      List.flatMap_append]

theorem mem_ssrcs {p : Publisher} {x : UInt32} :
    x ∈ [p.audioSsrc, p.videoSsrc].filter (· ≠ 0) ↔ x ≠ 0 ∧ p.hasSsrc x = true := by
  simp only [List.mem_filter, List.mem_cons, List.not_mem_nil, or_false, decide_eq_true_eq,
    Publisher.hasSsrc]
  rw [@eq_comm _ x p.audioSsrc, @eq_comm _ x p.videoSsrc, and_comm]

/-- What remains of the group of a room. -/
theorem roomGroup_shrinks {m u : String} {room : Room} {p : Publisher}
    (hroom : s.roomManager.getRoomShared m = some room) (hp : room.publishers.lookup u = some p)
    (h : Leaves s m room u p) :
    RouteGroup.Shrinks (roomGroup m room) (roomGroup m (withoutPublisher room u))
      ([p.audioSsrc, p.videoSsrc].filter (· ≠ 0)) := by
  constructor
  · obtain ⟨as, bs, hentries, hentries'⟩ := split_publishers hp
    obtain ⟨xs, ys, hsources, hsources'⟩ := roomSources_split hentries hentries'
    exact ⟨xs, _, ys, hsources, hsources', fun x hx => hx⟩
  · intro x hx
    have hmem : x ∈ roomSources (withoutPublisher room u) := hx
    have hne := (mem_roomSources.mp hmem).1
    show roomRoutes m (withoutPublisher room u) x =
      if x ∈ [p.audioSsrc, p.videoSsrc].filter (· ≠ 0) then [] else roomRoutes m room x
    split
    · rename_i hdrop
      apply h.unheard x (mem_ssrcs.mp hdrop).2 m
      · rw [getRoomShared_setRoom hroom, if_pos rfl]
      · exact hmem
    · rename_i hdrop
      have hout : p.hasSsrc x = false := by
        by_contra hhas
        exact hdrop (mem_ssrcs.mpr ⟨hne, by simpa using hhas⟩)
      exact roomRoutes_withoutPublisher hp hout (h.rewrites x hmem hout)

theorem SettledBut.removePublisher {m u : String} (h : SettledBut s none)
    (hleaves : LeavesAlone s m u) : SettledBut (s.removePublisher m u).1 none := by
  rcases removePublisher_cases s m u with heq | ⟨room, p, hroom, hp, heq⟩
  · rw [heq]
    exact h
  · rw [heq]
    have halone : Leaves s m room u p := hleaves room p hroom hp
    intro m' room' _ hroom'
    have hunheard (hm : m' ≠ m) (x : UInt32) (hx : p.hasSsrc x = true)
        (hmem : x ∈ roomSources room') : roomRoutes m' room' x = [] := by
      apply halone.unheard x hx m' room' ?_ hmem
      rw [forgetPublisher_roomManager] at hroom'
      exact hroom'
    rw [forgetPublisher_roomManager, getRoomShared_setRoom hroom] at hroom'
    rw [table_forgetPublisher]
    split at hroom'
    · rename_i hm
      subst hm
      obtain rfl := Option.some.inj hroom'
      apply (h m' room (by simp) hroom).shrink (roomGroup_shrinks hroom hp halone)
      intro k x hk hx
      rw [RouteGroup.owner_none]
      intro y hy hhas
      obtain ⟨r, hr, hkey⟩ := RouteGroup.has_iff.mp hhas
      exact halone.keys k x hk (mem_ssrcs.mp hx).2 y hy r hr hkey
    · rename_i hm
      apply (h m' room' (by simp) hroom').clearAll
      intro x hx hmem
      exact hunheard hm x (mem_ssrcs.mp hx).2 hmem

end MeetingSystem.Proof.Sfu
