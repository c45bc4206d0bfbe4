import MeetingSystem.Proof.Sfu.RouteAgreement

/-!
# What is kept for a source

`HasState`: some table of the media plane has something for an SSRC, sender
reports apart. A lemma `…_hasState` says for which sources an operation can
have left or added something. The first part is about the SSRCs that
publishers have, `publisherSsrcs`, as rooms change.
-/

namespace MeetingSystem.Proof.Sfu

open MeetingSystem.Framework MeetingSystem.Impl.Sfu MediaIngress

variable {lib : SrtpLib} {s : MediaIngress lib}

/-! ## The publishers' SSRCs -/

/-- Some publisher for which `other` holds of its room and its user sends with
the SSRC. -/
def PublishedBy (s : MediaIngress lib) (other : String → String → Prop) (x : UInt32) : Prop :=
  ∃ m room u p, s.roomManager.rooms.lookup m = some room ∧ room.publishers.lookup u = some p ∧
    p.hasSsrc x = true ∧ other m u

theorem mem_publisherSsrcs {x : UInt32} :
    x ∈ publisherSsrcs s ↔
      ∃ m room, s.roomManager.rooms.lookup m = some room ∧ x ∈ roomSources room := by
  simp only [publisherSsrcs, List.mem_flatMap]
  constructor
  · rintro ⟨e, he, hx⟩
    exact ⟨e.1, e.2, mem_entries.mp he, hx⟩
  · rintro ⟨m, room, hroom, hx⟩
    exact ⟨⟨m, room⟩, mem_entries.mpr hroom, hx⟩

theorem mem_publisherSsrcs_iff {x : UInt32} :
    x ∈ publisherSsrcs s ↔ x ≠ 0 ∧ PublishedBy s (fun _ _ => True) x := by
  rw [mem_publisherSsrcs]
  simp only [mem_roomSources, PublishedBy]
  constructor
  · rintro ⟨m, room, hroom, hx, u, p, hu, hp⟩
    exact ⟨hx, m, room, u, p, hroom, hu, hp, trivial⟩
  · rintro ⟨hx, m, room, u, p, hroom, hu, hp, -⟩
    exact ⟨m, room, hroom, hx, u, p, hu, hp⟩

theorem mem_publisherSsrcs_of_room {m : String} {room : Room} {x : UInt32}
    (hroom : s.roomManager.getRoomShared m = some room) (hx : x ∈ roomSources room) :
    x ∈ publisherSsrcs s :=
  mem_publisherSsrcs.mpr ⟨m, room, (getRoomShared_some.mp hroom).2, hx⟩

theorem publisherSsrcs_congr {s' : MediaIngress lib} (h : s'.roomManager = s.roomManager) :
    publisherSsrcs s' = publisherSsrcs s := by
  rw [publisherSsrcs, h]
  rfl

/-- A publisher's SSRCs, if it has any. -/
theorem mem_publisherSsrcs_of_publisher {m u : String} {p : Publisher} {x : UInt32}
    (h : (s.roomManager.getRoomShared m).bind (·.getPublisher u) = some p) (hx : x ≠ 0)
    (hp : p.hasSsrc x = true) : x ∈ publisherSsrcs s := by
  obtain ⟨room, hroom, hu⟩ := Option.bind_eq_some_iff.mp h
  unfold Room.getPublisher at hu
  split at hu
  · cases hu
  · exact mem_publisherSsrcs_of_room hroom (mem_roomSources.mpr ⟨hx, u, p, hu, hp⟩)

theorem mem_publisherSsrcs_of_lookups {s' : MediaIngress lib} {x : UInt32}
    (h : x ∈ publisherSsrcs s)
    (hrooms : ∀ m room, s.roomManager.rooms.lookup m = some room →
      ∃ room', s'.roomManager.rooms.lookup m = some room' ∧
        ∀ u, room'.publishers.lookup u = room.publishers.lookup u) : x ∈ publisherSsrcs s' := by
  obtain ⟨m, room, hroom, hx⟩ := mem_publisherSsrcs.mp h
  obtain ⟨room', hroom', hsame⟩ := hrooms m room hroom
  refine mem_publisherSsrcs.mpr ⟨m, room', hroom', ?_⟩
  simpa only [mem_roomSources, hsame] using hx

theorem rooms_setRoom {m : String} {room : Room}
    (h : s.roomManager.getRoomShared m = some room) (room' : Room) (m' : String) :
    (s.setRoom m room').roomManager.rooms.lookup m' =
      if m' = m then some room' else s.roomManager.rooms.lookup m' := by
  have hmem : m ∈ s.roomManager.rooms := mem_of_lookup (getRoomShared_some.mp h).2
  by_cases hm : m' = m
  · rw [if_pos hm, hm]
    exact lookup_replace_self _ hmem
  · rw [if_neg hm]
    exact lookup_replace_ne _ _ hm

/-- A publisher that stays in its room, or one that is new in it. -/
theorem publishedBy_setRoom {m : String} {room room' : Room} {x : UInt32}
    (hroom : s.roomManager.getRoomShared m = some room) {other other' : String → String → Prop}
    (h : PublishedBy s other x) (hother : ∀ m' u', other m' u' → other' m' u')
    (hkeep : ∀ u p, room.publishers.lookup u = some p → p.hasSsrc x = true → other m u →
      ∃ u' p', room'.publishers.lookup u' = some p' ∧ p'.hasSsrc x = true ∧ other' m u') :
    PublishedBy (s.setRoom m room') other' x := by
  obtain ⟨m₀, room₀, u, p, h₀, hu, hp, ho⟩ := h
  by_cases hm : m₀ = m
  · subst hm
    have hlookup := (getRoomShared_some.mp hroom).2
    rw [hlookup] at h₀
    obtain rfl := Option.some.inj h₀
    obtain ⟨u', p', hu', hp', ho'⟩ := hkeep u p hu hp ho
    exact ⟨m₀, room', u', p', by rw [rooms_setRoom hroom, if_pos rfl], hu', hp', ho'⟩
  · exact ⟨m₀, room₀, u, p, by rw [rooms_setRoom hroom, if_neg hm, h₀], hu, hp, hother _ _ ho⟩

/-- Every room of `s` is a room of `s'`. -/
def KeepsRooms (s s' : MediaIngress lib) : Prop :=
  ∀ m, (s.roomManager.getRoomShared m).isSome = true →
    (s'.roomManager.getRoomShared m).isSome = true

theorem keepsRooms_setRoom {m : String} {room : Room}
    (hroom : s.roomManager.getRoomShared m = some room) (room' : Room) :
    KeepsRooms s (s.setRoom m room') := by
  intro m' hm'
  rw [getRoomShared_setRoom hroom]
  split
  · rfl
  · exact hm'

section Bound

variable {m u : String} {room : Room} {merged : Publisher} {x : UInt32}

/-- The SSRCs of a publisher that is bound. -/
theorem bound_merged (hroom : s.roomManager.getRoomShared m = some room) (place : Nat)
    (hx : x ≠ 0) (hmerged : merged.hasSsrc x = true) :
    x ∈ publisherSsrcs (s.setRoom m { room with
      publishers := assign place u merged room.publishers }) := by
  apply mem_publisherSsrcs.mpr
  refine ⟨m, _, by rw [rooms_setRoom hroom, if_pos rfl], mem_roomSources.mpr ⟨hx, u, merged, ?_, hmerged⟩⟩
  show (assign place u merged room.publishers).lookup u = some merged
  rw [lookup_assign, if_pos rfl]

/-- Other publishers stay. -/
theorem bound_beside (hroom : s.roomManager.getRoomShared m = some room) (place : Nat)
    (hx : x ≠ 0) (h : PublishedBy s (fun m' u' => m' ≠ m ∨ u' ≠ u) x) :
    x ∈ publisherSsrcs (s.setRoom m { room with
      publishers := assign place u merged room.publishers }) := by
  refine mem_publisherSsrcs_iff.mpr ⟨hx, publishedBy_setRoom hroom h (fun _ _ _ => trivial) ?_⟩
  intro u' p' hu' hp' hother
  have huu : u' ≠ u := hother.resolve_left fun hm => hm rfl
  exact ⟨u', p', by rw [lookup_assign, if_neg huu, hu'], hp', trivial⟩

/-- A publisher's SSRC is that of another publisher or one that the user has. -/
theorem beside_or_own (hroom : s.roomManager.getRoomShared m = some room)
    (hx : x ∈ publisherSsrcs s) :
    PublishedBy s (fun m' u' => m' ≠ m ∨ u' ≠ u) x ∨
      ∃ p, room.publishers.lookup u = some p ∧ p.hasSsrc x = true := by
  obtain ⟨-, m₀, room₀, u₀, p, h₀, hu₀, hp, -⟩ := mem_publisherSsrcs_iff.mp hx
  by_cases hother : m₀ ≠ m ∨ u₀ ≠ u
  · exact .inl ⟨m₀, room₀, u₀, p, h₀, hu₀, hp, hother⟩
  · obtain ⟨rfl, rfl⟩ : m₀ = m ∧ u₀ = u := by simpa [not_or] using hother
    rw [(getRoomShared_some.mp hroom).2] at h₀
    obtain rfl := Option.some.inj h₀
    exact .inr ⟨p, hu₀, hp⟩

end Bound

/-! ## Routes and publishers -/

/-- The router, the feedback table or a table that `RemovePublisherRoutes`
cleans has something for the source. -/
def HasState (s : MediaIngress lib) (x : UInt32) : Prop :=
  (s.router.publishers x).isSome = true ∨ (∃ key, s.feedbackRoutes key = some x) ∨
  (s.publisherEndpoints x).isSome = true ∨ (s.pliForwardBySource x).isSome = true ∨
  s.rembFeedbackBySource x ≠ ∅ ∨ (s.estimatedRembBySource x).isSome = true

theorem isSome_update {A : Type} {t : UInt32 → Option A} {x y : UInt32} {v : Option A}
    (h : (Function.update t y v x).isSome = true) : (t x).isSome = true ∨ x = y := by
  by_cases hxy : x = y
  · exact .inr hxy
  · rw [Function.update_of_ne hxy] at h
    exact .inl h

theorem isSome_update_none {A : Type} {t : UInt32 → Option A} {x y : UInt32}
    (h : (Function.update t y none x).isSome = true) : (t x).isSome = true ∧ x ≠ y := by
  by_cases hxy : x = y
  · rw [hxy, Function.update_self] at h
    cases h
  · rw [Function.update_of_ne hxy] at h
    exact ⟨h, hxy⟩

theorem eraseValue_eq_some {A : Type} {t : A → Option UInt32} {x y : UInt32} {a : A}
    (h : eraseValue t y a = some x) : t a = some x ∧ x ≠ y := by
  unfold eraseValue at h
  split at h
  · cases h
  · rename_i hne
    refine ⟨h, ?_⟩
    rintro rfl
    exact hne h

theorem removePublisherRoutes_hasState {x y : UInt32} (h : HasState (s.removePublisherRoutes y) x) :
    HasState s x ∧ (y ≠ 0 → x ≠ y) := by
  unfold removePublisherRoutes at h
  split at h
  · rename_i hy
    exact ⟨h, fun hne => absurd hy hne⟩
  · rcases h with h | ⟨key, h⟩ | h | h | h | h
    · obtain ⟨hsome, hne⟩ := isSome_update_none h
      refine ⟨.inl ?_, fun _ => hne⟩
      unfold RtpRouter.removeSubscribers at hsome
      split at hsome
      · exact hsome
      · rename_i route hroute
        exact (isSome_update hsome).resolve_right hne
    · obtain ⟨hsome, hne⟩ := eraseValue_eq_some h
      exact ⟨.inr (.inl ⟨key, hsome⟩), fun _ => hne⟩
    · obtain ⟨hsome, hne⟩ := isSome_update_none h
      exact ⟨.inr (.inr (.inl hsome)), fun _ => hne⟩
    · obtain ⟨hsome, hne⟩ := isSome_update_none h
      exact ⟨.inr (.inr (.inr (.inl hsome))), fun _ => hne⟩
    · have hne : x ≠ y := by
        rintro rfl
        exact h (Function.update_self ..)
      have hremb : Function.update s.rembFeedbackBySource y ∅ x ≠ ∅ := h
      rw [Function.update_of_ne hne] at hremb
      exact ⟨.inr (.inr (.inr (.inr (.inl hremb)))), fun _ => hne⟩
    · obtain ⟨hsome, hne⟩ := isSome_update_none h
      exact ⟨.inr (.inr (.inr (.inr (.inr hsome)))), fun _ => hne⟩

theorem registerPublisher_hasState {x y : UInt32} (h : HasState (s.registerPublisher y) x) :
    HasState s x ∨ x = y := by
  rcases h with h | h
  · unfold MediaIngress.registerPublisher RtpRouter.registerPublisher at h
    dsimp only at h
    split at h
    · exact .inl (.inl h)
    · exact (isSome_update h).imp_left .inl
  · exact .inl (.inr h)

theorem clearRoutes_hasState {x y : UInt32} (h : HasState (s.clearRoutes y) x) : HasState s x := by
  rcases h with h | ⟨key, h⟩ | h
  · left
    unfold clearRoutes RtpRouter.removeSubscribers at h
    dsimp only at h
    split at h
    · exact h
    · rename_i route hroute
      rcases isSome_update h with h | rfl
      · exact h
      · rw [hroute]
        rfl
  · exact .inr (.inl ⟨key, (eraseValue_eq_some h).1⟩)
  · exact .inr (.inr h)

theorem addRoute_hasState {x y : UInt32} {route : SubscriberRoute}
    (h : HasState (addRoute y s route) x) : HasState s x ∨ x = y := by
  rcases h with h | ⟨key, h⟩ | h
  · unfold addRoute RtpRouter.addSubscriber at h
    dsimp only at h
    split at h
    · exact .inl (.inl h)
    · exact (isSome_update h).imp_left .inl
  · unfold addRoute at h
    dsimp only at h
    by_cases hk : key = feedbackRouteKey route.endpoint route.rewrittenSsrc
    · rw [hk, Function.update_self] at h
      exact .inr (Option.some.inj h).symm
    · rw [Function.update_of_ne hk] at h
      exact .inl (.inr (.inl ⟨key, h⟩))
  · exact .inl (.inr (.inr h))

theorem foldl_addRoute_hasState {x y : UInt32} {routes : List SubscriberRoute}
    (h : HasState (routes.foldl (addRoute y) s) x) : HasState s x ∨ x = y := by
  induction routes generalizing s with
  | nil => exact .inl h
  | cons route routes ih =>
    rcases ih h with h | h
    · exact addRoute_hasState h
    · exact .inr h

theorem refreshPublisherRoutes_hasState {m : String} {x y : UInt32}
    (h : HasState (refreshPublisherRoutes m s y) x) : HasState s x ∨ x = y := by
  unfold refreshPublisherRoutes at h
  split at h
  · exact .inl h
  · split at h
    · exact .inl h
    · exact (foldl_addRoute_hasState h).imp_left clearRoutes_hasState

theorem foldl_refresh_hasState {m : String} {x : UInt32} {sources : List UInt32}
    (h : HasState (sources.foldl (refreshPublisherRoutes m) s) x) :
    HasState s x ∨ x ∈ sources := by
  induction sources generalizing s with
  | nil => exact .inl h
  | cons y sources ih =>
    rcases ih h with h | h
    · rcases refreshPublisherRoutes_hasState h with h | rfl
      · exact .inl h
      · exact .inr List.mem_cons_self
    · exact .inr (List.mem_cons_of_mem _ h)

/-- A refresh only adds sources of the room. -/
theorem refreshRoomRoutes_hasState {m : String} {x : UInt32}
    (h : HasState (s.refreshRoomRoutes m) x) : HasState s x ∨ x ∈ publisherSsrcs s := by
  unfold refreshRoomRoutes at h
  split at h
  · exact .inl h
  · rename_i room hroom
    exact (foldl_refresh_hasState h).imp_right (mem_publisherSsrcs_of_room hroom)

/-- A publisher that leaves takes everything along that is kept for it. -/
theorem forgetPublisher_hasState {m u : String} {p : Publisher} {x : UInt32}
    (h : HasState (s.forgetPublisher m u p) x) :
    HasState s x ∧ (x ≠ 0 → p.hasSsrc x = false) := by
  have h' : HasState ((s.removePublisherRoutes p.audioSsrc).removePublisherRoutes p.videoSsrc) x :=
    h
  obtain ⟨hv, hxv⟩ := removePublisherRoutes_hasState h'
  obtain ⟨ha, hxa⟩ := removePublisherRoutes_hasState hv
  refine ⟨ha, fun hx => ?_⟩
  simp only [Publisher.hasSsrc, decide_eq_false_iff_not, not_or]
  constructor
  · rintro rfl
    exact hxa hx rfl
  · rintro rfl
    exact hxv hx rfl

/-- What is kept for a source after a publisher was bound again. -/
theorem dropAndRegister_hasState {previous merged : Publisher} {x : UInt32}
    (h : HasState (dropAndRegister s previous merged) x) :
    HasState s x ∧ x ∉ droppedSources previous merged ∨ x ≠ 0 ∧ merged.hasSsrc x = true := by
  have hregister {s : MediaIngress lib} {y : UInt32}
      (h : HasState (if y ≠ 0 then s.registerPublisher y else s) x) :
      HasState s x ∨ x ≠ 0 ∧ x = y := by
    split at h
    · rename_i hy
      rcases registerPublisher_hasState h with h | rfl
      · exact .inl h
      · exact .inr ⟨hy, rfl⟩
    · exact .inl h
  have hremove {s : MediaIngress lib} {y z : UInt32}
      (h : HasState (if y ≠ 0 ∧ y ≠ z then s.removePublisherRoutes y else s) x) :
      HasState s x ∧ x ∉ (if y ≠ 0 ∧ y ≠ z then [y] else []) := by
    split at h
    · rename_i hy
      obtain ⟨h, hne⟩ := removePublisherRoutes_hasState h
      rw [if_pos hy]
      exact ⟨h, by simpa using hne hy.1⟩
    · rename_i hy
      rw [if_neg hy]
      exact ⟨h, by simp⟩
  rcases hregister h with h | ⟨hx, rfl⟩
  · rcases hregister h with h | ⟨hx, rfl⟩
    · obtain ⟨h, hv⟩ := hremove h
      obtain ⟨h, ha⟩ := hremove h
      exact .inl ⟨h, fun hmem => (List.mem_append.mp hmem).elim ha hv⟩
    · exact .inr ⟨hx, by simp [Publisher.hasSsrc]⟩
  · exact .inr ⟨hx, by simp [Publisher.hasSsrc]⟩

theorem route_isSome (r : RtpRouter) (packet : Bytes) (x : UInt32) :
    ((r.route packet).1.publishers x).isSome = (r.publishers x).isSome := by
  unfold RtpRouter.route
  split
  · rfl
  · rename_i parsed _
    split
    · rfl
    · rename_i route hroute
      by_cases hx : x = parsed.header.ssrc
      · rw [hx, hroute]
        show (Function.update r.publishers parsed.header.ssrc (some _) _).isSome = true
        rw [Function.update_self]
        rfl
      · exact congrArg Option.isSome (Function.update_of_ne hx ..)

theorem reorder_hasState {which : Reorder} {x : UInt32} (h : HasState (s.reorder which) x) :
    HasState s x := by
  cases which with
  | rooms | transports => exact h
  | publishers | subscribers =>
    simp only [MediaIngress.reorder, reorderRoom] at h
    split at h <;> exact h
  | rembFeedback source key =>
    by_contra hnot
    simp only [HasState, not_or, not_not] at hnot
    obtain ⟨hroute, hfeedback, hendpoint, hpli, hremb, hestimate⟩ := hnot
    rcases h with h | h | h | h | h | h
    · exact hroute h
    · exact hfeedback h
    · exact hendpoint h
    · exact hpli h
    · apply h
      by_cases hx : x = source
      · subst hx
        simp only [MediaIngress.reorder, Function.update_self, hremb]
        rfl
      · simp only [MediaIngress.reorder, Function.update_of_ne hx, hremb]
    · exact hestimate h

/-! ## Sender reports -/

theorem refreshRoomRoutes_senderReports (s : MediaIngress lib) (m : String) :
    (s.refreshRoomRoutes m).senderReports = s.senderReports :=
  refreshRoomRoutes_eq MediaIngress.senderReports (fun _ _ _ => rfl) (fun _ _ => rfl) s m

theorem removePublisherRoutes_senderReports (s : MediaIngress lib) (y : UInt32) :
    (s.removePublisherRoutes y).senderReports = s.senderReports := by
  unfold removePublisherRoutes
  split <;> rfl

theorem dropAndRegister_senderReports (s : MediaIngress lib) (previous merged : Publisher) :
    (dropAndRegister s previous merged).senderReports = s.senderReports := by
  simp only [dropAndRegister, MediaIngress.registerPublisher,
    apply_ite MediaIngress.senderReports, removePublisherRoutes_senderReports, ite_self]

theorem reorder_senderReports (s : MediaIngress lib) (which : Reorder) :
    (s.reorder which).senderReports = s.senderReports := by
  cases which with
  | publishers m u | subscribers m u =>
    simp only [MediaIngress.reorder, reorderRoom]
    split <;> rfl
  | rooms | transports | rembFeedback => rfl

theorem forgetPublisher_senderReports {m u : String} {p : Publisher} {x : UInt32}
    (h : ((s.forgetPublisher m u p).senderReports x).isSome = true) :
    (s.senderReports x).isSome = true ∧ (x ≠ 0 → p.hasSsrc x = false) := by
  simp only [forgetPublisher, removePublisherRoutes_senderReports] at h
  split at h
  · cases h
  · rename_i hx
    exact ⟨h, fun hne => by simpa [hne] using hx⟩

end MeetingSystem.Proof.Sfu
