import MeetingSystem.Proof.Sfu.RouteSteps

/-!
# Subscribers' endpoints and selected endpoints

A subscriber carries three endpoint texts (`texts`). STUN writes them, and the
same request selects the endpoint for a transport. `Selected`: every text of a
subscriber is the selected endpoint of a transport of the same user. Every
operation keeps this (`selected_step`) but a `SetupTransport` that replaces the
transport a text came from.
-/

namespace MeetingSystem.Proof.Sfu

open MeetingSystem.Framework MeetingSystem.Impl.Sfu MediaIngress

variable {lib : SrtpLib} {s : MediaIngress lib} {r r' : TransportRegistry lib}

/-! ## The texts of a subscriber -/

/-- The endpoint texts of a subscriber. -/
inductive Slot where
  | common
  | audio
  | video
  deriving DecidableEq

def slotText (sub : Subscriber) : Slot → String
  | .common => sub.endpoint
  | .audio => sub.audioEndpoint
  | .video => sub.videoEndpoint

/-- Whether a transport of this media kind writes a text. -/
def feeds (mediaKind : String) : Slot → Bool
  | .common => mediaKind ≠ "audio" ∧ mediaKind ≠ "video"
  | .audio => mediaKind ≠ "video"
  | .video => mediaKind ≠ "audio"

theorem slotText_select (sub : Subscriber) (kind text : String) (slot : Slot) :
    slotText (selectSubscriberEndpoint sub kind text) slot =
      if feeds kind slot then text else slotText sub slot := by
  unfold selectSubscriberEndpoint
  by_cases ha : kind = "audio"
  · subst ha
    cases slot <;> simp [slotText, feeds]
  · by_cases hv : kind = "video"
    · subst hv
      cases slot <;> simp [slotText, feeds]
    · cases slot <;> simp [slotText, feeds, ha, hv]

/-- The texts of the user's subscriber in a room; all empty if there is none. -/
def texts (s : MediaIngress lib) (m u : String) (slot : Slot) : String :=
  (((s.roomManager.getRoomShared m).bind (·.subscribers.lookup u)).map (slotText · slot)).getD ""

theorem texts_eq_getD {m : String} {room : Room}
    (hroom : s.roomManager.getRoomShared m = some room) (u : String) (slot : Slot) :
    texts s m u slot = ((room.subscribers.lookup u).map (slotText · slot)).getD "" := by
  rw [texts, hroom, Option.bind_some]

theorem texts_of_rooms {s' : MediaIngress lib} (h : s'.roomManager = s.roomManager) :
    texts s' = texts s := by
  funext m u slot
  rw [texts, texts, h]

theorem texts_refresh (s : MediaIngress lib) (m₀ : String) :
    texts (s.refreshRoomRoutes m₀) = texts s := texts_of_rooms (refreshRoomRoutes_roomManager ..)

theorem texts_setRoom {m₀ : String} {room : Room}
    (hroom : s.roomManager.getRoomShared m₀ = some room) (room' : Room) (m u : String)
    (slot : Slot) :
    texts (s.setRoom m₀ room') m u slot =
      if m = m₀ then ((room'.subscribers.lookup u).map (slotText · slot)).getD ""
      else texts s m u slot := by
  rw [texts, getRoomShared_setRoom hroom]
  split
  · rfl
  · rfl

/-- A room's publishers are changed. -/
theorem texts_setPublishers {m₀ : String} {room : Room}
    (hroom : s.roomManager.getRoomShared m₀ = some room)
    (publishers : AList fun _ : String => Publisher) :
    texts (s.setRoom m₀ { room with publishers }) = texts s := by
  funext m u slot
  rw [texts_setRoom hroom]
  split
  · rename_i hm
    rw [hm, texts_eq_getD hroom]
  · rfl

theorem texts_bindSubscriber (s : MediaIngress lib) (place : Nat) (m₀ u₀ : String) (a v : UInt32) :
    texts (s.bindSubscriber place m₀ u₀ a v).1 = texts s := by
  rcases bindSubscriber_cases s place m₀ u₀ a v with heq | ⟨room, sub, hroom, -, hold, hnew, -, heq⟩
  · rw [heq]
  · rw [heq]
    funext m u slot
    rw [texts_refresh, texts_setRoom hroom]
    split
    · rename_i hm
      rw [hm, texts_eq_getD hroom, lookup_assign]
      split
      · rename_i hu
        rw [hu]
        cases hlookup : room.subscribers.lookup u₀ with
        | none =>
          obtain ⟨h₁, h₂, h₃⟩ := hnew hlookup
          cases slot <;> simp [slotText, h₁, h₂, h₃]
        | some old =>
          obtain ⟨h₁, h₂, h₃⟩ := hold old hlookup
          cases slot <;> simp [slotText, h₁, h₂, h₃]
      · rfl
    · rfl

theorem texts_bindPublisher (s : MediaIngress lib) (place : Nat) (m₀ u₀ : String) (a v : UInt32) :
    texts (s.bindPublisher place m₀ u₀ a v).1 = texts s := by
  rcases bindPublisher_cases s place m₀ u₀ a v with
    heq | ⟨room, previous, merged, hroom, -, -, -, heq⟩
  · rw [heq]
  · rw [heq]
    dsimp only
    rw [rebindPublisher_eq, texts_refresh, texts_of_rooms (dropAndRegister_roomManager ..)]
    exact texts_setPublishers hroom _

theorem texts_removePublisher (s : MediaIngress lib) (m₀ u₀ : String) :
    texts (s.removePublisher m₀ u₀).1 = texts s := by
  rcases removePublisher_cases s m₀ u₀ with heq | ⟨room, p, hroom, -, heq⟩
  · rw [heq]
  · rw [heq, texts_of_rooms (forgetPublisher_roomManager ..)]
    exact texts_setPublishers hroom _

theorem texts_removeSubscriber (s : MediaIngress lib) (m₀ u₀ m u : String) (slot : Slot) :
    texts (s.removeSubscriber m₀ u₀).1 m u slot = texts s m u slot ∨
      texts (s.removeSubscriber m₀ u₀).1 m u slot = "" := by
  rcases removeSubscriber_cases s m₀ u₀ with heq | ⟨room, hroom, -, heq⟩
  · exact .inl (by rw [heq])
  · rw [heq, texts_refresh, texts_setRoom hroom]
    split
    · rename_i hm
      subst hm
      rw [texts_eq_getD hroom]
      by_cases hu : u = u₀
      · subst hu
        exact .inr (by simp)
      · exact .inl (by rw [AList.lookup_erase_ne hu])
    · exact .inl rfl

theorem texts_removeSubscriber_self (s : MediaIngress lib) {m u : String} (hm : m ≠ "")
    (hu : u ≠ "") (slot : Slot) : texts (s.removeSubscriber m u).1 m u slot = "" := by
  simp only [removeSubscriber, if_neg (not_or.mpr ⟨hm, hu⟩)]
  split
  · rename_i hroom
    simp [texts, hroom]
  · rename_i room hroom
    simp only [Room.removeSubscriber]
    split
    · rename_i hnone
      split at hnone
      · rename_i hmem
        have hnotin : u ∉ room.subscribers := hmem.resolve_left hu
        rw [texts_eq_getD hroom, AList.lookup_eq_none.mpr hnotin]
        rfl
      · simp at hnone
    · rename_i room' hremove
      split at hremove
      · simp at hremove
      · obtain rfl := Option.some.inj hremove
        rw [texts_refresh, texts_setRoom hroom, if_pos rfl]
        simp

/-- STUN moves the texts that the transport feeds, if the user subscribes. -/
theorem texts_moveSubscriber (s : MediaIngress lib) (m₀ u₀ kind text m u : String) (slot : Slot) :
    texts (s.moveSubscriber m₀ u₀ kind text) m u slot = texts s m u slot ∧
        (m = m₀ → u = u₀ → feeds kind slot = true → u = "" ∨ texts s m u slot = "") ∨
      (m = m₀ ∧ u = u₀ ∧ u ≠ "") ∧ feeds kind slot = true ∧
        texts (s.moveSubscriber m₀ u₀ kind text) m u slot = text := by
  simp only [moveSubscriber]
  split
  · rename_i hroom
    refine .inl ⟨rfl, fun hm _ _ => .inr ?_⟩
    simp [texts, hm, hroom]
  · rename_i room hroom
    simp only [Room.getSubscriber]
    split
    · rename_i hsub
      refine .inl ⟨rfl, fun hm hu _ => ?_⟩
      split at hsub
      · rename_i hempty
        exact .inl (hu.trans hempty)
      · exact .inr (by rw [hm, hu, texts_eq_getD hroom, hsub]; rfl)
    · rename_i sub hsub
      split at hsub
      · simp at hsub
      · rename_i hne
        rw [texts_refresh, texts_setRoom hroom]
        by_cases hmu : m = m₀ ∧ u = u₀
        · obtain ⟨rfl, rfl⟩ := hmu
          rw [if_pos rfl, lookup_replace_self _ (mem_of_lookup hsub), Option.map_some,
            Option.getD_some, slotText_select]
          split
          · rename_i hfeeds
            exact .inr ⟨⟨rfl, rfl, hne⟩, hfeeds, rfl⟩
          · rename_i hfeeds
            refine .inl ⟨by rw [texts_eq_getD hroom, hsub]; rfl, fun _ _ h => absurd h hfeeds⟩
        · refine .inl ⟨?_, fun hm hu => absurd ⟨hm, hu⟩ hmu⟩
          split
          · rename_i hm
            subst hm
            rw [lookup_replace_ne _ _ fun hu => hmu ⟨rfl, hu⟩, texts_eq_getD hroom]
          · rfl

theorem texts_createRoom (s : MediaIngress lib) (place : Nat) (m₀ : String) (n : Nat) :
    texts { s with roomManager := s.roomManager.createRoom place m₀ n } = texts s := by
  funext m u slot
  cases hroom : s.roomManager.getRoomShared m with
  | some room =>
    rw [texts_eq_getD hroom]
    exact texts_eq_getD (createRoom_getRoomShared hroom place m₀ n) u slot
  | none =>
    simp only [texts, hroom, Option.bind_none, Option.map_none, Option.getD_none]
    cases hnew : (s.roomManager.createRoom place m₀ n).getRoomShared m with
    | none => rfl
    | some room =>
      obtain ⟨hm, hlookup⟩ := getRoomShared_some.mp hnew
      have hold : s.roomManager.rooms.lookup m = none := by
        simpa [RoomManager.getRoomShared, hm] using hroom
      simp only [RoomManager.createRoom] at hlookup
      split at hlookup
      · simp [hold] at hlookup
      · by_cases hmem : m₀ ∈ s.roomManager.rooms
        · simp [emplace, hmem, hold] at hlookup
        · rw [lookup_emplace hmem, hold] at hlookup
          split at hlookup
          · obtain rfl := Option.some.inj hlookup
            simp [Room.new]
          · simp at hlookup

theorem texts_destroyRoom (s : MediaIngress lib) (m₀ m u : String) (slot : Slot) :
    texts { s with roomManager := s.roomManager.destroyRoom m₀ } m u slot = texts s m u slot ∨
      texts { s with roomManager := s.roomManager.destroyRoom m₀ } m u slot = "" := by
  simp only [texts, RoomManager.destroyRoom]
  split
  · exact .inl rfl
  · by_cases hm : m = m₀
    · subst hm
      exact .inr (by simp [RoomManager.getRoomShared])
    · exact .inl (by simp only [RoomManager.getRoomShared, AList.lookup_erase_ne hm])

theorem texts_reorderRoom (s : MediaIngress lib) (m₀ : String) {f : Room → Room}
    (hf : ∀ room u, (f room).subscribers.lookup u = room.subscribers.lookup u) :
    texts (s.reorderRoom m₀ f) = texts s := by
  simp only [reorderRoom]
  split
  · rfl
  · rename_i room hlookup
    funext m u slot
    by_cases hm₀ : m₀ = ""
    · by_cases hm : m = m₀
      · simp [texts, RoomManager.getRoomShared, hm, hm₀]
      · simp [texts, RoomManager.getRoomShared, MediaIngress.setRoom, RoomManager.setRoom,
          lookup_replace_ne _ _ hm]
    · have hroom := getRoomShared_some.mpr ⟨hm₀, hlookup⟩
      rw [texts_setRoom hroom]
      split
      · rename_i hm
        rw [hm, texts_eq_getD hroom, hf]
      · rfl

theorem texts_reorder (s : MediaIngress lib) (which : Reorder) :
    texts (s.reorder which) = texts s := by
  cases which with
  | rooms m₀ =>
    funext m u slot
    simp only [texts, reorder, RoomManager.getRoomShared, lookup_toFront]
  | publishers m₀ u₀ => exact texts_reorderRoom s m₀ fun _ _ => rfl
  | subscribers m₀ u₀ => exact texts_reorderRoom s m₀ fun _ _ => lookup_toFront ..
  | transports | rembFeedback => rfl

/-! ## Transports that carry a text -/

/-- A transport of the user that feeds the text has selected its endpoint. -/
def Carries (r : TransportRegistry lib) (m u : String) (slot : Slot) (text : String) : Prop :=
  ∃ key t e, r.transports.lookup key = some t ∧ (t.meetingId = m ∧ t.userId = u) ∧
    t.selects e = true ∧ feeds (TransportRegistry.mediaKindOf key) slot = true ∧
    text = endpointKey e

/-- Every text of a subscriber is carried by a transport of its user. -/
def Selected (s : MediaIngress lib) : Prop :=
  ∀ m u slot, texts s m u slot ≠ "" → u ≠ "" ∧ Carries s.transportRegistry m u slot (texts s m u slot)

theorem Carries.sameOwners {m u text : String} {slot : Slot} (h : Carries r m u slot text)
    (hr : SameOwners r r') : Carries r' m u slot text := by
  obtain ⟨key, t, e, ht, howner, hsel, hfeeds, htext⟩ := h
  obtain ⟨t', ht', hid⟩ := hr.lookup ht
  simp only [identity, Prod.mk.injEq] at hid
  obtain ⟨hm, hu, -, -, hice⟩ := hid
  refine ⟨key, t', e, ht', ⟨hm.trans howner.1, hu.trans howner.2⟩, ?_, hfeeds, htext⟩
  simpa only [ParticipantTransport.selects, hice] using hsel

/-- Texts that stay or go, with transports of the same owners. -/
theorem Selected.of_texts {s' : MediaIngress lib} (h : Selected s)
    (htexts : ∀ m u slot, texts s' m u slot = texts s m u slot ∨ texts s' m u slot = "")
    (howners : SameOwners s.transportRegistry s'.transportRegistry) : Selected s' := by
  intro m u slot hne
  have htext := (htexts m u slot).resolve_right hne
  rw [htext] at hne ⊢
  obtain ⟨hu, hc⟩ := h m u slot hne
  exact ⟨hu, hc.sameOwners howners⟩

/-! ## Operations that leave the transports alone -/

theorem refreshRoomRoutes_transportRegistry (s : MediaIngress lib) (m : String) :
    (s.refreshRoomRoutes m).transportRegistry = s.transportRegistry :=
  refreshRoomRoutes_eq MediaIngress.transportRegistry (fun _ _ _ => rfl) (fun _ _ => rfl) s m

theorem bindSubscriber_transportRegistry (s : MediaIngress lib) (place : Nat) (m u : String)
    (a v : UInt32) :
    (s.bindSubscriber place m u a v).1.transportRegistry = s.transportRegistry := by
  rcases bindSubscriber_cases s place m u a v with heq | ⟨room, sub, -, -, -, -, -, heq⟩
  · rw [heq]
  · rw [heq]
    exact refreshRoomRoutes_transportRegistry ..

theorem removeSubscriber_transportRegistry (s : MediaIngress lib) (m u : String) :
    (s.removeSubscriber m u).1.transportRegistry = s.transportRegistry := by
  rcases removeSubscriber_cases s m u with heq | ⟨room, -, -, heq⟩
  · rw [heq]
  · rw [heq]
    exact refreshRoomRoutes_transportRegistry ..

theorem bindPublisher_transportRegistry (s : MediaIngress lib) (place : Nat) (m u : String)
    (a v : UInt32) :
    (s.bindPublisher place m u a v).1.transportRegistry = s.transportRegistry := by
  rcases bindPublisher_cases s place m u a v with heq | ⟨room, previous, merged, -, -, -, -, heq⟩
  · rw [heq]
  · rw [heq]
    dsimp only
    rw [rebindPublisher_eq, refreshRoomRoutes_transportRegistry, dropAndRegister_transportRegistry]
    rfl

theorem removePublisher_transportRegistry (s : MediaIngress lib) (m u : String) :
    (s.removePublisher m u).1.transportRegistry = s.transportRegistry := by
  rcases removePublisher_cases s m u with heq | ⟨room, p, -, -, heq⟩
  · rw [heq]
  · rw [heq]
    exact (removePublisherRoutes_transportRegistry ..).trans
      (removePublisherRoutes_transportRegistry ..)

theorem moveSubscriber_transportRegistry (s : MediaIngress lib) (m u kind text : String) :
    (s.moveSubscriber m u kind text).transportRegistry = s.transportRegistry := by
  rcases moveSubscriber_cases s m u kind text with heq | ⟨room, sub, -, -, heq⟩
  · rw [heq]
  · rw [heq]
    exact refreshRoomRoutes_transportRegistry ..

theorem Selected.bindSubscriber (h : Selected s) (place : Nat) (m u : String) (a v : UInt32) :
    Selected (s.bindSubscriber place m u a v).1 := by
  refine h.of_texts (fun _ _ _ => .inl (by rw [texts_bindSubscriber])) ?_
  rw [bindSubscriber_transportRegistry]
  exact .refl _

theorem Selected.removeSubscriber (h : Selected s) (m u : String) :
    Selected (s.removeSubscriber m u).1 := by
  refine h.of_texts (texts_removeSubscriber s m u) ?_
  rw [removeSubscriber_transportRegistry]
  exact .refl _

theorem Selected.bindPublisher (h : Selected s) (place : Nat) (m u : String) (a v : UInt32) :
    Selected (s.bindPublisher place m u a v).1 := by
  refine h.of_texts (fun _ _ _ => .inl (by rw [texts_bindPublisher])) ?_
  rw [bindPublisher_transportRegistry]
  exact .refl _

theorem Selected.removePublisher (h : Selected s) (m u : String) :
    Selected (s.removePublisher m u).1 := by
  refine h.of_texts (fun _ _ _ => .inl (by rw [texts_removePublisher])) ?_
  rw [removePublisher_transportRegistry]
  exact .refl _

theorem Selected.of_frame {s' : MediaIngress lib} (h : Selected s) (hs : Frame s s') :
    Selected s' := by
  refine h.of_texts (fun m u slot => .inl ?_) hs.owners
  rw [texts_of_rooms (congrArg Prod.fst hs.routing)]

/-! ## Setting up, closing and selecting -/

/-- The transports under other keys. -/
def others (r : TransportRegistry lib) (key : String) : TransportRegistry lib :=
  { transports := r.transports.erase key }

/-- The key that `SetupTransport` registers a transport under. -/
def setupKey (req : SetupRequest) : String :=
  TransportRegistry.key req.meetingId req.userId
    (TransportRegistry.kind req.publishAudio req.publishVideo)

/-- What the subscriber has from the transport that a request replaces, it also
has from another one. -/
def ReplacesSafely (s : MediaIngress lib) (req : SetupRequest) : Prop :=
  ∀ old e, s.transportRegistry.transports.lookup (setupKey req) = some old → old.selects e = true →
    ∀ slot, texts s old.meetingId old.userId slot = endpointKey e →
      Carries (others s.transportRegistry (setupKey req)) old.meetingId old.userId slot
        (endpointKey e)

theorem Carries.of_others {key m u text : String} {slot : Slot}
    (h : Carries (others r key) m u slot text)
    (hr : ∀ k ≠ key, r'.transports.lookup k = r.transports.lookup k) :
    Carries r' m u slot text := by
  obtain ⟨k, t, e, ht, hrest⟩ := h
  by_cases hk : k = key
  · subst hk
    simp [others] at ht
  · have hk' : r.transports.lookup k = some t := by
      rw [← ht]
      exact (AList.lookup_erase_ne hk).symm
    exact ⟨k, t, e, by rw [hr k hk, hk'], hrest⟩

/-- A registered transport is the only one that a text can be lost with. -/
theorem Selected.replace (h : Selected s) {req : SetupRequest} (hsafe : ReplacesSafely s req)
    (hr : ∀ k ≠ setupKey req, r'.transports.lookup k = s.transportRegistry.transports.lookup k) :
    Selected (withTransports s r') := by
  intro m u slot hne
  obtain ⟨hu, key, t, e, ht, ⟨rfl, rfl⟩, hsel, hfeeds, htext⟩ := h m u slot hne
  refine ⟨hu, ?_⟩
  by_cases hkey : key = setupKey req
  · subst hkey
    have hc := hsafe t e ht hsel slot htext
    rw [← htext] at hc
    exact hc.of_others hr
  · exact ⟨key, t, e, by rw [← ht]; exact hr key hkey, ⟨rfl, rfl⟩, hsel, hfeeds, htext⟩

theorem Selected.setupTransport (h : Selected s) {req : SetupRequest} {io : SetupIo}
    (hsafe : (s.registerTransport req io).isSome = true → ReplacesSafely s req) :
    Selected (s.setupTransport req io).1 := by
  rcases setupTransport_cases s req io with ⟨-, heq⟩ | ⟨s₁, hs₁, heq⟩
  · rw [heq]
    exact h
  · have hsel : Selected s₁ := by
      have hsafe' := hsafe (by rw [hs₁]; rfl)
      obtain ⟨dtls, rfl⟩ := registerTransport_some hs₁
      apply h.replace hsafe'
      intro k hk
      simp only [TransportRegistry.upsert, lookup_assign]
      exact if_neg hk
    rcases heq with heq | heq
    · rw [heq]
      exact hsel.bindSubscriber _ _ _ _ _
    · rw [heq]
      exact (hsel.bindSubscriber _ _ _ _ _).bindPublisher _ _ _ _ _

theorem Selected.closeTransport (h : Selected s) (m₀ u₀ : String) :
    Selected (s.closeTransport m₀ u₀).1 := by
  simp only [MediaIngress.closeTransport]
  split
  · exact h
  · rename_i hempty
    obtain ⟨hm₀, hu₀⟩ := not_or.mp hempty
    apply Selected.removePublisher
    intro m u slot hne
    rw [removeSubscriber_transportRegistry]
    by_cases hmu : m = m₀ ∧ u = u₀
    · obtain ⟨rfl, rfl⟩ := hmu
      exact absurd (texts_removeSubscriber_self _ hm₀ hu₀ slot) hne
    · have htext := (texts_removeSubscriber _ m₀ u₀ m u slot).resolve_right hne
      rw [htext] at hne ⊢
      obtain ⟨hu, key, t, e, ht, howner, hrest⟩ := h m u slot hne
      refine ⟨hu, key, t, e, ?_, howner, hrest⟩
      refine lookup_retain.mpr ⟨ht, ?_⟩
      rw [howner.1, howner.2]
      simpa only [decide_eq_true_eq] using hmu

theorem Selected.handleStunPacket (h : Selected s) (data : Bytes) (peer : Endpoint) :
    Selected (s.handleStunPacket data peer).1 := by
  rcases handleStunPacket_cases s data peer with heq | ⟨key, t, hfind, heq⟩
  · rw [heq]
    exact h
  · have hkey := (find_some hfind).1
    rw [heq]
    generalize ht' : { t with iceSession := t.iceSession.selectEndpoint peer } = t'
    have hsel' : t'.selects peer = true := by
      simp [← ht', ParticipantTransport.selects, IceLiteSession.selectEndpoint]
    have howner' : t'.meetingId = t.meetingId ∧ t'.userId = t.userId := by
      simp [← ht']
    intro m u slot hne
    rw [moveSubscriber_transportRegistry]
    rcases texts_moveSubscriber (withTransports s (s.transportRegistry.set key t')) t.meetingId
      t.userId (TransportRegistry.mediaKindOf key) (endpointKey peer) m u slot with
      ⟨htext, hkept⟩ | ⟨⟨rfl, rfl, hu⟩, hfeeds, htext⟩
    · rw [htext] at hne ⊢
      obtain ⟨hu, key₀, t₀, e, ht₀, ⟨hm₀, hu₀⟩, hsel, hfeeds, hcarried⟩ := h m u slot hne
      refine ⟨hu, key₀, t₀, e, ?_, ⟨hm₀, hu₀⟩, hsel, hfeeds, hcarried⟩
      show (s.transportRegistry.set key t').transports.lookup key₀ = some t₀
      rw [lookup_set hkey, if_neg, ht₀]
      rintro rfl
      rw [hkey] at ht₀
      obtain rfl := Option.some.inj ht₀
      exact (hkept hm₀.symm hu₀.symm hfeeds).elim hu hne
    · rw [htext]
      refine ⟨hu, key, t', peer, ?_, howner', hsel', hfeeds, rfl⟩
      show (s.transportRegistry.set key t').transports.lookup key = some t'
      rw [lookup_set hkey, if_pos rfl]

theorem reorder_sameOwners (s : MediaIngress lib) (which : Reorder) :
    SameOwners s.transportRegistry (s.reorder which).transportRegistry := by
  cases which with
  | publishers m u | subscribers m u =>
    simp only [reorder, reorderRoom]
    split <;> exact .refl _
  | transports key =>
    intro k
    simp only [reorder, lookup_toFront]
  | rooms | rembFeedback => exact .refl _

theorem Selected.handlePacket (h : Selected s) (data : Bytes) (peer : Endpoint)
    (io : DatagramIo) : Selected (s.handlePacket data peer io).1 := by
  rcases handlePacket_frame s data peer io with hf | heq
  · exact h.of_frame hf
  · rw [heq]
    exact h.handleStunPacket data peer

/-- Every operation keeps the texts selected but a `SetupTransport` that
replaces the transport they came from. -/
theorem selected_step {o : Op} (h : Selected s)
    (hsafe : ∀ req io, o = .setupTransport req io →
      (s.registerTransport req io).isSome = true → ReplacesSafely s req) :
    Selected (s.step o) := by
  cases o with
  | createRoom place m n =>
    exact h.of_texts (fun m' u slot => .inl (by rw [← texts_createRoom s place m n]; rfl)) (.refl _)
  | destroyRoom m =>
    exact h.of_texts (fun m' u slot => texts_destroyRoom s m m' u slot) (.refl _)
  | bindPublisher place m u a v => exact h.bindPublisher place m u a v
  | bindSubscriber place m u a v => exact h.bindSubscriber place m u a v
  | setupTransport req io => exact h.setupTransport (hsafe req io rfl)
  | closeTransport m u => exact h.closeTransport m u
  | removePublisher m u => exact h.removePublisher m u
  | removeSubscriber m u => exact h.removeSubscriber m u
  | sendEstimatedRemb m u kbps now => exact h.of_frame (sendEstimatedRemb_quiet ..).toFrame
  | datagram data peer io => exact h.handlePacket data peer io
  | reorder which =>
    exact h.of_texts (fun m u slot => .inl (by rw [← texts_reorder s which]; rfl))
      (reorder_sameOwners s which)

theorem selected_new (port : UInt16) (nackCapacity : Nat) :
    Selected (MediaIngress.new port nackCapacity : MediaIngress lib) := by
  intro m u slot hne
  simp [texts, MediaIngress.new, RoomManager.new, RoomManager.getRoomShared] at hne

end MeetingSystem.Proof.Sfu
