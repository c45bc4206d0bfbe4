import MeetingSystem.Proof.Sfu.Selection

/-!
# A transport that is not set up

`SetupTransport` registers a transport, binds the user as a subscriber and then
as a publisher. Only the last of these can fail, when the room has no place for
another publisher, and what the first two did stays. `setup_atomic` says that
this is the only way in which a failed call changes anything.
-/

namespace MeetingSystem.Proof.Sfu

open MeetingSystem.Framework MeetingSystem.Impl.Sfu MediaIngress

variable {lib : SrtpLib} {s : MediaIngress lib} {req : SetupRequest} {io : SetupIo}

/-! ## The property -/

/-- The tables that `SetupTransport` works on. -/
structure SameTables (s s' : MediaIngress lib) : Prop where
  transports : s'.transportRegistry = s.transportRegistry
  rooms : s'.roomManager = s.roomManager
  publisherEndpoints : s'.publisherEndpoints = s.publisherEndpoints
  router : s'.router = s.router
  feedbackRoutes : s'.feedbackRoutes = s.feedbackRoutes

/-- A call that fails leaves the tables as they were. -/
def SetupAtomic (s : MediaIngress lib) (req : SetupRequest) (io : SetupIo) : Prop :=
  (s.setupTransport req io).2 = none → SameTables s (s.setupTransport req io).1

/-! ## When it fails -/

/-- The request is complete, the room is there, and DTLS starts. -/
def Registers (s : MediaIngress lib) (req : SetupRequest) (io : SetupIo) : Prop :=
  (req.meetingId ≠ "" ∧ req.userId ≠ "" ∧ req.clientIceUfrag ≠ "" ∧ req.clientIcePwd ≠ "" ∧
    req.clientDtlsFingerprint ≠ "") ∧
  s.roomManager.getRoomShared req.meetingId ≠ none ∧ io.initialized = true ∧
  ((DtlsTransport.new .server).start req.clientDtlsFingerprint io.start).2 = true

/-- The user is given an SSRC to publish with. -/
def Publishes (req : SetupRequest) (io : SetupIo) : Prop :=
  (assignedSsrcs req io).1 ≠ 0 ∨ (assignedSsrcs req io).2 ≠ 0

/-- The user is not among the publishers of the room, and there is no place for
another one. -/
def NoPlace (room : Room) (userId : String) : Prop :=
  userId ∉ room.publishers ∧ room.maxPublishers ≠ 0 ∧
    room.maxPublishers ≤ room.publishers.keys.length

def RoomFull (s : MediaIngress lib) (req : SetupRequest) : Prop :=
  ∃ room, s.roomManager.getRoomShared req.meetingId = some room ∧ NoPlace room req.userId

/-- The server's ICE token has not been drawn before. -/
def FreshToken (s : MediaIngress lib) (io : SetupIo) : Prop :=
  ∀ key t, s.transportRegistry.transports.lookup key = some t →
    t.iceSession.serverIceUfrag ≠ io.serverIceUfrag

theorem registerTransport_isSome :
    (s.registerTransport req io).isSome = true ↔ Registers s req io := by
  unfold registerTransport Registers
  dsimp only
  split_ifs with hempty hroom hdtls
  · simp only [Option.isSome_none, Bool.false_eq_true, false_iff]
    tauto
  · simp only [Option.isSome_none, Bool.false_eq_true, false_iff]
    tauto
  · simp only [Option.isSome_some, true_iff]
    tauto
  · simp only [Option.isSome_none, Bool.false_eq_true, false_iff]
    tauto

/-- A user can always be bound as a subscriber of a room that is there. -/
theorem bindSubscriber_binds {m u : String} (hu : u ≠ "") {room : Room}
    (hroom : s.roomManager.getRoomShared m = some room) (place : Nat) (a v : UInt32) :
    (s.bindSubscriber place m u a v).2 = true ∧
      ∃ room', (s.bindSubscriber place m u a v).1.roomManager.getRoomShared m = some room' ∧
        room'.publishers = room.publishers ∧ room'.maxPublishers = room.maxPublishers := by
  have hm : m ≠ "" := by
    intro e
    rw [e] at hroom
    cases hroom
  simp only [bindSubscriber, hm, hu, or_self, if_false, hroom, Room.addSubscriber]
  rw [refreshRoomRoutes_roomManager, getRoomShared_setRoom hroom, if_pos rfl]
  exact ⟨trivial, _, rfl, rfl, rfl⟩

/-- A user with an SSRC can be bound as a publisher unless the room is full. -/
theorem bindPublisher_fails {m u : String} (hu : u ≠ "") {room : Room}
    (hroom : s.roomManager.getRoomShared m = some room) (place : Nat) {a v : UInt32}
    (hssrc : a ≠ 0 ∨ v ≠ 0) :
    (NoPlace room u → s.bindPublisher place m u a v = (s, false)) ∧
      (¬ NoPlace room u → (s.bindPublisher place m u a v).2 = true) := by
  have hm : m ≠ "" := by
    intro e
    rw [e] at hroom
    cases hroom
  have hmerged : ∀ previous : Publisher,
      ¬ (mergeSsrc a previous.audioSsrc = 0 ∧ mergeSsrc v previous.videoSsrc = 0) := by
    intro previous hzero
    unfold mergeSsrc at hzero
    rcases hssrc with ha | hv
    · rw [if_pos ha] at hzero
      exact ha hzero.1
    · rw [if_pos hv] at hzero
      exact hv hzero.2
  simp only [bindPublisher, hm, hu, or_self, if_false, hroom, hmerged, Room.addPublisher]
  unfold NoPlace
  constructor
  · intro hfull
    rw [if_pos hfull]
  · intro hfull
    rw [if_neg hfull]

/-- What `SetupTransport` does once the transport is registered. -/
theorem setupTransport_registered {s₁ : MediaIngress lib} (hs₁ : s.registerTransport req io = some s₁) :
    (Publishes req io ∧ RoomFull s req →
      s.setupTransport req io = (setupSubscriber s₁ req io, none)) ∧
    (¬ (Publishes req io ∧ RoomFull s req) → (s.setupTransport req io).2 ≠ none) := by
  obtain ⟨⟨-, huser, -⟩, hexists, -⟩ := registerTransport_isSome.mp (by rw [hs₁]; rfl)
  obtain ⟨room, hroom⟩ := Option.ne_none_iff_exists'.mp hexists
  obtain ⟨dtls, hreg⟩ := registerTransport_some hs₁
  have hroom₁ : s₁.roomManager.getRoomShared req.meetingId = some room := by
    rw [hreg]
    exact hroom
  obtain ⟨hbound, room', hroom', hpublishers, hmax⟩ := bindSubscriber_binds huser hroom₁
    io.subscriberPlace (assignedSsrcs req io).1 (assignedSsrcs req io).2
  have hfull : RoomFull s req ↔ NoPlace room' req.userId := by
    unfold NoPlace
    rw [hpublishers, hmax]
    refine ⟨fun h => ?_, fun h => ⟨room, hroom, h⟩⟩
    obtain ⟨other, hother, h⟩ := h
    obtain rfl := Option.some.inj (hroom.symm.trans hother)
    exact h
  have heq : ∃ result, s.setupTransport req io =
      if (assignedSsrcs req io).1 = 0 ∧ (assignedSsrcs req io).2 = 0 then
        (setupSubscriber s₁ req io, some result)
      else
        let published := (setupSubscriber s₁ req io).bindPublisher io.publisherPlace req.meetingId
          req.userId (assignedSsrcs req io).1 (assignedSsrcs req io).2
        (published.1, if published.2 then some result else none) := by
    dsimp only [assignedSsrcs] at hbound
    simp only [setupTransport, hs₁]
    rw [if_neg (not_not_intro hbound)]
    exact ⟨_, rfl⟩
  obtain ⟨result, heq⟩ := heq
  have hpublish := fun hssrc => bindPublisher_fails huser hroom' io.publisherPlace
    (a := (assignedSsrcs req io).1) (v := (assignedSsrcs req io).2) hssrc
  rw [heq]
  constructor
  · intro h
    have hssrc : ¬ ((assignedSsrcs req io).1 = 0 ∧ (assignedSsrcs req io).2 = 0) :=
      fun hzero => h.1.elim (fun ha => ha hzero.1) (fun hv => hv hzero.2)
    rw [if_neg hssrc]
    dsimp only
    rw [setupSubscriber, (hpublish h.1).1 (hfull.mp h.2)]
    rfl
  · intro h
    split_ifs with hssrc
    · exact Option.some_ne_none result
    · have hpub : Publishes req io := by
        unfold Publishes
        tauto
      dsimp only
      rw [setupSubscriber, (hpublish hpub).2 fun hno => h ⟨hpub, hfull.mpr hno⟩, if_pos rfl]
      exact Option.some_ne_none result

/-- The transport that is registered was not there before. -/
theorem registerTransport_changes {s₁ : MediaIngress lib} (hs₁ : s.registerTransport req io = some s₁)
    (hfresh : FreshToken s io) : s₁.transportRegistry ≠ s.transportRegistry := by
  obtain ⟨dtls, rfl⟩ := registerTransport_some hs₁
  intro hsame
  have hlookup : (s.transportRegistry.upsert io.transportPlace (newTransport req io dtls)
      (TransportRegistry.kind req.publishAudio req.publishVideo)).transports.lookup
        (TransportRegistry.key req.meetingId req.userId
          (TransportRegistry.kind req.publishAudio req.publishVideo)) =
      some (newTransport req io dtls) :=
    (lookup_assign ..).trans (if_pos rfl)
  have hold := (congrArg (fun r : TransportRegistry lib => r.transports.lookup _) hsame).symm.trans hlookup
  exact hfresh _ (newTransport req io dtls) hold rfl

/-- A failed call leaves the tables as they were if it has not been stopped by a
full room after the transport had been registered; and only then, if the token
it draws is new. -/
theorem setup_atomic (s : MediaIngress lib) (req : SetupRequest) (io : SetupIo) :
    (¬ (Registers s req io ∧ Publishes req io ∧ RoomFull s req) → SetupAtomic s req io) ∧
    (FreshToken s io →
      (SetupAtomic s req io ↔ ¬ (Registers s req io ∧ Publishes req io ∧ RoomFull s req))) := by
  have henough : ¬ (Registers s req io ∧ Publishes req io ∧ RoomFull s req) → SetupAtomic s req io := by
    intro h hfail
    cases hs₁ : s.registerTransport req io with
    | none =>
      have hstate : s.setupTransport req io = (s, none) := by
        simp only [setupTransport, hs₁]
      rw [hstate]
      exact ⟨rfl, rfl, rfl, rfl, rfl⟩
    | some s₁ =>
      have hregisters : Registers s req io := registerTransport_isSome.mp (by rw [hs₁]; rfl)
      exact absurd hfail ((setupTransport_registered hs₁).2 fun hlate => h ⟨hregisters, hlate⟩)
  refine ⟨henough, fun hfresh => ⟨fun hatomic h => ?_, henough⟩⟩
  obtain ⟨s₁, hs₁⟩ := Option.isSome_iff_exists.mp (registerTransport_isSome.mpr h.1)
  have hlate := (setupTransport_registered hs₁).1 h.2
  have hsame := (hatomic (by rw [hlate])).transports
  rw [hlate] at hsame
  refine registerTransport_changes hs₁ hfresh (Eq.trans ?_ hsame)
  exact (bindSubscriber_transportRegistry ..).symm

/-- `v` wants to publish in a room with one place, which `u` has. -/
def fullRoom : MediaIngress tagLib :=
  run step (.new 5000 16) [.createRoom 0 "a" 1, .bindPublisher 0 "a" "u" 10 0]

def publish (u : String) : SetupRequest :=
  { meetingId := "a", userId := u, publishAudio := true, publishVideo := false
    clientIceUfrag := "c1", clientIcePwd := "pwd", clientDtlsFingerprint := "AA"
    advertisedAddress := "10.0.0.1:5000" }

def publishIo : SetupIo :=
  { initialized := true, audioSsrc := 20, videoSsrc := 0, serverIceUfrag := "s1", serverIcePwd := "pwd"
    start := ⟨true, true, true, .want⟩, serverDtlsFingerprint := "BB", transportPlace := 0
    subscriberPlace := 0, publisherPlace := 0 }

/-- `v` is told that it failed, and has a transport and a subscription. -/
theorem fullRoom_setup :
    (fullRoom.setupTransport (publish "v") publishIo).2 = none ∧
    ¬ SameTables fullRoom (fullRoom.setupTransport (publish "v") publishIo).1 := by
  refine ⟨by decide +kernel, fun hsame => ?_⟩
  have hgrown : (fullRoom.setupTransport (publish "v")
      publishIo).1.transportRegistry.transports.keys.length = 1 := by
    decide +kernel
  rw [hsame.transports] at hgrown
  revert hgrown
  decide +kernel

end MeetingSystem.Proof.Sfu
