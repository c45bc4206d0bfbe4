import MeetingSystem.Impl.Sfu.Transport

/-!
# Searching and changing the transport registry

The searches of `TransportRegistry` in terms of `lookup`, and what its
operations leave alone: protecting and unprotecting packets and handling DTLS
change the keys and contexts of a transport, never its owner, its SSRCs or its
ICE session (`SameOwners`).
-/

namespace MeetingSystem.Proof.Sfu

open MeetingSystem.Framework MeetingSystem.Impl.Sfu List

variable {lib : SrtpLib} {r : TransportRegistry lib} {p : ParticipantTransport lib → Bool}

theorem find_some {k : String} {t : ParticipantTransport lib} (h : r.find p = some (k, t)) :
    r.transports.lookup k = some t ∧ p t = true := by
  obtain ⟨x, hx, heq⟩ := Option.map_eq_some_iff.mp h
  obtain ⟨rfl, rfl⟩ := Prod.mk.inj heq
  have hp : p x.2 = true := by simpa using List.find?_some hx
  exact ⟨mem_entries.mp (List.mem_of_find?_eq_some hx), hp⟩

theorem any_iff : r.any p = true ↔ ∃ k t, r.transports.lookup k = some t ∧ p t = true := by
  simp only [TransportRegistry.any, List.any_eq_true]
  constructor
  · rintro ⟨x, hx, hp⟩
    exact ⟨x.1, x.2, mem_entries.mp hx, hp⟩
  · rintro ⟨k, t, hk, hp⟩
    exact ⟨⟨k, t⟩, mem_entries.mpr hk, hp⟩

theorem lookup_set {k : String} {t : ParticipantTransport lib}
    (h : r.transports.lookup k = some t) (t' : ParticipantTransport lib) (k' : String) :
    (r.set k t').transports.lookup k' = if k' = k then some t' else r.transports.lookup k' := by
  simp only [TransportRegistry.set]
  split
  · rename_i hk
    rw [hk, lookup_replace_self _ (mem_of_lookup h)]
  · rename_i hk
    exact lookup_replace_ne _ _ hk

/-- A search whose test a change of a transport does not affect. -/
theorem find_set {k : String} {t t' : ParticipantTransport lib}
    (h : r.transports.lookup k = some t) (hp : p t' = p t) :
    (r.set k t').find p = (r.find p).map fun x => if x.1 = k then (k, t') else x := by
  have hentries := find?_kreplace r.transports.nodupKeys (mem_entries.mpr h) hp
  show ((kreplace k t' r.transports.entries).find? fun x => p x.2).map _ = _
  rw [hentries, TransportRegistry.find]
  cases r.transports.entries.find? fun x => p x.2 with
  | none => rfl
  | some x =>
    simp only [Option.map_some, Option.some.injEq]
    split <;> rfl

/-! ## Owners, SSRCs and ICE sessions -/

/-- What identifies a transport beside its keys. -/
def identity (t : ParticipantTransport lib) : String × String × UInt32 × UInt32 × IceLiteSession :=
  (t.meetingId, t.userId, t.assignedAudioSsrc, t.assignedVideoSsrc, t.iceSession)

/-- The registries agree on all but keys and contexts. -/
def SameOwners (r r' : TransportRegistry lib) : Prop :=
  ∀ k, (r'.transports.lookup k).map identity = (r.transports.lookup k).map identity

theorem SameOwners.refl (r : TransportRegistry lib) : SameOwners r r := fun _ => rfl

theorem SameOwners.trans {r r' r'' : TransportRegistry lib} (h : SameOwners r r')
    (h' : SameOwners r' r'') : SameOwners r r'' := fun k => (h' k).trans (h k)

theorem SameOwners.symm {r r' : TransportRegistry lib} (h : SameOwners r r') : SameOwners r' r :=
  fun k => (h k).symm

theorem SameOwners.set {k : String} {t t' : ParticipantTransport lib}
    (h : r.transports.lookup k = some t) (ht : identity t' = identity t) :
    SameOwners r (r.set k t') := by
  intro k'
  rw [lookup_set h]
  split
  · rename_i hk
    rw [hk, h, Option.map_some, Option.map_some, ht]
  · rfl

theorem SameOwners.lookup {r r' : TransportRegistry lib} (h : SameOwners r r') {k : String}
    {t : ParticipantTransport lib} (ht : r.transports.lookup k = some t) :
    ∃ t', r'.transports.lookup k = some t' ∧ identity t' = identity t := by
  have hk := h k
  rw [ht, Option.map_some] at hk
  exact Option.map_eq_some_iff.mp hk

theorem protectRtp_identity (t : ParticipantTransport lib) (packet : Bytes) :
    identity (t.protectRtp packet).2 = identity t := by
  simp only [ParticipantTransport.protectRtp]
  split <;> rfl

theorem protectRtcp_identity (t : ParticipantTransport lib) (packet : Bytes) :
    identity (t.protectRtcp packet).2 = identity t := by
  simp only [ParticipantTransport.protectRtcp]
  split <;> rfl

theorem unprotectRtp_identity (t : ParticipantTransport lib) (packet : Bytes) :
    identity (t.unprotectRtp packet).2 = identity t := by
  simp only [ParticipantTransport.unprotectRtp]
  split <;> rfl

theorem unprotectRtcp_identity (t : ParticipantTransport lib) (packet : Bytes) :
    identity (t.unprotectRtcp packet).2 = identity t := by
  simp only [ParticipantTransport.unprotectRtcp]
  split <;> rfl

theorem handleDtlsDatagram_identity (t : ParticipantTransport lib) (data : Bytes) (io : DtlsIo) :
    identity (t.handleDtlsDatagram data io).1 = identity t := by
  simp only [ParticipantTransport.handleDtlsDatagram]
  split
  · rfl
  · split
    · simp only [ParticipantTransport.configureSrtpSessions]
      split
      · rfl
      · split
        · rfl
        · split <;> rfl
    · rfl

theorem transformAt_sameOwners
    {f : ParticipantTransport lib → Bytes → Option Bytes × ParticipantTransport lib}
    (hf : ∀ t packet, identity (f t packet).2 = identity t) (n : Nat)
    (r : TransportRegistry lib) (e : Endpoint) (packet : Bytes) :
    SameOwners r (TransportRegistry.transformAt f n r e packet).2 := by
  simp only [TransportRegistry.transformAt]
  split
  · exact .refl r
  · split
    · exact .refl r
    · rename_i key t hfind
      exact .set (find_some hfind).1 (hf t packet)

theorem handleDtlsFromEndpoint_sameOwners (r : TransportRegistry lib) (e : Endpoint)
    (data : Bytes) (io : DtlsIo) : SameOwners r (r.handleDtlsFromEndpoint e data io).1 := by
  simp only [TransportRegistry.handleDtlsFromEndpoint]
  split
  · exact .refl r
  · split
    · exact .refl r
    · rename_i key t hfind _
      exact .set (find_some hfind).1 (handleDtlsDatagram_identity t data io)

/-! ## A stand-in for libsrtp -/

/-- Keep the first `clear` bytes and combine the others with the key. -/
def mask (key : Bytes) (clear : Nat) (packet : Bytes) : Bytes :=
  packet.take clear ++ (packet.drop clear).map (· ^^^ key.headD 0)

/-- A library with the outer behaviour of libsrtp: the header stays readable,
a tag of `size` bytes follows the packet, and only the key that made a packet
takes it apart. -/
def tagged (clear size : Nat) (key packet : Bytes) : Option Bytes × Bytes :=
  (some (mask key clear packet ++ key.take size), key)

def untagged (clear size : Nat) (key packet : Bytes) : Option Bytes × Bytes :=
  let body := packet.take (packet.length - size)
  (if packet.drop (packet.length - size) = key.take size ∧ clear ≤ body.length
    then some (mask key clear body) else none, key)

def tagLib : SrtpLib :=
  { Ctx := Bytes
    create := fun _ key _ => some key
    protect := tagged 12 10
    unprotect := untagged 12 10
    protectRtcp := tagged 8 14
    unprotectRtcp := untagged 8 14 }

end MeetingSystem.Proof.Sfu
