import MeetingSystem.Framework.Run
import MeetingSystem.Impl.Client.DtlsTransportClient
import MeetingSystem.Proof.Sfu.Registry

/-!
# Fingerprints of certificates

The SFU and the client each compare the fingerprint of the peer's certificate
with the one that was announced, after both have been normalised. A text that
normalises to nothing switches the comparison off, and `connected` is set
before the comparison, so that key material can be exported after a mismatch,
too (`mismatched`).

`fingerprint_bound`: if the announced text does not normalise to nothing and
key material is only exported after a datagram that was handled with success,
SRTP is ready or key material is exported only with the announced certificate.
What is assumed of OpenSSL is `OpenSslRun`.
-/

namespace MeetingSystem.Proof.Sfu

open MeetingSystem.Framework MeetingSystem.Impl MeetingSystem.Impl.Sfu

variable {lib : SrtpLib} {q : Client.QCharTables}

/-! ## The statement -/

/-- A datagram with OpenSSL's answers; on the client also whether its sender
is accepted and whether the answers can be sent. -/
structure Input where
  data : Bytes
  io : DtlsIo
  accepted : Bool
  sent : Bool

/-- OpenSSL reports the digest of the peer's certificate, and a handshake that
has ended does not go on. -/
structure OpenSslRun (digest : Bytes) (inputs : List Input) : Prop where
  certificate : ∀ x ∈ inputs, ∀ d, x.io.peerDigest = some d → d = digest
  settled : inputs.Pairwise fun x x' => x.io.handshake = .done → x'.io.handshake ≠ .want

/-- The announced text and the certificate, normalised by the server. -/
def Matches (announced : String) (digest : Bytes) : Prop :=
  normalizeFingerprint (formatFingerprint digest) = normalizeFingerprint announced

/-- The same for the client. -/
def ClientMatches (q : Client.QCharTables) (announced : Client.QString) (digest : Bytes) : Prop :=
  Client.normalizeFingerprint q (Client.formatFingerprint digest) =
    Client.normalizeFingerprint q announced

instance (announced : String) (digest : Bytes) : Decidable (Matches announced digest) :=
  inferInstanceAs (Decidable (_ = _))

instance (q : Client.QCharTables) (announced : Client.QString) (digest : Bytes) :
    Decidable (ClientMatches q announced digest) :=
  inferInstanceAs (Decidable (_ = _))

/-- A started transport of the SFU. -/
def serverStarted (announced : String) (io : StartIo) : DtlsTransport :=
  ((DtlsTransport.new .server).start announced io).1

def clientStarted (q : Client.QCharTables) (announced : Client.QString)
    (io : Client.ClientStartIo) : Client.DtlsTransportClient :=
  (Client.DtlsTransportClient.new.start q announced io).1

/-- The participant's transport after a datagram. -/
def receive (t : ParticipantTransport lib) (x : Input) : ParticipantTransport lib :=
  (t.handleDtlsDatagram x.data x.io).1

/-- The DTLS transport and the result of the last datagram. -/
def serve (s : DtlsTransport × Bool) (x : Input) : DtlsTransport × Bool :=
  s.1.handleIncomingDatagram x.data x.io

/-- The client's session after a datagram. -/
def clientReceive (q : Client.QCharTables) (s : Client.DtlsSession lib) (x : Input) :
    Client.DtlsSession lib :=
  (s.handleDtlsPacketLocked q x.data x.accepted x.sent x.io).1

def clientServe (q : Client.QCharTables) (s : Client.DtlsTransportClient × Bool) (x : Input) :
    Client.DtlsTransportClient × Bool :=
  s.1.handleIncomingDatagram q x.data x.io

/-! ## Runs of handshakes -/

/-- A machine that datagrams connect and make ready: only a certificate that
`matched` makes it ready, unless a handshake goes on after its end. -/
structure Pinned (S : Type) (matched : Bytes → Prop) where
  step : S → Input → S
  connected : S → Bool
  ready : S → Bool
  inv : S → Prop
  inv_step : ∀ s x, inv s → inv (step s x)
  connected_step : ∀ s x, connected (step s x) = true →
    connected s = true ∨ x.io.handshake = .done
  ready_step : ∀ s x, inv s → (connected s = true → x.io.handshake ≠ .want) →
    ready (step s x) = true → ready s = true ∨ ∃ d, x.io.peerDigest = some d ∧ matched d

section Runs

variable {S : Type} {matched : Bytes → Prop} (M : Pinned S matched)

theorem Pinned.ready_of_run {xs : List Input} {s : S} (hs : M.inv s)
    (hsettled : M.connected s = true → ∀ x ∈ xs, x.io.handshake ≠ .want)
    (hpair : xs.Pairwise fun x x' => x.io.handshake = .done → x'.io.handshake ≠ .want)
    (h : M.ready (run M.step s xs) = true) :
    M.ready s = true ∨ ∃ x ∈ xs, ∃ d, x.io.peerDigest = some d ∧ matched d := by
  induction xs generalizing s with
  | nil => exact .inl h
  | cons x xs ih =>
    obtain ⟨hx, hpair⟩ := List.pairwise_cons.mp hpair
    have hsettled' : M.connected (M.step s x) = true → ∀ x' ∈ xs, x'.io.handshake ≠ .want := by
      intro hc x' hx'
      rcases M.connected_step s x hc with hc | hdone
      · exact hsettled hc x' (List.mem_cons_of_mem _ hx')
      · exact hx x' hx' hdone
    rcases ih (M.inv_step s x hs) hsettled' hpair h with hr | ⟨x', hx', hd⟩
    · have hwant := fun hc => hsettled hc x List.mem_cons_self
      rcases M.ready_step s x hs hwant hr with hr | hd
      · exact .inl hr
      · exact .inr ⟨x, List.mem_cons_self, hd⟩
    · exact .inr ⟨x', List.mem_cons_of_mem _ hx', hd⟩

/-- A run from a state that is neither connected nor ready gets ready only
with the peer's certificate. -/
theorem Pinned.matched_of_ready {digest : Bytes} {xs : List Input} (hssl : OpenSslRun digest xs)
    {s : S} (hs : M.inv s) (hconnected : M.connected s = false) (hready : M.ready s = false)
    (h : M.ready (run M.step s xs) = true) : matched digest := by
  have hsettled : M.connected s = true → ∀ x ∈ xs, x.io.handshake ≠ .want := by
    intro hc
    simp [hconnected] at hc
  rcases M.ready_of_run hs hsettled hssl.settled h with hr | ⟨x, hx, d, hd, hmatch⟩
  · simp [hready] at hr
  · rw [← hssl.certificate x hx d hd]
    exact hmatch

end Runs

/-! ## The SFU -/

/-- A started transport compares with the announced text. -/
def Announced (announced : String) (t : DtlsTransport) : Prop :=
  t.started = true → t.expectedPeerFingerprint = normalizeFingerprint announced

theorem serverStarted_announced (announced : String) (io : StartIo) :
    Announced announced (serverStarted announced io) ∧
      (serverStarted announced io).connected = false := by
  simp only [serverStarted, DtlsTransport.start, DtlsTransport.new, Bool.false_eq_true, if_false]
  split
  · exact ⟨fun h => absurd h Bool.false_ne_true, rfl⟩
  · split
    · exact ⟨fun h => absurd h Bool.false_ne_true, rfl⟩
    · exact ⟨fun _ => rfl, rfl⟩

theorem handleIncomingDatagram_announced {announced : String} {t : DtlsTransport}
    (h : Announced announced t) (data : Bytes) (io : DtlsIo) :
    Announced announced (t.handleIncomingDatagram data io).1 := by
  simp only [DtlsTransport.handleIncomingDatagram]
  split
  · exact h
  · split
    · simp only [DtlsTransport.completeHandshake]
      split
      · exact h
      · split
        · exact h
        · split <;> exact h
    · exact h
    · exact h

theorem handleIncomingDatagram_connected {t : DtlsTransport} {data : Bytes} {io : DtlsIo}
    (h : (t.handleIncomingDatagram data io).1.connected = true) :
    t.connected = true ∨ io.handshake = .done := by
  simp only [DtlsTransport.handleIncomingDatagram] at h
  split at h
  · exact .inl h
  · split at h
    · rename_i hdone
      exact .inr hdone
    · exact .inl h
    · exact .inl h

/-- A datagram that leaves the transport connected with success has brought
the announced certificate. -/
theorem handleIncomingDatagram_matched {announced : String} {t : DtlsTransport} {data : Bytes}
    {io : DtlsIo} (hannounced : Announced announced t) (hne : normalizeFingerprint announced ≠ "")
    (hwant : t.connected = true → io.handshake ≠ .want)
    (hok : (t.handleIncomingDatagram data io).2 = true)
    (hconnected : (t.handleIncomingDatagram data io).1.connected = true) :
    ∃ d, io.peerDigest = some d ∧ Matches announced d := by
  simp only [DtlsTransport.handleIncomingDatagram] at hok hconnected
  split at hok
  · simp at hok
  · rename_i hready
    rw [if_neg hready] at hconnected
    have hexpected := hannounced (not_not.mp (not_or.mp hready).1)
    split at hok
    · simp only [DtlsTransport.completeHandshake, hexpected] at hok
      split at hok
      · simp at hok
      · rename_i digest hdigest
        split at hok
        · simp at hok
        · rename_i hmatch
          refine ⟨digest, hdigest, ?_⟩
          by_contra hdiffer
          exact hmatch ⟨hne, hdiffer⟩
    · rename_i hhandshake
      rw [hhandshake] at hconnected
      exact absurd hhandshake (hwant hconnected)
    · simp at hok

theorem configureSrtpSessions_dtls (t : ParticipantTransport lib) (exporter : Option Bytes) :
    (t.configureSrtpSessions exporter).1.dtlsTransport = t.dtlsTransport := by
  simp only [ParticipantTransport.configureSrtpSessions]
  split
  · rfl
  · split
    · rfl
    · split <;> rfl

theorem handleDtlsDatagram_dtls (t : ParticipantTransport lib) (data : Bytes) (io : DtlsIo) :
    (t.handleDtlsDatagram data io).1.dtlsTransport =
      (t.dtlsTransport.handleIncomingDatagram data io).1 := by
  simp only [ParticipantTransport.handleDtlsDatagram]
  split
  · rfl
  · split
    · exact configureSrtpSessions_dtls ..
    · rfl

/-- A participant's transport gets ready in a datagram that was handled with
success. -/
theorem handleDtlsDatagram_ready {t : ParticipantTransport lib} {data : Bytes} {io : DtlsIo}
    (h : (t.handleDtlsDatagram data io).1.srtpReady = true) :
    t.srtpReady = true ∨ (t.dtlsTransport.handleIncomingDatagram data io).2 = true ∧
      (t.dtlsTransport.handleIncomingDatagram data io).1.connected = true := by
  simp only [ParticipantTransport.handleDtlsDatagram] at h
  split at h
  · exact .inl h
  · rename_i hok
    split at h
    · rename_i hconnected
      exact .inr ⟨not_not.mp hok, hconnected.1⟩
    · exact .inl h

/-- Participants' transports, ready for SRTP. -/
def serverReady {announced : String} (hne : normalizeFingerprint announced ≠ "") :
    Pinned (ParticipantTransport lib) (Matches announced) where
  step := receive
  connected t := t.dtlsTransport.connected
  ready t := t.srtpReady
  inv t := Announced announced t.dtlsTransport
  inv_step t x ht := by
    rw [receive, handleDtlsDatagram_dtls]
    exact handleIncomingDatagram_announced ht x.data x.io
  connected_step t x hc := by
    rw [receive, handleDtlsDatagram_dtls] at hc
    exact handleIncomingDatagram_connected hc
  ready_step t x ht hwant hr := by
    rcases handleDtlsDatagram_ready hr with hr | ⟨hok, hc⟩
    · exact .inl hr
    · exact .inr (handleIncomingDatagram_matched ht hne hwant hok hc)

/-- DTLS transports, ready for an export. -/
def serverExports {announced : String} (hne : normalizeFingerprint announced ≠ "") :
    Pinned (DtlsTransport × Bool) (Matches announced) where
  step := serve
  connected s := s.1.connected
  ready s := s.2 && s.1.connected
  inv s := Announced announced s.1
  inv_step s x hs := handleIncomingDatagram_announced hs x.data x.io
  connected_step s x hc := handleIncomingDatagram_connected hc
  ready_step s x hs hwant hr := by
    obtain ⟨hok, hc⟩ := Bool.and_eq_true_iff.mp hr
    exact .inr (handleIncomingDatagram_matched hs hne hwant hok hc)

/-! ## The client -/

/-- A started client compares with the announced text. -/
def ClientAnnounced (q : Client.QCharTables) (announced : Client.QString)
    (t : Client.DtlsTransportClient) : Prop :=
  t.started = true → t.expectedServerFingerprint = Client.normalizeFingerprint q announced

theorem clientStarted_announced (announced : Client.QString) (io : Client.ClientStartIo) :
    ClientAnnounced q announced (clientStarted q announced io) ∧
      (clientStarted q announced io).connected = false := by
  simp only [clientStarted, Client.DtlsTransportClient.start, Client.DtlsTransportClient.new,
    Bool.false_eq_true, if_false]
  split
  · exact ⟨fun h => absurd h Bool.false_ne_true, rfl⟩
  · exact ⟨fun _ => rfl, rfl⟩

theorem client_announced {announced : Client.QString} {t : Client.DtlsTransportClient}
    (h : ClientAnnounced q announced t) (data : Bytes) (io : DtlsIo) :
    ClientAnnounced q announced (t.handleIncomingDatagram q data io).1 := by
  simp only [Client.DtlsTransportClient.handleIncomingDatagram]
  split
  · exact h
  · split
    · simp only [Client.DtlsTransportClient.completeHandshake]
      split
      · exact h
      · split
        · exact h
        · split <;> exact h
    · exact h
    · exact h

theorem client_connected {t : Client.DtlsTransportClient} {data : Bytes} {io : DtlsIo}
    (h : (t.handleIncomingDatagram q data io).1.connected = true) :
    t.connected = true ∨ io.handshake = .done := by
  simp only [Client.DtlsTransportClient.handleIncomingDatagram] at h
  split at h
  · exact .inl h
  · split at h
    · rename_i hdone
      exact .inr hdone
    · exact .inl h
    · exact .inl h

theorem client_matched {announced : Client.QString} {t : Client.DtlsTransportClient}
    {data : Bytes} {io : DtlsIo} (hannounced : ClientAnnounced q announced t)
    (hne : Client.normalizeFingerprint q announced ≠ [])
    (hwant : t.connected = true → io.handshake ≠ .want)
    (hok : (t.handleIncomingDatagram q data io).2 = true)
    (hconnected : (t.handleIncomingDatagram q data io).1.connected = true) :
    ∃ d, io.peerDigest = some d ∧ ClientMatches q announced d := by
  simp only [Client.DtlsTransportClient.handleIncomingDatagram] at hok hconnected
  split at hok
  · simp at hok
  · rename_i hready
    rw [if_neg hready] at hconnected
    have hexpected := hannounced (not_not.mp (not_or.mp hready).1)
    split at hok
    · simp only [Client.DtlsTransportClient.completeHandshake, hexpected] at hok
      split at hok
      · simp at hok
      · rename_i digest hdigest
        split at hok
        · simp at hok
        · rename_i hmatch
          refine ⟨digest, hdigest, ?_⟩
          by_contra hdiffer
          exact hmatch ⟨hne, hdiffer⟩
    · rename_i hhandshake
      rw [hhandshake] at hconnected
      exact absurd hhandshake (hwant hconnected)
    · simp at hok

theorem configureSrtpLocked_dtls (s : Client.DtlsSession lib) (exporter : Option Bytes) :
    (s.configureSrtpLocked exporter).1.dtlsTransport = s.dtlsTransport := by
  simp only [Client.DtlsSession.configureSrtpLocked]
  split
  · rfl
  · split
    · rfl
    · split
      · rfl
      · split
        · rfl
        · split <;> rfl

/-- What a packet does to a session's transport and its readiness. -/
theorem handleDtlsPacketLocked_cases (s : Client.DtlsSession lib) (x : Input) :
    clientReceive q s x = s ∨
    (clientReceive q s x).dtlsTransport = (s.dtlsTransport.handleIncomingDatagram q x.data x.io).1 ∧
      ((clientReceive q s x).srtpReady = true → s.srtpReady = true ∨
        (s.dtlsTransport.handleIncomingDatagram q x.data x.io).2 = true ∧
          (s.dtlsTransport.handleIncomingDatagram q x.data x.io).1.connected = true) := by
  simp only [clientReceive, Client.DtlsSession.handleDtlsPacketLocked]
  split
  · exact .inl rfl
  · right
    split
    · exact ⟨rfl, .inl⟩
    · rename_i hok
      refine ⟨configureSrtpLocked_dtls .., fun hready => ?_⟩
      by_cases hs : s.srtpReady = true
      · exact .inl hs
      · refine .inr ⟨not_not.mp (not_or.mp hok).1, ?_⟩
        simp only [Client.DtlsSession.configureSrtpLocked, if_neg hs] at hready
        split at hready
        · exact absurd hready hs
        · rename_i hc
          exact not_not.mp hc

/-- Sessions, ready for SRTP. -/
def clientReady {announced : Client.QString} (hne : Client.normalizeFingerprint q announced ≠ []) :
    Pinned (Client.DtlsSession lib) (ClientMatches q announced) where
  step := clientReceive q
  connected s := s.dtlsTransport.connected
  ready s := s.srtpReady
  inv s := ClientAnnounced q announced s.dtlsTransport
  inv_step s x hs := by
    rcases handleDtlsPacketLocked_cases s x with heq | ⟨heq, -⟩
    · rw [heq]
      exact hs
    · rw [heq]
      exact client_announced hs x.data x.io
  connected_step s x hc := by
    rcases handleDtlsPacketLocked_cases s x with heq | ⟨heq, -⟩
    · rw [heq] at hc
      exact .inl hc
    · rw [heq] at hc
      exact client_connected hc
  ready_step s x hs hwant hr := by
    rcases handleDtlsPacketLocked_cases s x with heq | ⟨-, hready⟩
    · rw [heq] at hr
      exact .inl hr
    · rcases hready hr with hr | ⟨hok, hc⟩
      · exact .inl hr
      · exact .inr (client_matched hs hne hwant hok hc)

/-- The client's DTLS transports, ready for an export. -/
def clientExports {announced : Client.QString}
    (hne : Client.normalizeFingerprint q announced ≠ []) :
    Pinned (Client.DtlsTransportClient × Bool) (ClientMatches q announced) where
  step := clientServe q
  connected s := s.1.connected
  ready s := s.2 && s.1.connected
  inv s := ClientAnnounced q announced s.1
  inv_step s x hs := client_announced hs x.data x.io
  connected_step s x hc := client_connected hc
  ready_step s x hs hwant hr := by
    obtain ⟨hok, hc⟩ := Bool.and_eq_true_iff.mp hr
    exact .inr (client_matched hs hne hwant hok hc)

theorem startDtlsSrtp_announced (announced : Client.QString) (peerSet sent : Bool)
    (io : Client.ClientStartIo) :
    ClientAnnounced q announced
        ((Client.DtlsSession.new : Client.DtlsSession lib).startDtlsSrtp q announced peerSet io
          sent).1.dtlsTransport ∧
      ((Client.DtlsSession.new : Client.DtlsSession lib).startDtlsSrtp q announced peerSet io
        sent).1.dtlsTransport.connected = false ∧
      ((Client.DtlsSession.new : Client.DtlsSession lib).startDtlsSrtp q announced peerSet io
        sent).1.srtpReady = false := by
  obtain ⟨hannounced, hconnected⟩ := clientStarted_announced (q := q) announced io
  simp only [Client.DtlsSession.startDtlsSrtp]
  split
  · exact ⟨fun h => absurd h Bool.false_ne_true, rfl, rfl⟩
  · split
    · exact ⟨fun h => absurd h Bool.false_ne_true, rfl, rfl⟩
    · split <;> exact ⟨hannounced, hconnected, rfl⟩

/-! ## Both sides -/

theorem connected_of_export {t : DtlsTransport} {keyLen saltLen : Nat} {exporter : Option Bytes}
    (h : (t.exportSrtpKeyMaterial keyLen saltLen exporter).isSome = true) : t.connected = true := by
  by_contra hnot
  simp [DtlsTransport.exportSrtpKeyMaterial, hnot] at h

theorem client_connected_of_export {t : Client.DtlsTransportClient} {keyLen saltLen : Nat}
    {exporter : Option Bytes}
    (h : (t.exportSrtpKeyMaterial keyLen saltLen exporter).isSome = true) : t.connected = true := by
  by_contra hnot
  simp [Client.DtlsTransportClient.exportSrtpKeyMaterial, hnot] at h

/-- After any datagrams, the SFU and the client report SRTP ready, or have key
material to export after success, only if the peer's certificate is the one
that was announced; the announced text must not normalise to nothing. -/
theorem fingerprint_bound {digest : Bytes} {inputs : List Input}
    (hssl : OpenSslRun digest inputs) :
    (∀ (announced : String) (io : StartIo) (t : ParticipantTransport lib),
      t.dtlsTransport = serverStarted announced io → t.srtpReady = false →
      normalizeFingerprint announced ≠ "" →
      ((run receive t inputs).srtpReady = true → Matches announced digest) ∧
      ∀ keyLen saltLen exporter, (run serve (serverStarted announced io, false) inputs).2 = true →
        ((run serve (serverStarted announced io, false) inputs).1.exportSrtpKeyMaterial keyLen
          saltLen exporter).isSome = true → Matches announced digest) ∧
    ∀ (q : Client.QCharTables) (announced : Client.QString) (peerSet sent : Bool)
      (io : Client.ClientStartIo), Client.normalizeFingerprint q announced ≠ [] →
      ((run (clientReceive q) ((Client.DtlsSession.new : Client.DtlsSession lib).startDtlsSrtp q
          announced peerSet io sent).1 inputs).srtpReady = true → ClientMatches q announced digest) ∧
      ∀ keyLen saltLen exporter,
        (run (clientServe q) (clientStarted q announced io, false) inputs).2 = true →
        ((run (clientServe q) (clientStarted q announced io, false) inputs).1.exportSrtpKeyMaterial
          keyLen saltLen exporter).isSome = true → ClientMatches q announced digest := by
  refine ⟨fun announced io t ht hready hne => ?_, fun q announced peerSet sent io hne => ?_⟩
  · obtain ⟨hannounced, hconnected⟩ := serverStarted_announced announced io
    refine ⟨fun h => ?_, fun keyLen saltLen exporter hok hexport => ?_⟩
    · rw [← ht] at hannounced hconnected
      exact (serverReady hne).matched_of_ready hssl hannounced hconnected hready h
    · apply (serverExports hne).matched_of_ready (s := (serverStarted announced io, false)) hssl
        hannounced hconnected rfl
      exact Bool.and_eq_true_iff.mpr ⟨hok, connected_of_export hexport⟩
  · refine ⟨fun h => ?_, fun keyLen saltLen exporter hok hexport => ?_⟩
    · obtain ⟨hannounced, hconnected, hready⟩ :=
        @startDtlsSrtp_announced lib q announced peerSet sent io
      exact (clientReady hne).matched_of_ready hssl hannounced hconnected hready h
    · obtain ⟨hannounced, hconnected⟩ := clientStarted_announced (q := q) announced io
      apply (clientExports hne).matched_of_ready (s := (clientStarted q announced io, false)) hssl
        hannounced hconnected rfl
      exact Bool.and_eq_true_iff.mpr ⟨hok, client_connected_of_export hexport⟩

/-! ## Certificates that were not announced -/

/-- A datagram that ends a handshake with a certificate of this digest. -/
def ending (digest : Bytes) : Input :=
  { data := [22]
    io :=
      { written := true, handshake := .done, peerDigest := some digest
        srtpProfile := some "SRTP_AES128_CM_SHA1_80", outgoing := [], drained := true
        exporter := some (List.replicate 60 7) }
    accepted := true, sent := true }

def started : StartIo := ⟨true, true, true, .want⟩

def clientStartIo : Client.ClientStartIo := ⟨true, true, true, true, .want, true⟩

/-- The tables on ASCII. -/
def asciiTables : Client.QCharTables :=
  { isDigit := fun ch => 0x30 ≤ ch ∧ ch ≤ 0x39
    toUpper := fun ch => if 0x61 ≤ ch ∧ ch ≤ 0x7A then ch - 32 else ch
    isSpace := fun ch => ch = 0x20 ∨ (9 ≤ ch ∧ ch ≤ 13) }

def waiting (announced : String) : ParticipantTransport tagLib :=
  .new "b" "x" 0 0 (.configure "c" "s") (serverStarted announced started)

def clientWaiting (announced : String) : Client.DtlsSession tagLib :=
  (Client.DtlsSession.new.startDtlsSrtp asciiTables (.fromLatin1 announced) true clientStartIo
    true).1

theorem ending_openSslRun (digest : Bytes) : OpenSslRun digest [ending digest] :=
  ⟨by simp [ending], List.pairwise_singleton ..⟩

theorem fingerprint_bound_ending :
    (run receive (waiting "aa") [ending [0xAA]]).srtpReady = true ∧ Matches "aa" [0xAA] ∧
    (run (clientReceive asciiTables) (clientWaiting "aa") [ending [0xAA]]).srtpReady = true ∧
    ClientMatches asciiTables (.fromLatin1 "aa") [0xAA] := by
  have hready : (run receive (waiting "aa") [ending [0xAA]]).srtpReady = true := by decide +kernel
  have hclient : (run (clientReceive asciiTables) (clientWaiting "aa")
      [ending [0xAA]]).srtpReady = true := by
    decide +kernel
  obtain ⟨hserver, hsession⟩ := fingerprint_bound (ending_openSslRun [0xAA])
  exact ⟨hready, (hserver "aa" started (waiting "aa") rfl rfl (by decide +kernel)).1 hready, hclient,
    (hsession asciiTables (.fromLatin1 "aa") true true clientStartIo (by decide +kernel)).1 hclient⟩

/-- With an announced text that is not empty but normalises to nothing, any
certificate will do; and after a mismatch the key material can be exported. -/
theorem ending_unbound :
    (run receive (waiting "?") [ending [0xAB]]).srtpReady = true ∧ ¬ Matches "?" [0xAB] ∧
    (run (clientReceive asciiTables) (clientWaiting "?") [ending [0xAB]]).srtpReady = true ∧
    ¬ ClientMatches asciiTables (.fromLatin1 "?") [0xAB] ∧
    ((run serve (serverStarted "AA" started, false) [ending [0xAB]]).1.exportSrtpKeyMaterial 16 14
      (ending [0xAB]).io.exporter).isSome = true ∧ ¬ Matches "AA" [0xAB] ∧
    ((run (clientServe asciiTables) (clientStarted asciiTables (.fromLatin1 "AA") clientStartIo,
      false) [ending [0xAB]]).1.exportSrtpKeyMaterial 16 14
      (ending [0xAB]).io.exporter).isSome = true ∧
    ¬ ClientMatches asciiTables (.fromLatin1 "AA") [0xAB] := by
  decide +kernel

end MeetingSystem.Proof.Sfu
