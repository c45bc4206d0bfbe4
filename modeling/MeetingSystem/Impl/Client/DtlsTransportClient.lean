import MeetingSystem.Impl.Sfu.Transport

/-!
# The DTLS transport of the client

`DtlsTransportClient.cpp`, and how `AudioCallSession` and `ScreenShareSession`
drive it; the two sessions differ only in the texts they report. A `QString`
is its UTF-16 code units, and Qt's character tables are a parameter. As on the
server, OpenSSL's answers are part of the input and the texts of `lastError`
are left out.
-/

namespace MeetingSystem.Impl.Client

open MeetingSystem.Impl.Sfu (Bytes Handshake DtlsIo SrtpKeyMaterial SrtpLib SrtpSession)

abbrev QString := List UInt16

def QString.fromLatin1 (text : String) : QString := text.toList.map fun ch => ch.toNat.toUInt16

/-- The tables behind `QChar::isDigit`, `QChar::toUpper` and `QChar::isSpace`. -/
structure QCharTables where
  isDigit : UInt16 → Bool
  toUpper : UInt16 → UInt16
  isSpace : UInt16 → Bool

def formatFingerprint (digest : Bytes) : QString := .fromLatin1 (Sfu.formatFingerprint digest)

/-- The code units are those of `:`, `A` and `F`. -/
def normalizeFingerprint (q : QCharTables) (fingerprint : QString) : QString :=
  (fingerprint.filter fun ch =>
    ch = 0x3A ∨ q.isDigit ch ∨ (0x41 ≤ q.toUpper ch ∧ q.toUpper ch ≤ 0x46)).map q.toUpper

/-- `DtlsTransportClient::Impl`; its `SSL` object exists once it is `started`. -/
structure DtlsTransportClient where
  started : Bool
  connected : Bool
  expectedServerFingerprint : QString
  peerFingerprint : QString
  selectedSrtpProfile : String
  deriving DecidableEq

/-- OpenSSL's answers while the client starts. -/
structure ClientStartIo where
  localIdentity : Bool
  contextConfigured : Bool
  sslNew : Bool
  bioNew : Bool
  handshake : Handshake
  drained : Bool
  deriving DecidableEq

namespace DtlsTransportClient

variable (q : QCharTables)

def new : DtlsTransportClient :=
  { started := false, connected := false, expectedServerFingerprint := []
    peerFingerprint := [], selectedSrtpProfile := "" }

def start (t : DtlsTransportClient) (expectedServerFingerprint : QString) (io : ClientStartIo) :
    DtlsTransportClient × Bool :=
  if t.started then (t, true)
  else if ¬ io.localIdentity ∨ ¬ io.contextConfigured ∨ ¬ io.sslNew ∨ ¬ io.bioNew then (t, false)
  else
    ({ t with
        started := true
        expectedServerFingerprint := normalizeFingerprint q expectedServerFingerprint },
      io.handshake ≠ .failed ∧ io.drained)

/-- The end of the handshake: the server's fingerprint is checked against the
announced one and the SRTP profile is read. -/
def completeHandshake (t : DtlsTransportClient) (io : DtlsIo) : DtlsTransportClient × Bool :=
  match io.peerDigest with
  | none => (t, false)
  | some digest =>
    let t := { t with peerFingerprint := formatFingerprint digest }
    if t.expectedServerFingerprint ≠ [] ∧
        normalizeFingerprint q t.peerFingerprint ≠ t.expectedServerFingerprint then (t, false)
    else
      match io.srtpProfile with
      | none => (t, false)
      | some profile => ({ t with selectedSrtpProfile := profile }, io.drained)

def handleIncomingDatagram (t : DtlsTransportClient) (datagram : Bytes) (io : DtlsIo) :
    DtlsTransportClient × Bool :=
  if ¬ t.started ∨ datagram = [] ∨ ¬ io.written then (t, false)
  else
    match io.handshake with
    | .done => completeHandshake q { t with connected := true } io
    | .want => (t, io.drained)
    | .failed => (t, false)

def exportSrtpKeyMaterial (t : DtlsTransportClient) (keyLen saltLen : Nat)
    (exporter : Option Bytes) : Option SrtpKeyMaterial :=
  if ¬ t.connected ∨ keyLen = 0 ∨ saltLen = 0 then none
  else
    exporter.map fun bytes =>
      { localKey := bytes.take keyLen
        remoteKey := (bytes.drop keyLen).take keyLen
        localSalt := (bytes.drop (2 * keyLen)).take saltLen
        remoteSalt := (bytes.drop (2 * keyLen + saltLen)).take saltLen }

end DtlsTransportClient

/-! ## The sessions -/

/-- What the sessions keep about DTLS and SRTP. -/
structure DtlsSession (lib : SrtpLib) where
  dtlsTransport : DtlsTransportClient
  dtlsStarted : Bool
  dtlsConnected : Bool
  srtpReady : Bool
  inboundSrtp : SrtpSession lib
  outboundSrtp : SrtpSession lib

namespace DtlsSession

variable {lib : SrtpLib} (q : QCharTables)

def new : DtlsSession lib :=
  { dtlsTransport := .new, dtlsStarted := false, dtlsConnected := false, srtpReady := false
    inboundSrtp := .new, outboundSrtp := .new }

def masterKeyLength : Nat := 16

def masterSaltLength : Nat := 14

/-- `peerSet` is whether the socket is open and has a peer, `sent` the result
of `sendCachedDtlsHandshakeLocked`. -/
def startDtlsSrtp (s : DtlsSession lib) (serverFingerprint : QString) (peerSet : Bool)
    (io : ClientStartIo) (sent : Bool) : DtlsSession lib × Bool :=
  if serverFingerprint.all q.isSpace ∨ ¬ peerSet then (s, false)
  else if s.dtlsTransport.connected ∧ s.srtpReady then (s, true)
  else
    let started := s.dtlsTransport.start q serverFingerprint io
    let s := { s with dtlsTransport := started.1 }
    if ¬ started.2 then (s, false) else ({ s with dtlsStarted := true }, sent)

def configureSrtpLocked (s : DtlsSession lib) (exporter : Option Bytes) :
    DtlsSession lib × Bool :=
  if s.srtpReady then (s, true)
  else if ¬ s.dtlsTransport.connected then (s, false)
  else
    match s.dtlsTransport.exportSrtpKeyMaterial masterKeyLength masterSaltLength exporter with
    | none => (s, false)
    | some keying =>
      let inbound := SrtpSession.configure keying.remoteKey keying.remoteSalt .inbound
      let s := { s with inboundSrtp := inbound.1 }
      if ¬ inbound.2 then (s, false)
      else
        let outbound := SrtpSession.configure keying.localKey keying.localSalt .outbound
        let s := { s with outboundSrtp := outbound.1 }
        if ¬ outbound.2 then (s, false)
        else ({ s with dtlsConnected := true, srtpReady := true }, true)

/-- `accepted` is the result of `acceptSender`, `sent` whether all answers
could be sent. -/
def handleDtlsPacketLocked (s : DtlsSession lib) (data : Bytes) (accepted sent : Bool)
    (io : DtlsIo) : DtlsSession lib × Bool :=
  if data = [] ∨ ¬ accepted then (s, false)
  else
    let handled := s.dtlsTransport.handleIncomingDatagram q data io
    let s := { s with dtlsTransport := handled.1 }
    if ¬ handled.2 ∨ ¬ sent then (s, false) else s.configureSrtpLocked io.exporter

end DtlsSession

end MeetingSystem.Impl.Client
