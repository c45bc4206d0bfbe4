import MeetingSystem.Impl.Sfu.Endpoint

/-!
# The DTLS transport of the SFU

`DtlsTransport.cpp`. OpenSSL is not modelled: what its calls return while a
datagram is handled is part of the input (`DtlsIo`, `StartIo`). The texts of
`lastError` are left out.
-/

namespace MeetingSystem.Impl.Sfu

/-- What `SSL_do_handshake` comes to. -/
inductive Handshake where
  /-- It returned 1. -/
  | done
  /-- `SSL_ERROR_WANT_READ` or `SSL_ERROR_WANT_WRITE`. -/
  | want
  | failed
  deriving DecidableEq

/-- OpenSSL's answers while a transport starts. -/
structure StartIo where
  contextReady : Bool
  sslNew : Bool
  bioNew : Bool
  handshake : Handshake
  deriving DecidableEq

/-- OpenSSL's answers while a datagram is handled. -/
structure DtlsIo where
  /-- `BIO_write` took the whole datagram. -/
  written : Bool
  handshake : Handshake
  /-- The SHA-256 digest of the peer's certificate, if it has one. -/
  peerDigest : Option Bytes
  srtpProfile : Option String
  /-- What is in the write BIO, and whether it could all be read. -/
  outgoing : List Bytes
  drained : Bool
  /-- `SSL_export_keying_material`. -/
  exporter : Option Bytes
  deriving DecidableEq

def isXDigit (ch : Char) : Bool :=
  ch.isDigit ∨ ('a' ≤ ch ∧ ch ≤ 'f') ∨ ('A' ≤ ch ∧ ch ≤ 'F')

def normalizeFingerprint (fingerprint : String) : String :=
  String.ofList ((fingerprint.toList.filter fun ch => ch = ':' ∨ isXDigit ch).map Char.toUpper)

/-- Two upper-case hexadecimal digits. -/
def hexByte (byte : UInt8) : String :=
  let digit (n : Nat) : Char := Char.toUpper (Nat.digitChar n)
  String.ofList [digit (byte.toNat / 16), digit (byte.toNat % 16)]

def formatFingerprint (digest : Bytes) : String :=
  ":".intercalate (digest.map hexByte)

structure SrtpKeyMaterial where
  localKey : Bytes
  remoteKey : Bytes
  localSalt : Bytes
  remoteSalt : Bytes
  deriving DecidableEq

inductive Role where
  | client
  | server
  deriving DecidableEq

/-- `DtlsTransport::Impl`; its `SSL` object exists once it is `started`. -/
structure DtlsTransport where
  role : Role
  started : Bool
  connected : Bool
  expectedPeerFingerprint : String
  peerFingerprint : String
  selectedSrtpProfile : String
  deriving DecidableEq

namespace DtlsTransport

def new (role : Role) : DtlsTransport :=
  { role, started := false, connected := false, expectedPeerFingerprint := ""
    peerFingerprint := "", selectedSrtpProfile := "" }

def start (t : DtlsTransport) (expectedPeerFingerprint : String) (io : StartIo) :
    DtlsTransport × Bool :=
  if ¬ io.contextReady then (t, false)
  else if t.started then (t, true)
  else if ¬ io.sslNew ∨ ¬ io.bioNew then (t, false)
  else
    ({ t with
        started := true
        expectedPeerFingerprint := normalizeFingerprint expectedPeerFingerprint },
      io.handshake ≠ .failed)

/-- The end of the handshake: the peer's fingerprint is checked against the
announced one and the SRTP profile is read. -/
def completeHandshake (t : DtlsTransport) (io : DtlsIo) : DtlsTransport × Bool :=
  match io.peerDigest with
  | none => (t, false)
  | some digest =>
    let t := { t with peerFingerprint := formatFingerprint digest }
    if t.expectedPeerFingerprint ≠ "" ∧
        normalizeFingerprint t.peerFingerprint ≠ t.expectedPeerFingerprint then (t, false)
    else
      match io.srtpProfile with
      | none => (t, false)
      | some profile => ({ t with selectedSrtpProfile := profile }, io.drained)

def handleIncomingDatagram (t : DtlsTransport) (data : Bytes) (io : DtlsIo) :
    DtlsTransport × Bool :=
  if ¬ t.started ∨ data = [] ∨ ¬ io.written then (t, false)
  else
    match io.handshake with
    | .done => completeHandshake { t with connected := true } io
    | .want => (t, io.drained)
    | .failed => (t, false)

/-- Cut OpenSSL's keying material into the keys and salts of both sides. -/
def exportSrtpKeyMaterial (t : DtlsTransport) (keyLen saltLen : Nat) (exporter : Option Bytes) :
    Option SrtpKeyMaterial :=
  if ¬ t.connected ∨ keyLen = 0 ∨ saltLen = 0 then none
  else
    exporter.map fun bytes =>
      let clientKey := bytes.take keyLen
      let serverKey := (bytes.drop keyLen).take keyLen
      let clientSalt := (bytes.drop (2 * keyLen)).take saltLen
      let serverSalt := (bytes.drop (2 * keyLen + saltLen)).take saltLen
      if t.role = .client then ⟨clientKey, serverKey, clientSalt, serverSalt⟩
      else ⟨serverKey, clientKey, serverSalt, clientSalt⟩

def looksLikeDtlsRecord (data : Bytes) : Bool :=
  13 ≤ data.length ∧ 20 ≤ data.getD 0 0 ∧ data.getD 0 0 ≤ 24 ∧ data.getD 1 0 = 0xFE ∧
    (data.getD 2 0 = 0xFF ∨ data.getD 2 0 = 0xFD ∨ data.getD 2 0 = 0xFC)

end DtlsTransport

example : formatFingerprint [0x0A, 0xFF] = "0A:FF" ∧ normalizeFingerprint "0a:ff " = "0A:FF" := by
  decide +kernel

end MeetingSystem.Impl.Sfu
