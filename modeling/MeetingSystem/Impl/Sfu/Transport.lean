import MeetingSystem.Framework.Assoc
import MeetingSystem.Framework.Text
import MeetingSystem.Impl.Sfu.Dtls

/-!
# Participant transports

`IceLiteSession.h`, `SrtpSession.cpp`, `ParticipantTransport.h` and
`TransportRegistry.h`. libsrtp is a parameter (`SrtpLib`): a context type and
the functions that protect and unprotect a packet in a context. An operation
on a packet returns the packet it leaves in the buffer, or `none` if it
failed, beside the changed object.
-/

namespace MeetingSystem.Impl.Sfu

open MeetingSystem.Framework

/-! ## `IceLiteSession` -/

/-- The parts of an ICE session that are read: the passwords and candidates
are only stored. `selectedEndpoint` is `none` before `hasSelectedEndpoint_`. -/
structure IceLiteSession where
  clientIceUfrag : String
  serverIceUfrag : String
  iceConnected : Bool
  selectedEndpoint : Option Endpoint
  deriving DecidableEq

namespace IceLiteSession

def configure (clientIceUfrag serverIceUfrag : String) : IceLiteSession :=
  { clientIceUfrag, serverIceUfrag, iceConnected := false, selectedEndpoint := none }

def matchesUsername (s : IceLiteSession) (username : String) : Bool :=
  username ≠ "" ∧ s.clientIceUfrag ≠ "" ∧ s.serverIceUfrag ≠ "" ∧
    (username = s.serverIceUfrag ++ ":" ++ s.clientIceUfrag ∨
      username = s.clientIceUfrag ++ ":" ++ s.serverIceUfrag)

def selectEndpoint (s : IceLiteSession) (endpoint : Endpoint) : IceLiteSession :=
  { s with selectedEndpoint := some endpoint, iceConnected := true }

end IceLiteSession

/-! ## `SrtpSession` -/

inductive Direction where
  | inbound
  | outbound
  deriving DecidableEq

/-- libsrtp, for the profile AES128_CM_SHA1_80: creating a context from a
master key and salt, and the four packet functions. -/
structure SrtpLib where
  Ctx : Type
  create : Direction → Bytes → Bytes → Option Ctx
  protect : Ctx → Bytes → Option Bytes × Ctx
  unprotect : Ctx → Bytes → Option Bytes × Ctx
  protectRtcp : Ctx → Bytes → Option Bytes × Ctx
  unprotectRtcp : Ctx → Bytes → Option Bytes × Ctx

structure SrtpSession (lib : SrtpLib) where
  masterKey : Bytes
  masterSalt : Bytes
  session : Option lib.Ctx

namespace SrtpSession

variable {lib : SrtpLib}

def new : SrtpSession lib := { masterKey := [], masterSalt := [], session := none }

def configure (masterKey masterSalt : Bytes) (direction : Direction) : SrtpSession lib × Bool :=
  if masterKey.length ≠ 16 ∨ masterSalt.length ≠ 14 then (new, false)
  else
    match lib.create direction masterKey masterSalt with
    | none => (new, false)
    | some ctx => ({ masterKey, masterSalt, session := some ctx }, true)

/-- A packet function of libsrtp, and the check of the size it returns. -/
def transform (call : lib.Ctx → Bytes → Option Bytes × lib.Ctx) (accept : Bytes → Bool)
    (s : SrtpSession lib) (packet : Bytes) : Option Bytes × SrtpSession lib :=
  if packet = [] ∨ s.masterKey = [] ∨ s.masterSalt = [] then (none, s)
  else
    match s.session with
    | none => (none, s)
    | some ctx =>
      ((call ctx packet).1.filter accept, { s with session := some (call ctx packet).2 })

def protectRtp (s : SrtpSession lib) (packet : Bytes) : Option Bytes × SrtpSession lib :=
  s.transform lib.protect (fun out => packet.length < out.length) packet

def unprotectRtp (s : SrtpSession lib) (packet : Bytes) : Option Bytes × SrtpSession lib :=
  s.transform lib.unprotect (fun out => 0 < out.length) packet

def protectRtcp (s : SrtpSession lib) (packet : Bytes) : Option Bytes × SrtpSession lib :=
  s.transform lib.protectRtcp (fun out => packet.length < out.length) packet

def unprotectRtcp (s : SrtpSession lib) (packet : Bytes) : Option Bytes × SrtpSession lib :=
  s.transform lib.unprotectRtcp (fun out => 0 < out.length) packet

end SrtpSession

/-! ## `ParticipantTransport` -/

structure ParticipantTransport (lib : SrtpLib) where
  meetingId : String
  userId : String
  assignedAudioSsrc : UInt32
  assignedVideoSsrc : UInt32
  iceSession : IceLiteSession
  dtlsTransport : DtlsTransport
  inboundSrtp : SrtpSession lib
  outboundSrtp : SrtpSession lib
  srtpReady : Bool

namespace ParticipantTransport

variable {lib : SrtpLib}

def new (meetingId userId : String) (assignedAudioSsrc assignedVideoSsrc : UInt32)
    (iceSession : IceLiteSession) (dtlsTransport : DtlsTransport) : ParticipantTransport lib :=
  { meetingId, userId, assignedAudioSsrc, assignedVideoSsrc, iceSession, dtlsTransport
    inboundSrtp := .new, outboundSrtp := .new, srtpReady := false }

def ownsSsrc (t : ParticipantTransport lib) (ssrc : UInt32) : Bool :=
  ssrc ≠ 0 ∧ (t.assignedAudioSsrc = ssrc ∨ t.assignedVideoSsrc = ssrc)

/-- `HasSelectedEndpoint` and `SameEndpoint`. -/
def selects (t : ParticipantTransport lib) (endpoint : Endpoint) : Bool :=
  t.iceSession.selectedEndpoint = some endpoint

def kMasterKeyLen : Nat := 16

def kMasterSaltLen : Nat := 14

def configureSrtpSessions (t : ParticipantTransport lib) (exporter : Option Bytes) :
    ParticipantTransport lib × Bool :=
  match t.dtlsTransport.exportSrtpKeyMaterial kMasterKeyLen kMasterSaltLen exporter with
  | none => (t, false)
  | some keying =>
    let inbound := SrtpSession.configure keying.remoteKey keying.remoteSalt .inbound
    let t := { t with inboundSrtp := inbound.1 }
    if ¬ inbound.2 then (t, false)
    else
      let outbound := SrtpSession.configure keying.localKey keying.localSalt .outbound
      let t := { t with outboundSrtp := outbound.1 }
      if ¬ outbound.2 then (t, false) else ({ t with srtpReady := true }, true)

def handleDtlsDatagram (t : ParticipantTransport lib) (data : Bytes) (io : DtlsIo) :
    ParticipantTransport lib × Bool :=
  let handled := t.dtlsTransport.handleIncomingDatagram data io
  let t := { t with dtlsTransport := handled.1 }
  if ¬ handled.2 then (t, false)
  else if t.dtlsTransport.connected ∧ ¬ t.srtpReady then t.configureSrtpSessions io.exporter
  else (t, true)

def protectRtp (t : ParticipantTransport lib) (packet : Bytes) :
    Option Bytes × ParticipantTransport lib :=
  if ¬ t.srtpReady then (none, t)
  else ((t.outboundSrtp.protectRtp packet).1,
    { t with outboundSrtp := (t.outboundSrtp.protectRtp packet).2 })

def unprotectRtp (t : ParticipantTransport lib) (packet : Bytes) :
    Option Bytes × ParticipantTransport lib :=
  if ¬ t.srtpReady then (none, t)
  else ((t.inboundSrtp.unprotectRtp packet).1,
    { t with inboundSrtp := (t.inboundSrtp.unprotectRtp packet).2 })

def protectRtcp (t : ParticipantTransport lib) (packet : Bytes) :
    Option Bytes × ParticipantTransport lib :=
  if ¬ t.srtpReady then (none, t)
  else ((t.outboundSrtp.protectRtcp packet).1,
    { t with outboundSrtp := (t.outboundSrtp.protectRtcp packet).2 })

def unprotectRtcp (t : ParticipantTransport lib) (packet : Bytes) :
    Option Bytes × ParticipantTransport lib :=
  if ¬ t.srtpReady then (none, t)
  else ((t.inboundSrtp.unprotectRtcp packet).1,
    { t with inboundSrtp := (t.inboundSrtp.unprotectRtcp packet).2 })

end ParticipantTransport

/-! ## `TransportRegistry` -/

structure TransportRegistry (lib : SrtpLib) where
  transports : AList fun _ : String => ParticipantTransport lib

namespace TransportRegistry

variable {lib : SrtpLib}

def new : TransportRegistry lib := { transports := ∅ }

def kind (publishAudio publishVideo : Bool) : String :=
  if publishAudio ∧ publishVideo then "av" else if publishVideo then "video" else "audio"

def key (meetingId userId mediaKind : String) : String :=
  meetingId ++ "|" ++ userId ++ "|" ++ mediaKind

/-- The media kind of a key, read back from its text. -/
def mediaKindOf (key : String) : String :=
  match splitLast '|' key.toList with
  | none => ""
  | some (_, mediaKind) => String.ofList mediaKind

def upsert (r : TransportRegistry lib) (place : Nat) (transport : ParticipantTransport lib)
    (mediaKind : String) : TransportRegistry lib :=
  { r with
    transports := assign place (key transport.meetingId transport.userId mediaKind) transport
      r.transports }

def eraseUserTransports (r : TransportRegistry lib) (meetingId userId : String) :
    TransportRegistry lib :=
  { r with
    transports := retain (fun _ t => ¬ (t.meetingId = meetingId ∧ t.userId = userId))
      r.transports }

/-- The first registered transport that passes `p`, with its key. -/
def find (r : TransportRegistry lib) (p : ParticipantTransport lib → Bool) :
    Option (String × ParticipantTransport lib) :=
  (r.transports.entries.find? fun x => p x.2).map fun x => (x.1, x.2)

/-- Whether some registered transport passes `p`. -/
def any (r : TransportRegistry lib) (p : ParticipantTransport lib → Bool) : Bool :=
  r.transports.entries.any fun x => p x.2

def set (r : TransportRegistry lib) (key : String) (t : ParticipantTransport lib) :
    TransportRegistry lib :=
  { r with transports := r.transports.replace key t }

/-- On success, the meeting, the user and the media kind of the transport. -/
def selectEndpointForUsername (r : TransportRegistry lib) (username : String)
    (endpoint : Endpoint) : TransportRegistry lib × Option (String × String × String) :=
  match r.find fun t => t.iceSession.matchesUsername username with
  | none => (r, none)
  | some (key, t) =>
    (r.set key { t with iceSession := t.iceSession.selectEndpoint endpoint },
      some (t.meetingId, t.userId, mediaKindOf key))

def transportAllowsSsrcFrom (r : TransportRegistry lib) (ssrc : UInt32) (endpoint : Endpoint) :
    Bool :=
  ssrc = 0 ∨ r.any (fun t => t.ownsSsrc ssrc ∧ t.iceSession.iceConnected ∧ t.selects endpoint) ∨
    ¬ r.any (fun t => t.ownsSsrc ssrc)

def hasTransportForSsrc (r : TransportRegistry lib) (ssrc : UInt32) : Bool :=
  ssrc ≠ 0 ∧ r.any (fun t => t.ownsSsrc ssrc)

def hasSelectedTransportForEndpoint (r : TransportRegistry lib) (endpoint : Endpoint) : Bool :=
  r.any fun t => t.selects endpoint

def findBySelectedEndpoint (r : TransportRegistry lib) (endpoint : Endpoint) :
    Option (String × ParticipantTransport lib) :=
  r.find fun t => t.selects endpoint

def srtpReadyForSsrcFrom (r : TransportRegistry lib) (ssrc : UInt32) (endpoint : Endpoint) : Bool :=
  match r.find fun t => t.ownsSsrc ssrc ∧ t.selects endpoint with
  | none => false
  | some (_, t) => t.srtpReady

def handleDtlsFromEndpoint (r : TransportRegistry lib) (endpoint : Endpoint) (data : Bytes)
    (io : DtlsIo) : TransportRegistry lib × Bool :=
  match r.findBySelectedEndpoint endpoint with
  | none => (r, false)
  | some (key, t) =>
    if ¬ t.iceSession.iceConnected then (r, false)
    else (r.set key (t.handleDtlsDatagram data io).1, (t.handleDtlsDatagram data io).2)

/-- Transform a packet of at least `minSize` bytes with the transport that
`endpoint` selects. -/
def transformAt
    (f : ParticipantTransport lib → Bytes → Option Bytes × ParticipantTransport lib)
    (minSize : Nat) (r : TransportRegistry lib) (endpoint : Endpoint) (packet : Bytes) :
    Option Bytes × TransportRegistry lib :=
  if packet.length < minSize then (none, r)
  else
    match r.findBySelectedEndpoint endpoint with
    | none => (none, r)
    | some (key, t) => ((f t packet).1, r.set key (f t packet).2)

def unprotectRtpFromEndpoint (r : TransportRegistry lib) (endpoint : Endpoint) (packet : Bytes) :
    Option Bytes × TransportRegistry lib :=
  transformAt ParticipantTransport.unprotectRtp 12 r endpoint packet

def unprotectRtcpFromEndpoint (r : TransportRegistry lib) (endpoint : Endpoint) (packet : Bytes) :
    Option Bytes × TransportRegistry lib :=
  transformAt ParticipantTransport.unprotectRtcp 1 r endpoint packet

def protectRtpToEndpoint (r : TransportRegistry lib) (endpoint : Endpoint) (packet : Bytes) :
    Option Bytes × TransportRegistry lib :=
  transformAt ParticipantTransport.protectRtp 1 r endpoint packet

def protectRtcpToEndpoint (r : TransportRegistry lib) (endpoint : Endpoint) (packet : Bytes) :
    Option Bytes × TransportRegistry lib :=
  transformAt ParticipantTransport.protectRtcp 1 r endpoint packet

end TransportRegistry

end MeetingSystem.Impl.Sfu
