import MeetingSystem.Framework.Assoc
import MeetingSystem.Impl.Sfu.Endpoint

/-!
# RTP packets, the retransmission buffer and the router

`RtpParser`, `NackBuffer` and `RtpRouter` of the SFU. A pointer into a packet
is an offset into its bytes; the tables that are only looked up in are
functions into `Option`. The forward callback of a route captures nothing but
the endpoint it sends to, so a route holds that endpoint, and `route` returns
the calls of the callbacks for the caller to make.
-/

namespace MeetingSystem.Impl.Sfu

def readU16 (data : Bytes) (offset : Nat) : UInt16 :=
  (data.getD offset 0).toUInt16 <<< 8 ||| (data.getD (offset + 1) 0).toUInt16

def readU32 (data : Bytes) (offset : Nat) : UInt32 :=
  (data.getD offset 0).toUInt32 <<< 24 ||| (data.getD (offset + 1) 0).toUInt32 <<< 16 |||
    (data.getD (offset + 2) 0).toUInt32 <<< 8 ||| (data.getD (offset + 3) 0).toUInt32

/-- The four bytes of a 32-bit field in network order. -/
def u32Bytes (value : UInt32) : Bytes :=
  [(value >>> 24).toUInt8, (value >>> 16).toUInt8, (value >>> 8).toUInt8, value.toUInt8]

/-! ## `RtpParser` -/

structure RtpHeader where
  version : UInt8
  padding : Bool
  extension : Bool
  csrcCount : UInt8
  marker : Bool
  payloadType : UInt8
  sequence : UInt16
  timestamp : UInt32
  ssrc : UInt32
  headerSize : Nat
  deriving DecidableEq

structure ParsedRtpPacket where
  header : RtpHeader
  payload : Bytes
  deriving DecidableEq

namespace RtpParser

def kMinHeaderSize : Nat := 12

/-- Where the header ends, after the extension that starts at `offset`. -/
def extensionEnd (data : Bytes) (offset : Nat) : Option Nat :=
  if data.length < offset + 4 then none
  else
    let extBytes := (readU16 data (offset + 2)).toNat * 4
    if data.length < offset + 4 + extBytes then none else some (offset + 4 + extBytes)

/-- The size of the payload without its padding. -/
def unpadded (data : Bytes) (payloadSize : Nat) : Option Nat :=
  if payloadSize = 0 then none
  else
    let padBytes := (data.getD (data.length - 1) 0).toNat
    if padBytes = 0 ∨ payloadSize < padBytes then none else some (payloadSize - padBytes)

def parse (data : Bytes) : Option ParsedRtpPacket :=
  if data.length < kMinHeaderSize then none
  else
    let b0 := data.getD 0 0
    let b1 := data.getD 1 0
    let version := b0 >>> 6 &&& 0x03
    if version ≠ 2 then none
    else
      let padding := b0 &&& 0x20 != 0
      let extension := b0 &&& 0x10 != 0
      let csrcCount := b0 &&& 0x0F
      let offset := kMinHeaderSize + csrcCount.toNat * 4
      if data.length < offset then none
      else
        match if extension then extensionEnd data offset else some offset with
        | none => none
        | some headerSize =>
          let size := data.length - headerSize
          match if padding then unpadded data size else some size with
          | none => none
          | some payloadSize =>
            some
              { header :=
                  { version, padding, extension, csrcCount, headerSize
                    marker := b1 &&& 0x80 != 0
                    payloadType := b1 &&& 0x7F
                    sequence := readU16 data 2
                    timestamp := readU32 data 4
                    ssrc := readU32 data 8 }
                payload := (data.drop headerSize).take payloadSize }

end RtpParser

/-! ## `NackBuffer` -/

structure NackBuffer where
  capacity : Nat
  maxPacketSize : Nat
  order : List UInt16
  packets : AList fun _ : UInt16 => Bytes

namespace NackBuffer

def new (capacity maxPacketSize : Nat) : NackBuffer :=
  { capacity := if 0 < capacity then capacity else 1500
    maxPacketSize := if 0 < maxPacketSize then maxPacketSize else 1600
    order := [], packets := ∅ }

/-- Drop the oldest packet of a full buffer. -/
def evict (b : NackBuffer) : NackBuffer :=
  match b.order with
  | [] => b
  | oldest :: order =>
    if b.capacity ≤ b.packets.keys.length then
      { b with order, packets := b.packets.erase oldest }
    else b

def store (b : NackBuffer) (seq : UInt16) (packet : Bytes) : NackBuffer :=
  if packet = [] ∨ b.maxPacketSize < packet.length then b
  else if seq ∈ b.packets then { b with packets := b.packets.replace seq packet }
  else
    { b.evict with
      order := b.evict.order ++ [seq], packets := b.evict.packets.insert seq packet }

def get (b : NackBuffer) (seq : UInt16) : Option Bytes := b.packets.lookup seq

end NackBuffer

/-! ## `RtpRouter` -/

structure SubscriberRoute where
  rewrittenSsrc : UInt32
  endpoint : Endpoint
  deriving DecidableEq

structure PublisherRoute where
  nack : NackBuffer
  subscribers : List SubscriberRoute

structure RtpRouter where
  nackCapacity : Nat
  publishers : UInt32 → Option PublisherRoute

def rewriteSsrc (ssrc : UInt32) (packet : Bytes) : Bytes :=
  if packet.length < RtpParser.kMinHeaderSize then packet
  else packet.take 8 ++ u32Bytes ssrc ++ packet.drop 12

namespace RtpRouter

def new (nackCapacity : Nat) : RtpRouter :=
  { nackCapacity := if 0 < nackCapacity then nackCapacity else 500, publishers := fun _ => none }

def newRoute (r : RtpRouter) : PublisherRoute :=
  { nack := .new r.nackCapacity 1600, subscribers := [] }

def setRoute (r : RtpRouter) (sourceSsrc : UInt32) (route : Option PublisherRoute) : RtpRouter :=
  { r with publishers := Function.update r.publishers sourceSsrc route }

def registerPublisher (r : RtpRouter) (sourceSsrc : UInt32) : RtpRouter :=
  if sourceSsrc = 0 then r
  else r.setRoute sourceSsrc (some ((r.publishers sourceSsrc).getD r.newRoute))

def unregisterPublisher (r : RtpRouter) (sourceSsrc : UInt32) : RtpRouter :=
  r.setRoute sourceSsrc none

def addSubscriber (r : RtpRouter) (sourceSsrc rewrittenSsrc : UInt32) (endpoint : Endpoint) :
    RtpRouter :=
  if sourceSsrc = 0 ∨ rewrittenSsrc = 0 then r
  else
    let route := (r.publishers sourceSsrc).getD r.newRoute
    r.setRoute sourceSsrc
      (some { route with subscribers := route.subscribers ++ [{ rewrittenSsrc, endpoint }] })

def removeSubscribers (r : RtpRouter) (sourceSsrc : UInt32) : RtpRouter :=
  match r.publishers sourceSsrc with
  | none => r
  | some route => r.setRoute sourceSsrc (some { route with subscribers := [] })

/-- Store the packet for retransmission and forward it on every route of its
source; nothing happens to a packet without a registered source. -/
def route (r : RtpRouter) (packet : Bytes) : RtpRouter × Option (List (Endpoint × Bytes)) :=
  match RtpParser.parse packet with
  | none => (r, none)
  | some parsed =>
    match r.publishers parsed.header.ssrc with
    | none => (r, none)
    | some route =>
      (r.setRoute parsed.header.ssrc
        (some { route with nack := route.nack.store parsed.header.sequence packet }),
        some (route.subscribers.map fun sub =>
          (sub.endpoint, rewriteSsrc sub.rewrittenSsrc packet)))

def getRetransmitPacket (r : RtpRouter) (sourceSsrc : UInt32) (seq : UInt16) : Option Bytes :=
  (r.publishers sourceSsrc).bind fun route => route.nack.get seq

/-- The routes of a source. -/
def routes (r : RtpRouter) (sourceSsrc : UInt32) : List SubscriberRoute :=
  match r.publishers sourceSsrc with
  | none => []
  | some route => route.subscribers

end RtpRouter

end MeetingSystem.Impl.Sfu
