import MeetingSystem.Framework.Assoc
import MeetingSystem.Impl.Client.StunClient

/-!
# The TURN client

The attributes of TURN messages, the Send indication and the Data indication of
`plasma-hawking/src/net/ice/TurnClient.cpp`. The reads are checked, as in the
STUN client. A `QHash` of attributes is never iterated over.
-/

namespace MeetingSystem.Impl.Client

open MeetingSystem.Framework

namespace TurnClient

def kSendIndication : UInt16 := 0x0016
def kDataIndication : UInt16 := 0x0017
def kMagicCookie : UInt32 := 0x2112A442
def kHeaderSize : Nat := 20
def kAttrXorPeerAddress : UInt16 := 0x0012
def kAttrData : UInt16 := 0x0013

abbrev Attributes := AList fun _ : UInt16 => List UInt8

/-! ## Writing -/

/-- The bytes that `qToBigEndian` writes. -/
def bigEndian16 (value : UInt16) : List UInt8 := [(value >>> 8).toUInt8, value.toUInt8]

def bigEndian32 (value : UInt32) : List UInt8 :=
  [(value >>> 24).toUInt8, (value >>> 16).toUInt8, (value >>> 8).toUInt8, value.toUInt8]

def writeU16 (data : List UInt8) (offset : Nat) (value : UInt16) : List UInt8 :=
  (data.set offset (value >>> 8).toUInt8).set (offset + 1) value.toUInt8

def appendU16 (out : List UInt8) (value : UInt16) : List UInt8 := out ++ bigEndian16 value

def appendU32 (out : List UInt8) (value : UInt32) : List UInt8 := out ++ bigEndian32 value

def paddedLength (length : Nat) : Nat := (length + 3) / 4 * 4

def updateLength (packet : List UInt8) : List UInt8 :=
  if packet.length < kHeaderSize then packet
  else writeU16 packet 2 (packet.length - kHeaderSize).toUInt16

def appendHeader (packet : List UInt8) (messageType : UInt16) (transactionId : List UInt8) :
    List UInt8 :=
  let packet := appendU16 packet messageType
  let packet := appendU16 packet 0
  let packet := appendU32 packet kMagicCookie
  packet ++ transactionId

def appendAttribute (packet : List UInt8) (type : UInt16) (value : List UInt8) : List UInt8 :=
  let packet := appendU16 packet type
  let packet := appendU16 packet value.length.toUInt16
  let packet := packet ++ value
  let pad := paddedLength value.length - value.length
  let packet := if pad > 0 then packet ++ List.replicate pad 0 else packet
  updateLength packet

/-- The address is `none` if its protocol is not IPv4. -/
def addressAttributeValue (address : Option UInt32) (port : UInt16) : List UInt8 :=
  match address with
  | none => []
  | some address =>
    if port = 0 then []
    else
      0 :: 0x01 :: bigEndian16 (port ^^^ (kMagicCookie >>> 16).toUInt16) ++
        bigEndian32 (address ^^^ kMagicCookie)

/-- The transaction id is that of `StunClient::makeTransactionId`: twelve random
bytes. -/
def buildSendIndication (transactionId : List UInt8) (peerAddress : Option UInt32)
    (peerPort : UInt16) (payload : List UInt8) : List UInt8 :=
  if peerAddress.isNone ∨ peerPort = 0 ∨ payload = [] then []
  else
    let packet := appendHeader [] kSendIndication transactionId
    let packet :=
      appendAttribute packet kAttrXorPeerAddress (addressAttributeValue peerAddress peerPort)
    appendAttribute packet kAttrData payload

/-! ## Reading -/

/-- What is left in `endpoint`, and whether it is valid. -/
def parseAddressAttribute (value : List UInt8) (endpoint : StunEndpoint) :
    Option (StunEndpoint × Bool) :=
  if value.length < 8 then some (endpoint, false)
  else do
    let family ← Checked.byte value 1
    if family ≠ 0x01 then some (endpoint, false)
    else do
      let port ← Checked.word16 value 2
      let address ← Checked.word32 value 4
      let endpoint : StunEndpoint :=
        { address := some (address ^^^ kMagicCookie)
          port := port ^^^ (kMagicCookie >>> 16).toUInt16 }
      some (endpoint, endpoint.isValid)

/-- The loop of `parseAttributes`, up to the end `stop` of the message. -/
def attributesFrom (datagram : List UInt8) (stop offset : Nat) (attrs : Attributes) :
    Option Attributes :=
  if stop < offset + 4 then some attrs
  else do
    let attrType ← Checked.word16 datagram offset
    let attrLength ← Checked.word16 datagram (offset + 2)
    if stop < offset + 4 + attrLength.toNat then some attrs
    else do
      let value ← Checked.slice datagram (offset + 4) attrLength.toNat
      attributesFrom datagram stop (offset + 4 + paddedLength attrLength.toNat)
        (attrs.insert attrType value)
termination_by stop - offset

def parseAttributes (datagram : List UInt8) : Option (Except String Attributes) :=
  if datagram.length < kHeaderSize then some (.error "invalid TURN/STUN header")
  else do
    let cookie ← Checked.word32 datagram 4
    if cookie ≠ kMagicCookie then some (.error "invalid TURN/STUN header")
    else do
      let messageLength ← Checked.word16 datagram 2
      if datagram.length < kHeaderSize + messageLength.toNat then
        some (.error "truncated TURN/STUN message")
      else do
        let attrs ← attributesFrom datagram (kHeaderSize + messageLength.toNat) kHeaderSize ∅
        some (.ok attrs)

def parseDataIndication (datagram : List UInt8) :
    Option (Except String (StunEndpoint × List UInt8)) :=
  if datagram.length < kHeaderSize then some (.error "not a TURN Data indication")
  else do
    let type ← Checked.word16 datagram 0
    if type ≠ kDataIndication then some (.error "not a TURN Data indication")
    else do
      match ← parseAttributes datagram with
      | .error error => some (.error error)
      | .ok attrs =>
        let peerAttr := (attrs.lookup kAttrXorPeerAddress).getD []
        let (parsedPeer, valid) ← parseAddressAttribute peerAttr { address := none, port := 0 }
        if ¬ valid ∨ kAttrData ∉ attrs then
          some (.error "TURN Data indication missing peer or data")
        else some (.ok (parsedPeer, (attrs.lookup kAttrData).getD []))

end TurnClient

end MeetingSystem.Impl.Client
