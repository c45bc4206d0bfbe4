import MeetingSystem.Framework.Checked

/-!
# The STUN client

`StunClient::parseBindingResponse` of `plasma-hawking/src/net/ice/StunClient.cpp`.
The reads are checked: what a function gives back is `none` where it reads
outside the datagram. A pointer into the datagram is an offset.
-/

namespace MeetingSystem.Impl.Client

open MeetingSystem.Framework

/-- The address is `none` for a null `QHostAddress`. -/
structure StunEndpoint where
  address : Option UInt32
  port : UInt16
  deriving DecidableEq

def StunEndpoint.isValid (endpoint : StunEndpoint) : Bool :=
  endpoint.address.isSome ∧ endpoint.port ≠ 0

namespace StunClient

def kStunBindingSuccess : UInt16 := 0x0101
def kMagicCookie : UInt32 := 0x2112A442
def kHeaderSize : Nat := 20
def kAttrMappedAddress : UInt16 := 0x0001
def kAttrXorMappedAddress : UInt16 := 0x0020

def paddedLength (length : Nat) : Nat := (length + 3) / 4 * 4

/-- The endpoint in the value at offset `value`, if it is a valid one. -/
def parseAddressAttribute (data : List UInt8) (attrType : UInt16) (value length : Nat) :
    Option (Option StunEndpoint) :=
  if length < 8 then some none
  else do
    let family ← Checked.byte data (value + 1)
    if family ≠ 0x01 then some none
    else do
      let port ← Checked.word16 data (value + 2)
      let address ← Checked.word32 data (value + 4)
      let endpoint : StunEndpoint :=
        if attrType = kAttrXorMappedAddress then
          { address := some (address ^^^ kMagicCookie)
            port := port ^^^ (kMagicCookie >>> 16).toUInt16 }
        else { address := some address, port }
      some (if endpoint.isValid then some endpoint else none)

/-- What is left when no attribute with an XOR address has been found. -/
def takeFallback (fallback : StunEndpoint) : Option StunEndpoint :=
  if fallback.isValid then some fallback else none

/-- The attribute loop, up to the end `stop` of the message. -/
def attributesFrom (data : List UInt8) (stop offset : Nat) (fallback : StunEndpoint) :
    Option (Option StunEndpoint) :=
  if stop < offset + 4 then some (takeFallback fallback)
  else do
    let attrType ← Checked.word16 data offset
    let attrLength ← Checked.word16 data (offset + 2)
    if stop < offset + 4 + attrLength.toNat then some (takeFallback fallback)
    else do
      let parsed ←
        if attrType = kAttrXorMappedAddress ∨ attrType = kAttrMappedAddress then
          parseAddressAttribute data attrType (offset + 4) attrLength.toNat
        else some none
      if attrType = kAttrXorMappedAddress ∧ parsed.isSome then some parsed
      else
        attributesFrom data stop (offset + 4 + paddedLength attrLength.toNat)
          (parsed.getD fallback)
termination_by stop - offset

def parseBindingResponse (datagram expectedTransactionId : List UInt8) :
    Option (Except String StunEndpoint) :=
  if datagram.length < kHeaderSize ∨ expectedTransactionId.length ≠ 12 then
    some (.error "short STUN response")
  else do
    let type ← Checked.word16 datagram 0
    let cookie ← Checked.word32 datagram 4
    if type ≠ kStunBindingSuccess ∨ cookie ≠ kMagicCookie then
      some (.error "not a STUN binding success response")
    else do
      let transactionId ← Checked.slice datagram 8 12
      if transactionId ≠ expectedTransactionId then some (.error "STUN transaction id mismatch")
      else do
        let messageLength ← Checked.word16 datagram 2
        if datagram.length < kHeaderSize + messageLength.toNat then
          some (.error "truncated STUN attributes")
        else do
          let mapped ← attributesFrom datagram (kHeaderSize + messageLength.toNat) kHeaderSize
            { address := none, port := 0 }
          match mapped with
          | some endpoint => some (.ok endpoint)
          | none => some (.error "STUN response missing mapped address")

end StunClient

end MeetingSystem.Impl.Client
