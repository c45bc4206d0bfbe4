import Mathlib.Algebra.Order.Ring.Int
import Mathlib.Algebra.BigOperators.Group.List.Basic
import MeetingSystem.Framework.Text

/-!
# Endpoints and the texts built from them

`UdpServer::Endpoint` and the functions of `MediaIngress.cpp` that write an
endpoint as text and read it back. A `std::string` is the `String` that has
its bytes as characters.
-/

namespace MeetingSystem.Impl.Sfu

open MeetingSystem.Framework

abbrev Bytes := List UInt8

/-- A `sockaddr_in` of family `AF_INET`: the bytes of `sin_addr` in network
order and the port in host order. -/
structure Endpoint where
  a : UInt8
  b : UInt8
  c : UInt8
  d : UInt8
  port : UInt16
  deriving DecidableEq

namespace Endpoint

/-- `ntohl(sin_addr.s_addr)`. -/
def addr (e : Endpoint) : UInt32 :=
  e.a.toUInt32 <<< 24 ||| e.b.toUInt32 <<< 16 ||| e.c.toUInt32 <<< 8 ||| e.d.toUInt32

/-- `inet_ntop`. -/
def host (e : Endpoint) : String :=
  toString e.a.toNat ++ "." ++ toString e.b.toNat ++ "." ++ toString e.c.toNat ++ "." ++
    toString e.d.toNat

end Endpoint

def stripUdpScheme (endpointText : String) : String :=
  if "udp://".toList.isPrefixOf endpointText.toList then String.ofList (endpointText.toList.drop 6)
  else endpointText

/-- One number of a dotted address: at most 255 and without leading zeros. -/
def octet (text : List Char) : Option UInt8 :=
  if text = [] ∨ ¬ text.all Char.isDigit ∨ (text.head? = some '0' ∧ 1 < text.length) then none
  else if Nat.ofDigitChars 10 text 0 ≤ 255 then some (Nat.ofDigitChars 10 text 0).toUInt8
  else none

/-- `inet_pton` for `AF_INET`. -/
def inetPton (hostText : List Char) : Option (UInt8 × UInt8 × UInt8 × UInt8) :=
  match splitAll '.' hostText with
  | [a, b, c, d] => do
    let a ← octet a
    let b ← octet b
    let c ← octet c
    let d ← octet d
    return (a, b, c, d)
  | _ => none

def isSpace (c : Char) : Bool :=
  c = ' ' ∨ (9 ≤ c.toNat ∧ c.toNat ≤ 13)

/-- `strtoul` in base 10, on a 64-bit `unsigned long`. -/
def strtoul (text : List Char) : Nat :=
  let text := text.dropWhile isSpace
  let negative := text.head? = some '-'
  let digits := (if negative ∨ text.head? = some '+' then text.tail else text).takeWhile Char.isDigit
  let value := Nat.ofDigitChars 10 digits 0
  if 2 ^ 64 ≤ value then 2 ^ 64 - 1
  else if negative then (2 ^ 64 - value) % 2 ^ 64
  else value

def parseEndpoint (endpointText : String) : Option Endpoint :=
  if endpointText = "" then none
  else
    match splitLast ':' (stripUdpScheme endpointText).toList with
    | none => none
    | some (hostText, portText) =>
      if hostText = [] ∨ portText = [] then none
      else
        match inetPton hostText with
        | none => none
        | some (a, b, c, d) =>
          let port := (strtoul portText).toUInt16
          if port = 0 then none else some { a, b, c, d, port }

def hostFromAdvertisedAddress (advertisedAddress : String) : String :=
  match splitLast ':' (stripUdpScheme advertisedAddress).toList with
  | none => ""
  | some (hostText, _) => String.ofList hostText

def makeHostCandidate (host : String) (port : UInt16) : String :=
  "candidate:1 1 udp 2130706431 " ++ host ++ " " ++ toString port.toNat ++ " typ host"

def publisherTrafficKey (meetingId userId : String) : String :=
  meetingId ++ "\n" ++ userId

def endpointKey (endpoint : Endpoint) : String :=
  endpoint.host ++ ":" ++ toString endpoint.port.toNat

def feedbackRouteKey (endpoint : Endpoint) (mediaSsrc : UInt32) : String :=
  endpointKey endpoint ++ "\n" ++ toString mediaSsrc.toNat

/-- The hash of `MakeRouteRewriteSsrc`. -/
def fnv1a (key : String) : UInt32 :=
  key.toList.foldl (fun hash ch => (hash ^^^ ch.toNat.toUInt32) * 16777619) 2166136261

def makeRouteRewriteSsrc (meetingId subscriberUserId : String) (sourceSsrc : UInt32)
    (video : Bool) : UInt32 :=
  let hash := fnv1a (meetingId ++ "|" ++ subscriberUserId ++ "|" ++
    (if video then "video" else "audio") ++ "|" ++ toString sourceSsrc.toNat) &&& 0x7FFFFFFF
  let hash := if hash = 0 ∨ hash = sourceSsrc then hash ^^^ 0x5A5A5A5A else hash
  if hash = 0 then 0x13572468 else hash

example : parseEndpoint "udp://10.0.0.7:5004" = some ⟨10, 0, 0, 7, 5004⟩ := by decide +kernel

end MeetingSystem.Impl.Sfu
