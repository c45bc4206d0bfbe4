import MeetingSystem.Framework.Checked
import MeetingSystem.Impl.Sfu.Packets

/-!
# The reads of the STUN parser

`IsStunPacket` and `ParseStunUsername` of `MediaIngress.cpp` once more, with
checked reads: the result is `none` where the source reads outside the datagram.
-/

namespace MeetingSystem.Impl.Sfu.MediaIngress

open MeetingSystem.Framework

/-- The bytes of the cookie are compared up to the first that differs. -/
def readIsStunPacket (data : Bytes) : Option Bool :=
  if data.length < 20 then some false
  else do
    let b0 ← Checked.byte data 0
    if b0 &&& 0xC0 ≠ 0 then some false
    else do
      let b4 ← Checked.byte data 4
      let b5 ← Checked.byte data 5
      let b6 ← Checked.byte data 6
      let b7 ← Checked.byte data 7
      some (b4 = 0x21 ∧ b5 = 0x12 ∧ b6 = 0xA4 ∧ b7 = 0x42)

/-- The attribute loop. -/
def readUsernameFrom (data : Bytes) (stop offset : Nat) : Option String :=
  if stop < offset + 4 then some ""
  else do
    let attrType ← Checked.word16 data offset
    let attrLength ← Checked.word16 data (offset + 2)
    if stop < offset + 4 + attrLength.toNat then some ""
    else if attrType = 0x0006 then
      (Checked.slice data (offset + 4) attrLength.toNat).map stringOfBytes
    else readUsernameFrom data stop (offset + 4 + (attrLength.toNat + 3) / 4 * 4)
termination_by stop - offset

def readStunUsername (data : Bytes) : Option String := do
  let stun ← readIsStunPacket data
  if ¬ stun then some ""
  else do
    let messageLength ← Checked.word16 data 2
    if data.length < 20 + messageLength.toNat then some ""
    else readUsernameFrom data (20 + messageLength.toNat) 20

end MeetingSystem.Impl.Sfu.MediaIngress
