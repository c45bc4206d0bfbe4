import Mathlib.Data.List.Basic

/-!
# Snowflake ids

`signaling/pkg/snowflake.go`. The clock is the list of what its readings
return, one after another; `Next` takes a reading for its time, and more of
them where it waits for the next millisecond. It holds the mutex of its
generator throughout, so calls follow each other.
-/

namespace MeetingSystem.Impl.Signaling

def snowflakeNodeBits : UInt64 := 10
def snowflakeSequenceBits : UInt64 := 12
def snowflakeNodeMax : UInt16 := (1 <<< snowflakeNodeBits.toUInt16) - 1
def snowflakeSequenceMask : UInt16 := (1 <<< snowflakeSequenceBits.toUInt16) - 1
def snowflakeEpochMs : Int := 1704067200000

/-- The readings of the clock that are still to come, in milliseconds. -/
abbrev Clock := List Int

structure Snowflake where
  nodeID : UInt16
  lastMs : Int
  sequence : UInt16
  deriving DecidableEq, Repr

def newSnowflake (nodeID : UInt16) : Except String Snowflake :=
  if nodeID > snowflakeNodeMax then
    .error ("snowflake: node id " ++ toString nodeID ++ " out of range (max " ++
      toString snowflakeNodeMax ++ ")")
  else .ok { nodeID, lastMs := 0, sequence := 0 }

namespace Snowflake

/-- The id of the time and the sequence number that have been set last. -/
def pack (g : Snowflake) : UInt64 :=
  let timestampPart :=
    UInt64.ofInt (g.lastMs - snowflakeEpochMs) <<< (snowflakeNodeBits + snowflakeSequenceBits)
  let nodePart := g.nodeID.toUInt64 <<< snowflakeSequenceBits
  let sequencePart := g.sequence.toUInt64
  timestampPart ||| nodePart ||| sequencePart

/-- The loop of `Next`, which sleeps before it reads the clock again; `none` if
no reading to come is later than `lastMs`. -/
def waitAfter (lastMs : Int) : Clock → Option (Int × Clock)
  | [] => none
  | nowMs :: clock => if nowMs ≤ lastMs then waitAfter lastMs clock else some (nowMs, clock)

/-- `Next`; `none` if it does not return. -/
def next (g : Snowflake) : Clock → Option (UInt64 × Snowflake × Clock)
  | [] => none
  | nowMs :: clock =>
    let nowMs := if nowMs < g.lastMs then g.lastMs else nowMs
    if nowMs = g.lastMs then
      let g := { g with sequence := (g.sequence + 1) &&& snowflakeSequenceMask }
      if g.sequence = 0 then
        (waitAfter g.lastMs clock).map fun (nowMs, clock) =>
          let g := { g with lastMs := nowMs }
          (g.pack, g, clock)
      else some (g.pack, g, clock)
    else
      let g := { g with sequence := 0, lastMs := nowMs }
      some (g.pack, g, clock)

/-- The ids of that many calls, or of those before one that does not return. -/
def ids (g : Snowflake) : Nat → Clock → List UInt64
  | 0, _ => []
  | calls + 1, clock =>
    match g.next clock with
    | none => []
    | some (id, g, clock) => id :: g.ids calls clock

end Snowflake

end MeetingSystem.Impl.Signaling
