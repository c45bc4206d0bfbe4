import Mathlib.Data.List.Sort
import MeetingSystem.Impl.Client.RTPSender

/-!
# The NACK feedback of the client

`VideoRtcpActionPipeline::buildNackFeedback`: the sequence numbers that are
missing, sorted, are packed into blocks of one number (PID) and a mask (BLP) of
which of the next 16 are missing as well.
-/

namespace MeetingSystem.Impl.Client.VideoRtcpActionPipeline

structure NackBlock where
  pid : UInt16
  blp : UInt16
  deriving DecidableEq

/-- `std::unique`: equal neighbours become one. -/
def unique : List UInt16 → List UInt16
  | [] => []
  | [a] => [a]
  | a :: b :: rest => if a = b then unique (b :: rest) else a :: unique (b :: rest)

/-- The inner loop from an open block on; where it breaks, the outer loop opens
the next block. -/
def nackBlocks (block : NackBlock) : List UInt16 → List NackBlock
  | [] => [block]
  | sequence :: rest =>
    let delta := sequence - block.pid
    if delta = 0 then nackBlocks block rest
    else if 16 < delta then block :: nackBlocks { pid := sequence, blp := 0 } rest
    else nackBlocks { block with blp := block.blp ||| (1 : UInt16) <<< (delta - 1) } rest

def buildNackFeedback (senderSsrc mediaSsrc : UInt32) (lostSequences : List UInt16) :
    List UInt8 :=
  if mediaSsrc = 0 ∨ lostSequences = [] then []
  else
    match unique (lostSequences.insertionSort (· ≤ ·)) with
    | [] => []
    | pid :: rest =>
      let blocks := nackBlocks { pid, blp := 0 } rest
      let packetBytes := 12 + blocks.length * 4
      if 0xFFFF * 4 < packetBytes then []
      else
        [(2 : UInt8) <<< 6 ||| 1, 205] ++ writeBE16 (packetBytes / 4 - 1).toUInt16 ++
          writeBE32 senderSsrc ++ writeBE32 mediaSsrc ++
          blocks.flatMap fun block => writeBE16 block.pid ++ writeBE16 block.blp

end MeetingSystem.Impl.Client.VideoRtcpActionPipeline
