import Mathlib.Algebra.Group.Nat.Defs
import MeetingSystem.Impl.Client.RTCPHandler

/-!
# Round-trip times of the client

What `AudioCallSession::handleRtcpPacketLocked` computes from a report block, and
`computeRttFromReceiverReport` of `ScreenShareSessionTransport.cpp`. Times of the
steady clock are in nanoseconds.
-/

namespace MeetingSystem.Impl.Client

/-- The sender report that was sent last. -/
structure SenderReportLedger where
  ssrc : UInt32
  compactNtp : UInt32
  observedAt : Nat
  deriving DecidableEq

namespace AudioCallSession

def compactNtpFromElapsed (elapsed : Nat) : UInt32 :=
  (elapsed / 1000 * 65536 % 2 ^ 64 / 1000000).toUInt32

def compactNtpToMs (compactNtp : UInt32) : UInt32 :=
  ((compactNtp.toNat * 1000 + 65535) / 65536).toUInt32

/-- The time that is stored for a report block. The block is skipped at `none`. -/
def blockRttMs (senderSsrc : UInt32) (localSenderReport : SenderReportLedger)
    (block : RTCPReportBlock) (now : Nat) : Option UInt32 :=
  if block.sourceSsrc ≠ senderSsrc ∨ block.lastSenderReport = 0 ∨
      localSenderReport.compactNtp = 0 ∨
      block.lastSenderReport ≠ localSenderReport.compactNtp ∨
      now ≤ localSenderReport.observedAt then none
  else
    let arrivalCompactNtp :=
      localSenderReport.compactNtp + compactNtpFromElapsed (now - localSenderReport.observedAt)
    let reflectedDelay := block.lastSenderReport.toNat + block.delaySinceLastSenderReport.toNat
    if arrivalCompactNtp.toNat ≤ reflectedDelay then none
    else some (compactNtpToMs (arrivalCompactNtp.toNat - reflectedDelay).toUInt32)

end AudioCallSession

namespace ScreenShareSession

def compactNtp (ntpTimestamp : UInt64) : UInt32 := (ntpTimestamp >>> 16).toUInt32

/-- `ntpNow` is the time of the system clock. -/
def computeRttFromReceiverReport (ntpNow : UInt64)
    (lastSenderReport delaySinceLastSenderReport : UInt32) : Option UInt32 :=
  if lastSenderReport = 0 then none
  else
    let arrival := compactNtp ntpNow
    let rttUnits := arrival - lastSenderReport - delaySinceLastSenderReport
    let rttMs := rttUnits.toNat * 1000 / 65536
    some (if 0xFFFFFFFF < rttMs then 0xFFFFFFFF else rttMs.toUInt32)

end ScreenShareSession

end MeetingSystem.Impl.Client
