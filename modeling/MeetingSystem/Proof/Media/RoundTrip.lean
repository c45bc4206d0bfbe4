import MeetingSystem.Impl.Client.RoundTripTime
import MeetingSystem.Impl.Sfu.Packets

/-!
# Round-trip times

The SFU and the two sessions of the client compute a round-trip time from the
last sender report `L` of a report block, its delay `D`, and the time `E` since
that report was sent, all in units of 1/65536 s.

* `ledgerRtt_iff`: the SFU and the audio session add `E` to `L` in 32 bits but
  `D` to `L` in 64, so a sum of `L` and `E` that wraps counts as no time at all;
* `wallRtt_iff`: the video session subtracts in 32 bits, so a delay above `E`
  wraps into hours;
* `rtt_iff`: when the three are right.
-/

namespace MeetingSystem.Proof.Media

open MeetingSystem.Impl.Client MeetingSystem.Impl.Sfu
open MediaIngress (computeRttMs)
open AudioCallSession (blockRttMs)
open ScreenShareSession (computeRttFromReceiverReport)

/-- `ms` milliseconds are the `E - D` units, up to less than one millisecond, and
0 if there are none. -/
def RttOk (E D ms : Nat) : Prop :=
  if E ≤ D then ms = 0
  else ms * 65536 < (E - D) * 1000 + 65536 ∧ (E - D) * 1000 < ms * 65536 + 65536

instance (E D ms : Nat) : Decidable (RttOk E D ms) := inferInstanceAs (Decidable (ite _ _ _))

/-- Less than a millisecond. -/
def Short (units : Nat) : Prop := units * 1000 < 65536

/-- The units of an elapsed time in nanoseconds. -/
def elapsedUnits (elapsed : Nat) : Nat := elapsed / 1000 * 65536 / 1000000

/-! ## Steady time -/

theorem toNat_toUInt32 {n : Nat} (h : n < 2 ^ 32) : n.toUInt32.toNat = n :=
  UInt32.toNat_ofNat_of_lt' h

theorem compactNtpFromElapsed_eq {elapsed : Nat} (h : elapsedUnits elapsed < 2 ^ 31) :
    (MediaIngress.compactNtpFromElapsed elapsed).toNat = elapsedUnits elapsed := by
  unfold elapsedUnits at h
  unfold MediaIngress.compactNtpFromElapsed elapsedUnits
  rw [Nat.mod_eq_of_lt (by omega), toNat_toUInt32 (by omega)]

theorem compactNtpToMs_eq (compactNtp : UInt32) :
    (MediaIngress.compactNtpToMs compactNtp).toNat = (compactNtp.toNat * 1000 + 65535) / 65536 := by
  have hlt := compactNtp.toNat_lt
  exact toNat_toUInt32 (by omega)

/-- The time between the arrival of a report block and the reflected delay. -/
def ledgerRtt (L arrival D : UInt32) : UInt32 :=
  if arrival.toNat ≤ L.toNat + D.toNat then 0
  else MediaIngress.compactNtpToMs (arrival.toNat - (L.toNat + D.toNat)).toUInt32

theorem ledgerRtt_iff {L D elapsed : UInt32} (h : elapsed.toNat < 2 ^ 31) :
    RttOk elapsed.toNat D.toNat (ledgerRtt L (L + elapsed) D).toNat ↔
      L.toNat + elapsed.toNat < 2 ^ 32 ∨ elapsed.toNat ≤ D.toNat ∨
        Short (elapsed.toNat - D.toNat) := by
  have hL := L.toNat_lt
  have harrival : (L + elapsed).toNat = (L.toNat + elapsed.toNat) % 2 ^ 32 := UInt32.toNat_add ..
  unfold ledgerRtt RttOk Short
  by_cases hwrap : L.toNat + elapsed.toNat < 2 ^ 32
  · rw [Nat.mod_eq_of_lt hwrap] at harrival
    rw [harrival]
    simp only [hwrap, true_or, iff_true]
    by_cases hle : elapsed.toNat ≤ D.toNat
    · rw [if_pos hle, if_pos (Nat.add_le_add_left hle _)]
      rfl
    · rw [if_neg hle, if_neg (by omega), compactNtpToMs_eq, toNat_toUInt32 (by omega)]
      omega
  · rw [if_pos (show (L + elapsed).toNat ≤ L.toNat + D.toNat by omega)]
    simp only [hwrap, false_or, UInt32.toNat_zero]
    by_cases hle : elapsed.toNat ≤ D.toNat
    · simp [hle]
    · simp only [hle, if_false, false_or]
      omega

/-! ## Wall time -/

theorem computeRttFromReceiverReport_eq {L D : UInt32} {E : Nat} (hL : L ≠ 0) {ntpNow : UInt64}
    (hnow : ScreenShareSession.compactNtp ntpNow = L + E.toUInt32) :
    computeRttFromReceiverReport ntpNow L D =
      some ((E.toUInt32 - D).toNat * 1000 / 65536).toUInt32 := by
  have hunits : L + E.toUInt32 - L - D = E.toUInt32 - D := by
    rw [UInt32.add_comm, UInt32.add_sub_cancel]
  have hlt := (E.toUInt32 - D).toNat_lt
  unfold computeRttFromReceiverReport
  rw [if_neg hL, hnow]
  dsimp only
  rw [hunits, if_neg (by omega)]

theorem wallRtt_iff {D : UInt32} {E : Nat} (hE : E < 2 ^ 31) :
    RttOk E D.toNat ((E.toUInt32 - D).toNat * 1000 / 65536).toUInt32.toNat ↔
      D.toNat ≤ E ∨ Short (2 ^ 32 + E - D.toNat) := by
  have hD := D.toNat_lt
  have hElt : E.toUInt32.toNat = E := toNat_toUInt32 (by omega)
  have hlt := (E.toUInt32 - D).toNat_lt
  have hunits : (E.toUInt32 - D).toNat = (2 ^ 32 - D.toNat + E) % 2 ^ 32 := by
    rw [UInt32.toNat_sub, hElt]
  rw [toNat_toUInt32 (by omega)]
  unfold RttOk Short
  rcases Nat.lt_trichotomy E D.toNat with hlt | heq | hgt
  · have hwrapped : (E.toUInt32 - D).toNat = 2 ^ 32 + E - D.toNat := by omega
    rw [hwrapped, if_pos hlt.le]
    omega
  · have hzero : (E.toUInt32 - D).toNat = 0 := by omega
    rw [hzero, if_pos heq.le]
    omega
  · have hdiff : (E.toUInt32 - D).toNat = E - D.toNat := by omega
    rw [hdiff, if_neg (Nat.not_le.mpr hgt)]
    omega

/-! ## The three computations -/

theorem ledgerRtt_zero (L D : UInt32) :
    ledgerRtt L (L + MediaIngress.compactNtpFromElapsed 0) D = 0 := by
  have hzero : MediaIngress.compactNtpFromElapsed 0 = 0 := by decide
  rw [hzero, UInt32.add_zero]
  exact if_pos (Nat.le_add_right _ _)

theorem computeRttMs_eq {entry : SenderReportLedgerEntry} (hL : entry.compactNtp ≠ 0)
    (D : UInt32) (now : Nat) :
    computeRttMs entry entry.compactNtp D now =
      ledgerRtt entry.compactNtp
        (entry.compactNtp + MediaIngress.compactNtpFromElapsed (now - entry.observedAt)) D := by
  unfold computeRttMs
  by_cases hnow : now ≤ entry.observedAt
  · rw [if_pos (.inr (.inr (.inr hnow))), Nat.sub_eq_zero_of_le hnow, ledgerRtt_zero]
  · rw [if_neg (by simp [hL, hnow])]
    rfl

theorem blockRttMs_eq {ledger : SenderReportLedger} {block : RTCPReportBlock}
    (hL : block.lastSenderReport ≠ 0) (hledger : ledger.compactNtp = block.lastSenderReport)
    (now : Nat) :
    (blockRttMs block.sourceSsrc ledger block now).getD 0 =
      ledgerRtt block.lastSenderReport
        (block.lastSenderReport + MediaIngress.compactNtpFromElapsed (now - ledger.observedAt))
        block.delaySinceLastSenderReport := by
  unfold blockRttMs
  by_cases hnow : now ≤ ledger.observedAt
  · rw [if_pos (.inr (.inr (.inr (.inr hnow)))), Nat.sub_eq_zero_of_le hnow, ledgerRtt_zero]
    rfl
  · rw [if_neg (by simp [hL, hledger, hnow]), hledger]
    unfold ledgerRtt
    dsimp only
    split
    · rename_i hle
      exact (if_pos hle).symm
    · rename_i hgt
      exact (if_neg hgt).symm

/-- No wrap, or no time, or less than a millisecond. -/
def LedgerRight (L E D : Nat) : Prop := L + E < 2 ^ 32 ∨ E ≤ D ∨ Short (E - D)

/-- No wrap, or less than a millisecond after it. -/
def WallRight (E D : Nat) : Prop := D ≤ E ∨ Short (2 ^ 32 + E - D)

theorem ledgerRtt_elapsed {L D : UInt32} {elapsed : Nat} (h : elapsedUnits elapsed < 2 ^ 31) :
    RttOk (elapsedUnits elapsed) D.toNat
        (ledgerRtt L (L + MediaIngress.compactNtpFromElapsed elapsed) D).toNat ↔
      LedgerRight L.toNat (elapsedUnits elapsed) D.toNat := by
  have hunits := compactNtpFromElapsed_eq h
  rw [← hunits] at h ⊢
  exact ledgerRtt_iff h

/-- For a report block that matches the report sent last: with the SFU, in the
audio session, where a block that is skipped counts as no time, and in the video
session. -/
theorem rtt_iff (L D : UInt32) (E : Nat) (hL : L ≠ 0) (hE : E < 2 ^ 31) :
    (∀ (entry : SenderReportLedgerEntry) (now : Nat), entry.compactNtp = L →
      elapsedUnits (now - entry.observedAt) = E →
      (RttOk E D.toNat (computeRttMs entry L D now).toNat ↔ LedgerRight L.toNat E D.toNat)) ∧
    (∀ (ledger : SenderReportLedger) (block : RTCPReportBlock) (now : Nat),
      block.lastSenderReport = L → block.delaySinceLastSenderReport = D →
      ledger.compactNtp = L → elapsedUnits (now - ledger.observedAt) = E →
      (RttOk E D.toNat ((blockRttMs block.sourceSsrc ledger block now).getD 0).toNat ↔
        LedgerRight L.toNat E D.toNat)) ∧
    ∀ ntpNow : UInt64, ScreenShareSession.compactNtp ntpNow = L + E.toUInt32 →
      ∃ ms, computeRttFromReceiverReport ntpNow L D = some ms ∧
        (RttOk E D.toNat ms.toNat ↔ WallRight E D.toNat) := by
  refine ⟨?_, ?_, fun ntpNow hnow => ?_⟩
  · rintro entry now rfl rfl
    rw [computeRttMs_eq hL]
    exact ledgerRtt_elapsed hE
  · rintro ledger block now rfl rfl hledger rfl
    rw [blockRttMs_eq hL hledger]
    exact ledgerRtt_elapsed hE
  · exact ⟨_, computeRttFromReceiverReport_eq hL hnow, wallRtt_iff hE⟩

/-- A second after a report of the compact time 1000, with no delay. -/
theorem rtt_iff_second :
    RttOk 65536 0 (computeRttMs { compactNtp := 1000, observedAt := 5 } 1000 0 1000000005).toNat :=
  ((rtt_iff 1000 0 65536 (by decide) (by decide)).1 { compactNtp := 1000, observedAt := 5 }
    1000000005 rfl (by decide)).mpr (.inl (by decide))

/-- A second after a report just before the wrap the SFU and the audio session see
no time, and the video session sees hours when the delay is two seconds. -/
theorem rtt_wraps :
    ¬ RttOk 65536 0
        (computeRttMs { compactNtp := 0xFFFFFFFF, observedAt := 5 } 0xFFFFFFFF 0
          1000000005).toNat ∧
      ¬ RttOk 65536 0
        ((blockRttMs 7 { ssrc := 7, compactNtp := 0xFFFFFFFF, observedAt := 5 }
          { sourceSsrc := 7, fractionLost := 0, cumulativeLost := 0, highestSeq := 0
            jitter := 0, lastSenderReport := 0xFFFFFFFF
            delaySinceLastSenderReport := 0 } 1000000005).getD 0).toNat ∧
      computeRttFromReceiverReport 0x107D00000000 0x107C0000 0x20000 = some 65535000 ∧
      ¬ RttOk 65536 0x20000 65535000 := by
  decide +kernel

end MeetingSystem.Proof.Media
