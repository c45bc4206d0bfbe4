import Mathlib.Algebra.Order.Ring.Int
import Mathlib.Tactic.Linarith
import MeetingSystem.Impl.Client.ScreenCapture

/-!
# The timestamps of the screen share

A frame of the screen is numbered in frames of the rate in force when it was
captured, and its timestamp is that number in frames of the same rate. When the
rate falls, the number is too large for the new rate and the timestamps run
ahead of the clock; when the rate rises again, they fall back.

`timestamps_increase`: the timestamps increase as long as the rate only rises
after the clock has caught up, and no step takes half a turn of the 32 bits;
`restoredStream` is a share in which they do not.
-/

namespace MeetingSystem.Proof.Client

open MeetingSystem.Framework MeetingSystem.Impl.Client

/-! ## The property -/

/-- `b` comes after `a` in serial order. -/
def TimestampLt (a b : UInt32) : Prop := 0 < (b - a).toNat ∧ (b - a).toNat < 0x80000000

instance (a b : UInt32) : Decidable (TimestampLt a b) := inferInstanceAs (Decidable (_ ∧ _))

/-- A captured frame has a later timestamp than the one before. -/
def Increases (s : ScreenStream) : ScreenOp → Prop
  | .capture elapsedMs => ∀ last ∈ s.frames.head?,
    TimestampLt last.timestamp (s.nextFrame elapsedMs).timestamp
  | _ => True

/-! ## When it holds -/

/-- A number of frames in ticks of the RTP clock. -/
def ticks (pts frameRate : Int) : Int := pts * 90000 / frameRate

/-- The time of a frame, which its timestamp is the last 32 bits of. -/
def mediaTime (frame : CapturedFrame) : Int := ticks frame.pts frame.frameRate

/-- The number of frames up to a time. -/
def clockPts (elapsedMs : Nat) (frameRate : Int) : Int := elapsedMs * frameRate / 1000

/-- The frame rate has not risen, or a further frame of the new rate or the
clock is past the last timestamp; and neither is too far from it. -/
structure Follows (s : ScreenStream) (elapsedMs : Nat) (last : CapturedFrame) : Prop where
  behind : s.frameRate ≤ last.frameRate ∨
    mediaTime last < ticks (last.pts + 1) s.frameRate ∨
    mediaTime last < ticks (clockPts elapsedMs s.frameRate) s.frameRate
  step : ticks (last.pts + 1) s.frameRate < mediaTime last + 0x80000000
  clock : ticks (clockPts elapsedMs s.frameRate) s.frameRate <
    mediaTime last + 0x80000000

def CatchesUp (s : ScreenStream) : ScreenOp → Prop
  | .capture elapsedMs => ∀ last ∈ s.frames.head?, Follows s elapsedMs last
  | _ => True

/-! ## Ticks -/

theorem ticks_mono {g p q : Int} (hg : 0 < g) (h : p ≤ q) : ticks p g ≤ ticks q g := by
  apply Int.ediv_le_ediv hg
  linarith

/-- One frame more is a later time, if the rate does not rise. -/
theorem ticks_lt_succ {f g p : Int} (hg : 0 < g) (hgf : g ≤ f) (hf : f ≤ 90000) (hp : 0 ≤ p) :
    ticks p f < ticks (p + 1) g := by
  have hfpos : 0 < f := lt_of_lt_of_le hg hgf
  have hnonneg : 0 ≤ ticks p f := Int.ediv_nonneg (by linarith) hfpos.le
  have hmul : ticks p f * f ≤ p * 90000 := Int.ediv_mul_le _ hfpos.ne'
  have hle : (ticks p f + 1) * g ≤ (p + 1) * 90000 :=
    calc (ticks p f + 1) * g ≤ (ticks p f + 1) * f := by
          apply Int.mul_le_mul_of_nonneg_left hgf
          linarith
      _ = ticks p f * f + f := by rw [Int.add_mul, Int.one_mul]
      _ ≤ (p + 1) * 90000 := by linarith
  exact (Int.le_ediv_iff_mul_le hg).mpr hle

theorem toNat_ofInt (x : Int) : ((UInt32.ofInt x).toNat : Int) = x % 0x100000000 := by
  show (((UInt32.ofNat (x % 0x100000000).toNat).toNat : Nat) : Int) = x % 0x100000000
  rw [UInt32.toNat_ofNat']
  omega

/-- Times that are not a turn apart. -/
theorem ofInt_ne {a b : Int} (h : a < b) (hb : b < a + 0x100000000) :
    UInt32.ofInt b ≠ UInt32.ofInt a := by
  intro heq
  have ha := toNat_ofInt a
  have hb := toNat_ofInt b
  rw [heq] at hb
  omega

theorem timestampLt_ofInt {a b : Int} (h : a < b) (hb : b < a + 0x80000000) :
    TimestampLt (.ofInt a) (.ofInt b) := by
  have ha' := toNat_ofInt a
  have hb' := toNat_ofInt b
  unfold TimestampLt
  rw [UInt32.toNat_sub]
  omega

/-! ## Frames -/

/-- A frame of the screen. -/
structure Counted (frame : CapturedFrame) : Prop where
  pts : 0 ≤ frame.pts
  pos : 1 ≤ frame.frameRate
  le : frame.frameRate ≤ 30

theorem Counted.timestamp {frame : CapturedFrame} (h : Counted frame) :
    frame.timestamp = .ofInt (mediaTime frame) := by
  have hrate : max 1 frame.frameRate = frame.frameRate := max_eq_right h.pos
  have hpts := h.pts
  simp only [CapturedFrame.timestamp, rtpTimestamp, ite_self, hrate]
  rw [Int.tdiv_eq_ediv_of_nonneg (by linarith)]
  rfl

theorem frameRate_bounds (s : ScreenStream) : 1 ≤ s.frameRate ∧ s.frameRate ≤ 30 := by
  unfold ScreenStream.frameRate screenFrameRate kMaxScreenShareFrameRate
  dsimp only
  omega

/-- The number of a new frame: the clock's, or the one after the last. -/
theorem nextFrame_pts (s : ScreenStream) (elapsedMs : Nat) :
    (s.nextFrame elapsedMs).pts =
      max (clockPts elapsedMs s.frameRate) (s.lastHardwareCapturePts + 1) := by
  obtain ⟨hpos, -⟩ := frameRate_bounds s
  have hrate : max 1 s.frameRate = s.frameRate := max_eq_right hpos
  have hnonneg : 0 ≤ (elapsedMs : Int) * s.frameRate := Int.mul_nonneg (by omega) (by omega)
  simp only [ScreenStream.nextFrame, framePts, hrate, Int.tdiv_eq_ediv_of_nonneg hnonneg]
  unfold clockPts
  omega

theorem clockPts_nonneg (s : ScreenStream) (elapsedMs : Nat) :
    0 ≤ clockPts elapsedMs s.frameRate := by
  have hpos := (frameRate_bounds s).1
  have hnonneg : 0 ≤ (elapsedMs : Int) * s.frameRate := Int.mul_nonneg (by omega) (by omega)
  unfold clockPts
  omega

theorem nextFrame_counted (s : ScreenStream) (elapsedMs : Nat) :
    Counted (s.nextFrame elapsedMs) := by
  obtain ⟨hpos, hle⟩ := frameRate_bounds s
  refine ⟨?_, hpos, hle⟩
  rw [nextFrame_pts]
  have := clockPts_nonneg s elapsedMs
  omega

/-- What the captures keep: the last number is the one of the newest frame. -/
structure NumberedFrames (s : ScreenStream) : Prop where
  last : ∀ frame ∈ s.frames.head?, s.lastHardwareCapturePts = frame.pts
  counted : ∀ frame ∈ s.frames, Counted frame

/-- A frame that follows the last one has a later time, by less than half a
turn. -/
theorem Follows.ticks_lt {s : ScreenStream} {elapsedMs : Nat} {last : CapturedFrame}
    (h : Follows s elapsedMs last) (hs : NumberedFrames s) (hlast : last ∈ s.frames.head?) :
    mediaTime last < mediaTime (s.nextFrame elapsedMs) ∧
      mediaTime (s.nextFrame elapsedMs) < mediaTime last + 0x80000000 := by
  obtain ⟨hpos, -⟩ := frameRate_bounds s
  have hcounted := hs.counted last (List.mem_of_mem_head? hlast)
  have hgpos : 0 < s.frameRate := hpos
  have hpts : (s.nextFrame elapsedMs).pts =
      max (clockPts elapsedMs s.frameRate) (last.pts + 1) := by
    rw [nextFrame_pts, hs.last last hlast]
  have hticks : mediaTime (s.nextFrame elapsedMs) =
      ticks (max (clockPts elapsedMs s.frameRate) (last.pts + 1)) s.frameRate := by
    rw [← hpts]
    rfl
  rw [hticks]
  constructor
  · have hclock := ticks_mono hgpos (le_max_left (clockPts elapsedMs s.frameRate) (last.pts + 1))
    have hstep := ticks_mono hgpos (le_max_right (clockPts elapsedMs s.frameRate) (last.pts + 1))
    rcases h.behind with hrate | hnext | hnow
    · have hle := hcounted.le
      exact lt_of_lt_of_le (ticks_lt_succ hgpos hrate (by omega) hcounted.pts) hstep
    · exact lt_of_lt_of_le hnext hstep
    · exact lt_of_lt_of_le hnow hclock
  · rcases max_choice (clockPts elapsedMs s.frameRate) (last.pts + 1) with hmax | hmax
    · rw [hmax]
      exact h.clock
    · rw [hmax]
      exact h.step

/-! ## Streams -/

theorem increases_of_catchesUp {s : ScreenStream} {o : ScreenOp} (hs : NumberedFrames s)
    (h : CatchesUp s o) : Increases s o := by
  cases o with
  | capture elapsedMs =>
    intro last hlast
    obtain ⟨hlt, hle⟩ := (h last hlast).ticks_lt hs hlast
    rw [(hs.counted last (List.mem_of_mem_head? hlast)).timestamp,
      (nextFrame_counted s elapsedMs).timestamp]
    exact timestampLt_ofInt hlt hle
  | _ => trivial

theorem numberedFrames_step {s : ScreenStream} (o : ScreenOp) (h : NumberedFrames s) :
    NumberedFrames (s.step o) := by
  cases o with
  | capture elapsedMs =>
    refine ⟨fun frame hframe => ?_, fun frame hframe => ?_⟩
    · obtain rfl := Option.some.inj hframe
      rfl
    · rcases List.mem_cons.mp hframe with rfl | hold
      · exact nextFrame_counted s elapsedMs
      · exact h.counted frame hold
  | _ => exact ⟨h.last, h.counted⟩

theorem numberedFrames_new (config : VideoBwePolicyConfig) : NumberedFrames (.new config) :=
  ⟨fun frame hframe => by simp [ScreenStream.new] at hframe,
    fun frame hframe => by simp [ScreenStream.new] at hframe⟩

/-- Newer frames have later times. -/
def TimeOrdered (s : ScreenStream) : Prop :=
  s.frames.Pairwise fun new old => mediaTime old < mediaTime new

theorem timeOrdered_step {s : ScreenStream} {o : ScreenOp} (hok : CatchesUp s o) (hs : NumberedFrames s)
    (h : TimeOrdered s) : TimeOrdered (s.step o) := by
  cases o with
  | capture elapsedMs =>
    refine List.pairwise_cons.mpr ⟨fun old hold => ?_, h⟩
    cases hframes : s.frames with
    | nil =>
      rw [hframes] at hold
      cases hold
    | cons last frames =>
      have hlast : last ∈ s.frames.head? := by
        rw [hframes]
        rfl
      have hlt := ((hok last hlast).ticks_lt hs hlast).1
      rw [hframes] at hold
      rcases List.mem_cons.mp hold with rfl | hold
      · exact hlt
      · have hpairs : (last :: frames).Pairwise fun new old => mediaTime old < mediaTime new := by
          rw [← hframes]
          exact h
        exact lt_trans (List.rel_of_pairwise_cons hpairs hold) hlt
  | _ => exact h

/-- Two frames of a stream whose times are less than a turn apart. -/
def TimestampsDiffer (s : ScreenStream) : Prop :=
  s.frames.Pairwise fun new old =>
    mediaTime new < mediaTime old + 0x100000000 → new.timestamp ≠ old.timestamp

theorem TimeOrdered.differ {s : ScreenStream} (h : TimeOrdered s) (hs : NumberedFrames s) :
    TimestampsDiffer s := by
  apply List.Pairwise.imp_of_mem ?_ h
  intro new old hnew hold hlt hturn
  rw [(hs.counted new hnew).timestamp, (hs.counted old hold).timestamp]
  exact ofInt_ne hlt hturn

/-- In a stream whose captures catch up, the timestamps increase and do not
come again within a turn. -/
theorem timestamps_increase (config : VideoBwePolicyConfig) (os : List ScreenOp)
    (h : Along ScreenStream.step CatchesUp (.new config) os) :
    Along ScreenStream.step Increases (.new config) os ∧
    TimestampsDiffer (run ScreenStream.step (.new config) os) := by
  constructor
  · exact Along.of_inv (P := NumberedFrames) (fun s o _ hs => numberedFrames_step o hs)
      (fun s o hok hs => increases_of_catchesUp hs hok) (numberedFrames_new config) h
  · have hinv := Along.inv (P := fun s => NumberedFrames s ∧ TimeOrdered s)
      (fun s o hok hs => ⟨numberedFrames_step o hs.1, timeOrdered_step hok hs.1 hs.2⟩)
      ⟨numberedFrames_new config, List.Pairwise.nil⟩ h
    exact hinv.2.differ hinv.1

/-! ## Two streams -/

def hdConfig : VideoBwePolicyConfig :=
  { baselineWidth := 1280, baselineHeight := 720, baselineFrameRate := 30
    baselineBitrateBps := 1500000 }

/-- A report with a loss of `fractionLost` in 256ths. -/
def lossReport (fractionLost : UInt8) (nowMs : Nat) : ScreenOp :=
  .receiverReport { fractionLost, hasRtt := false, rttMs := 0, nowMs }

instance (s : ScreenStream) (elapsedMs : Nat) (last : CapturedFrame) :
    Decidable (Follows s elapsedMs last) :=
  decidable_of_iff (_ ∧ _ ∧ _)
    ⟨fun h => ⟨h.1, h.2.1, h.2.2⟩, fun h => ⟨h.behind, h.step, h.clock⟩⟩

instance (s : ScreenStream) : ∀ o : ScreenOp, Decidable (CatchesUp s o)
  | .capture elapsedMs =>
    inferInstanceAs (Decidable (∀ last ∈ s.frames.head?, Follows s elapsedMs last))
  | .restart _ => .isTrue trivial
  | .receiverReport _ => .isTrue trivial
  | .rembTarget _ => .isTrue trivial

/-- The rate falls to 15 after a second and stays there. -/
theorem timestamps_increase_degraded :
    Along ScreenStream.step Increases (.new hdConfig)
      [.capture 960, .capture 1000, lossReport 20 1010, .capture 1066, .capture 1133] ∧
    TimestampsDiffer (run ScreenStream.step (.new hdConfig)
      [.capture 960, .capture 1000, lossReport 20 1010, .capture 1066, .capture 1133]) :=
  timestamps_increase hdConfig _ (by decide +kernel)

/-- The rate falls to 15 after a minute and is restored after twenty seconds. -/
def restoredStream : ScreenStream :=
  run ScreenStream.step (.new hdConfig)
    [.capture 60000, lossReport 20 60050, .capture 60100, lossReport 0 65100, lossReport 0 70100,
      lossReport 0 75100, lossReport 0 80100]

/-- The next timestamp is before the last one, and another one that is equal to
it follows. -/
theorem restoredStream_falls_back :
    ¬ Increases restoredStream (.capture 80200) ∧
    ¬ TimestampsDiffer (run ScreenStream.step restoredStream [.capture 80200, .capture 120067]) := by
  constructor
  · intro h
    have hlt := h ⟨1801, 15⟩ (by decide +kernel)
    revert hlt
    decide +kernel
  · intro h
    have hframes : (run ScreenStream.step restoredStream [.capture 80200, .capture 120067]).frames =
        [⟨3602, 30⟩, ⟨2406, 30⟩, ⟨1801, 15⟩, ⟨1800, 30⟩] := by
      decide +kernel
    rw [TimestampsDiffer, hframes] at h
    revert h
    decide

end MeetingSystem.Proof.Client
