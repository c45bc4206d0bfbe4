import MeetingSystem.Framework.Interleave
import MeetingSystem.Impl.Client.CameraFrameRelay

/-!
# Captures and the frames of the relay

Any number of calls of `CameraFrameRelay`, whose accesses interleave.

* `frames_of_begun`: when `beginCapture` has cleared the queue for a generation,
  no frame of an earlier generation is in the queue again;
* `frames_of_disabled`: while the camera is disabled and no call that has disabled
  it is still to clear the queue, the queue is empty;
* `taken_and_queued`: of the frames that were queued since the last `clear`, which
  also starts their numbers again, those that leave do so in the order in which they
  came, the numbers increase, and at most `kCapacity` wait.

The checks in `enqueueFrame` read the atomics without the mutex, so that these can
change before the frame is queued. The clear of the call that has changed them
comes after the frame then, as that call has to wait for the mutex.
-/

namespace MeetingSystem.Proof.Client

open MeetingSystem.Framework MeetingSystem.Impl.Client

variable {F : Type*} {isValid : F → Bool}

abbrev RelayPool (F : Type*) := Pool (CameraFrameRelay F) (RelayCall F)

abbrev RelayMove (F : Type*) := Move (RelayRequest F) RelayEnv

/-- A call starts, or one in progress makes its next access. -/
def relayMove (isValid : F → Bool) : RelayPool F → RelayMove F → RelayPool F :=
  Pool.move RelayRequest.call (RelayCall.next isValid)

/-- No call in progress. -/
def relayStart (targetFrameRate : Int) : RelayPool F :=
  { shared := .new targetFrameRate, calls := fun _ => none }

/-! ## The mutex -/

namespace RelayCall

/-- Calls that have the mutex. -/
def hasMutex : RelayCall F → Bool
  | .loadEnabled check _ _ | .loadSharing check _ _ | .loadGeneration check _ _ => check ≠ .entry
  | .reloadGeneration locked _ => locked
  | .throttle .. | .unlockThrottle .. | .push _ | .clear _ | .setDeadline _ | .whileEmpty _
  | .whileEnabled _ | .whileNotSharing _ | .beforeDeadline _ | .popFront | .unlock _ => true
  | _ => false

/-- Calls between the check of `m_cameraEnabled` and the queue. -/
def pushes : RelayCall F → Bool
  | .loadSharing .push _ _ | .loadGeneration .push _ _ | .push _ => true
  | _ => false

/-- Calls that have disabled the camera and are to clear the queue. -/
def disables : RelayCall F → Bool
  | .lockClear .done | .clear .done => true
  | _ => false

theorem hasMutex_of_pushes {c : RelayCall F} (h : pushes c = true) : hasMutex c = true := by
  cases c <;> simp_all [pushes, hasMutex]
  all_goals split at h <;> simp_all

/-- A step that takes the mutex waits for it. -/
theorem mutex_lock {s : CameraFrameRelay F} {c c' : RelayCall F} (hc : hasMutex c = false)
    (hc' : hasMutex c' = true) :
    ((RelayCall.lock s c c').1.mutex.toNat : Int) + (hasMutex c).toNat =
      s.mutex.toNat + ((RelayCall.lock s c c').2.getLeft?.any hasMutex).toNat := by
  unfold RelayCall.lock
  cases hs : s.mutex <;> simp [hc, hc', hs]

/-- A step keeps the mutex, gives it up, or waits for it. -/
theorem mutex_next {s : CameraFrameRelay F} {e : RelayEnv} {c : RelayCall F}
    (h : hasMutex c = true → s.mutex = true) :
    ((RelayCall.next isValid s e c).1.mutex.toNat : Int) + (hasMutex c).toNat =
      s.mutex.toNat + ((RelayCall.next isValid s e c).2.getLeft?.any hasMutex).toNat := by
  cases c with
  | lockThrottle g frame => exact mutex_lock rfl rfl
  | lockPush g frame => exact mutex_lock rfl rfl
  | lockClear result => exact mutex_lock rfl rfl
  | lockPop timeout => exact mutex_lock rfl rfl
  | wait deadline => exact mutex_lock rfl (by cases e.woken <;> rfl)
  | loadEnabled check g frame =>
    cases check <;> cases hs : s.cameraEnabled <;>
      simp_all [RelayCall.next, hasMutex, RelayCall.failed]
  | loadSharing check g frame =>
    cases check <;> cases hs : s.sharingEnabled <;>
      simp_all [RelayCall.next, hasMutex, RelayCall.failed]
  | loadGeneration check g frame =>
    by_cases hs : s.generation = g <;> cases check <;>
      simp_all [RelayCall.next, hasMutex, RelayCall.failed, RelayCall.passed]
  | popFront => cases hf : s.frames <;> simp_all [RelayCall.next, hasMutex]
  | push frame => rfl
  | clear result => rfl
  | fetchAdd disable => cases disable <;> rfl
  | storeEnabled enabled => cases enabled <;> rfl
  | reloadGeneration locked g => cases locked <;> rfl
  | whileEmpty deadline => cases hs : s.frames <;> simp [RelayCall.next, hasMutex, hs]
  | whileEnabled deadline => cases hs : s.cameraEnabled <;> simp [RelayCall.next, hasMutex, hs]
  | whileNotSharing deadline =>
    cases hs : s.sharingEnabled <;> simp [RelayCall.next, hasMutex, hs]
  | throttle g frame =>
    simp only [RelayCall.next]
    split <;> simp [hasMutex]
  | beforeDeadline deadline =>
    simp only [RelayCall.next]
    split <;> simp_all [hasMutex]
  | validate g frame => cases hv : isValid frame <;> simp [RelayCall.next, hasMutex, hv]
  | unlockThrottle g frame => simp [RelayCall.next, hasMutex, h rfl]
  | unlock result => simp [RelayCall.next, hasMutex, h rfl]
  | storeSharing enabled => rfl
  | setDeadline timeout => rfl

/-! ## What a step does -/

/-- Frames are queued, taken and dropped by three steps, and no other. -/
theorem frames_next (isValid : F → Bool) (s : CameraFrameRelay F) (e : RelayEnv) (c : RelayCall F) :
    (∃ frame, c = .push frame ∧ (RelayCall.next isValid s e c).1 = s.pushed frame e.now) ∨
    (∃ result, c = .clear result ∧ (RelayCall.next isValid s e c).1 = s.cleared) ∨
    (c = .popFront ∧ (RelayCall.next isValid s e c).1 = { s with frames := s.frames.tail }) ∨
    ((∀ frame, c ≠ .push frame) ∧ (∀ result, c ≠ .clear result) ∧ c ≠ .popFront ∧
      (RelayCall.next isValid s e c).1.frames = s.frames ∧
      (RelayCall.next isValid s e c).1.lastAssignedPts = s.lastAssignedPts) := by
  cases c with
  | push frame => exact .inl ⟨frame, rfl, rfl⟩
  | clear result => exact .inr (.inl ⟨result, rfl, rfl⟩)
  | popFront =>
    refine .inr (.inr (.inl ⟨rfl, ?_⟩))
    cases hf : s.frames <;> simp [RelayCall.next, hf]
    rw [← hf]
  | _ =>
    refine .inr (.inr (.inr ⟨nofun, nofun, nofun, ?_⟩))
    simp only [RelayCall.next, RelayCall.lock]
    (try split) <;> simp

/-- A frame in the queue was there before, or is the one that the call had. -/
theorem mem_frames_next {s : CameraFrameRelay F} {e : RelayEnv} {c : RelayCall F}
    {q : QueuedCameraFrame F} (hq : q ∈ (RelayCall.next isValid s e c).1.frames) :
    q ∈ s.frames ∨ c = .push q.frame := by
  rcases frames_next isValid s e c with ⟨frame, rfl, hs⟩ | ⟨_, rfl, hs⟩ | ⟨rfl, hs⟩ |
    ⟨-, -, -, hs, -⟩
  · rw [hs] at hq
    rcases List.mem_append.mp hq with hold | hnew
    · refine .inl ?_
      split at hold
      · exact List.mem_of_mem_tail hold
      · exact hold
    · obtain rfl := List.mem_singleton.mp hnew
      exact .inr rfl
  · rw [hs] at hq
    cases hq
  · rw [hs] at hq
    exact .inl (List.mem_of_mem_tail hq)
  · exact .inl (hs ▸ hq)

theorem generation_next (isValid : F → Bool) (s : CameraFrameRelay F) (e : RelayEnv) (c : RelayCall F) :
    (RelayCall.next isValid s e c).1.generation = s.generation ∨
      (RelayCall.next isValid s e c).1.generation = s.nextGeneration ∧ ∃ b, c = .fetchAdd b := by
  cases c with
  | fetchAdd disable => exact .inr ⟨rfl, disable, rfl⟩
  | popFront => cases hf : s.frames <;> simp [RelayCall.next, hf]
  | push | clear => exact .inl rfl
  | _ =>
    refine .inl ?_
    simp only [RelayCall.next, RelayCall.lock]
    try (split <;> rfl)

theorem cameraEnabled_next (isValid : F → Bool) (s : CameraFrameRelay F) (e : RelayEnv) (c : RelayCall F) :
    (RelayCall.next isValid s e c).1.cameraEnabled = s.cameraEnabled ∨
      ∃ b, c = .storeEnabled b ∧ (RelayCall.next isValid s e c).1.cameraEnabled = b := by
  cases c with
  | storeEnabled enabled => exact .inr ⟨enabled, rfl, rfl⟩
  | popFront => cases hf : s.frames <;> simp [RelayCall.next, hf]
  | push | clear => exact .inl rfl
  | _ =>
    refine .inl ?_
    simp only [RelayCall.next, RelayCall.lock]
    try (split <;> rfl)

/-! ## What a call does next -/

/-- The generation is the one of the frame when a call comes to the queue. -/
theorem eq_push {s : CameraFrameRelay F} {e : RelayEnv} {c : RelayCall F} {frame : F}
    (h : (RelayCall.next isValid s e c).2.getLeft? = some (.push frame)) :
    c = .loadGeneration .push s.generation frame := by
  cases c with
  | loadEnabled check | loadSharing check | loadGeneration check =>
    cases check <;> grind [RelayCall.next, RelayCall.failed, RelayCall.passed]
  | _ => grind [RelayCall.next, RelayCall.lock]

/-- The camera is enabled when a call passes the first check before the queue. -/
theorem pushes_next {s : CameraFrameRelay F} {e : RelayEnv} {c c' : RelayCall F}
    (h : (RelayCall.next isValid s e c).2.getLeft? = some c') (hc' : pushes c' = true) :
    pushes c = true ∨ s.cameraEnabled = true := by
  cases c with
  | loadEnabled check | loadSharing check | loadGeneration check =>
    cases check <;> grind [RelayCall.next, RelayCall.failed, RelayCall.passed, pushes]
  | _ => grind [RelayCall.next, RelayCall.lock, pushes]

/-- The generation for which a call of `beginCapture` is to clear the queue, or
has cleared it. -/
def begun : RelayCall F → Option Nat
  | .lockClear (.begun g) | .clear (.begun g) | .unlock (.begun g) => some g
  | _ => none

theorem begun_next {s : CameraFrameRelay F} {e : RelayEnv} {c c' : RelayCall F} {g : Nat}
    (h : (RelayCall.next isValid s e c).2.getLeft? = some c') (hc' : begun c' = some g) :
    begun c = some g ∨ (RelayCall.next isValid s e c).1.generation = g := by
  cases c with
  | loadEnabled check | loadSharing check | loadGeneration check =>
    cases check <;> grind [RelayCall.next, RelayCall.failed, RelayCall.passed, begun]
  | lockClear result => cases result <;> grind [RelayCall.next, RelayCall.lock, begun]
  | clear result => cases result <;> grind [RelayCall.next, begun]
  | _ => grind [RelayCall.next, RelayCall.lock, begun]

theorem eq_clear {s : CameraFrameRelay F} {e : RelayEnv} {c : RelayCall F} {g : Nat}
    (h : (RelayCall.next isValid s e c).2.getLeft? = some (.unlock (.begun g))) :
    c = .clear (.begun g) := by
  cases c with
  | loadEnabled check | loadSharing check | loadGeneration check =>
    cases check <;> grind [RelayCall.next, RelayCall.failed, RelayCall.passed]
  | _ => grind [RelayCall.next, RelayCall.lock]

/-- The generation and the frame of a call that is not yet at the queue. -/
def asks : RelayCall F → Option (Nat × F)
  | .validate g frame | .loadEnabled _ g frame | .loadSharing _ g frame
  | .loadGeneration _ g frame | .lockThrottle g frame | .throttle g frame
  | .unlockThrottle g frame | .lockPush g frame => some (g, frame)
  | _ => none

theorem asks_next {s : CameraFrameRelay F} {e : RelayEnv} {c c' : RelayCall F} {x : Nat × F}
    (h : (RelayCall.next isValid s e c).2.getLeft? = some c') (hc' : asks c' = some x) :
    asks c = some x := by
  cases c with
  | loadEnabled check | loadSharing check | loadGeneration check =>
    cases check <;> grind [RelayCall.next, RelayCall.failed, RelayCall.passed, asks]
  | _ => grind [RelayCall.next, RelayCall.lock, asks]

/-! ## A call that starts -/

theorem hasMutex_call (a : RelayRequest F) : hasMutex a.call = false := by
  cases a <;> rfl

theorem begun_call (a : RelayRequest F) : begun a.call = none := by
  cases a <;> rfl

theorem eq_enqueueFrame {a : RelayRequest F} {g : Nat} {frame : F}
    (h : asks a.call = some (g, frame)) : a = .enqueueFrame g frame := by
  cases a <;> grind [RelayRequest.call, RelayCall.enqueueFrame, RelayCall.beginCapture,
    RelayCall.invalidate, RelayCall.setCameraEnabled, RelayCall.setSharingEnabled,
    RelayCall.popFrame, asks]

end RelayCall

open RelayCall

/-! ## Frames of a capture -/

/-- The mutex is the one of the calls that have it. -/
def MutexOk (p : RelayPool F) : Prop := p.Counts hasMutex p.shared.mutex.toNat

namespace MutexOk

variable {p : RelayPool F}

theorem start (targetFrameRate : Int) : MutexOk (relayStart targetFrameRate : RelayPool F) :=
  Pool.Quiescent.counts (fun _ => rfl) _

theorem taken (h : MutexOk p) {i : Nat} {c : RelayCall F} (hc : p.calls i = some c)
    (hm : hasMutex c = true) : p.shared.mutex = true := by
  have hpos := h.pos_iff.mpr ⟨i, Pool.mem_places hc hm⟩
  cases hs : p.shared.mutex with
  | true => rfl
  | false => simp [hs] at hpos

/-- Two calls that have the mutex are one. -/
theorem eq (h : MutexOk p) {i j : Nat} {c c' : RelayCall F} (hi : p.calls i = some c)
    (hm : hasMutex c = true) (hj : p.calls j = some c') (hm' : hasMutex c' = true) : i = j :=
  h.eq_of_le_one (by cases p.shared.mutex <;> simp) (Pool.mem_places hi hm)
    (Pool.mem_places hj hm')

theorem move (h : MutexOk p) (m : RelayMove F) : MutexOk (relayMove isValid p m) := by
  rcases Pool.move_cases RelayRequest.call (RelayCall.next isValid) (p := p) m with he |
    ⟨i, a, rfl, hi, he⟩ | ⟨i, e, c, rfl, hc, he⟩
  · rwa [relayMove, he]
  · rw [relayMove, he]
    refine Pool.Counts.update h ?_
    simp [hi, hasMutex_call, Pool.setCall]
  · rw [relayMove, he]
    refine Pool.Counts.update h ?_
    rw [hc]
    exact mutex_next fun hm => h.taken hc hm

end MutexOk

/-- Frames from generation `g` on are in the queue, and no others come to it. -/
structure From (capturedBy : F → Nat) (g : Nat) (p : RelayPool F) : Prop where
  generation : g ≤ p.shared.generation
  frames : ∀ q ∈ p.shared.frames, g ≤ capturedBy q.frame
  push : ∀ i frame, p.calls i = some (.push frame) → g ≤ capturedBy frame

/-- The frames are those of the generation that a call gives with them, and a
call that has cleared the queue for a generation leaves only frames from it on. -/
structure CapturesOk (capturedBy : F → Nat) (p : RelayPool F) : Prop where
  mutex : MutexOk p
  asks : ∀ i c g frame, p.calls i = some c → asks c = some (g, frame) → capturedBy frame = g
  begun : ∀ i c g, p.calls i = some c → begun c = some g → g ≤ p.shared.generation
  cleared : ∀ i g, p.calls i = some (.unlock (.begun g)) → From capturedBy g p

/-- The generation does not come round, and frames come with their generation. -/
def MoveOk (capturedBy : F → Nat) (p : RelayPool F) (m : RelayMove F) : Prop :=
  p.shared.generation + 1 < 2 ^ 64 ∧
    ∀ i g frame, m = .start i (.enqueueFrame g frame) → capturedBy frame = g

theorem generation_le_next (isValid : F → Bool) {s : CameraFrameRelay F} (h : s.generation + 1 < 2 ^ 64)
    (e : RelayEnv) (c : RelayCall F) :
    s.generation ≤ (RelayCall.next isValid s e c).1.generation := by
  rcases generation_next isValid s e c with hg | ⟨hg, -⟩
  · rw [hg]
  · rw [hg, CameraFrameRelay.nextGeneration, Nat.mod_eq_of_lt h]
    exact Nat.le_succ _

/-- A place of the pool after a call in place `i` has become `c'`. -/
theorem update_cases {calls : Nat → Option (RelayCall F)} {i j : Nat} {c' : Option (RelayCall F)}
    {c : RelayCall F} (h : Function.update calls i c' j = some c) :
    (j = i ∧ c' = some c) ∨ (j ≠ i ∧ calls j = some c) := by
  by_cases hj : j = i
  · subst hj
    exact .inl ⟨rfl, (Function.update_self j _ _).symm.trans h⟩
  · exact .inr ⟨hj, (Function.update_of_ne hj _ _).symm.trans h⟩

namespace From

variable {capturedBy : F → Nat} {g : Nat} {p : RelayPool F}

theorem move (h : From capturedBy g p) (hp : CapturesOk capturedBy p) {m : RelayMove F}
    (hm : MoveOk capturedBy p m) : From capturedBy g (relayMove isValid p m) := by
  rcases Pool.move_cases RelayRequest.call (RelayCall.next isValid) (p := p) m with he |
    ⟨i, a, rfl, hi, he⟩ | ⟨i, e, c, rfl, hc, he⟩
  · rwa [relayMove, he]
  · rw [relayMove, he]
    refine ⟨h.generation, h.frames, fun j frame hj => ?_⟩
    rcases update_cases hj with ⟨-, ha⟩ | ⟨-, hj⟩
    · cases a <;> cases ha
    · exact h.push j frame hj
  · rw [relayMove, he]
    refine ⟨h.generation.trans (generation_le_next isValid hm.1 e c), fun q hq => ?_,
      fun j frame hj => ?_⟩
    · rcases mem_frames_next hq with hold | rfl
      · exact h.frames q hold
      · exact h.push i q.frame hc
    · rcases update_cases hj with ⟨-, hc'⟩ | ⟨-, hj⟩
      · -- the generation has just been compared, with the mutex taken
        have hload := eq_push hc'
        have hown := hp.asks i c p.shared.generation frame hc (by rw [hload]; rfl)
        rw [hown]
        exact h.generation
      · exact h.push j frame hj

end From

namespace CapturesOk

variable {capturedBy : F → Nat} {p : RelayPool F}

theorem start (targetFrameRate : Int) :
    CapturesOk capturedBy (relayStart targetFrameRate : RelayPool F) where
  mutex := MutexOk.start targetFrameRate
  asks := nofun
  begun := nofun
  cleared := nofun

theorem move (h : CapturesOk capturedBy p) {m : RelayMove F} (hm : MoveOk capturedBy p m) :
    CapturesOk capturedBy (relayMove isValid p m) := by
  have hfrom : ∀ i g, p.calls i = some (.unlock (.begun g)) →
      From capturedBy g (relayMove isValid p m) := fun i g hi => (h.cleared i g hi).move h hm
  have hmutex : MutexOk (relayMove isValid p m) := h.mutex.move m
  rcases Pool.move_cases RelayRequest.call (RelayCall.next isValid) (p := p) m with he |
    ⟨i, a, rfl, hi, he⟩ | ⟨i, e, c, rfl, hc, he⟩
  · rwa [relayMove, he]
  · rw [relayMove, he] at hfrom hmutex ⊢
    refine ⟨hmutex, fun j c g frame hj hasks => ?_, fun j c g hj hg => ?_, fun j g hj => ?_⟩
    · rcases update_cases hj with ⟨-, ha⟩ | ⟨-, hj⟩
      · obtain rfl := Option.some.inj ha
        exact hm.2 i g frame (by rw [eq_enqueueFrame hasks])
      · exact h.asks j c g frame hj hasks
    · rcases update_cases hj with ⟨-, ha⟩ | ⟨-, hj⟩
      · obtain rfl := Option.some.inj ha
        rw [begun_call] at hg
        cases hg
      · exact h.begun j c g hj hg
    · rcases update_cases hj with ⟨-, ha⟩ | ⟨-, hj⟩
      · cases a <;> cases ha
      · exact hfrom j g hj
  · rw [relayMove, he] at hfrom hmutex ⊢
    refine ⟨hmutex, fun j c' g frame hj hasks => ?_, fun j c' g hj hg => ?_, fun j g hj => ?_⟩
    · rcases update_cases hj with ⟨-, hc'⟩ | ⟨-, hj⟩
      · exact h.asks i c g frame hc (asks_next hc' hasks)
      · exact h.asks j c' g frame hj hasks
    · rcases update_cases hj with ⟨-, hc'⟩ | ⟨-, hj⟩
      · rcases begun_next hc' hg with hold | hnew
        · exact (h.begun i c g hc hold).trans (generation_le_next isValid hm.1 e c)
        · exact hnew.ge
      · exact (h.begun j c' g hj hg).trans (generation_le_next isValid hm.1 e c)
    · rcases update_cases hj with ⟨-, hc'⟩ | ⟨-, hj⟩
      · -- the queue is empty, and no other call has the mutex
        obtain rfl := eq_clear hc'
        refine ⟨h.begun i _ g hc rfl, nofun, fun k frame hk => ?_⟩
        rcases update_cases hk with ⟨-, hk⟩ | ⟨hki, hk⟩
        · cases hk
        · exact absurd (h.mutex.eq hk rfl hc rfl) hki
      · exact hfrom j g hj

end CapturesOk

/-- No frame is of a generation to come. -/
structure UpTo (capturedBy : F → Nat) (p : RelayPool F) : Prop where
  frames : ∀ q ∈ p.shared.frames, capturedBy q.frame ≤ p.shared.generation
  push : ∀ i frame, p.calls i = some (.push frame) → capturedBy frame ≤ p.shared.generation

theorem UpTo.move {capturedBy : F → Nat} {p : RelayPool F} (h : UpTo capturedBy p)
    (hp : CapturesOk capturedBy p) {m : RelayMove F} (hm : MoveOk capturedBy p m) :
    UpTo capturedBy (relayMove isValid p m) := by
  rcases Pool.move_cases RelayRequest.call (RelayCall.next isValid) (p := p) m with he |
    ⟨i, a, rfl, hi, he⟩ | ⟨i, e, c, rfl, hc, he⟩
  · rwa [relayMove, he]
  · rw [relayMove, he]
    refine ⟨h.frames, fun j frame hj => ?_⟩
    rcases update_cases hj with ⟨-, ha⟩ | ⟨-, hj⟩
    · cases a <;> cases ha
    · exact h.push j frame hj
  · rw [relayMove, he]
    have hle := generation_le_next isValid hm.1 e c
    refine ⟨fun q hq => ?_, fun j frame hj => ?_⟩
    · rcases mem_frames_next hq with hold | rfl
      · exact (h.frames q hold).trans hle
      · exact (h.push i q.frame hc).trans hle
    · rcases update_cases hj with ⟨-, hc'⟩ | ⟨-, hj⟩
      · have hload := eq_push hc'
        have hown := hp.asks i c p.shared.generation frame hc (by rw [hload]; rfl)
        rw [hown]
        exact hle
      · exact (h.push j frame hj).trans hle

theorem generation_move (isValid : F → Bool) (p : RelayPool F) (m : RelayMove F) :
    (relayMove isValid p m).shared.generation ≤ p.shared.generation + 1 := by
  rcases Pool.move_cases RelayRequest.call (RelayCall.next isValid) (p := p) m with he |
    ⟨i, a, rfl, hi, he⟩ | ⟨i, e, c, rfl, hc, he⟩
  · rw [relayMove, he]
    omega
  · rw [relayMove, he]
    exact Nat.le_succ _
  · rw [relayMove, he]
    rcases generation_next isValid p.shared e c with hg | ⟨hg, -⟩
    · exact hg.trans_le (Nat.le_succ _)
    · exact hg.trans_le (Nat.mod_le _ _)

/-- A run that is not longer than the generation counts. -/
theorem along_moveOk {capturedBy : F → Nat} {p : RelayPool F} {moves : List (RelayMove F)}
    (hframes : ∀ m ∈ moves, ∀ j g frame, m = .start j (.enqueueFrame g frame) →
      capturedBy frame = g)
    (hlen : p.shared.generation + moves.length < 2 ^ 64) :
    Along (relayMove isValid) (MoveOk capturedBy) p moves := by
  induction moves generalizing p with
  | nil => trivial
  | cons m moves ih =>
    rw [List.length_cons] at hlen
    obtain ⟨hm, hmoves⟩ := List.forall_mem_cons.mp hframes
    have hle := generation_move isValid p m
    exact ⟨⟨by omega, hm⟩, ih hmoves (by omega)⟩

/-- When `beginCapture` has cleared the queue for generation `g`, no frame of an
earlier generation is ever in the queue again, whatever calls were in progress and
however all of them interleave; nor is there a frame of a generation to come, so
that they are of generation `g` until the next one is taken. -/
theorem frames_of_begun {capturedBy : F → Nat} {targetFrameRate : Int}
    {moves moves' : List (RelayMove F)} {i g : Nat}
    (hframes : ∀ m ∈ moves ++ moves', ∀ j g' frame, m = .start j (.enqueueFrame g' frame) →
      capturedBy frame = g')
    (hlen : (moves ++ moves').length < 2 ^ 64)
    (hi : (run (relayMove isValid) (relayStart targetFrameRate) moves).calls i =
      some (.unlock (.begun g))) :
    ∀ q ∈ (run (relayMove isValid) (relayStart targetFrameRate) (moves ++ moves')).shared.frames,
      g ≤ capturedBy q.frame ∧ capturedBy q.frame ≤
        (run (relayMove isValid) (relayStart targetFrameRate)
          (moves ++ moves')).shared.generation := by
  have halong : Along (relayMove isValid) (MoveOk capturedBy) (relayStart targetFrameRate)
      (moves ++ moves') := along_moveOk hframes ((Nat.zero_add _).trans_lt hlen)
  obtain ⟨hbefore, hafter⟩ := along_append_iff.mp halong
  have hok := hbefore.inv (P := fun p => CapturesOk capturedBy p ∧ UpTo capturedBy p)
    (fun p m hm h => ⟨h.1.move hm, h.2.move h.1 hm⟩) ⟨.start targetFrameRate, nofun, nofun⟩
  have hend := hafter.inv
    (P := fun p => (CapturesOk capturedBy p ∧ UpTo capturedBy p) ∧ From capturedBy g p)
    (fun p m hm h => ⟨⟨h.1.1.move hm, h.1.2.move h.1.1 hm⟩, h.2.move h.1.1 hm⟩)
    ⟨hok, hok.1.cleared i g hi⟩
  rw [run_append]
  exact fun q hq => ⟨hend.2.frames q hq, hend.1.2.frames q hq⟩

/-- The call in place `i` takes `n` steps. -/
def stepsOf (i n : Nat) : List (RelayMove Nat) :=
  List.replicate n (.step i { now := 1, woken := true })

/-- The camera is enabled, and a capture has cleared the queue while an older frame
has passed the throttle. -/
def firstCapture : List (RelayMove Nat) :=
  [.start 0 (.setCameraEnabled true), .start 1 (.enqueueFrame 0 0), .start 2 .beginCapture] ++
    stepsOf 0 1 ++ stepsOf 1 10 ++ stepsOf 2 3

def firstFrame : List (RelayMove Nat) :=
  stepsOf 2 1 ++ [.start 0 (.enqueueFrame 1 1)] ++ stepsOf 0 16 ++ stepsOf 1 6

theorem frames_of_firstCapture :
    ((run (relayMove fun _ => true) (relayStart 30) (firstCapture ++ firstFrame)).shared.frames =
      [⟨1, 0⟩]) ∧
    ∀ q ∈ (run (relayMove fun _ => true) (relayStart 30)
        (firstCapture ++ firstFrame)).shared.frames,
      1 ≤ id q.frame ∧ id q.frame ≤ (run (relayMove fun _ => true) (relayStart 30)
        (firstCapture ++ firstFrame)).shared.generation := by
  refine ⟨by decide, frames_of_begun (i := 2) ?_ (by decide) (by decide)⟩
  intro m hm j g frame h
  subst h
  simp [firstCapture, firstFrame, stepsOf] at hm
  show frame = g
  omega

/-! ## A disabled camera -/

/-- The queue is empty and no call is about to put a frame into it. -/
structure Drained (p : RelayPool F) : Prop where
  frames : p.shared.frames = []
  calls : ∀ i c, p.calls i = some c → pushes c = false

/-- The camera is enabled, or a call that has disabled it is to clear the queue, or
this has been done. -/
def DisabledOk (p : RelayPool F) : Prop :=
  p.shared.cameraEnabled = false → p.Has (fun c => disables c = true) ∨ Drained p

theorem frames_next_of_nil {s : CameraFrameRelay F} {e : RelayEnv} {c : RelayCall F}
    (h : s.frames = []) (hc : pushes c = false) : (RelayCall.next isValid s e c).1.frames = [] := by
  rw [List.eq_nil_iff_forall_not_mem]
  intro q hq
  rcases mem_frames_next hq with hold | rfl
  · rw [h] at hold
    cases hold
  · cases hc

/-- A call that has disabled the camera waits for the mutex, or clears the queue. -/
theorem disables_cases (isValid : F → Bool) (s : CameraFrameRelay F) (e : RelayEnv)
    {c : RelayCall F} (h : disables c = true) :
    c = .clear .done ∨
      ∃ c', (RelayCall.next isValid s e c).2.getLeft? = some c' ∧ disables c' = true := by
  cases c with
  | lockClear result =>
    cases result <;> grind [RelayCall.next, RelayCall.lock, disables]
  | clear result => cases result <;> grind [disables]
  | _ => cases h

theorem DisabledOk.move {p : RelayPool F} (h : DisabledOk p) (hmutex : MutexOk p)
    (m : RelayMove F) : DisabledOk (relayMove isValid p m) := by
  rcases Pool.move_cases RelayRequest.call (RelayCall.next isValid) (p := p) m with he |
    ⟨i, a, rfl, hi, he⟩ | ⟨i, e, c, rfl, hc, he⟩
  · rwa [relayMove, he]
  · rw [relayMove, he]
    intro hdis
    rcases h hdis with hhas | hdrained
    · exact .inl (hhas.update (by simp [hi]))
    · refine .inr ⟨hdrained.frames, fun j c hj => ?_⟩
      rcases update_cases hj with ⟨-, ha⟩ | ⟨-, hj⟩
      · obtain rfl := Option.some.inj ha
        cases a <;> rfl
      · exact hdrained.calls j c hj
  · rw [relayMove, he]
    intro hdis
    by_cases hd : disables c = true
    · rcases disables_cases isValid p.shared e hd with rfl |
        ⟨c', hc', hd'⟩
      · -- the queue is empty, and no other call has the mutex
        refine .inr ⟨rfl, fun j c hj => ?_⟩
        rcases update_cases hj with ⟨-, hj⟩ | ⟨hji, hj⟩
        · obtain rfl := Option.some.inj hj
          rfl
        · by_contra hpush
          have hm := hasMutex_of_pushes (Bool.eq_true_of_not_eq_false hpush)
          exact hji (hmutex.eq hj hm hc rfl)
      · rw [hc']
        exact .inl (Pool.has_update_self hd')
    · rcases cameraEnabled_next isValid p.shared e c with hsame | ⟨b, rfl, hb⟩
      · rw [hsame] at hdis
        rcases h hdis with hhas | hdrained
        · refine .inl (hhas.update fun c' hc' => ?_)
          obtain rfl := Option.some.inj (hc.symm.trans hc')
          exact hd
        · refine .inr ⟨frames_next_of_nil hdrained.frames (hdrained.calls i c hc), ?_⟩
          intro j c' hj
          rcases update_cases hj with ⟨-, hc'⟩ | ⟨-, hj⟩
          · by_contra hpush
            rcases pushes_next hc' (Bool.eq_true_of_not_eq_false hpush) with hold | hen
            · rw [hdrained.calls i c hc] at hold
              cases hold
            · rw [hdis] at hen
              cases hen
          · exact hdrained.calls j c' hj
      · obtain rfl := hb.symm.trans hdis
        exact .inl (Pool.has_update_self rfl)

/-- In every state that calls reach, however they interleave: while the camera is
disabled, and no call that has disabled it is still to clear the queue, the queue
is empty, so that no frame leaves the relay before the camera is enabled again. -/
theorem frames_of_disabled (targetFrameRate : Int) (moves : List (RelayMove F))
    (hdis : (run (relayMove isValid) (relayStart targetFrameRate) moves).shared.cameraEnabled =
      false)
    (hdone : ¬ (run (relayMove isValid) (relayStart targetFrameRate) moves).Has
      (fun c => disables c = true)) :
    (run (relayMove isValid) (relayStart targetFrameRate) moves).shared.frames = [] := by
  have hstep : ∀ (p : RelayPool F) (m : RelayMove F), MutexOk p ∧ DisabledOk p →
      MutexOk (relayMove isValid p m) ∧ DisabledOk (relayMove isValid p m) :=
    fun p m h => ⟨h.1.move m, h.2.move h.1 m⟩
  have hok := run_inv hstep (s := relayStart targetFrameRate)
    ⟨MutexOk.start targetFrameRate, fun _ => .inr ⟨rfl, nofun⟩⟩ moves
  rcases hok.2 hdis with hhas | hdrained
  · exact absurd hhas hdone
  · exact hdrained.frames

/-- The camera is disabled while a frame is on its way to the queue. -/
def disabledInPush : List (RelayMove Nat) :=
  [.start 0 (.setCameraEnabled true), .start 1 (.enqueueFrame 0 0),
      .start 2 (.setCameraEnabled false)] ++
    stepsOf 0 1 ++ stepsOf 1 13 ++ stepsOf 2 1 ++ stepsOf 1 2 ++ stepsOf 2 1 ++ stepsOf 1 1 ++
    stepsOf 2 3

theorem frames_of_disabledInPush :
    (run (relayMove fun _ => true) (relayStart 30) disabledInPush).shared.frames = [] :=
  frames_of_disabled 30 disabledInPush (by decide) (by
    rintro ⟨i, c, hc, hd⟩
    have hnone : ∀ i, (run (relayMove fun _ => true) (relayStart 30) disabledInPush).calls i =
        none :=
      Pool.quiescent_of_lt (k := 3) (fun _ => rfl) (by decide) (by decide)
    cases (hnone i).symm.trans hc)

/-! ## The order of the frames -/

/-- The relay, the frames that were queued since the queue was last cleared, and
those that were taken out since then. -/
structure RelayWatch (F : Type*) where
  pool : RelayPool F
  accepted : List (QueuedCameraFrame F)
  taken : List (QueuedCameraFrame F)

namespace RelayWatch

def start (targetFrameRate : Int) : RelayWatch F :=
  { pool := relayStart targetFrameRate, accepted := [], taken := [] }

/-- What is noted of the access that a call is about to make. A clear empties the
queue and sets the last number to -1, and both lists start again with it. -/
def note (w : RelayWatch F) (e : RelayEnv) : Option (RelayCall F) → RelayWatch F
  | some (.clear _) => { w with accepted := [], taken := [] }
  | some (.push frame) =>
    { w with accepted := w.accepted ++ [⟨frame, w.pool.shared.computedPts e.now⟩] }
  | some .popFront => { w with taken := w.taken ++ w.pool.shared.frames.head?.toList }
  | _ => w

theorem note_of_ne (w : RelayWatch F) (e : RelayEnv) {c : RelayCall F}
    (hpush : ∀ frame, c ≠ .push frame) (hclear : ∀ result, c ≠ .clear result)
    (hpop : c ≠ .popFront) : w.note e (some c) = w := by
  cases c with
  | push frame => exact absurd rfl (hpush frame)
  | clear result => exact absurd rfl (hclear result)
  | popFront => exact absurd rfl hpop
  | _ => rfl

def move (isValid : F → Bool) (w : RelayWatch F) (m : RelayMove F) : RelayWatch F :=
  match m with
  | .start _ _ => { w with pool := relayMove isValid w.pool m }
  | .step i e => { w.note e (w.pool.calls i) with pool := relayMove isValid w.pool m }

end RelayWatch

/-- The queue is the end of what was queued, and what was taken came before it. -/
structure RelayWatchOk (s : CameraFrameRelay F) (accepted taken : List (QueuedCameraFrame F)) :
    Prop where
  queue : ∃ gone, accepted = gone ++ s.frames ∧ taken.Sublist gone
  pts : (accepted.map (·.pts)).Pairwise (· < ·)
  last : ∀ q ∈ accepted, q.pts ≤ s.lastAssignedPts
  capacity : s.frames.length ≤ CameraFrameRelay.kCapacity

namespace RelayWatchOk

variable {s : CameraFrameRelay F} {accepted taken : List (QueuedCameraFrame F)}

theorem lt_computedPts (s : CameraFrameRelay F) (now : Int) :
    s.lastAssignedPts < s.computedPts now := by
  simp only [CameraFrameRelay.computedPts]
  split <;> omega

theorem same {s' : CameraFrameRelay F} (h : RelayWatchOk s accepted taken)
    (hframes : s'.frames = s.frames) (hlast : s'.lastAssignedPts = s.lastAssignedPts) :
    RelayWatchOk s' accepted taken := by
  refine ⟨?_, h.pts, ?_, ?_⟩
  · rw [hframes]
    exact h.queue
  · rw [hlast]
    exact h.last
  · rw [hframes]
    exact h.capacity

theorem cleared (s : CameraFrameRelay F) : RelayWatchOk s.cleared [] [] :=
  ⟨⟨[], rfl, List.Sublist.refl _⟩, List.Pairwise.nil, nofun, Nat.zero_le _⟩

theorem pushed (h : RelayWatchOk s accepted taken) (frame : F) (now : Int) :
    RelayWatchOk (s.pushed frame now) (accepted ++ [⟨frame, s.computedPts now⟩]) taken := by
  have hlt := lt_computedPts s now
  obtain ⟨gone, hqueue, htaken⟩ := h.queue
  have hcap := h.capacity
  refine ⟨?_, ?_, ?_, ?_⟩
  · by_cases hfull : CameraFrameRelay.kCapacity ≤ s.frames.length
    · -- the oldest frame makes room
      obtain ⟨front, rest, hfr⟩ : ∃ front rest, s.frames = front :: rest :=
        List.exists_cons_of_ne_nil (List.ne_nil_of_length_pos (Nat.lt_of_lt_of_le (by decide) hfull))
      refine ⟨gone ++ [front], ?_, htaken.trans (List.sublist_append_left _ _)⟩
      have hframes : (s.pushed frame now).frames = rest ++ [⟨frame, s.computedPts now⟩] := by
        simp only [CameraFrameRelay.pushed, if_pos hfull]
        rw [hfr]
        rfl
      rw [hframes, hqueue, hfr]
      simp
    · refine ⟨gone, ?_, htaken⟩
      simp [CameraFrameRelay.pushed, hqueue, hfull]
  · rw [List.map_append, List.pairwise_append]
    refine ⟨h.pts, List.pairwise_singleton _ _, fun a ha b hb => ?_⟩
    obtain ⟨q, hq, rfl⟩ := List.mem_map.mp ha
    obtain rfl := List.mem_singleton.mp hb
    exact (h.last q hq).trans_lt hlt
  · intro q hq
    show q.pts ≤ s.computedPts now
    rcases List.mem_append.mp hq with hold | hnew
    · exact (h.last q hold).trans hlt.le
    · obtain rfl := List.mem_singleton.mp hnew
      exact le_refl _
  · show ((if _ then _ else _) ++ [_]).length ≤ _
    have hthree : CameraFrameRelay.kCapacity = 3 := rfl
    rw [List.length_append, List.length_singleton]
    split
    · rw [List.length_tail]
      omega
    · omega

theorem popped (h : RelayWatchOk s accepted taken) :
    RelayWatchOk { s with frames := s.frames.tail } accepted
      (taken ++ s.frames.head?.toList) := by
  obtain ⟨gone, hqueue, htaken⟩ := h.queue
  refine ⟨⟨gone ++ s.frames.head?.toList, ?_, htaken.append (List.Sublist.refl _)⟩, h.pts, h.last,
    ?_⟩
  · rw [hqueue, List.append_assoc]
    cases s.frames <;> rfl
  · show s.frames.tail.length ≤ _
    rw [List.length_tail]
    exact (Nat.sub_le ..).trans h.capacity

theorem move {w : RelayWatch F} (h : RelayWatchOk w.pool.shared w.accepted w.taken)
    (m : RelayMove F) :
    RelayWatchOk (w.move isValid m).pool.shared (w.move isValid m).accepted
      (w.move isValid m).taken := by
  cases m with
  | start i a =>
    have hshared : (relayMove isValid w.pool (.start i a)).shared = w.pool.shared := by
      simp only [relayMove, Pool.move]
      split <;> rfl
    exact h.same (congrArg _ hshared) (congrArg _ hshared)
  | step i e =>
    simp only [RelayWatch.move]
    cases hc : w.pool.calls i with
    | none =>
      have hshared : (relayMove isValid w.pool (.step i e)).shared = w.pool.shared := by
        simp only [relayMove, Pool.move, hc]
      exact h.same (congrArg _ hshared) (congrArg _ hshared)
    | some c =>
      have hshared : (relayMove isValid w.pool (.step i e)).shared =
          (RelayCall.next isValid w.pool.shared e c).1 := by
        simp only [relayMove, Pool.move, hc]
      rw [hshared]
      rcases frames_next isValid w.pool.shared e c with ⟨frame, rfl, hs⟩ |
        ⟨result, rfl, hs⟩ | ⟨rfl, hs⟩ | ⟨hpush, hclear, hpop, hframes, hlast⟩
      · rw [hs]
        exact h.pushed frame e.now
      · rw [hs]
        exact .cleared _
      · rw [hs]
        exact h.popped
      · rw [w.note_of_ne e hpush hclear hpop]
        exact h.same hframes hlast

end RelayWatchOk

/-- In every run, the frames taken out and the frames still in the queue are, in
this order and without repetition, among those queued since the queue was last
cleared; those in the queue are the latest, at most `kCapacity`, and the numbers
of all of them increase. -/
theorem taken_and_queued (targetFrameRate : Int) (moves : List (RelayMove F)) :
    ((run (RelayWatch.move isValid) (.start targetFrameRate) moves).taken ++
        (run (RelayWatch.move isValid) (.start targetFrameRate) moves).pool.shared.frames).Sublist
      (run (RelayWatch.move isValid) (.start targetFrameRate) moves).accepted ∧
    (run (RelayWatch.move isValid) (.start targetFrameRate) moves).pool.shared.frames <:+
      (run (RelayWatch.move isValid) (.start targetFrameRate) moves).accepted ∧
    (run (RelayWatch.move isValid) (.start targetFrameRate) moves).pool.shared.frames.length ≤
      CameraFrameRelay.kCapacity ∧
    ((run (RelayWatch.move isValid) (.start targetFrameRate) moves).accepted.map
      (·.pts)).Pairwise (· < ·) := by
  have hok : RelayWatchOk
      (run (RelayWatch.move isValid) (.start targetFrameRate) moves).pool.shared
      (run (RelayWatch.move isValid) (.start targetFrameRate) moves).accepted
      (run (RelayWatch.move isValid) (.start targetFrameRate) moves).taken :=
    run_inv (P := fun w : RelayWatch F => RelayWatchOk w.pool.shared w.accepted w.taken)
      (fun _ m h => h.move m) (RelayWatchOk.cleared (.new targetFrameRate)) moves
  obtain ⟨gone, hqueue, htaken⟩ := hok.queue
  refine ⟨?_, ⟨gone, hqueue.symm⟩, hok.capacity, hok.pts⟩
  rw [hqueue]
  exact htaken.append (List.Sublist.refl _)

end MeetingSystem.Proof.Client
