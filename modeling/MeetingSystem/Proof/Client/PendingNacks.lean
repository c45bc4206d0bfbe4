import MeetingSystem.Framework.Run
import MeetingSystem.Impl.Client.PendingNacks

/-!
# The limits of the pending NACKs

A run is watched with what the table does not keep: for every entry, when it
was made and when its NACKs were sent (`Life`). All limits hold but one: an
enqueue stops when it has filled an entry to 32 numbers, but it first adds one
to an entry that is full. `limitsKept_along_iff`: that is the only exception.

The attempts are counted in 32 bits. They stay below 40, as after the third a
NACK is sent for one second at most (`Few`), so the count never starts again
at 0, which would allow a NACK at once.
-/

namespace MeetingSystem.Proof.Client

open MeetingSystem.Framework MeetingSystem.Impl.Client

/-! ## Watched runs -/

/-- An entry of the table, from when it was made; the last NACK comes first. -/
structure Life where
  createdAtMs : Nat
  sentAtMs : List Nat

structure Watched where
  table : PendingNackRequests
  lives : UInt32 → Option Life
  clock : Nat

namespace Watched

def new : Watched := { table := ∅, lives := fun _ => none, clock := 0 }

variable (w : Watched) (op : NackOp)

/-- The streams a NACK is sent for. -/
def sends : List UInt32 := (op.flushed w.table).nackSends.map (·.remoteMediaSsrc)

def fallbacks : List UInt32 := (op.flushed w.table).fallbackKeyFrames

def nowMs : Nat := op.nowMs?.getD w.clock

/-- The life of an entry that is there after the operation. -/
def nextLife (ssrc : UInt32) : Life :=
  let life := (w.lives ssrc).getD { createdAtMs := w.nowMs op, sentAtMs := [] }
  if ssrc ∈ w.sends op then { life with sentAtMs := w.nowMs op :: life.sentAtMs } else life

def step : Watched :=
  let table := (op.flushed w.table).pendingNackRequests
  { table
    lives := fun ssrc => if ssrc ∈ table then some (w.nextLife op ssrc) else none
    clock := w.nowMs op }

/-- Time does not go back. -/
def Timely : Prop := ∀ nowMs ∈ op.nowMs?, w.clock ≤ nowMs

end Watched

/-! ## The property -/

structure LimitsKept (w : Watched) (op : NackOp) : Prop where
  size : (w.step op).table.keys.length ≤ 64
  sequences : ∀ ssrc request, (w.step op).table.lookup ssrc = some request →
    request.missingSequences.Nodup ∧ request.missingSequences.length ≤ 32
  once : (w.sends op).Nodup
  spaced : ∀ ssrc ∈ w.sends op, ∃ life, w.lives ssrc = some life ∧
    ∀ sentAtMs ∈ life.sentAtMs, sentAtMs + 60 ≤ w.nowMs op
  patient : ∀ ssrc ∈ w.fallbacks op, ∃ life, w.lives ssrc = some life ∧
    3 ≤ life.sentAtMs.length ∧ life.createdAtMs + 1000 ≤ w.nowMs op

/-- No number is new to an entry that is full. -/
def HasRoom (w : Watched) : NackOp → Prop
  | .enqueue _ _ remoteMediaSsrc missingSequences =>
    ∀ request, w.table.lookup remoteMediaSsrc = some request →
      32 ≤ request.missingSequences.length →
        ∀ sequenceNumber ∈ missingSequences, sequenceNumber ∈ request.missingSequences
  | .clear _ | .flush _ | .rehash _ => True

/-! ## The numbers of an entry -/

theorem appendMissing_ne_nil {missing new : List UInt16} (h : missing ≠ [] ∨ new ≠ []) :
    appendMissing missing new ≠ [] := by
  induction new generalizing missing with
  | nil => simpa [appendMissing] using h
  | cons sequenceNumber rest ih =>
    rw [appendMissing]
    split
    · rename_i hmem
      exact ih (.inl (List.ne_nil_of_mem hmem))
    · simp only
      split
      · simp
      · exact ih (.inl (by simp))

theorem nodup_appendMissing {missing : List UInt16} (h : missing.Nodup) (new : List UInt16) :
    (appendMissing missing new).Nodup := by
  induction new generalizing missing with
  | nil => exact h
  | cons sequenceNumber rest ih =>
    rw [appendMissing]
    split
    · exact ih h
    · rename_i hmem
      have hnext : (missing ++ [sequenceNumber]).Nodup :=
        List.nodup_append.mpr ⟨h, List.nodup_singleton _, by grind⟩
      simp only
      split
      · exact hnext
      · exact ih hnext

/-- Below 32 numbers the loop stops in time. -/
theorem length_appendMissing_le {missing : List UInt16} (h : missing.length < 32)
    (new : List UInt16) : (appendMissing missing new).length ≤ 32 := by
  induction new generalizing missing with
  | nil => exact Nat.le_of_lt h
  | cons sequenceNumber rest ih =>
    rw [appendMissing]
    split
    · exact ih h
    · simp only [List.length_append, List.length_singleton]
      split
      · rw [List.length_append, List.length_singleton]
        omega
      · exact ih (by rw [List.length_append, List.length_singleton]; omega)

theorem appendMissing_of_mem {missing new : List UInt16}
    (h : ∀ sequenceNumber ∈ new, sequenceNumber ∈ missing) :
    appendMissing missing new = missing := by
  induction new with
  | nil => rfl
  | cons sequenceNumber rest ih =>
    obtain ⟨hmem, hrest⟩ := List.forall_mem_cons.mp h
    rw [appendMissing, if_pos hmem, ih hrest]

theorem length_appendMissing_full {missing new : List UInt16} (h : 32 ≤ missing.length)
    (hnew : ¬ ∀ sequenceNumber ∈ new, sequenceNumber ∈ missing) :
    (appendMissing missing new).length = missing.length + 1 := by
  induction new with
  | nil => exact absurd (fun _ hmem => absurd hmem List.not_mem_nil) hnew
  | cons sequenceNumber rest ih =>
    rw [appendMissing]
    by_cases hmem : sequenceNumber ∈ missing
    · rw [if_pos hmem]
      exact ih fun hrest => hnew (List.forall_mem_cons.mpr ⟨hmem, hrest⟩)
    · have hlength : (missing ++ [sequenceNumber]).length = missing.length + 1 := by simp
      simp only [hmem, if_false]
      rw [if_pos (by omega), hlength]

/-- One number too many, or none. -/
theorem length_appendMissing_iff {missing : List UInt16} (h : missing.length ≤ 32)
    (new : List UInt16) : (appendMissing missing new).length ≤ 32 ↔
      (32 ≤ missing.length → ∀ sequenceNumber ∈ new, sequenceNumber ∈ missing) := by
  by_cases hfull : 32 ≤ missing.length
  · by_cases hnew : ∀ sequenceNumber ∈ new, sequenceNumber ∈ missing
    · rw [appendMissing_of_mem hnew]
      exact iff_of_true h fun _ => hnew
    · rw [length_appendMissing_full hfull hnew]
      exact iff_of_false (by omega) fun hall => hnew (hall hfull)
  · exact iff_of_true (length_appendMissing_le (by omega) new) fun hfull' => absurd hfull' hfull

/-! ## An entry and its life -/

/-- At most `base` attempts, or those after them lie 60 ms apart within the
second after the first request. -/
def Few (base : Nat) (request : PendingNackRequest) : Prop :=
  request.attempts.toNat ≤ base ∨
    request.firstRequestedAtMs ≤ request.lastSentAtMs ∧
      request.lastSentAtMs < request.firstRequestedAtMs + 1000 ∧
      60 * (request.attempts.toNat - (base + 1)) ≤
        request.lastSentAtMs - request.firstRequestedAtMs

structure EntryOk (clock : Nat) (ssrc : UInt32) (request : PendingNackRequest) (life : Life) :
    Prop where
  named : request.remoteMediaSsrc = ssrc
  named_ne : ssrc ≠ 0
  missing : request.missingSequences ≠ []
  distinct : request.missingSequences.Nodup
  room : request.missingSequences.length ≤ 32
  attempts : life.sentAtMs.length = request.attempts.toNat
  created : life.createdAtMs ≤ request.firstRequestedAtMs
  first : request.firstRequestedAtMs ≤ clock
  sent : ∀ sentAtMs ∈ life.sentAtMs, sentAtMs ≤ request.lastSentAtMs
  last : request.lastSentAtMs ≤ clock
  few : Few 20 request
  -- an entry made at time 0 gets its time again from the next enqueue
  fewAtZero : request.firstRequestedAtMs = 0 → Few 3 request

variable {clock now : Nat} {ssrc : UInt32} {request : PendingNackRequest} {life : Life}

theorem EntryOk.mono (h : EntryOk clock ssrc request life) (hclock : clock ≤ now) :
    EntryOk now ssrc request life :=
  { h with first := Nat.le_trans h.first hclock, last := Nat.le_trans h.last hclock }

theorem Few.attempts_le {base : Nat} (h : Few base request) :
    request.attempts.toNat ≤ base + 17 := by
  rcases h with h | ⟨hle, hlt, hmul⟩ <;> omega

theorem EntryOk.enqueue (h : EntryOk clock ssrc request life) (hclock : clock ≤ now)
    {missing : List UInt16}
    (hroom : (appendMissing request.missingSequences missing).length ≤ 32) :
    EntryOk now ssrc (request.enqueue now ssrc missing) life where
  named := rfl
  named_ne := h.named_ne
  missing := appendMissing_ne_nil (.inl h.missing)
  distinct := nodup_appendMissing h.distinct missing
  room := hroom
  attempts := h.attempts
  created := by
    have := h.created
    simp only [PendingNackRequest.enqueue]
    split <;> omega
  first := by
    have := h.first
    simp only [PendingNackRequest.enqueue]
    split <;> omega
  sent := h.sent
  last := Nat.le_trans h.last hclock
  few := by
    by_cases hzero : request.firstRequestedAtMs = 0
    · exact .inl (h.fewAtZero hzero).attempts_le
    · have hsame : (request.enqueue now ssrc missing).firstRequestedAtMs =
          request.firstRequestedAtMs := if_neg hzero
      rw [Few, hsame]
      exact h.few
  fewAtZero := by
    intro hzero
    have hsame : request.firstRequestedAtMs = 0 := by
      simp only [PendingNackRequest.enqueue] at hzero
      split at hzero <;> omega
    rw [Few, hzero, ← hsame]
    exact h.fewAtZero hsame

theorem EntryOk.made (hssrc : ssrc ≠ 0) {missing : List UInt16} (hmissing : missing ≠ []) :
    EntryOk now ssrc (PendingNackRequest.enqueue {} now ssrc missing)
      { createdAtMs := now, sentAtMs := [] } where
  named := rfl
  named_ne := hssrc
  missing := appendMissing_ne_nil (.inr hmissing)
  distinct := nodup_appendMissing List.nodup_nil missing
  room := length_appendMissing_le (by decide) missing
  attempts := rfl
  created := le_rfl
  first := le_rfl
  sent := by simp
  last := Nat.zero_le now
  few := .inl (Nat.zero_le _)
  fewAtZero := fun _ => .inl (Nat.zero_le _)

/-- What the tests of the loop say of an entry. -/
theorem EntryOk.flushAction (h : EntryOk clock ssrc request life) :
    (request.flushAction now = .send →
      (request.attempts.toNat < 3 ∨ now < request.firstRequestedAtMs + 1000) ∧
        (request.attempts.toNat = 0 ∨ request.lastSentAtMs + 60 ≤ now)) ∧
      (request.flushAction now = .fallback →
        3 ≤ request.attempts.toNat ∧ request.firstRequestedAtMs + 1000 ≤ now) ∧
      request.flushAction now ≠ .erase := by
  have hkept : ¬ (request.remoteMediaSsrc = 0 ∨ request.missingSequences.isEmpty = true) := by
    rw [h.named, List.isEmpty_iff]
    exact not_or_intro h.named_ne h.missing
  have hthree : kNackAttemptsBeforePli ≤ request.attempts ↔ 3 ≤ request.attempts.toNat :=
    UInt32.le_iff_toNat_le
  have hzero : request.attempts = 0 ↔ request.attempts.toNat = 0 := UInt32.toNat_inj.symm
  simp only [PendingNackRequest.flushAction, if_neg hkept, hthree, hzero, kNackPliFallbackMs,
    kNackRetryIntervalMs]
  split
  · simp
    omega
  · split <;> simp
    omega

theorem Few.send {base : Nat} (h : Few base request) (hbase : 3 ≤ base)
    (hlimit : request.attempts.toNat < 3 ∨ now < request.firstRequestedAtMs + 1000)
    (hspace : request.attempts.toNat = 0 ∨ request.lastSentAtMs + 60 ≤ now)
    (hfirst : request.firstRequestedAtMs ≤ now) (hsmall : request.attempts.toNat < 40) :
    Few base { request with lastSentAtMs := now, attempts := request.attempts + 1 } := by
  have hnext : (request.attempts + 1).toNat = request.attempts.toNat + 1 := by
    rw [UInt32.toNat_add]
    exact Nat.mod_eq_of_lt (show request.attempts.toNat + 1 < 2 ^ 32 by omega)
  show (request.attempts + 1).toNat ≤ base ∨
    request.firstRequestedAtMs ≤ now ∧ now < request.firstRequestedAtMs + 1000 ∧
      60 * ((request.attempts + 1).toNat - (base + 1)) ≤ now - request.firstRequestedAtMs
  rw [hnext]
  rcases h with h | ⟨hle, hlt, hmul⟩ <;> omega

theorem EntryOk.send (h : EntryOk clock ssrc request life) (hclock : clock ≤ now)
    (hsend : request.flushAction now = .send) :
    EntryOk now ssrc { request with lastSentAtMs := now, attempts := request.attempts + 1 }
        { life with sentAtMs := now :: life.sentAtMs } ∧
      ∀ sentAtMs ∈ life.sentAtMs, sentAtMs + 60 ≤ now := by
  obtain ⟨hlimit, hspace⟩ := h.flushAction.1 hsend
  have hfirst : request.firstRequestedAtMs ≤ now := Nat.le_trans h.first hclock
  have hlast : request.lastSentAtMs ≤ now := Nat.le_trans h.last hclock
  have hsmall : request.attempts.toNat < 40 := by
    have := h.few.attempts_le
    omega
  have hnext : (request.attempts + 1).toNat = request.attempts.toNat + 1 := by
    rw [UInt32.toNat_add]
    exact Nat.mod_eq_of_lt (show request.attempts.toNat + 1 < 2 ^ 32 by omega)
  refine ⟨{ h with
    attempts := ?_
    first := hfirst
    sent := ?_
    last := Nat.le_refl now
    few := h.few.send (by decide) hlimit hspace hfirst hsmall
    fewAtZero := fun hzero =>
      (h.fewAtZero hzero).send (Nat.le_refl 3) hlimit hspace hfirst hsmall }, ?_⟩
  · show life.sentAtMs.length + 1 = (request.attempts + 1).toNat
    rw [h.attempts, hnext]
  · intro sentAtMs hsent
    rcases List.mem_cons.mp hsent with rfl | hmem
    · exact Nat.le_refl _
    · exact Nat.le_trans (h.sent sentAtMs hmem) hlast
  · intro sentAtMs hsent
    have hpos := List.length_pos_of_mem hsent
    rw [h.attempts] at hpos
    have hle := h.sent sentAtMs hsent
    omega

/-! ## The table and the lives -/

variable {w : Watched} {op : NackOp}

structure WatchedOk (w : Watched) : Prop where
  size : w.table.keys.length ≤ 64
  entry : ∀ ssrc request, w.table.lookup ssrc = some request →
    ∃ life, w.lives ssrc = some life ∧ EntryOk w.clock ssrc request life
  gone : ∀ ssrc, w.table.lookup ssrc = none → w.lives ssrc = none

theorem watchedOk_new : WatchedOk .new where
  size := Nat.zero_le _
  entry := fun _ _ h => by cases h
  gone := fun _ _ => rfl

/-- A step is right if it is for each entry there is after it. -/
theorem watchedOk_step (hsize : (w.step op).table.keys.length ≤ 64)
    (hentry : ∀ ssrc request, (w.step op).table.lookup ssrc = some request →
      EntryOk (w.nowMs op) ssrc request (w.nextLife op ssrc)) : WatchedOk (w.step op) where
  size := hsize
  entry := fun _ request hlookup =>
    ⟨w.nextLife op _, if_pos (mem_of_lookup hlookup), hentry _ request hlookup⟩
  gone := fun _ hlookup => if_neg (AList.lookup_eq_none.mp hlookup)

theorem nextLife_kept (hlife : w.lives ssrc = some life) (hsends : ssrc ∉ w.sends op) :
    w.nextLife op ssrc = life := by
  simp [Watched.nextLife, hlife, hsends]

/-- An entry that a step does not touch. -/
theorem WatchedOk.kept (h : WatchedOk w) (htime : w.clock ≤ w.nowMs op)
    (hsends : ssrc ∉ w.sends op) (hlookup : w.table.lookup ssrc = some request) :
    EntryOk (w.nowMs op) ssrc request (w.nextLife op ssrc) := by
  obtain ⟨life, hlife, hok⟩ := h.entry ssrc request hlookup
  rw [nextLife_kept hlife hsends]
  exact hok.mono htime

theorem Watched.Timely.le (h : w.Timely op) : w.clock ≤ w.nowMs op := by
  unfold Watched.nowMs
  cases hnow : op.nowMs? with
  | none => exact Nat.le_refl _
  | some nowMs => exact h nowMs hnow

/-! ## Enqueueing -/

theorem enqueueNackRequest_nothing {table : PendingNackRequests} {place : Nat}
    {missing : List UInt16} (h : ssrc = 0 ∨ missing = []) :
    enqueueNackRequest table place now ssrc missing = table := by
  rw [enqueueNackRequest, if_pos (by simpa using h)]

/-- The table that an entry goes into: one that is full loses its first entry. -/
theorem evicted_spec {table evicted : PendingNackRequests} (hsize : table.keys.length ≤ 64)
    (h : (if kMaxPendingNackRequests ≤ table.keys.length ∧ ssrc ∉ table then eraseBegin table
      else table) = evicted) :
    evicted.keys.length + (if ssrc ∈ evicted then 0 else 1) ≤ 64 ∧
      evicted.lookup ssrc = table.lookup ssrc ∧
      ∀ other request, evicted.lookup other = some request → table.lookup other = some request := by
  have hmax : kMaxPendingNackRequests = 64 := rfl
  split at h
  case isTrue hfull =>
    have hgone : (eraseBegin table).lookup ssrc = none := by
      refine Option.eq_none_iff_forall_ne_some.mpr fun request hlookup => hfull.2 ?_
      exact mem_of_lookup (lookup_of_lookup_eraseBegin hlookup)
    subst h
    refine ⟨?_, ?_, fun other request => lookup_of_lookup_eraseBegin⟩
    · rw [length_keys_eraseBegin]
      split <;> omega
    · rw [hgone, AList.lookup_eq_none.mpr hfull.2]
  case isFalse hroom =>
    subst h
    refine ⟨?_, rfl, fun _ _ hlookup => hlookup⟩
    split
    · exact hsize
    · rename_i hnew
      have hless : ¬ kMaxPendingNackRequests ≤ table.keys.length :=
        fun hlength => hroom ⟨hlength, hnew⟩
      omega

theorem enqueueNackRequest_spec {table : PendingNackRequests} (hsize : table.keys.length ≤ 64)
    (place now : Nat) (hssrc : ssrc ≠ 0) {missing : List UInt16} (hmissing : missing ≠ []) :
    (enqueueNackRequest table place now ssrc missing).keys.length ≤ 64 ∧
      (enqueueNackRequest table place now ssrc missing).lookup ssrc =
        some (((table.lookup ssrc).getD {}).enqueue now ssrc missing) ∧
      ∀ other ≠ ssrc, ∀ request,
        (enqueueNackRequest table place now ssrc missing).lookup other = some request →
          table.lookup other = some request := by
  have hgo : ¬ (ssrc = 0 ∨ missing.isEmpty = true) := by
    rw [List.isEmpty_iff]
    exact not_or_intro hssrc hmissing
  rw [enqueueNackRequest, if_neg hgo]
  generalize hevict : (if kMaxPendingNackRequests ≤ table.keys.length ∧ ssrc ∉ table then
    eraseBegin table else table) = evicted
  obtain ⟨hlength, hself, hother⟩ := evicted_spec hsize hevict
  refine ⟨?_, ?_, fun other hne request hlookup => ?_⟩
  · rwa [length_keys_assign]
  · rw [lookup_assign, if_pos rfl, hself]
  · rw [lookup_assign, if_neg hne] at hlookup
    exact hother other request hlookup

/-- The entry that is enqueued to, if the numbers fit in. -/
theorem WatchedOk.enqueued (h : WatchedOk w) (htime : w.clock ≤ w.nowMs op)
    (hsends : ssrc ∉ w.sends op) (hssrc : ssrc ≠ 0) {missing : List UInt16}
    (hmissing : missing ≠ [])
    (hroom : ∀ request, w.table.lookup ssrc = some request → 32 ≤ request.missingSequences.length →
      ∀ sequenceNumber ∈ missing, sequenceNumber ∈ request.missingSequences) :
    EntryOk (w.nowMs op) ssrc (((w.table.lookup ssrc).getD {}).enqueue (w.nowMs op) ssrc missing)
      (w.nextLife op ssrc) := by
  cases hlookup : w.table.lookup ssrc with
  | none =>
    have hlife : w.nextLife op ssrc = { createdAtMs := w.nowMs op, sentAtMs := [] } := by
      simp [Watched.nextLife, h.gone ssrc hlookup, hsends]
    rw [hlife]
    exact EntryOk.made hssrc hmissing
  | some request =>
    obtain ⟨life, hlife, hok⟩ := h.entry ssrc request hlookup
    rw [nextLife_kept hlife hsends]
    have hlength := (length_appendMissing_iff hok.room missing).mpr (hroom request hlookup)
    exact hok.enqueue htime hlength

/-! ## Flushing -/

section Flush

variable {nowMs : Nat}

theorem lookup_flush (table : PendingNackRequests) (ssrc : UInt32) :
    (flushPendingNackRequests table nowMs).pendingNackRequests.lookup ssrc =
      (table.lookup ssrc).bind fun request => request.flush nowMs :=
  lookup_filterMapValues

/-- What the loop sends and gives up, under the key of the entry. -/
theorem WatchedOk.flushed_eq (h : WatchedOk w) :
    w.sends (.flush nowMs) = (w.table.entries.filter fun x =>
        x.2.flushAction nowMs = .send).map Sigma.fst ∧
      w.fallbacks (.flush nowMs) = (w.table.entries.filter fun x =>
        x.2.flushAction nowMs = .fallback).map Sigma.fst := by
  have hnamed : ∀ x ∈ w.table.entries, x.2.remoteMediaSsrc = x.1 := by
    intro ⟨ssrc, request⟩ hx
    obtain ⟨life, -, hok⟩ := h.entry ssrc request (mem_entries.mp hx)
    exact hok.named
  have hfilter : ∀ action : FlushAction,
      (w.table.entries.filterMap fun x =>
        if x.2.flushAction nowMs = action then some x.2.remoteMediaSsrc else none) =
      (w.table.entries.filter fun x => x.2.flushAction nowMs = action).map Sigma.fst := by
    intro action
    rw [← List.filterMap_eq_map, List.filterMap_filter]
    refine List.filterMap_congr fun x hx => ?_
    rw [hnamed x hx]
    simp
  constructor
  · rw [← hfilter]
    show List.map _ (List.filterMap _ _) = _
    rw [List.map_filterMap]
    refine List.filterMap_congr fun ⟨ssrc, request⟩ _ => ?_
    show Option.map _ (if _ then _ else _) = _
    rw [apply_ite (Option.map _)]
    rfl
  · rw [← hfilter]
    rfl

theorem mem_actions {table : PendingNackRequests} {action : FlushAction} :
    ssrc ∈ (table.entries.filter fun x => x.2.flushAction nowMs = action).map Sigma.fst ↔
      ∃ request, table.lookup ssrc = some request ∧ request.flushAction nowMs = action := by
  rw [List.mem_map]
  constructor
  · intro ⟨⟨key, request⟩, hmem, hkey⟩
    obtain ⟨hentry, haction⟩ := List.mem_filter.mp hmem
    subst hkey
    exact ⟨request, mem_entries.mp hentry, by simpa using haction⟩
  · intro ⟨request, hlookup, haction⟩
    exact ⟨⟨ssrc, request⟩, List.mem_filter.mpr ⟨mem_entries.mpr hlookup, by simpa using haction⟩,
      rfl⟩

theorem WatchedOk.mem_sends (h : WatchedOk w) : ssrc ∈ w.sends (.flush nowMs) ↔
    ∃ request, w.table.lookup ssrc = some request ∧ request.flushAction nowMs = .send := by
  rw [h.flushed_eq.1]
  exact mem_actions

theorem WatchedOk.flushed (h : WatchedOk w) (htime : w.clock ≤ nowMs)
    (hlookup : (w.step (.flush nowMs)).table.lookup ssrc = some request) :
    EntryOk nowMs ssrc request (w.nextLife (.flush nowMs) ssrc) := by
  replace hlookup : (flushPendingNackRequests w.table nowMs).pendingNackRequests.lookup ssrc =
    some request := hlookup
  rw [lookup_flush, Option.bind_eq_some_iff] at hlookup
  obtain ⟨old, hold, hflush⟩ := hlookup
  obtain ⟨life, hlife, hok⟩ := h.entry ssrc old hold
  cases haction : old.flushAction nowMs with
  | erase => exact absurd haction hok.flushAction.2.2
  | fallback => simp [PendingNackRequest.flush, haction] at hflush
  | keep =>
    have hsends : ssrc ∉ w.sends (.flush nowMs) := by
      rw [h.mem_sends]
      intro ⟨request', hlookup', haction'⟩
      rw [hold, Option.some_inj] at hlookup'
      rw [← hlookup', haction] at haction'
      cases haction'
    have heq : request = old := by simpa [PendingNackRequest.flush, haction, eq_comm] using hflush
    rw [heq]
    exact WatchedOk.kept h (by exact htime) hsends hold
  | send =>
    have hsends : ssrc ∈ w.sends (.flush nowMs) := h.mem_sends.mpr ⟨old, hold, haction⟩
    have heq : request = { old with lastSentAtMs := nowMs, attempts := old.attempts + 1 } := by
      simpa [PendingNackRequest.flush, haction, eq_comm] using hflush
    have hnext : w.nextLife (.flush nowMs) ssrc =
        { life with sentAtMs := nowMs :: life.sentAtMs } := by
      rw [Watched.nextLife, hlife, if_pos hsends]
      rfl
    rw [heq, hnext]
    exact (hok.send htime haction).1

end Flush

/-! ## Every operation -/

theorem sends_eq_nil (h : ∀ nowMs, op ≠ .flush nowMs) : w.sends op = [] ∧ w.fallbacks op = [] := by
  cases op with
  | flush nowMs => exact absurd rfl (h nowMs)
  | enqueue | clear | rehash => exact ⟨rfl, rfl⟩

/-- Only entries that were there before, as they were. -/
theorem WatchedOk.smaller (h : WatchedOk w) (htime : w.Timely op) (hsends : w.sends op = [])
    (hlength : (w.step op).table.keys.length ≤ w.table.keys.length)
    (hlookup : ∀ ssrc request, (w.step op).table.lookup ssrc = some request →
      w.table.lookup ssrc = some request) : WatchedOk (w.step op) := by
  refine watchedOk_step (Nat.le_trans hlength h.size) fun ssrc request hentry => ?_
  exact h.kept htime.le (by simp [hsends]) (hlookup ssrc request hentry)

theorem watchedOk_enqueue (h : WatchedOk w) (place nowMs : Nat) (ssrc : UInt32)
    (missing : List UInt16) (htime : w.Timely (.enqueue place nowMs ssrc missing))
    (hroom : HasRoom w (.enqueue place nowMs ssrc missing)) :
    WatchedOk (w.step (.enqueue place nowMs ssrc missing)) := by
  have htable : (w.step (.enqueue place nowMs ssrc missing)).table =
      enqueueNackRequest w.table place nowMs ssrc missing := rfl
  by_cases hnothing : ssrc = 0 ∨ missing = []
  · rw [enqueueNackRequest_nothing hnothing] at htable
    exact h.smaller htime rfl (by rw [htable]) (by simp [htable])
  · obtain ⟨hssrc, hmissing⟩ := not_or.mp hnothing
    obtain ⟨hsize, hself, hothers⟩ := enqueueNackRequest_spec h.size place nowMs hssrc hmissing
    refine watchedOk_step (by rwa [htable]) fun other request hlookup => ?_
    rw [htable] at hlookup
    by_cases hother : other = ssrc
    · subst hother
      rw [hself, Option.some_inj] at hlookup
      rw [← hlookup]
      have hsends : other ∉ w.sends (.enqueue place nowMs other missing) := List.not_mem_nil
      exact h.enqueued htime.le hsends hssrc hmissing hroom
    · exact h.kept htime.le (List.not_mem_nil) (hothers other hother request hlookup)

theorem watchedOk_next (h : WatchedOk w) (htime : w.Timely op) (hroom : HasRoom w op) :
    WatchedOk (w.step op) := by
  cases op with
  | enqueue place nowMs ssrc missing =>
    exact watchedOk_enqueue h place nowMs ssrc missing htime hroom
  | clear ssrc =>
    have htable : (w.step (.clear ssrc)).table = clearPendingNackRequest w.table ssrc := rfl
    rw [clearPendingNackRequest] at htable
    split at htable
    · exact h.smaller htime rfl (by rw [htable]) (by simp [htable])
    · refine h.smaller htime rfl (htable ▸ length_keys_erase_le ssrc w.table) ?_
      intro other request hlookup
      rw [htable] at hlookup
      exact (lookup_of_erase hlookup).2
  | flush nowMs =>
    refine watchedOk_step ?_ fun ssrc request hlookup => h.flushed htime.le hlookup
    exact Nat.le_trans (length_keys_filterMapValues_le _ w.table) h.size
  | rehash ssrc =>
    have htable : (w.step (.rehash ssrc)).table = toFront ssrc w.table := rfl
    refine h.smaller htime rfl (by rw [htable, length_keys_toFront]) fun other request hlookup => ?_
    rwa [htable, lookup_toFront] at hlookup

theorem limitsKept_of_room (h : WatchedOk w) (htime : w.Timely op) (hroom : HasRoom w op) :
    LimitsKept w op := by
  have hnext := watchedOk_next h htime hroom
  have hsequences : ∀ ssrc request, (w.step op).table.lookup ssrc = some request →
      request.missingSequences.Nodup ∧ request.missingSequences.length ≤ 32 := by
    intro ssrc request hlookup
    obtain ⟨life, -, hok⟩ := hnext.entry ssrc request hlookup
    exact ⟨hok.distinct, hok.room⟩
  by_cases hflush : ∃ nowMs, op = .flush nowMs
  · obtain ⟨nowMs, rfl⟩ := hflush
    refine ⟨hnext.size, hsequences, ?_, fun ssrc hmem => ?_, fun ssrc hmem => ?_⟩
    · rw [h.flushed_eq.1]
      exact List.Nodup.sublist (List.filter_sublist.map _) w.table.nodupKeys
    · obtain ⟨request, hlookup, haction⟩ := h.mem_sends.mp hmem
      obtain ⟨life, hlife, hok⟩ := h.entry ssrc request hlookup
      exact ⟨life, hlife, (hok.send htime.le haction).2⟩
    · rw [h.flushed_eq.2] at hmem
      obtain ⟨request, hlookup, haction⟩ := mem_actions.mp hmem
      obtain ⟨life, hlife, hok⟩ := h.entry ssrc request hlookup
      obtain ⟨hattempts, hsecond⟩ := hok.flushAction.2.1 haction
      exact ⟨life, hlife, hok.attempts ▸ hattempts,
        Nat.le_trans (Nat.add_le_add_right hok.created 1000) hsecond⟩
  · obtain ⟨hsends, hfallbacks⟩ := sends_eq_nil (w := w) fun nowMs heq => hflush ⟨nowMs, heq⟩
    exact ⟨hnext.size, hsequences, by simp [hsends], by simp [hsends], by simp [hfallbacks]⟩

theorem room_of_limitsKept (h : WatchedOk w) (hlimits : LimitsKept w op) : HasRoom w op := by
  cases op with
  | clear | flush | rehash => trivial
  | enqueue place nowMs ssrc missing =>
    intro request hlookup hfull
    obtain ⟨life, -, hok⟩ := h.entry ssrc request hlookup
    by_cases hmissing : missing = []
    · simp [hmissing]
    · have hself := (enqueueNackRequest_spec h.size place nowMs hok.named_ne hmissing).2.1
      rw [hlookup] at hself
      exact (length_appendMissing_iff hok.room missing).mp (hlimits.sequences ssrc _ hself).2 hfull

/-- Times that do not go back. -/
def TimesOk (ops : List NackOp) : Prop := (ops.filterMap NackOp.nowMs?).Pairwise (· ≤ ·)

instance (ops : List NackOp) : Decidable (TimesOk ops) :=
  inferInstanceAs (Decidable (List.Pairwise _ _))

/-- The limits are kept exactly in the runs that bring no new number to an entry
that is full. -/
theorem limitsKept_along_iff {ops : List NackOp} (htimes : TimesOk ops) :
    Along Watched.step LimitsKept .new ops ↔ Along Watched.step HasRoom .new ops := by
  have hsorted : (Watched.new.clock :: ops.filterMap NackOp.nowMs?).Pairwise (· ≤ ·) :=
    List.pairwise_cons.mpr ⟨fun _ _ => Nat.zero_le _, htimes⟩
  have htimely : Along Watched.step Watched.Timely .new ops :=
    Along.of_times NackOp.nowMs? Watched.clock (fun _ _ => rfl) hsorted
  constructor
  · intro h
    exact Along.of_inv
      (fun w op hop hw => watchedOk_next hw hop.2 (room_of_limitsKept hw hop.1))
      (fun w op hop hw => room_of_limitsKept hw hop.1) watchedOk_new (h.and htimely)
  · intro h
    exact Along.of_inv (fun w op hop hw => watchedOk_next hw hop.2 hop.1)
      (fun w op hop hw => limitsKept_of_room hw hop.2 hop.1) watchedOk_new (h.and htimely)

/-- A loss of 32 packets, which fills the entry, and then a loss of one more. -/
def twoLosses : List NackOp :=
  [.enqueue 0 1 7 ((List.range 32).map UInt16.ofNat), .enqueue 0 2 7 [40]]

/-- The second makes 33 numbers. -/
theorem twoLosses_tooMany : TimesOk twoLosses ∧
    ¬ Along Watched.step LimitsKept .new twoLosses := by
  refine ⟨by decide, fun h => ?_⟩
  have hlookup : ∃ request, (run Watched.step .new twoLosses).table.lookup 7 = some request ∧
      request.missingSequences.length = 33 := ⟨_, rfl, by decide⟩
  obtain ⟨request, hrequest, hlength⟩ := hlookup
  have hlimit := (h.2.1.sequences 7 request hrequest).2
  omega

/-- A loss is asked for three times, and then a key frame. -/
theorem limitsKept_along_oneLoss : Along Watched.step LimitsKept .new
    [.enqueue 0 1 7 [40], .flush 10, .flush 70, .flush 130, .flush 1001] := by
  refine (limitsKept_along_iff (by decide)).mpr (And.intro (fun request hlookup => ?_) ?_)
  · cases hlookup
  · exact And.intro trivial (And.intro trivial (And.intro trivial (And.intro trivial trivial)))

end MeetingSystem.Proof.Client
