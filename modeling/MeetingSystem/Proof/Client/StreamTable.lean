import MeetingSystem.Framework.Least
import MeetingSystem.Framework.Run
import MeetingSystem.Impl.Client.VideoRecvPipeline

/-!
# The streams that a receive pipeline keeps

`prunes_well`: in every run of packets, whatever SSRC is expected with each of
them, the table has at most eight streams, the stream of a packet is in it
afterwards, and one that is not in it any more was idle for more than 30
seconds, or was the least recently seen of eight, or is not the expected one.
When a stream was last seen is read off the history of the run.

The order of the loops of `pruneStreamStates` matters: the second one starts
with at most one stream if an SSRC is expected, and with a full table only if
the first one has found none idle (`pruneStreamStates_evicted`).
-/

namespace MeetingSystem.Proof.Client

open MeetingSystem.Framework MeetingSystem.Impl.Client VideoRecvPipeline

/-! ## Watched runs -/

/-- The stream that a packet is processed for. -/
def streamOf (config : VideoRecvPipelineConfig) (packet : RTPPacket)
    (expectedRemoteSsrc : UInt32) : Option UInt32 :=
  if (packet.header.payloadType = config.screenPayloadType ∨
      packet.header.payloadType = config.cameraPayloadType) ∧
      (expectedRemoteSsrc = 0 ∨ packet.header.ssrc = expectedRemoteSsrc) ∧
      packet.header.ssrc ≠ 0 then
    some packet.header.ssrc
  else none

/-- A pipeline with the packets it has processed: their streams and their times,
the last one first. -/
structure StreamWatch where
  pipeline : VideoRecvPipeline
  history : List (UInt32 × UInt64)

namespace StreamWatch

def start (config : VideoRecvPipelineConfig) : StreamWatch :=
  { pipeline := .new config, history := [] }

variable (w : StreamWatch)

def table : StreamStates := w.pipeline.streamStates

/-- The stream and the time of the packet that is being processed. -/
def current : PipelineOp → Option (UInt32 × UInt64)
  | .consumePacket _ nowMs packet expectedRemoteSsrc =>
    (streamOf w.pipeline.config packet expectedRemoteSsrc).map fun ssrc => (ssrc, nowMs)
  | .rehash _ => none

def step (op : PipelineOp) : StreamWatch :=
  { pipeline := w.pipeline.step op, history := (w.current op).toList ++ w.history }

/-- When a packet of the stream was last processed. -/
def lastSeen (ssrc : UInt32) : Option UInt64 :=
  (w.history.find? fun seen => seen.1 = ssrc).map Prod.snd

end StreamWatch

/-! ## The property -/

/-- The operation is given a time that differs from the largest one. -/
def InTime : PipelineOp → Prop
  | .consumePacket _ nowMs _ _ => nowMs.toNat < 2 ^ 64 - 1
  | .rehash _ => True

/-- The stream was last seen more than 30 seconds ago. -/
def IsIdle (w : StreamWatch) (nowMs : UInt64) (ssrc : UInt32) : Prop :=
  ∃ seenAtMs, w.lastSeen ssrc = some seenAtMs ∧ seenAtMs.toNat + 30000 < nowMs.toNat

/-- No stream of the table was last seen before this one. -/
def IsOldest (w : StreamWatch) (ssrc : UInt32) : Prop :=
  ∃ seenAtMs, w.lastSeen ssrc = some seenAtMs ∧
    ∀ other ∈ w.table, ∃ otherSeenAtMs, w.lastSeen other = some otherSeenAtMs ∧
      seenAtMs ≤ otherSeenAtMs

/-- The reasons for which a stream is evicted. -/
def MayEvict (w : StreamWatch) (ssrc : UInt32) : PipelineOp → Prop
  | .consumePacket _ nowMs _ expectedRemoteSsrc =>
    if expectedRemoteSsrc = 0 then
      IsIdle w nowMs ssrc ∨ w.table.keys.length = 8 ∧ IsOldest w ssrc
    else ssrc ≠ expectedRemoteSsrc
  | .rehash _ => False

/-- The stream that is expected is alone once a packet of it has made room for it. -/
def OnlyExpected (w : StreamWatch) : PipelineOp → Prop
  | .consumePacket place nowMs packet expectedRemoteSsrc => expectedRemoteSsrc ≠ 0 →
    ∀ ssrc, streamOf w.pipeline.config packet expectedRemoteSsrc = some ssrc → ssrc ∉ w.table →
      ∀ other ∈ (w.step (.consumePacket place nowMs packet expectedRemoteSsrc)).table,
        other = expectedRemoteSsrc
  | .rehash _ => True

structure PrunesWell (w : StreamWatch) (op : PipelineOp) : Prop where
  size : (w.step op).table.keys.length ≤ 8
  current : ∀ ssrc nowMs, w.current op = some (ssrc, nowMs) →
    ∃ streamState, (w.step op).table.lookup ssrc = some streamState ∧
      streamState.lastSeenAtMs = nowMs
  evicted : ∀ ssrc ∈ w.table, ssrc ∉ (w.step op).table → MayEvict w ssrc op
  expected : OnlyExpected w op

/-! ## The loops of `pruneStreamStates` -/

/-- No stream of the table has the largest time, with which the loop begins. -/
def SeenInTime (s : StreamStates) : Prop :=
  ∀ ssrc streamState, s.lookup ssrc = some streamState →
    streamState.lastSeenAtMs.toNat < 2 ^ 64 - 1

variable {s : StreamStates}

def seenBefore (a b : Sigma fun _ : UInt32 => StreamState) : Bool :=
  a.2.lastSeenAtMs < b.2.lastSeenAtMs

theorem strictWeak_seenBefore : StrictWeak seenBefore where
  asymm a b h := by
    simp only [seenBefore, decide_eq_true_eq, decide_eq_false_iff_not,
      UInt64.lt_iff_toNat_lt] at *
    omega
  negTrans a b c hab hbc := by
    simp only [seenBefore, decide_eq_false_iff_not, UInt64.lt_iff_toNat_lt] at *
    omega

theorem findOldest_eq (best : Sigma fun _ : UInt32 => StreamState)
    (entries : List (Sigma fun _ : UInt32 => StreamState)) :
    findOldest entries best.2.lastSeenAtMs (some best.1) =
      (entries.foldl (pickLess seenBefore) (some best)).map Sigma.fst := by
  induction entries generalizing best with
  | nil => rfl
  | cons x entries ih =>
    rw [findOldest, List.foldl_cons, pickLess]
    simp only [seenBefore, decide_eq_true_eq]
    split
    · exact ih x
    · exact ih best

theorem findOldest_spec (hseen : SeenInTime s) (hne : s.entries ≠ []) :
    ∃ oldest streamState, findOldest s.entries (.ofNat (2 ^ 64 - 1)) none = some oldest ∧
      s.lookup oldest = some streamState ∧
      ∀ other otherState, s.lookup other = some otherState →
        streamState.lastSeenAtMs ≤ otherState.lastSeenAtMs := by
  obtain ⟨oldest, hleast⟩ := least_isSome seenBefore hne
  obtain ⟨hmem, hle⟩ := least_spec strictWeak_seenBefore hleast
  refine ⟨oldest.1, oldest.2, ?_, mem_entries.mp hmem, fun other otherState hother => ?_⟩
  · cases hentries : s.entries with
    | nil => exact absurd hentries hne
    | cons first rest =>
      have hfirst : s.lookup first.1 = some first.2 := by
        apply mem_entries.mp
        rw [hentries]
        exact List.mem_cons_self
      have hlt : first.2.lastSeenAtMs < .ofNat (2 ^ 64 - 1) :=
        (UInt64.lt_ofNat_iff (by decide)).mpr (hseen _ _ hfirst)
      rw [findOldest, if_pos hlt, findOldest_eq]
      rw [hentries] at hleast
      exact congrArg (Option.map Sigma.fst) hleast
  · have hnot := hle _ (mem_entries.mpr hother)
    simp only [seenBefore, decide_eq_false_iff_not] at hnot
    exact UInt64.not_lt.mp hnot

theorem evictOldest_of_lt (turns : Nat) (h : s.keys.length < 8) : evictOldest turns s = s := by
  cases turns with
  | zero => rfl
  | succ turns => exact if_neg (Nat.not_le.mpr h)

/-- What is left is as it was. -/
theorem lookup_evictOldest {turns : Nat} {ssrc : UInt32} {streamState : StreamState}
    (h : (evictOldest turns s).lookup ssrc = some streamState) :
    s.lookup ssrc = some streamState := by
  induction turns generalizing s with
  | zero => exact h
  | succ turns ih =>
    rw [evictOldest] at h
    split at h
    · split at h
      · exact h
      · exact (lookup_of_erase (ih h)).2
    · exact h

theorem SeenInTime.erase (hseen : SeenInTime s) (oldest : UInt32) :
    SeenInTime (s.erase oldest) := by
  intro ssrc streamState hlookup
  exact hseen ssrc streamState (lookup_of_erase hlookup).2

/-- A turn of the loop, in a table that is not smaller than it may be. -/
theorem evictOldest_turn (hseen : SeenInTime s) (h : 8 ≤ s.keys.length) (turns : Nat) :
    ∃ oldest streamState, evictOldest (turns + 1) s = evictOldest turns (s.erase oldest) ∧
      s.lookup oldest = some streamState ∧
      ∀ other otherState, s.lookup other = some otherState →
        streamState.lastSeenAtMs ≤ otherState.lastSeenAtMs := by
  have hne : s.entries ≠ [] := by
    intro hnil
    rw [AList.keys, hnil] at h
    simp at h
  obtain ⟨oldest, streamState, hfind, hlookup, hle⟩ := findOldest_spec hseen hne
  refine ⟨oldest, streamState, ?_, hlookup, hle⟩
  have hfull : kMaxTrackedRecvStreams ≤ s.keys.length := h
  rw [evictOldest, if_pos hfull, hfind]

/-- The loop ends with a free place. -/
theorem length_evictOldest {turns : Nat} (hseen : SeenInTime s) (h : s.keys.length ≤ turns) :
    (evictOldest turns s).keys.length < 8 := by
  induction turns generalizing s with
  | zero =>
    show s.keys.length < 8
    omega
  | succ turns ih =>
    by_cases hfull : 8 ≤ s.keys.length
    · obtain ⟨oldest, streamState, heq, hlookup, -⟩ := evictOldest_turn hseen hfull turns
      rw [heq]
      refine ih (hseen.erase oldest) ?_
      rw [length_keys_erase (mem_of_lookup hlookup)]
      omega
    · rw [evictOldest_of_lt _ (by omega)]
      omega

/-- The streams that the first loop keeps. -/
def keptStreams (s : StreamStates) (nowMs : UInt64) (expectedRemoteSsrc : UInt32) : StreamStates :=
  if expectedRemoteSsrc ≠ 0 then retain (fun ssrc _ => ssrc = expectedRemoteSsrc) s
  else retain (fun _ streamState => !streamState.isIdle nowMs) s

variable {nowMs : UInt64} {expectedRemoteSsrc : UInt32}

theorem pruneStreamStates_eq (s : StreamStates) (nowMs : UInt64) (expectedRemoteSsrc : UInt32) :
    pruneStreamStates s nowMs expectedRemoteSsrc =
      evictOldest (keptStreams s nowMs expectedRemoteSsrc).keys.length
        (keptStreams s nowMs expectedRemoteSsrc) := rfl

theorem lookup_keptStreams {ssrc : UInt32} {streamState : StreamState} :
    (keptStreams s nowMs expectedRemoteSsrc).lookup ssrc = some streamState ↔
      s.lookup ssrc = some streamState ∧
        if expectedRemoteSsrc ≠ 0 then ssrc = expectedRemoteSsrc
        else streamState.isIdle nowMs = false := by
  rw [keptStreams]
  split
  · rw [lookup_retain, decide_eq_true_eq]
  · rw [lookup_retain, Bool.not_eq_true']

theorem lookup_pruneStreamStates {ssrc : UInt32} {streamState : StreamState}
    (h : (pruneStreamStates s nowMs expectedRemoteSsrc).lookup ssrc = some streamState) :
    s.lookup ssrc = some streamState :=
  (lookup_keptStreams.mp (lookup_evictOldest h)).1

theorem length_pruneStreamStates (hseen : SeenInTime s) (nowMs : UInt64)
    (expectedRemoteSsrc : UInt32) :
    (pruneStreamStates s nowMs expectedRemoteSsrc).keys.length < 8 :=
  length_evictOldest (fun ssrc streamState h => hseen ssrc streamState (lookup_keptStreams.mp h).1)
    le_rfl

/-- With an SSRC that is expected, its stream is all that is left. -/
theorem pruneStreamStates_expected (hexpected : expectedRemoteSsrc ≠ 0) (s : StreamStates)
    (nowMs : UInt64) (ssrc : UInt32) (streamState : StreamState) :
    (pruneStreamStates s nowMs expectedRemoteSsrc).lookup ssrc = some streamState ↔
      s.lookup ssrc = some streamState ∧ ssrc = expectedRemoteSsrc := by
  have hkept : ∀ other otherState,
      (keptStreams s nowMs expectedRemoteSsrc).lookup other = some otherState ↔
        s.lookup other = some otherState ∧ other = expectedRemoteSsrc := by
    intro other otherState
    rw [lookup_keptStreams, if_pos hexpected]
  have hone : (keptStreams s nowMs expectedRemoteSsrc).keys ⊆ [expectedRemoteSsrc] := by
    intro other hother
    obtain ⟨otherState, hlookup⟩ := lookup_of_mem (AList.mem_keys.mpr hother)
    exact List.mem_singleton.mpr ((hkept other otherState).mp hlookup).2
  have hnodup := (keptStreams s nowMs expectedRemoteSsrc).keys_nodup
  have hlength := (List.subperm_of_subset hnodup hone).length_le
  rw [List.length_singleton] at hlength
  rw [pruneStreamStates_eq, evictOldest_of_lt _ (by omega), hkept]

theorem isIdle_iff (streamState : StreamState) (nowMs : UInt64) :
    streamState.isIdle nowMs = true ↔ streamState.lastSeenAtMs.toNat + 30000 < nowMs.toNat := by
  have htimeout : kRecvStreamIdleTimeoutMs.toNat = 30000 := rfl
  rw [StreamState.isIdle, decide_eq_true_eq, UInt64.lt_iff_toNat_lt, htimeout]
  constructor
  · intro ⟨hle, hlt⟩
    rw [UInt64.toNat_sub_of_le _ _ hle] at hlt
    omega
  · intro hlt
    have hle : streamState.lastSeenAtMs ≤ nowMs := by
      rw [UInt64.le_iff_toNat_le]
      omega
    refine ⟨hle, ?_⟩
    rw [UInt64.toNat_sub_of_le _ _ hle]
    omega

/-- Without one, an idle stream goes, and the oldest one of eight if there is none. -/
theorem pruneStreamStates_evicted (hseen : SeenInTime s) (hsize : s.keys.length ≤ 8)
    {ssrc : UInt32} {streamState : StreamState} (hlookup : s.lookup ssrc = some streamState)
    (hgone : ssrc ∉ pruneStreamStates s nowMs 0) :
    streamState.lastSeenAtMs.toNat + 30000 < nowMs.toNat ∨ s.keys.length = 8 ∧
      ∀ other otherState, s.lookup other = some otherState →
        streamState.lastSeenAtMs ≤ otherState.lastSeenAtMs := by
  by_cases hidle : streamState.isIdle nowMs = true
  · exact .inl ((isIdle_iff _ _).mp hidle)
  · refine .inr ?_
    have hkept : (keptStreams s nowMs 0).lookup ssrc = some streamState :=
      lookup_keptStreams.mpr ⟨hlookup, by simpa using hidle⟩
    have hretain : keptStreams s nowMs 0 =
        retain (fun _ streamState => !streamState.isIdle nowMs) s := if_neg (by decide)
    have hle : (keptStreams s nowMs 0).keys.length ≤ s.keys.length := by
      rw [hretain]
      exact length_keys_retain_le _ s
    have hfull : 8 ≤ (keptStreams s nowMs 0).keys.length := by
      by_contra hroom
      rw [pruneStreamStates_eq, evictOldest_of_lt _ (by omega)] at hgone
      exact hgone (mem_of_lookup hkept)
    have hsame : keptStreams s nowMs 0 = s := by
      rw [hretain] at hfull ⊢
      exact retain_eq_self (by omega)
    rw [hsame] at hfull
    have height : s.keys.length = 8 := by omega
    obtain ⟨oldest, oldestState, heq, holdest, hmin⟩ := evictOldest_turn hseen hfull 7
    have hroom : (s.erase oldest).keys.length < 8 := by
      rw [length_keys_erase (mem_of_lookup holdest)]
      omega
    rw [pruneStreamStates_eq, hsame, height, heq, evictOldest_of_lt _ hroom,
      AList.mem_erase] at hgone
    have hssrc : ssrc = oldest := by
      by_contra hne
      exact hgone ⟨hne, mem_of_lookup hlookup⟩
    rw [hssrc, holdest] at hlookup
    cases hlookup
    exact ⟨height, hmin⟩

/-! ## One packet -/

variable {m : VideoRecvPipeline} {place : Nat} {packet : RTPPacket} {ssrc : UInt32}

/-- The table that has room for the stream, or has it. -/
def roomFor (s : StreamStates) (nowMs : UInt64) (expectedRemoteSsrc ssrc : UInt32) :
    StreamStates :=
  if ssrc ∈ s then s else pruneStreamStates s nowMs expectedRemoteSsrc

theorem lookup_roomFor {other : UInt32} {streamState : StreamState}
    (h : (roomFor s nowMs expectedRemoteSsrc ssrc).lookup other = some streamState) :
    s.lookup other = some streamState := by
  rw [roomFor] at h
  split at h
  · exact h
  · exact lookup_pruneStreamStates h

/-- What a packet of the stream is given to. -/
def assemblerOf (s : StreamStates) (ssrc : UInt32) : H264AccessUnitAssembler :=
  ((s.lookup ssrc).map StreamState.assembler).getD .init

theorem findOrCreateStreamState_spec (hne : ssrc ≠ 0) (s : StreamStates) (place : Nat)
    (nowMs : UInt64) (expectedRemoteSsrc : UInt32) :
    ∃ next, findOrCreateStreamState s place ssrc nowMs expectedRemoteSsrc =
        (next, some { assembler := assemblerOf s ssrc, lastSeenAtMs := nowMs }) ∧
      ssrc ∈ next ∧
      next.keys.length = (roomFor s nowMs expectedRemoteSsrc ssrc).keys.length +
        (if ssrc ∈ s then 0 else 1) ∧
      ∀ other, other ≠ ssrc →
        next.lookup other = (roomFor s nowMs expectedRemoteSsrc ssrc).lookup other := by
  by_cases hmem : ssrc ∈ s
  · obtain ⟨found, hfound⟩ := lookup_of_mem hmem
    refine ⟨s.replace ssrc { found with lastSeenAtMs := nowMs }, ?_, ?_, ?_,
      fun other hother => ?_⟩
    · simp only [findOrCreateStreamState, if_neg hne, assemblerOf, hfound]
      rfl
    · exact (AList.mem_replace ..).mpr hmem
    · rw [AList.keys_replace, roomFor, if_pos hmem, if_pos hmem, Nat.add_zero]
    · rw [lookup_replace_ne _ _ hother, roomFor, if_pos hmem]
  · have hnone : s.lookup ssrc = none := AList.lookup_eq_none.mpr hmem
    have hroom : roomFor s nowMs expectedRemoteSsrc ssrc =
        pruneStreamStates s nowMs expectedRemoteSsrc := if_neg hmem
    have hfree : ssrc ∉ pruneStreamStates s nowMs expectedRemoteSsrc := by
      intro hpruned
      obtain ⟨streamState, hlookup⟩ := lookup_of_mem hpruned
      exact hmem (mem_of_lookup (lookup_pruneStreamStates hlookup))
    refine ⟨emplace place ssrc { lastSeenAtMs := nowMs }
      (pruneStreamStates s nowMs expectedRemoteSsrc), ?_, ?_, ?_, fun other hother => ?_⟩
    · simp only [findOrCreateStreamState, if_neg hne, assemblerOf, hnone, if_neg hfree]
      rfl
    · exact mem_of_lookup ((lookup_emplace hfree ssrc).trans (if_pos rfl))
    · rw [length_keys_emplace hfree, hroom, if_neg hmem]
    · rw [lookup_emplace hfree, if_neg hother, hroom]

/-- A packet of a stream puts it into the table, with its time. -/
theorem consumePacket_spec (h : streamOf m.config packet expectedRemoteSsrc = some ssrc)
    (place : Nat) (nowMs : UInt64) :
    ∃ next, m.consumePacket place nowMs packet expectedRemoteSsrc =
        ({ m with streamStates := next },
          .assembled ssrc ((assemblerOf m.streamStates ssrc).consume packet).2) ∧
      next.lookup ssrc = some
        { assembler := ((assemblerOf m.streamStates ssrc).consume packet).1
          lastSeenAtMs := nowMs } ∧
      next.keys.length = (roomFor m.streamStates nowMs expectedRemoteSsrc ssrc).keys.length +
        (if ssrc ∈ m.streamStates then 0 else 1) ∧
      ∀ other, other ≠ ssrc →
        next.lookup other =
          (roomFor m.streamStates nowMs expectedRemoteSsrc ssrc).lookup other := by
  obtain ⟨⟨htype, hexpected, hne⟩, hssrc⟩ := Option.ite_none_right_eq_some.mp h
  cases hssrc
  have hmedia : ¬ (packet.header.payloadType ≠ m.config.screenPayloadType ∧
      packet.header.payloadType ≠ m.config.cameraPayloadType) := by tauto
  have hours : ¬ (expectedRemoteSsrc ≠ 0 ∧ packet.header.ssrc ≠ expectedRemoteSsrc) := by tauto
  have hremote : (if expectedRemoteSsrc ≠ 0 then expectedRemoteSsrc else packet.header.ssrc) =
      packet.header.ssrc := by
    rcases hexpected with hzero | hsame
    · rw [if_neg (not_not.mpr hzero)]
    · rw [← hsame, ite_self]
  obtain ⟨next, hfind, hmem, hlength, hothers⟩ :=
    findOrCreateStreamState_spec hne m.streamStates place nowMs expectedRemoteSsrc
  refine ⟨next.replace packet.header.ssrc
    { assembler := ((assemblerOf m.streamStates packet.header.ssrc).consume packet).1
      lastSeenAtMs := nowMs }, ?_, lookup_replace_self _ hmem, ?_, fun other hother => ?_⟩
  · simp only [consumePacket, if_neg hmedia, if_neg hours, hremote, hfind]
  · rw [AList.keys_replace, hlength]
  · rw [lookup_replace_ne _ _ hother, hothers other hother]

/-- A packet of no stream changes nothing. -/
theorem consumePacket_none (h : streamOf m.config packet expectedRemoteSsrc = none)
    (place : Nat) (nowMs : UInt64) :
    (m.consumePacket place nowMs packet expectedRemoteSsrc).1 = m := by
  rw [consumePacket]
  split
  · rfl
  · rename_i hmedia
    split
    · rfl
    · rename_i hours
      have hzero : packet.header.ssrc = 0 := by
        by_contra hne
        have hsome : streamOf m.config packet expectedRemoteSsrc = some packet.header.ssrc :=
          if_pos ⟨by tauto, by tauto, hne⟩
        rw [h] at hsome
        cases hsome
      have hexpected : expectedRemoteSsrc = 0 := by
        by_contra hne
        exact hours ⟨hne, fun hsame => hne (hsame.symm.trans hzero)⟩
      have hremote : (if expectedRemoteSsrc ≠ 0 then expectedRemoteSsrc
          else packet.header.ssrc) = 0 := by rw [hexpected, hzero, ite_self]
      simp only [hremote, findOrCreateStreamState, if_true]

/-! ## Every run -/

variable {w : StreamWatch} {op : PipelineOp}

/-- The table is bounded, and its times are those of the history. -/
structure StreamsOk (w : StreamWatch) : Prop where
  size : w.table.keys.length ≤ 8
  seen : ∀ ssrc streamState, w.table.lookup ssrc = some streamState →
    w.lastSeen ssrc = some streamState.lastSeenAtMs
  inTime : SeenInTime w.table

theorem streamsOk_start (config : VideoRecvPipelineConfig) : StreamsOk (.start config) :=
  ⟨Nat.zero_le 8, fun _ _ h => (nomatch h), fun _ _ h => (nomatch h)⟩

/-- What a packet of a stream does to the table. -/
structure Puts (w w' : StreamWatch) (nowMs : UInt64) (expectedRemoteSsrc ssrc : UInt32) : Prop where
  put : ∃ streamState, w'.table.lookup ssrc = some streamState ∧ streamState.lastSeenAtMs = nowMs
  size : w'.table.keys.length = (roomFor w.table nowMs expectedRemoteSsrc ssrc).keys.length +
    (if ssrc ∈ w.table then 0 else 1)
  others : ∀ other, other ≠ ssrc →
    w'.table.lookup other = (roomFor w.table nowMs expectedRemoteSsrc ssrc).lookup other
  seen : ∀ other, w'.lastSeen other = if other = ssrc then some nowMs else w.lastSeen other

theorem step_put (h : streamOf w.pipeline.config packet expectedRemoteSsrc = some ssrc)
    (place : Nat) (nowMs : UInt64) :
    Puts w (w.step (.consumePacket place nowMs packet expectedRemoteSsrc)) nowMs
      expectedRemoteSsrc ssrc := by
  obtain ⟨next, heq, hlookup, hsize, hothers⟩ := consumePacket_spec h place nowMs
  have htable : (w.step (.consumePacket place nowMs packet expectedRemoteSsrc)).table = next :=
    congrArg (fun result => result.1.streamStates) heq
  have hhistory : (w.step (.consumePacket place nowMs packet expectedRemoteSsrc)).history =
      (ssrc, nowMs) :: w.history := by
    show (Option.map _ (streamOf _ packet expectedRemoteSsrc)).toList ++ w.history = _
    rw [h]
    rfl
  refine ⟨⟨_, htable ▸ hlookup, rfl⟩, by rw [htable, hsize]; rfl,
    fun other hother => by rw [htable, hothers other hother]; rfl, fun other => ?_⟩
  rw [StreamWatch.lastSeen, hhistory]
  by_cases hother : other = ssrc
  · rw [List.find?_cons_of_pos (by simp [hother]), if_pos hother]
    rfl
  · rw [List.find?_cons_of_neg (by simp [Ne.symm hother]), if_neg hother]
    rfl

theorem step_ignored (h : streamOf w.pipeline.config packet expectedRemoteSsrc = none)
    (place : Nat) (nowMs : UInt64) :
    w.step (.consumePacket place nowMs packet expectedRemoteSsrc) = w := by
  have hcurrent : w.current (.consumePacket place nowMs packet expectedRemoteSsrc) = none := by
    rw [StreamWatch.current, h]
    rfl
  have hpipeline : w.pipeline.step (.consumePacket place nowMs packet expectedRemoteSsrc) =
      w.pipeline := consumePacket_none h place nowMs
  rw [StreamWatch.step, hcurrent, hpipeline]
  rfl

theorem lookup_step_rehash (w : StreamWatch) (first ssrc : UInt32) :
    (w.step (.rehash first)).table.lookup ssrc = w.table.lookup ssrc := lookup_toFront ..

theorem Puts.size_le {w' : StreamWatch} (hput : Puts w w' nowMs expectedRemoteSsrc ssrc)
    (h : StreamsOk w) : w'.table.keys.length ≤ 8 := by
  have hsize := h.size
  rw [hput.size, roomFor]
  split
  · exact hsize
  · have hroom := length_pruneStreamStates h.inTime nowMs expectedRemoteSsrc
    omega

theorem Puts.streamsOk {w' : StreamWatch} (hput : Puts w w' nowMs expectedRemoteSsrc ssrc)
    (h : StreamsOk w) (htime : nowMs.toNat < 2 ^ 64 - 1) : StreamsOk w' := by
  obtain ⟨streamState, hlookup, hnow⟩ := hput.put
  have hentry : ∀ other otherState, w'.table.lookup other = some otherState →
      other = ssrc ∧ otherState.lastSeenAtMs = nowMs ∨
        other ≠ ssrc ∧ w.table.lookup other = some otherState := by
    intro other otherState hother
    by_cases hsame : other = ssrc
    · rw [hsame, hlookup] at hother
      cases hother
      exact .inl ⟨hsame, hnow⟩
    · rw [hput.others other hsame] at hother
      exact .inr ⟨hsame, lookup_roomFor hother⟩
  refine ⟨hput.size_le h, fun other otherState hother => ?_, fun other otherState hother => ?_⟩
  · rw [hput.seen]
    rcases hentry other otherState hother with ⟨hsame, hstate⟩ | ⟨hne, hbefore⟩
    · rw [if_pos hsame, hstate]
    · rw [if_neg hne, h.seen other otherState hbefore]
  · rcases hentry other otherState hother with ⟨-, hstate⟩ | ⟨-, hbefore⟩
    · rwa [hstate]
    · exact h.inTime other otherState hbefore

/-- A stream that is gone after a packet of another one. -/
theorem Puts.evicted {w' : StreamWatch} (hput : Puts w w' nowMs expectedRemoteSsrc ssrc)
    (h : StreamsOk w) {gone : UInt32} (hmem : gone ∈ w.table) (hgone : gone ∉ w'.table) :
    MayEvict w gone (.consumePacket place nowMs packet expectedRemoteSsrc) := by
  obtain ⟨streamState, hlookup⟩ := lookup_of_mem hmem
  have hne : gone ≠ ssrc := by
    intro hsame
    obtain ⟨_, hput, -⟩ := hput.put
    exact hgone (hsame ▸ mem_of_lookup hput)
  have hroom : (roomFor w.table nowMs expectedRemoteSsrc ssrc).lookup gone = none := by
    rw [← hput.others gone hne]
    exact AList.lookup_eq_none.mpr hgone
  rw [roomFor] at hroom
  split at hroom
  · rw [hlookup] at hroom
    cases hroom
  · show if expectedRemoteSsrc = 0 then _ else _
    split
    · rename_i hzero
      rw [hzero] at hroom
      have hseen := h.seen gone streamState hlookup
      rcases pruneStreamStates_evicted h.inTime h.size hlookup
        (AList.lookup_eq_none.mp hroom) with hidle | ⟨hfull, hmin⟩
      · exact .inl ⟨_, hseen, hidle⟩
      · refine .inr ⟨hfull, _, hseen, fun other hother => ?_⟩
        obtain ⟨otherState, hother⟩ := lookup_of_mem hother
        exact ⟨_, h.seen other otherState hother, hmin other otherState hother⟩
    · rename_i hexpected
      intro hsame
      have hkept := (pruneStreamStates_expected hexpected w.table nowMs gone streamState).mpr
        ⟨hlookup, hsame⟩
      rw [hroom] at hkept
      cases hkept

theorem streamOf_expected {config : VideoRecvPipelineConfig}
    (h : streamOf config packet expectedRemoteSsrc = some ssrc)
    (hexpected : expectedRemoteSsrc ≠ 0) : ssrc = expectedRemoteSsrc := by
  obtain ⟨⟨-, hours, -⟩, hssrc⟩ := Option.ite_none_right_eq_some.mp h
  cases hssrc
  exact hours.resolve_left hexpected

theorem Puts.onlyExpected {w' : StreamWatch} (hput : Puts w w' nowMs expectedRemoteSsrc ssrc)
    (hexpected : expectedRemoteSsrc ≠ 0) (hssrc : ssrc = expectedRemoteSsrc)
    (hnew : ssrc ∉ w.table) : ∀ other ∈ w'.table, other = expectedRemoteSsrc := by
  intro other hother
  by_contra hne
  obtain ⟨otherState, hlookup⟩ := lookup_of_mem hother
  rw [hput.others other (fun hsame => hne (hsame.trans hssrc)), roomFor, if_neg hnew] at hlookup
  exact hne ((pruneStreamStates_expected hexpected ..).mp hlookup).2

theorem step_spec (h : StreamsOk w) (htime : InTime op) :
    StreamsOk (w.step op) ∧ PrunesWell w op := by
  cases op with
  | rehash first =>
    have hsize : (w.step (.rehash first)).table.keys.length = w.table.keys.length :=
      length_keys_toFront ..
    have hmem : ∀ ssrc ∈ w.table, ssrc ∈ (w.step (.rehash first)).table := by
      intro ssrc hssrc
      obtain ⟨streamState, hlookup⟩ := lookup_of_mem hssrc
      exact mem_of_lookup ((lookup_step_rehash w first ssrc).trans hlookup)
    refine ⟨⟨by rw [hsize]; exact h.size, fun ssrc streamState hlookup => ?_,
      fun ssrc streamState hlookup => ?_⟩, by rw [hsize]; exact h.size, nofun,
      fun ssrc hssrc hgone => absurd (hmem ssrc hssrc) hgone, trivial⟩
    · rw [lookup_step_rehash] at hlookup
      exact h.seen ssrc streamState hlookup
    · rw [lookup_step_rehash] at hlookup
      exact h.inTime ssrc streamState hlookup
  | consumePacket place nowMs packet expectedRemoteSsrc =>
    cases hstream : streamOf w.pipeline.config packet expectedRemoteSsrc with
    | none =>
      have hcurrent : w.current (.consumePacket place nowMs packet expectedRemoteSsrc) = none := by
        rw [StreamWatch.current, hstream]
        rfl
      have hsame := step_ignored hstream place nowMs
      refine ⟨by rw [hsame]; exact h, by rw [hsame]; exact h.size, fun ssrc nowMs hnow => ?_,
        fun ssrc hssrc hgone => absurd hssrc (hsame ▸ hgone), fun _ ssrc hsome => ?_⟩
      · rw [hcurrent] at hnow
        cases hnow
      · rw [hstream] at hsome
        cases hsome
    | some ssrc =>
      have hcurrent : w.current (.consumePacket place nowMs packet expectedRemoteSsrc) =
          some (ssrc, nowMs) := by
        rw [StreamWatch.current, hstream]
        rfl
      have hput := step_put hstream place nowMs
      refine ⟨hput.streamsOk h htime, hput.size_le h, fun ssrc' nowMs' hnow => ?_,
        fun gone hmem hgone => hput.evicted h hmem hgone, fun hexpected ssrc' hsome hnew => ?_⟩
      · rw [hcurrent] at hnow
        cases hnow
        exact hput.put
      · rw [hstream] at hsome
        cases hsome
        exact hput.onlyExpected hexpected (streamOf_expected hstream hexpected) hnew

/-- Whatever packets arrive and whatever SSRC is expected with each of them: the
table is bounded, and a stream is evicted for one of the reasons only. -/
theorem prunes_well :
    (∀ (s : StreamStates) (nowMs : UInt64) (expectedRemoteSsrc : UInt32), expectedRemoteSsrc ≠ 0 →
      ∀ ssrc ∈ pruneStreamStates s nowMs expectedRemoteSsrc, ssrc = expectedRemoteSsrc) ∧
    ∀ (config : VideoRecvPipelineConfig) (ops : List PipelineOp), (∀ op ∈ ops, InTime op) →
      (run StreamWatch.step (.start config) ops).table.keys.length ≤ 8 ∧
        Along StreamWatch.step PrunesWell (.start config) ops := by
  constructor
  · intro s nowMs expectedRemoteSsrc hexpected ssrc hmem
    obtain ⟨streamState, hlookup⟩ := lookup_of_mem hmem
    exact ((pruneStreamStates_expected hexpected s nowMs ssrc streamState).mp hlookup).2
  · intro config ops hops
    have hinTime : Along StreamWatch.step (fun _ op => InTime op) (.start config) ops :=
      .of_mem hops
    have hstep : ∀ w op, InTime op → StreamsOk w → StreamsOk (w.step op) :=
      fun w op htime h => (step_spec h htime).1
    constructor
    · exact (hinTime.inv (P := StreamsOk) hstep (streamsOk_start config)).size
    · exact hinTime.of_inv hstep (fun w op htime h => (step_spec h htime).2)
        (streamsOk_start config)

/-- A packet of this stream. -/
def cameraPacket (ssrc : UInt32) : RTPPacket where
  header :=
    { version := 2, padding := false, extension := false, csrcCount := 0, marker := true
      payloadType := 96, sequenceNumber := 7, timestamp := 90000, ssrc }
  payload := [0x65, 0x88]

/-- A table that fills up, an arrival after 30 seconds, and one that is expected. -/
def streamArrivals : List PipelineOp :=
  [1, 2, 3, 4, 5, 6, 7, 8, 9].map
      (fun ssrc => .consumePacket 0 (1000 + ssrc.toUInt64) (cameraPacket ssrc) 0) ++
    [.consumePacket 2 31004 (cameraPacket 10) 0, .rehash 7,
      .consumePacket 0 31005 (cameraPacket 11) 11]

theorem prunes_well_arrivals :
    (∀ ssrc ∈ pruneStreamStates (run StreamWatch.step (.start ⟨97, 96⟩) streamArrivals).table
      31006 11, ssrc = 11) ∧
    (run StreamWatch.step (.start ⟨97, 96⟩) streamArrivals).table.keys.length ≤ 8 ∧
      Along StreamWatch.step PrunesWell (.start ⟨97, 96⟩) streamArrivals := by
  have hinTime : ∀ op ∈ streamArrivals, InTime op := by
    simp [streamArrivals, InTime]
  exact ⟨prunes_well.1 _ 31006 11 (by decide), prunes_well.2 ⟨97, 96⟩ streamArrivals hinTime⟩

end MeetingSystem.Proof.Client
