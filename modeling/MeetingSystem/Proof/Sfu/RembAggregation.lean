import MeetingSystem.Framework.Least
import MeetingSystem.Proof.Sfu.Feedback
import MeetingSystem.Proof.Sfu.FeedbackTables
import MeetingSystem.Proof.Sfu.Texts

/-!
# The REMB that is forwarded

`SelectAggregatedRembForSource` keeps one sample for each endpoint, overwrites
it with the next one and erases those that are too old when a REMB arrives.
`forwards_least`: what it selects is a sample with the least bitrate of all
endpoints' latest samples that are at most three seconds old, in the whole
history of the REMBs for the source.

The table is related to the history by `RembWatchOk`: an entry is the latest
sample of its endpoint, and a latest sample without an entry is too old, which
it stays as time does not go back. The operations of the media plane are steps
of such runs (`rembOps_step`).
-/

namespace MeetingSystem.Proof.Sfu

open MeetingSystem.Framework MeetingSystem.Impl.Sfu MediaIngress

variable {lib : SrtpLib}

/-! ## Watched runs -/

inductive RembOp (lib : SrtpLib) where
  /-- Anything else: it leads to this state, and the routes of some sources have
  been removed. -/
  | meanwhile (next : MediaIngress lib) (gone : UInt32 → Bool)
  | feedback (peer : Endpoint) (io : DatagramIo) (remb : RtcpRembFeedback) (targetSsrc : UInt32)

/-- The REMBs for a source, the last one first. -/
abbrev RembHistory := List (Endpoint × RembFeedbackSample)

structure RembWatch (lib : SrtpLib) where
  ingress : MediaIngress lib
  history : UInt32 → RembHistory
  clock : Nat

/-- A hash table after anything that may change its order. -/
def inOrderOf (new old : AList fun _ : String => RembFeedbackSample) :
    AList fun _ : String => RembFeedbackSample :=
  if new.entries.Perm old.entries then new else old

namespace RembWatch

def start (port : UInt16) (nackCapacity : Nat) : RembWatch lib :=
  { ingress := .new port nackCapacity, history := fun _ => [], clock := 0 }

variable (w : RembWatch lib) (peer : Endpoint) (io : DatagramIo) (remb : RtcpRembFeedback)
  (targetSsrc : UInt32)

def source : UInt32 := w.ingress.resolveNackSourceSsrc peer targetSsrc

/-- The steady clock does not go back. -/
def time : Nat := max w.clock io.now

def ioNow : DatagramIo := { io with now := w.time io }

def handled : MediaIngress lib × List (Event lib) :=
  handleRembTarget peer (w.ioNow io) remb w.ingress targetSsrc

/-- The REMBs for a source after this one. A REMB that finds no endpoint of a
publisher is dropped. -/
def nextHistory (x : UInt32) : RembHistory :=
  if x = w.source peer targetSsrc ∧ (w.ingress.resolvePublisherEndpoint x).isSome then
    (peer,
      { bitrateExp := remb.bitrateExp, bitrateMantissa := remb.bitrateMantissa
        bitrateBps := remb.bitrateBps, observedAt := w.time io }) :: w.history x
  else w.history x

def step : RembOp lib → RembWatch lib
  | .meanwhile next gone =>
    { w with
      ingress := { next with
        rembFeedbackBySource := fun x =>
          if gone x then ∅
          else inOrderOf (next.rembFeedbackBySource x) (w.ingress.rembFeedbackBySource x) }
      history := fun x => if gone x then [] else w.history x }
  | .feedback peer io remb targetSsrc =>
    { ingress := (w.handled peer io remb targetSsrc).1
      history := w.nextHistory peer io remb targetSsrc
      clock := w.time io }

end RembWatch

/-! ## The property -/

/-- The latest sample of an endpoint. -/
def latest (history : RembHistory) (endpoint : Endpoint) : Option RembFeedbackSample :=
  (history.find? fun x => x.1 = endpoint).map Prod.snd

/-- The sample is the latest of some endpoint, and at most three seconds old. -/
def IsRecent (history : RembHistory) (now : Nat) (sample : RembFeedbackSample) : Prop :=
  (∃ endpoint, latest history endpoint = some sample) ∧ now ≤ sample.observedAt + 3000000000

/-- What a REMB for a reachable publisher leads to: the packet that is forwarded
has the exponent and the mantissa of a sample with the least bitrate. -/
def ForwardsLeast (w : RembWatch lib) : RembOp lib → Prop
  | .meanwhile _ _ => True
  | .feedback peer io remb targetSsrc =>
    ∀ endpoint, w.source peer targetSsrc ≠ 0 →
      w.ingress.resolvePublisherEndpoint (w.source peer targetSsrc) = some endpoint →
        ∃ sample, IsRecent (w.nextHistory peer io remb targetSsrc (w.source peer targetSsrc))
            (w.time io) sample ∧
          (∀ other, IsRecent (w.nextHistory peer io remb targetSsrc (w.source peer targetSsrc))
            (w.time io) other → sample.bitrateBps ≤ other.bitrateBps) ∧
          ∃ noted : MediaIngress lib, w.handled peer io remb targetSsrc =
            andThen (noted, [.rembSampled (w.source peer targetSsrc)]) fun s =>
              report .answered (s.sendRtcp endpoint
                (buildRembPacket remb.senderSsrc (w.source peer targetSsrc) sample.bitrateExp
                  sample.bitrateMantissa (w.source peer targetSsrc)))

/-! ## The scan -/

/-- The sample's bitrate is less. -/
def lowerRate (a b : RembFeedbackSample) : Bool := a.bitrateBps < b.bitrateBps

theorem strictWeak_lowerRate : StrictWeak lowerRate where
  asymm a b h := by
    simp only [lowerRate, decide_eq_true_eq, decide_eq_false_iff_not, UInt32.lt_iff_toNat_lt] at *
    omega
  negTrans a b c hab hbc := by
    simp only [lowerRate, decide_eq_false_iff_not, UInt32.lt_iff_toNat_lt] at *
    omega

theorem leastSample_eq (first : RembFeedbackSample) (rest : List RembFeedbackSample) :
    least lowerRate (first :: rest) = some (leastSample first rest) := by
  show rest.foldl (pickLess lowerRate) (some first) = _
  induction rest generalizing first with
  | nil => rfl
  | cons sample rest ih =>
    rw [List.foldl_cons, leastSample, ← ih]
    congr 1
    show (if lowerRate sample first then some sample else some first) = _
    simp only [lowerRate, decide_eq_true_eq]
    split <;> rfl

theorem leastSample_spec (first : RembFeedbackSample) (rest : List RembFeedbackSample) :
    leastSample first rest ∈ first :: rest ∧
      ∀ sample ∈ first :: rest, (leastSample first rest).bitrateBps ≤ sample.bitrateBps := by
  obtain ⟨hmem, hleast⟩ := least_spec strictWeak_lowerRate (leastSample_eq first rest)
  refine ⟨hmem, fun sample hsample => ?_⟩
  have hnot := hleast sample hsample
  simp only [lowerRate, decide_eq_false_iff_not, UInt32.lt_iff_toNat_lt,
    UInt32.le_iff_toNat_le] at hnot ⊢
  omega

/-! ## One REMB -/

variable {s : MediaIngress lib} {peer : Endpoint} {io : DatagramIo} {remb : RtcpRembFeedback}
  {source : UInt32}

/-- The sample that a REMB is noted as. -/
def sampleOf (remb : RtcpRembFeedback) (now : Nat) : RembFeedbackSample :=
  { bitrateExp := remb.bitrateExp, bitrateMantissa := remb.bitrateMantissa
    bitrateBps := remb.bitrateBps, observedAt := now }

/-- The table of a source after a REMB from `peer`. -/
def notedTable (s : MediaIngress lib) (source : UInt32) (peer : Endpoint) (remb : RtcpRembFeedback)
    (io : DatagramIo) : AList fun _ : String => RembFeedbackSample :=
  retain (fun _ sample => io.now ≤ sample.observedAt + kRembFeedbackTtl)
    (assign (io.rembPlace source) (endpointKey peer) (sampleOf remb io.now)
      (s.rembFeedbackBySource source))

/-- The state in which the sample is noted. -/
def withSample (s : MediaIngress lib) (source : UInt32) (peer : Endpoint) (remb : RtcpRembFeedback)
    (io : DatagramIo) : MediaIngress lib :=
  { s with
    rembFeedbackBySource :=
      Function.update s.rembFeedbackBySource source (notedTable s source peer remb io) }

theorem lookup_notedTable {key : String} {sample : RembFeedbackSample} :
    (notedTable s source peer remb io).lookup key = some sample ↔
      (if key = endpointKey peer then some (sampleOf remb io.now)
        else (s.rembFeedbackBySource source).lookup key) = some sample ∧
        io.now ≤ sample.observedAt + 3000000000 := by
  have httl : kRembFeedbackTtl = 3000000000 := rfl
  rw [notedTable, lookup_retain, lookup_assign, decide_eq_true_iff, httl]

theorem mem_samples {table : AList fun _ : String => RembFeedbackSample}
    {sample : RembFeedbackSample} :
    sample ∈ table.entries.map (fun x => x.2) ↔ ∃ key, table.lookup key = some sample := by
  rw [List.mem_map]
  constructor
  · intro ⟨entry, hentry, heq⟩
    exact ⟨entry.1, heq ▸ mem_entries.mp hentry⟩
  · intro ⟨key, hlookup⟩
    exact ⟨⟨key, sample⟩, mem_entries.mpr hlookup, rfl⟩

theorem selectAggregatedRemb_eq (s : MediaIngress lib) (hsource : source ≠ 0) (peer : Endpoint)
    (remb : RtcpRembFeedback) (io : DatagramIo) {first : RembFeedbackSample}
    {rest : List RembFeedbackSample}
    (h : (notedTable s source peer remb io).entries.map (fun x => x.2) = first :: rest) :
    s.selectAggregatedRembForSource source peer remb io = (withSample s source peer remb io,
      some ((leastSample first rest).bitrateExp, (leastSample first rest).bitrateMantissa)) := by
  rw [notedTable, sampleOf] at h
  simp only [selectAggregatedRembForSource, if_neg hsource, h]
  rfl

/-- The sample that is selected is noted, with the least bitrate of all noted. -/
theorem selectAggregatedRemb_spec (s : MediaIngress lib) (hsource : source ≠ 0) (peer : Endpoint)
    (remb : RtcpRembFeedback) (io : DatagramIo) :
    ∃ sample, s.selectAggregatedRembForSource source peer remb io =
        (withSample s source peer remb io, some (sample.bitrateExp, sample.bitrateMantissa)) ∧
      (∃ key, (notedTable s source peer remb io).lookup key = some sample) ∧
      ∀ key other, (notedTable s source peer remb io).lookup key = some other →
        sample.bitrateBps ≤ other.bitrateBps := by
  have hnew : (notedTable s source peer remb io).lookup (endpointKey peer) =
      some (sampleOf remb io.now) := by
    refine lookup_notedTable.mpr ⟨if_pos rfl, ?_⟩
    exact Nat.le_add_right io.now 3000000000
  cases hentries : (notedTable s source peer remb io).entries.map fun x => x.2 with
  | nil =>
    have hnone := mem_samples.mpr ⟨_, hnew⟩
    rw [hentries] at hnone
    cases hnone
  | cons first rest =>
    obtain ⟨hleast, hle⟩ := leastSample_spec first rest
    refine ⟨leastSample first rest, selectAggregatedRemb_eq s hsource peer remb io hentries, ?_,
      fun key other hother => ?_⟩
    · rw [← hentries] at hleast
      exact mem_samples.mp hleast
    · have hmem := mem_samples.mpr ⟨key, hother⟩
      rw [hentries] at hmem
      exact hle other hmem

/-! ## The table and the history -/

variable {w : RembWatch lib} {op : RembOp lib}

theorem latest_cons (endpoint other : Endpoint) (sample : RembFeedbackSample)
    (history : RembHistory) : latest ((endpoint, sample) :: history) other =
      if other = endpoint then some sample else latest history other := by
  unfold latest
  by_cases h : endpoint = other
  · rw [List.find?_cons_of_pos (by simpa using h), if_pos h.symm]
    rfl
  · rw [List.find?_cons_of_neg (by simpa using h), if_neg (Ne.symm h)]

/-- An entry is the latest sample of its endpoint, and a latest sample that has
none is too old. -/
structure RembWatchOk (w : RembWatch lib) : Prop where
  noted : ∀ x key sample, (w.ingress.rembFeedbackBySource x).lookup key = some sample →
    ∃ endpoint, key = endpointKey endpoint ∧ latest (w.history x) endpoint = some sample
  kept : ∀ x endpoint sample, latest (w.history x) endpoint = some sample →
    (w.ingress.rembFeedbackBySource x).lookup (endpointKey endpoint) = some sample ∨
      sample.observedAt + 3000000000 < w.clock

theorem rembWatchOk_start (port : UInt16) (nackCapacity : Nat) :
    RembWatchOk (RembWatch.start port nackCapacity : RembWatch lib) :=
  ⟨fun _ _ _ h => (nomatch h), fun _ _ _ h => (nomatch h)⟩

theorem lookup_inOrderOf (new old : AList fun _ : String => RembFeedbackSample) (key : String) :
    (inOrderOf new old).lookup key = old.lookup key := by
  unfold inOrderOf
  split
  · rename_i hperm
    exact AList.perm_lookup hperm
  · rfl

theorem RembWatchOk.noted_next (h : RembWatchOk w) {key : String} {sample : RembFeedbackSample}
    (hlookup : (notedTable w.ingress source peer remb io).lookup key = some sample) :
    ∃ endpoint, key = endpointKey endpoint ∧
      latest ((peer, sampleOf remb io.now) :: w.history source) endpoint = some sample := by
  replace hlookup := (lookup_notedTable.mp hlookup).1
  split at hlookup
  · rename_i hkey
    exact ⟨peer, hkey, by rw [latest_cons, if_pos rfl, hlookup]⟩
  · rename_i hkey
    obtain ⟨endpoint, rfl, hlatest⟩ := h.noted source key sample hlookup
    have hother : endpoint ≠ peer := fun heq => hkey (congrArg endpointKey heq)
    exact ⟨endpoint, rfl, by rw [latest_cons, if_neg hother, hlatest]⟩

theorem RembWatchOk.kept_next (h : RembWatchOk w) (hclock : w.clock ≤ io.now)
    {endpoint : Endpoint} {sample : RembFeedbackSample}
    (hlatest : latest ((peer, sampleOf remb io.now) :: w.history source) endpoint = some sample) :
    (notedTable w.ingress source peer remb io).lookup (endpointKey endpoint) = some sample ∨
      sample.observedAt + 3000000000 < io.now := by
  by_cases hage : io.now ≤ sample.observedAt + 3000000000
  · refine .inl (lookup_notedTable.mpr ⟨?_, hage⟩)
    rw [latest_cons] at hlatest
    split at hlatest
    · rename_i heq
      rw [heq, if_pos rfl, hlatest]
    · rename_i hother
      rw [if_neg fun hkey => hother (endpointKey_inj hkey)]
      exact (h.kept source endpoint sample hlatest).resolve_right (by omega)
  · exact .inr (by omega)

/-- The samples that are noted for a source after a REMB are the latest of the
endpoints that are recent enough. -/
theorem RembWatchOk.recent (h : RembWatchOk w) (hclock : w.clock ≤ io.now)
    {sample : RembFeedbackSample} :
    (∃ key, (notedTable w.ingress source peer remb io).lookup key = some sample) ↔
      IsRecent ((peer, sampleOf remb io.now) :: w.history source) io.now sample := by
  constructor
  · intro ⟨key, hlookup⟩
    obtain ⟨endpoint, -, hlatest⟩ := h.noted_next hlookup
    exact ⟨⟨endpoint, hlatest⟩, (lookup_notedTable.mp hlookup).2⟩
  · intro ⟨⟨endpoint, hlatest⟩, hage⟩
    exact ⟨endpointKey endpoint, (h.kept_next hclock hlatest).resolve_right (by omega)⟩

/-! ## Every run -/

variable {targetSsrc : UInt32}

/-- A REMB for a reachable publisher: which sample is selected, and what is
done with it. -/
theorem handleRembTarget_eq {endpoint : Endpoint}
    (hsource : s.resolveNackSourceSsrc peer targetSsrc = source) (hne : source ≠ 0)
    (hendpoint : s.resolvePublisherEndpoint source = some endpoint) :
    ∃ sample, (∃ key, (notedTable s source peer remb io).lookup key = some sample) ∧
      (∀ key other, (notedTable s source peer remb io).lookup key = some other →
        sample.bitrateBps ≤ other.bitrateBps) ∧
      handleRembTarget peer io remb s targetSsrc =
        andThen (withSample s source peer remb io, [.rembSampled source]) fun s =>
          report .answered (s.sendRtcp endpoint
            (buildRembPacket remb.senderSsrc source sample.bitrateExp sample.bitrateMantissa
              source)) := by
  obtain ⟨sample, hselect, hnoted, hleast⟩ := selectAggregatedRemb_spec s hne peer remb io
  refine ⟨sample, hnoted, hleast, ?_⟩
  simp only [handleRembTarget, hsource, if_neg hne, hendpoint, hselect]

theorem handleRembTarget_ignored
    (h : s.resolveNackSourceSsrc peer targetSsrc = 0 ∨
      s.resolvePublisherEndpoint (s.resolveNackSourceSsrc peer targetSsrc) = none) :
    handleRembTarget peer io remb s targetSsrc = (s, []) := by
  rcases h with hsource | hendpoint
  · simp only [handleRembTarget, hsource, if_true]
  · simp only [handleRembTarget, hendpoint, ite_self]

/-- The table of the source is the noted one, and no other changes. -/
theorem handled_rembFeedback {endpoint : Endpoint}
    (hsource : s.resolveNackSourceSsrc peer targetSsrc = source) (hne : source ≠ 0)
    (hendpoint : s.resolvePublisherEndpoint source = some endpoint) :
    (handleRembTarget peer io remb s targetSsrc).1.rembFeedbackBySource =
      Function.update s.rembFeedbackBySource source (notedTable s source peer remb io) := by
  obtain ⟨sample, -, -, heq⟩ := handleRembTarget_eq hsource hne hendpoint
  rw [heq]
  exact congrArg Prod.snd (feedbackTables_sendWith _ _ endpoint _)

theorem resolvePublisherEndpoint_zero (s : MediaIngress lib) :
    s.resolvePublisherEndpoint 0 = none := if_pos rfl

/-- A REMB that is dropped. -/
theorem step_dropped
    (hendpoint : w.ingress.resolvePublisherEndpoint (w.source peer targetSsrc) = none)
    (io : DatagramIo) (remb : RtcpRembFeedback) :
    w.step (.feedback peer io remb targetSsrc) =
      { ingress := w.ingress, history := w.history, clock := w.time io } := by
  have hhandled : w.handled peer io remb targetSsrc = (w.ingress, []) :=
    handleRembTarget_ignored (.inr hendpoint)
  have hhistory : w.nextHistory peer io remb targetSsrc = w.history := by
    funext x
    refine if_neg fun ⟨hx, hsome⟩ => ?_
    rw [hx, hendpoint] at hsome
    cases hsome
  rw [RembWatch.step, hhandled, hhistory]

/-- A REMB that is noted, in the table of its source and in the history. -/
theorem step_noted {endpoint : Endpoint}
    (hendpoint : w.ingress.resolvePublisherEndpoint (w.source peer targetSsrc) = some endpoint)
    (io : DatagramIo) (remb : RtcpRembFeedback) :
    (w.step (.feedback peer io remb targetSsrc)).ingress.rembFeedbackBySource =
        Function.update w.ingress.rembFeedbackBySource (w.source peer targetSsrc)
          (notedTable w.ingress (w.source peer targetSsrc) peer remb (w.ioNow io)) ∧
      ∀ x, (w.step (.feedback peer io remb targetSsrc)).history x =
        if x = w.source peer targetSsrc then (peer, sampleOf remb (w.time io)) :: w.history x
        else w.history x := by
  constructor
  · refine handled_rembFeedback rfl (fun hzero => ?_) hendpoint
    have hnone := resolvePublisherEndpoint_zero w.ingress
    rw [← hzero] at hnone
    exact absurd (hnone.symm.trans hendpoint) (by simp)
  · intro x
    by_cases hx : x = w.source peer targetSsrc
    · rw [if_pos hx]
      exact if_pos ⟨hx, by rw [hx, hendpoint]; rfl⟩
    · rw [if_neg hx]
      exact if_neg fun hboth => hx hboth.1

theorem rembWatchOk_feedback (h : RembWatchOk w) (peer : Endpoint) (io : DatagramIo)
    (remb : RtcpRembFeedback) (targetSsrc : UInt32) :
    RembWatchOk (w.step (.feedback peer io remb targetSsrc)) := by
  have hclock : w.clock ≤ w.time io := Nat.le_max_left ..
  have holder : ∀ x endpoint sample, latest (w.history x) endpoint = some sample →
      (w.ingress.rembFeedbackBySource x).lookup (endpointKey endpoint) = some sample ∨
        sample.observedAt + 3000000000 < w.time io :=
    fun x endpoint sample hlatest => (h.kept x endpoint sample hlatest).imp id fun hold => by omega
  cases hendpoint : w.ingress.resolvePublisherEndpoint (w.source peer targetSsrc) with
  | none =>
    rw [step_dropped hendpoint]
    exact ⟨h.noted, holder⟩
  | some endpoint =>
    obtain ⟨htable, hhistory⟩ := step_noted hendpoint io remb
    refine ⟨fun x key sample hlookup => ?_, fun x other sample hlatest => ?_⟩
    · rw [htable] at hlookup
      rw [hhistory]
      by_cases hx : x = w.source peer targetSsrc
      · rw [hx, Function.update_self] at hlookup
        rw [if_pos hx, hx]
        exact h.noted_next hlookup
      · rw [Function.update_of_ne hx] at hlookup
        rw [if_neg hx]
        exact h.noted x key sample hlookup
    · rw [hhistory] at hlatest
      rw [htable]
      by_cases hx : x = w.source peer targetSsrc
      · rw [if_pos hx, hx] at hlatest
        rw [hx, Function.update_self]
        exact RembWatchOk.kept_next h hclock hlatest
      · rw [if_neg hx] at hlatest
        rw [Function.update_of_ne hx]
        exact holder x other sample hlatest

theorem rembWatchOk_step (h : RembWatchOk w) (op : RembOp lib) : RembWatchOk (w.step op) := by
  cases op with
  | feedback peer io remb targetSsrc => exact rembWatchOk_feedback h peer io remb targetSsrc
  | meanwhile next gone =>
    have htable : ∀ x key, ((w.step (.meanwhile next gone)).ingress.rembFeedbackBySource x).lookup
        key = if gone x then none else (w.ingress.rembFeedbackBySource x).lookup key := by
      intro x key
      show AList.lookup key (if gone x then ∅ else inOrderOf _ _) = _
      split
      · rfl
      · exact lookup_inOrderOf ..
    have hhistory : ∀ x, (w.step (.meanwhile next gone)).history x =
        if gone x then [] else w.history x := fun _ => rfl
    refine ⟨fun x key sample hlookup => ?_, fun x endpoint sample hlatest => ?_⟩
    · rw [htable] at hlookup
      rw [hhistory]
      split at hlookup
      · cases hlookup
      · rename_i hgone
        rw [if_neg hgone]
        exact h.noted x key sample hlookup
    · rw [hhistory] at hlatest
      rw [htable]
      split at hlatest
      · cases hlatest
      · rename_i hgone
        rw [if_neg hgone]
        exact h.kept x endpoint sample hlatest

theorem forwardsLeast_of_ok (h : RembWatchOk w) (op : RembOp lib) : ForwardsLeast w op := by
  cases op with
  | meanwhile => trivial
  | feedback peer io remb targetSsrc =>
    intro endpoint hne hendpoint
    have hclock : w.clock ≤ (w.ioNow io).now := Nat.le_max_left ..
    have hhistory : w.nextHistory peer io remb targetSsrc (w.source peer targetSsrc) =
        (peer, sampleOf remb (w.ioNow io).now) :: w.history (w.source peer targetSsrc) :=
      if_pos ⟨rfl, by rw [hendpoint]; rfl⟩
    have hsource : w.ingress.resolveNackSourceSsrc peer targetSsrc = w.source peer targetSsrc := rfl
    obtain ⟨sample, hnoted, hleast, heq⟩ := handleRembTarget_eq hsource hne hendpoint
    rw [hhistory]
    refine ⟨sample, (h.recent hclock).mp hnoted, fun other hother => ?_, _, heq⟩
    obtain ⟨key, hlookup⟩ := (h.recent hclock).mpr hother
    exact hleast key other hlookup

/-- In every run, what is forwarded after a REMB is a sample with the least
bitrate of the latest ones that are recent. -/
theorem forwards_least (port : UInt16) (nackCapacity : Nat) (ops : List (RembOp lib)) :
    Along RembWatch.step ForwardsLeast (.start port nackCapacity) ops := by
  exact Along.of_invariant (P := RembWatchOk) (fun _ op h => rembWatchOk_step h op)
    (fun _ op h => forwardsLeast_of_ok h op) (rembWatchOk_start port nackCapacity) ops

/-! ## The operations of the media plane -/

/-- Anything else that leads to this state. -/
def RembOp.goOn (next : MediaIngress lib) : RembOp lib :=
  .meanwhile next fun x => (next.rembFeedbackBySource x).entries.isEmpty

/-- A datagram's REMBs, one step for each of their sources. -/
def rembFeedback (peer : Endpoint) (io : DatagramIo) (rembs : List RtcpRembFeedback) :
    List (RembOp lib) :=
  rembs.flatMap fun remb => remb.targetSsrcs.map (.feedback peer io remb)

/-- The state in which the REMBs of a control packet are handled. -/
def beforeRembs (s : MediaIngress lib) (control : Bytes) (peer : Endpoint) (now : Nat) :
    MediaIngress lib :=
  (forEach (handlePli peer now) (beforePlis s control peer now)
    (RtcpHandler.parsePliFeedback control)).1

/-- The steps that an operation consists of. -/
def rembOps (w : RembWatch lib) : Op → List (RembOp lib)
  | .datagram data peer io =>
    match controlOf w.ingress data peer with
    | none => [.goOn (w.ingress.step (.datagram data peer io))]
    | some control =>
      .goOn (beforeRembs (mediaState w.ingress data peer) control peer io.now) ::
        rembFeedback peer io (RtcpHandler.parseRembFeedback control)
  | op => [.goOn (w.ingress.step op)]

theorem RembOp.goOn_ingress {next : MediaIngress lib}
    (h : ∀ x, (next.rembFeedbackBySource x).entries.Perm
        (w.ingress.rembFeedbackBySource x).entries ∨ next.rembFeedbackBySource x = ∅) :
    (w.step (.goOn next)).ingress = next := by
  have htable : (fun x => if (next.rembFeedbackBySource x).entries.isEmpty then ∅ else
      inOrderOf (next.rembFeedbackBySource x) (w.ingress.rembFeedbackBySource x)) =
        next.rembFeedbackBySource := by
    funext x
    split
    · rename_i hempty
      exact (AList.ext (List.isEmpty_iff.mp hempty)).symm
    · rename_i hsome
      rcases h x with hperm | hgone
      · exact if_pos hperm
      · rw [hgone] at hsome
        exact absurd rfl hsome
  show { next with rembFeedbackBySource := _ } = next
  rw [htable]

theorem beforeRembs_rembFeedback (s : MediaIngress lib) (control : Bytes) (peer : Endpoint)
    (now : Nat) :
    (beforeRembs s control peer now).rembFeedbackBySource = s.rembFeedbackBySource := by
  refine Eq.trans (b := (beforePlis s control peer now).rembFeedbackBySource) ?_
    (congrArg Prod.snd (feedbackTables_beforePlis ..))
  exact forEach_rel (R := fun s s' : MediaIngress lib =>
    s'.rembFeedbackBySource = s.rembFeedbackBySource) (fun _ => rfl) (fun h h' => h'.trans h)
    (handlePli_rembFeedback peer now) ..

/-- The loop over the sources of a REMB. -/
theorem run_rembTargets (w : RembWatch lib) (peer : Endpoint) (remb : RtcpRembFeedback)
    (targets : List UInt32) (hclock : w.clock ≤ io.now) :
    (run RembWatch.step w (targets.map (.feedback peer io remb))).ingress =
        (forEach (handleRembTarget peer io remb) w.ingress targets).1 ∧
      (run RembWatch.step w (targets.map (.feedback peer io remb))).clock ≤ io.now := by
  induction targets generalizing w with
  | nil => exact ⟨rfl, hclock⟩
  | cons target targets ih =>
    have htime : w.time io = io.now := Nat.max_eq_right hclock
    have hio : w.ioNow io = io := congrArg (fun t => { io with now := t }) htime
    have hnext : (w.step (.feedback peer io remb target)).ingress =
        (handleRembTarget peer io remb w.ingress target).1 :=
      congrArg (fun io => (handleRembTarget peer io remb w.ingress target).1) hio
    rw [List.map_cons, run_cons]
    obtain ⟨hingress, hafter⟩ := ih (w.step (.feedback peer io remb target)) htime.le
    refine ⟨?_, hafter⟩
    rw [hingress, hnext]
    rfl

/-- The loop over the REMBs of a datagram. -/
theorem run_rembFeedback (rembs : List RtcpRembFeedback) (hclock : w.clock ≤ io.now) :
    (run RembWatch.step w (rembFeedback peer io rembs)).ingress =
      (forEach (handleRemb peer io) w.ingress rembs).1 := by
  induction rembs generalizing w with
  | nil => rfl
  | cons remb rembs ih =>
    obtain ⟨hingress, hafter⟩ := run_rembTargets w peer remb remb.targetSsrcs hclock
    rw [rembFeedback, List.flatMap_cons, run_append]
    refine (ih hafter).trans ?_
    rw [hingress]
    rfl

theorem rembOps_step (w : RembWatch lib) (op : Op)
    (hclock : ∀ data peer io, op = .datagram data peer io → w.clock ≤ io.now) :
    (run RembWatch.step w (rembOps w op)).ingress = w.ingress.step op := by
  rcases controlOf_cases w.ingress op with ⟨data, peer, io, control, rfl, hcontrol⟩ | hother
  · have htables : (mediaState w.ingress data peer).rembFeedbackBySource =
        w.ingress.rembFeedbackBySource := congrArg Prod.snd (feedbackTables_mediaState ..)
    simp only [rembOps, hcontrol]
    rw [run_cons]
    have hstep : w.ingress.step (.datagram data peer io) =
        (forEach (handleRemb peer io)
          (beforeRembs (mediaState w.ingress data peer) control peer io.now)
          (RtcpHandler.parseRembFeedback control)).1 :=
      (congrArg Prod.fst (handlePacket_control hcontrol io)).trans (handleControlPacket_eq ..)
    have hingress : (w.step (.goOn
        (beforeRembs (mediaState w.ingress data peer) control peer io.now))).ingress =
          beforeRembs (mediaState w.ingress data peer) control peer io.now := by
      refine RembOp.goOn_ingress fun x => .inl ?_
      rw [beforeRembs_rembFeedback, htables]
    have hclock₁ : (w.step (.goOn (beforeRembs (mediaState w.ingress data peer) control peer
        io.now))).clock ≤ io.now := hclock data peer io rfl
    rw [run_rembFeedback _ hclock₁, hingress, hstep]
  · have hops : rembOps w op = [.goOn (w.ingress.step op)] := by
      cases op with
      | datagram data peer io => simp only [rembOps, hother data peer io rfl]
      | _ => rfl
    rw [hops]
    exact RembOp.goOn_ingress fun x => (onlyForgets_step hother x).imp And.right And.right

end MeetingSystem.Proof.Sfu
