import MeetingSystem.Proof.Sfu.Feedback
import MeetingSystem.Proof.Sfu.FeedbackTables

/-!
# Throttled PLIs

`ShouldForwardPli` notes the time of every PLI that it lets pass, and does so
before the endpoint of the publisher is looked up and the packet is protected.
If one of these fails, the PLI is not sent, and the throttle holds the next
ones back all the same.

A run is watched with the times at which PLIs were sent (`PliWatch`).
Everything that happens between two PLIs is one step to any state, which may
forget what was noted about a source but not change it (`pliOps_step`: the
operations of the media plane are such steps).

* `pliLaw_along_of_sendable`: a PLI is held back only for one that was sent, and
  those sent are 200 ms apart, if every PLI can be sent (`Sendable`) and the note
  about a source is not erased soon after one was (`ErasesLate`);
* `earlyPli_lost`: neither can be left out.
-/

namespace MeetingSystem.Proof.Sfu

open MeetingSystem.Framework MeetingSystem.Impl.Sfu MediaIngress

variable {lib : SrtpLib}

/-! ## Watched runs -/

inductive PliOp (lib : SrtpLib) where
  /-- Anything else: it leads to this state, and what was noted about some
  sources is gone. -/
  | meanwhile (now : Nat) (next : MediaIngress lib) (gone : UInt32 → Bool)
  | feedback (peer : Endpoint) (now : Nat) (pli : RtcpPliFeedback)

/-- The clock shows the time of the last step. -/
structure PliWatch (lib : SrtpLib) where
  ingress : MediaIngress lib
  sent : UInt32 → List Nat
  clock : Nat

/-- A PLI was sent to the publisher of this source. -/
def sendsPli (source : UInt32) : Event lib → Bool
  | .pliForwarded source' _ => source' = source
  | _ => false

namespace PliWatch

def start (port : UInt16) (nackCapacity : Nat) : PliWatch lib :=
  { ingress := .new port nackCapacity, sent := fun _ => [], clock := 0 }

variable (w : PliWatch lib)

/-- The steady clock does not go back. -/
def time (now : Nat) : Nat := max w.clock now

def source (peer : Endpoint) (pli : RtcpPliFeedback) : UInt32 :=
  w.ingress.resolveNackSourceSsrc peer pli.mediaSsrc

def handled (peer : Endpoint) (now : Nat) (pli : RtcpPliFeedback) :
    MediaIngress lib × List (Event lib) :=
  handlePli peer (w.time now) w.ingress pli

def step : PliOp lib → PliWatch lib
  | .meanwhile now next gone =>
    { w with
      ingress := { next with
        pliForwardBySource := fun x => if gone x then none else w.ingress.pliForwardBySource x }
      clock := w.time now }
  | .feedback peer now pli =>
    { ingress := (w.handled peer now pli).1
      sent := fun x =>
        if (w.handled peer now pli).2.any (sendsPli x) then w.time now :: w.sent x else w.sent x
      clock := w.time now }

end PliWatch

/-! ## The property -/

/-- A PLI for the source of a live publisher is held back only for one that was
sent in the last 200 ms, and those that are sent are 200 ms apart. -/
def PliLaw (w : PliWatch lib) : PliOp lib → Prop
  | .meanwhile _ _ _ => True
  | .feedback peer now pli =>
    (w.source peer pli ≠ 0 → (w.ingress.resolvePublisher (w.source peer pli)).isSome →
      (w.ingress.shouldForwardPli (w.source peer pli) (w.time now)).2 = false →
        ∃ sentAt ∈ w.sent (w.source peer pli),
          sentAt ≤ w.time now ∧ w.time now < sentAt + 200000000) ∧
      ∀ x, (w.handled peer now pli).2.any (sendsPli x) →
        ∀ sentAt ∈ w.sent x, sentAt + 200000000 ≤ w.time now

/-- The publisher's endpoint is known and the PLI can be protected for it. -/
def Sendable (w : PliWatch lib) : PliOp lib → Prop
  | .meanwhile _ _ _ => True
  | .feedback peer _ pli =>
    w.source peer pli ≠ 0 →
      ∃ endpoint ∈ w.ingress.resolvePublisherEndpoint (w.source peer pli),
        w.ingress.endpointRequiresSecureMedia endpoint →
          (w.ingress.transportRegistry.protectRtcpToEndpoint endpoint
            (buildPliPacket pli.senderSsrc (w.source peer pli))).1.isSome

instance (w : PliWatch lib) : ∀ op, Decidable (Sendable w op)
  | .meanwhile _ _ _ => inferInstanceAs (Decidable True)
  | .feedback _ _ _ => inferInstanceAs (Decidable (_ → ∃ endpoint ∈ _, _))

/-- The note about a source is erased at least 200 ms after every PLI that was
sent for it. -/
def ErasesLate (w : PliWatch lib) : PliOp lib → Prop
  | .meanwhile now _ gone =>
    ∀ x, gone x → (w.ingress.pliForwardBySource x).isSome →
      ∀ sentAt ∈ w.sent x, sentAt + 200000000 ≤ w.time now
  | .feedback _ _ _ => True

/-! ## One PLI -/

variable {s : MediaIngress lib} {peer : Endpoint} {now : Nat} {pli : RtcpPliFeedback}

/-- The throttle holds a PLI back, or notes its time. -/
theorem shouldForwardPli_cases (s : MediaIngress lib) {source : UInt32} (hsource : source ≠ 0)
    (now : Nat) :
    (∃ last, s.pliForwardBySource source = some last ∧ now < last + 200000000) ∧
        s.shouldForwardPli source now = (s, false) ∨
      (∀ last, s.pliForwardBySource source = some last → last + 200000000 ≤ now) ∧
        s.shouldForwardPli source now = ({ s with
          pliForwardBySource := Function.update s.pliForwardBySource source (some now) }, true) := by
  have hcooldown : kPliForwardCooldown = 200000000 := rfl
  unfold shouldForwardPli
  split
  case isTrue hheld =>
    obtain ⟨last, hlast, hlt⟩ := (Option.any_eq_true ..).mp (hheld.resolve_left hsource)
    rw [decide_eq_true_iff, hcooldown] at hlt
    exact .inl ⟨⟨last, hlast, hlt⟩, rfl⟩
  case isFalse hfree =>
    refine .inr ⟨fun last hlast => ?_, rfl⟩
    have hfree := (not_or.mp hfree).2
    rw [hlast, Option.any_some, decide_eq_true_iff, hcooldown] at hfree
    exact Nat.not_lt.mp hfree

theorem shouldForwardPli_held {source : UInt32} (hsource : source ≠ 0) :
    (s.shouldForwardPli source now).2 = false ↔
      ∃ last, s.pliForwardBySource source = some last ∧ now < last + 200000000 := by
  rcases shouldForwardPli_cases s hsource now with ⟨hheld, heq⟩ | ⟨hfree, heq⟩
  · exact iff_of_true (by rw [heq]) hheld
  · refine iff_of_false (by simp [heq]) fun ⟨last, hlast, hlt⟩ => ?_
    have := hfree last hlast
    omega

/-- A PLI is ignored or held back, or it is noted, and then it may be sent. -/
theorem handlePli_cases (s : MediaIngress lib) (peer : Endpoint) (now : Nat)
    (pli : RtcpPliFeedback) :
    ((handlePli peer now s pli).1.pliForwardBySource = s.pliForwardBySource ∧
        (handlePli peer now s pli).2 = []) ∨
      ∃ source, source = s.resolveNackSourceSsrc peer pli.mediaSsrc ∧
        (∀ last, s.pliForwardBySource source = some last → last + 200000000 ≤ now) ∧
        (handlePli peer now s pli).1.pliForwardBySource =
          Function.update s.pliForwardBySource source (some now) ∧
        ∀ x, (handlePli peer now s pli).2.any (sendsPli x) → x = source := by
  simp only [handlePli]
  split
  · exact .inl ⟨rfl, rfl⟩
  · rename_i hsource
    rcases shouldForwardPli_cases s hsource now with ⟨-, heq⟩ | ⟨hfree, heq⟩
    · rw [heq]
      exact .inl ⟨rfl, rfl⟩
    · rw [heq]
      refine .inr ⟨_, rfl, hfree, ?_⟩
      simp only [not_true_eq_false, if_false]
      split
      · exact ⟨rfl, by simp⟩
      · rename_i endpoint _
        refine ⟨congrArg Prod.fst (feedbackTables_sendWith _ _ endpoint _), fun x hx => ?_⟩
        obtain ⟨event, hevent, hsends⟩ := List.any_eq_true.mp hx
        obtain ⟨sent, -, rfl⟩ := mem_report.mp hevent
        exact (of_decide_eq_true hsends).symm

/-! ## Every run -/

variable {w : PliWatch lib} {op : PliOp lib}

theorem sendWith_isSome
    {protect : TransportRegistry lib → Endpoint → Bytes → Option Bytes × TransportRegistry lib}
    {endpoint : Endpoint} {packet : Bytes}
    (h : s.endpointRequiresSecureMedia endpoint →
      (protect s.transportRegistry endpoint packet).1.isSome) :
    (s.sendWith protect endpoint packet).2.isSome := by
  simp only [sendWith]
  split
  case isTrue hsecure => simpa using h hsecure
  case isFalse => rfl

/-- What is noted is what was noted before, or the time of a PLI that is sent. -/
theorem handled_sent (hsendable : Sendable w (.feedback peer now pli)) (x : UInt32) (last : Nat)
    (hnoted : (w.handled peer now pli).1.pliForwardBySource x = some last) :
    w.ingress.pliForwardBySource x = some last ∨
      last = w.time now ∧ (w.handled peer now pli).2.any (sendsPli x) := by
  have hresolved : w.ingress.resolveNackSourceSsrc peer pli.mediaSsrc = w.source peer pli := rfl
  simp only [PliWatch.handled, handlePli, hresolved] at hnoted ⊢
  by_cases hsource : w.source peer pli = 0
  · rw [if_pos hsource] at hnoted
    exact .inl hnoted
  obtain ⟨endpoint, hendpoint, hprotect⟩ := hsendable hsource
  rw [Option.mem_def] at hendpoint
  rw [if_neg hsource] at hnoted ⊢
  rcases shouldForwardPli_cases w.ingress hsource (w.time now) with ⟨-, heq⟩ | ⟨-, heq⟩
  · rw [heq] at hnoted
    exact .inl hnoted
  · simp only [heq, not_true_eq_false, if_false] at hnoted ⊢
    generalize hs : ({ w.ingress with
      pliForwardBySource := Function.update w.ingress.pliForwardBySource (w.source peer pli)
        (some (w.time now)) } : MediaIngress lib) = s at hnoted ⊢
    have hfound : s.resolvePublisherEndpoint (w.source peer pli) = some endpoint := by
      rw [← hs]
      exact hendpoint
    rw [hfound] at hnoted ⊢
    have htable : ∀ packet, (s.sendRtcp endpoint packet).1.pliForwardBySource =
        Function.update w.ingress.pliForwardBySource (w.source peer pli) (some (w.time now)) := by
      intro packet
      refine (congrArg Prod.fst (feedbackTables_sendWith _ s endpoint packet)).trans ?_
      rw [← hs]
      rfl
    simp only [report, htable] at hnoted ⊢
    by_cases hx : x = w.source peer pli
    · rw [hx, Function.update_self, Option.some_inj] at hnoted
      have hsome : (s.sendRtcp endpoint
          (buildPliPacket pli.senderSsrc (w.source peer pli))).2.isSome = true := by
        refine sendWith_isSome ?_
        rw [← hs]
        exact hprotect
      obtain ⟨sent, hsent⟩ := Option.isSome_iff_exists.mp hsome
      rw [hsent]
      exact .inr ⟨hnoted.symm, by simp [sendsPli, hx]⟩
    · rw [Function.update_of_ne hx] at hnoted
      exact .inl hnoted

/-- The times noted are those of the last PLIs sent, and where nothing is noted
(any more) the last one was sent long ago. -/
structure PliWatchOk (w : PliWatch lib) : Prop where
  noted : ∀ x last, w.ingress.pliForwardBySource x = some last → last ∈ w.sent x ∧
    last ≤ w.clock ∧ ∀ sentAt ∈ w.sent x, sentAt = last ∨ sentAt + 200000000 ≤ last
  rested : ∀ x, w.ingress.pliForwardBySource x = none →
    ∀ sentAt ∈ w.sent x, sentAt + 200000000 ≤ w.clock

theorem pliWatchOk_start (port : UInt16) (nackCapacity : Nat) :
    PliWatchOk (PliWatch.start port nackCapacity : PliWatch lib) :=
  ⟨nofun, nofun⟩

/-- What is sent lies 200 ms after everything that was sent before. -/
theorem PliWatchOk.spaced (h : PliWatchOk w) {x : UInt32}
    (hfree : ∀ last, w.ingress.pliForwardBySource x = some last → last + 200000000 ≤ w.time now) :
    ∀ sentAt ∈ w.sent x, sentAt + 200000000 ≤ w.time now := by
  intro sentAt hsent
  have hclock : w.clock ≤ w.time now := Nat.le_max_left ..
  cases hnoted : w.ingress.pliForwardBySource x with
  | none => exact (h.rested x hnoted sentAt hsent).trans hclock
  | some last =>
    have hlast := hfree last hnoted
    rcases (h.noted x last hnoted).2.2 sentAt hsent with heq | hle <;> omega

theorem PliWatchOk.meanwhile (h : PliWatchOk w) {next : MediaIngress lib} {gone : UInt32 → Bool}
    (hlate : ErasesLate w (.meanwhile now next gone)) :
    PliWatchOk (w.step (.meanwhile now next gone)) := by
  have hclock : w.clock ≤ w.time now := Nat.le_max_left ..
  refine ⟨fun x last hnoted => ?_, fun x hnone sentAt hsent => ?_⟩
  · replace hnoted : (if gone x then none else w.ingress.pliForwardBySource x) = some last := hnoted
    split at hnoted
    · cases hnoted
    · obtain ⟨hmem, hle, hall⟩ := h.noted x last hnoted
      exact ⟨hmem, hle.trans hclock, hall⟩
  · replace hnone : (if gone x then none else w.ingress.pliForwardBySource x) = none := hnone
    cases hold : w.ingress.pliForwardBySource x with
    | none => exact (h.rested x hold sentAt hsent).trans hclock
    | some last =>
      rw [hold] at hnone
      have hgone : gone x = true := by
        by_contra hkept
        rw [if_neg hkept] at hnone
        cases hnone
      exact hlate x hgone (Option.isSome_iff_exists.mpr ⟨last, hold⟩) sentAt hsent

/-- What a PLI changes about a source: nothing, or its time is noted, and that
is 200 ms after everything that was sent before. -/
theorem PliWatchOk.feedback_cases (h : PliWatchOk w) (peer : Endpoint) (now : Nat)
    (pli : RtcpPliFeedback) (x : UInt32) :
    let next := w.step (.feedback peer now pli)
    (next.ingress.pliForwardBySource x = w.ingress.pliForwardBySource x ∧
        next.sent x = w.sent x) ∨
      (next.ingress.pliForwardBySource x = some (w.time now) ∧
        ∀ sentAt ∈ next.sent x, sentAt = w.time now ∨ sentAt + 200000000 ≤ w.time now) := by
  intro next
  have hquiet (hnone : (w.handled peer now pli).2.any (sendsPli x) = false) :
      next.sent x = w.sent x := if_neg (by rw [hnone]; exact Bool.false_ne_true)
  rcases handlePli_cases w.ingress peer (w.time now) pli with
    ⟨hsame, hnone⟩ | ⟨source, hsource, hfree, hupdate, hsends⟩
  · refine .inl ⟨congrFun hsame x, hquiet ?_⟩
    rw [PliWatch.handled, hnone]
    rfl
  · by_cases hx : x = source
    · refine .inr ⟨?_, fun sentAt hsent => ?_⟩
      · refine (congrFun hupdate x).trans ?_
        rw [hx, Function.update_self]
      · replace hsent : sentAt ∈ if (w.handled peer now pli).2.any (sendsPli x) then
          w.time now :: w.sent x else w.sent x := hsent
        have hbefore : sentAt = w.time now ∨ sentAt ∈ w.sent x := by
          split at hsent
          · exact List.mem_cons.mp hsent
          · exact .inr hsent
        exact hbefore.imp_right (h.spaced (hx ▸ hfree) sentAt)
    · refine .inl ⟨(congrFun hupdate x).trans (Function.update_of_ne hx _ _), hquiet ?_⟩
      exact Bool.eq_false_iff.mpr fun hsend => hx (hsends x hsend)

theorem PliWatchOk.feedback (h : PliWatchOk w) (hsendable : Sendable w (.feedback peer now pli)) :
    PliWatchOk (w.step (.feedback peer now pli)) := by
  have hclock : w.clock ≤ w.time now := Nat.le_max_left ..
  refine ⟨fun x last hnoted => ⟨?_, ?_⟩, fun x hnone sentAt hsent => ?_⟩
  · show last ∈ if (w.handled peer now pli).2.any (sendsPli x) then
      w.time now :: w.sent x else w.sent x
    rcases handled_sent hsendable x last hnoted with hold | ⟨rfl, hsent⟩
    · have hmem := (h.noted x last hold).1
      split
      · exact List.mem_cons_of_mem _ hmem
      · exact hmem
    · rw [if_pos hsent]
      exact List.mem_cons_self
  · rcases h.feedback_cases peer now pli x with ⟨hnote, hsent⟩ | ⟨hnote, hall⟩
    · obtain ⟨-, hle, hearlier⟩ := h.noted x last (hnote.symm.trans hnoted)
      rw [hsent]
      exact ⟨hle.trans hclock, hearlier⟩
    · obtain rfl := Option.some.inj (hnote.symm.trans hnoted)
      exact ⟨Nat.le_refl _, hall⟩
  · rcases h.feedback_cases peer now pli x with ⟨hnote, hsame⟩ | ⟨hnote, -⟩
    · rw [hsame] at hsent
      exact (h.rested x (hnote.symm.trans hnone) sentAt hsent).trans hclock
    · cases hnote.symm.trans hnone

theorem pliWatchOk_step (hop : Sendable w op ∧ ErasesLate w op) (h : PliWatchOk w) :
    PliWatchOk (w.step op) := by
  cases op with
  | meanwhile => exact h.meanwhile hop.2
  | feedback => exact h.feedback hop.1

theorem PliWatchOk.law (h : PliWatchOk w) (op : PliOp lib) : PliLaw w op := by
  cases op with
  | meanwhile => trivial
  | feedback peer now pli =>
    refine ⟨fun hsource _ hheld => ?_, fun x hsend => ?_⟩
    · obtain ⟨last, hnoted, hlt⟩ := (shouldForwardPli_held hsource).mp hheld
      obtain ⟨hmem, hle, -⟩ := h.noted _ last hnoted
      exact ⟨last, hmem, hle.trans (Nat.le_max_left ..), hlt⟩
    · rcases handlePli_cases w.ingress peer (w.time now) pli with
        ⟨-, hnone⟩ | ⟨source, -, hfree, -, hsends⟩
      · rw [PliWatch.handled, hnone] at hsend
        cases hsend
      · rw [hsends x hsend]
        exact h.spaced hfree

/-- In every run of PLIs at any times, with anything in between, in which every
PLI can be sent and no note is erased within 200 ms of a PLI sent. -/
theorem pliLaw_along_of_sendable {port : UInt16} {nackCapacity : Nat} {ops : List (PliOp lib)}
    (hsendable : Along PliWatch.step Sendable (.start port nackCapacity) ops)
    (hlate : Along PliWatch.step ErasesLate (.start port nackCapacity) ops) :
    Along PliWatch.step PliLaw (.start port nackCapacity) ops :=
  Along.of_inv (fun _ _ => pliWatchOk_step) (fun _ op _ h => h.law op)
    (pliWatchOk_start port nackCapacity) (hsendable.and hlate)

/-! ## The operations of the media plane -/

/-- Anything else that leads to this state. -/
def goOn (now : Nat) (next : MediaIngress lib) : PliOp lib :=
  .meanwhile now next fun x => (next.pliForwardBySource x).isNone

/-- The steps that an operation at this time consists of. -/
def pliOps (w : PliWatch lib) (now : Nat) : Op → List (PliOp lib)
  | .datagram data peer io =>
    match controlOf w.ingress data peer with
    | none => [goOn io.now (w.ingress.step (.datagram data peer io))]
    | some control =>
      goOn io.now (beforePlis (mediaState w.ingress data peer) control peer io.now) ::
        (RtcpHandler.parsePliFeedback control).map (.feedback peer io.now) ++
        [goOn io.now (w.ingress.step (.datagram data peer io))]
  | op => [goOn now (w.ingress.step op)]

theorem goOn_ingress {next : MediaIngress lib}
    (h : ∀ x, next.pliForwardBySource x = w.ingress.pliForwardBySource x ∨
      next.pliForwardBySource x = none) : (w.step (goOn now next)).ingress = next := by
  have htable : (fun x => if (next.pliForwardBySource x).isNone then none else
      w.ingress.pliForwardBySource x) = next.pliForwardBySource := by
    funext x
    rcases h x with hsame | hnone
    · rw [← hsame]
      cases next.pliForwardBySource x <;> rfl
    · rw [hnone]
      rfl
  show { next with pliForwardBySource := _ } = next
  rw [htable]

theorem OnlyForgets.goOn {next : MediaIngress lib} (h : OnlyForgets w.ingress next) :
    (w.step (goOn now next)).ingress = next :=
  goOn_ingress fun x => (h x).imp And.left And.left

/-- The loop over the PLIs of a datagram. -/
theorem run_feedback (plis : List RtcpPliFeedback) (hclock : w.clock ≤ now) :
    (run PliWatch.step w (plis.map (.feedback peer now))).ingress =
      (forEach (handlePli peer now) w.ingress plis).1 := by
  induction plis generalizing w with
  | nil => rfl
  | cons pli plis ih =>
    have htime : w.time now = now := Nat.max_eq_right hclock
    have hnext : (w.step (.feedback peer now pli)).ingress = (handlePli peer now w.ingress pli).1 :=
      congrArg (fun t => (handlePli peer t w.ingress pli).1) htime
    rw [List.map_cons, run_cons, ih (Nat.le_of_eq htime), hnext]
    rfl

theorem pliOps_step (w : PliWatch lib) (now : Nat) (op : Op)
    (hclock : ∀ data peer io, op = .datagram data peer io → w.clock ≤ io.now) :
    (run PliWatch.step w (pliOps w now op)).ingress = w.ingress.step op := by
  rcases controlOf_cases w.ingress op with ⟨data, peer, io, control, rfl, hcontrol⟩ | hother
  · have hstep : w.ingress.step (.datagram data peer io) =
        (forEach (handleRemb peer io) (forEach (handlePli peer io.now)
          (beforePlis (mediaState w.ingress data peer) control peer io.now)
          (RtcpHandler.parsePliFeedback control)).1 (RtcpHandler.parseRembFeedback control)).1 :=
      (congrArg Prod.fst (handlePacket_control hcontrol io)).trans (handleControlPacket_eq ..)
    have hbefore : OnlyForgets w.ingress
        (beforePlis (mediaState w.ingress data peer) control peer io.now) :=
      .of_eq ((feedbackTables_beforePlis ..).trans (feedbackTables_mediaState ..))
    simp only [pliOps, hcontrol]
    rw [List.cons_append, run_cons, run_append]
    generalize hw₁ : w.step (goOn io.now _) = w₁
    have hingress : w₁.ingress =
        beforePlis (mediaState w.ingress data peer) control peer io.now := by
      rw [← hw₁, hbefore.goOn]
    have hclock₁ : w₁.clock ≤ io.now := by
      rw [← hw₁]
      exact Nat.max_le.mpr ⟨hclock data peer io rfl, Nat.le_refl _⟩
    refine goOn_ingress fun x => .inl ?_
    rw [run_feedback _ hclock₁, hingress, hstep]
    refine congrFun (forEach_rel (R := fun s s' : MediaIngress lib =>
      s'.pliForwardBySource = s.pliForwardBySource) (fun _ => rfl) (fun h h' => h'.trans h)
      (fun s remb => ?_) _ _) x
    exact forEach_rel (R := fun s s' : MediaIngress lib =>
      s'.pliForwardBySource = s.pliForwardBySource) (fun _ => rfl) (fun h h' => h'.trans h)
      (fun s target => handleRembTarget_pliForward peer io remb s target) ..
  · obtain ⟨t, hops⟩ : ∃ t, pliOps w now op = [goOn t (w.ingress.step op)] := by
      cases op with
      | datagram data peer io => exact ⟨io.now, by simp only [pliOps, hother data peer io rfl]⟩
      | _ => exact ⟨now, rfl⟩
    rw [hops]
    exact (onlyForgets_step hother).goOn

/-! ## A PLI that is lost -/

/-- A publisher that has not sent anything yet, and then has. -/
def published : MediaIngress tagLib :=
  run MediaIngress.step (.new 5000 16) [.createRoom 0 "b" 8, .bindPublisher 0 "b" "x" 30 0]

def heard : MediaIngress tagLib := published.step (.datagram (rtpPacket 30 1) speaker quietIo)

def keyFrameWanted : RtcpPliFeedback := { senderSsrc := 1, mediaSsrc := 30 }

/-- Nothing that was noted is erased. -/
def keepNotes (now : Nat) (next : MediaIngress tagLib) : PliOp tagLib :=
  .meanwhile now next fun _ => false

/-- The first PLI comes too early to be sent, and the second is held back. -/
def earlyPli : List (PliOp tagLib) :=
  [keepNotes 0 published, .feedback listener 0 keyFrameWanted, keepNotes 50000000 heard,
    .feedback listener 100000000 keyFrameWanted]

/-- The publisher is removed and bound again between two PLIs that are sent. -/
def reboundPlis : List (PliOp tagLib) :=
  [keepNotes 0 heard, .feedback listener 0 keyFrameWanted,
    .meanwhile 50000000 (run MediaIngress.step heard [.removePublisher "b" "x",
      .bindPublisher 0 "b" "x" 30 0, .datagram (rtpPacket 30 1) speaker quietIo]) (· = 30),
    .feedback listener 100000000 keyFrameWanted]

/-- Before the last PLI. -/
def beforeLast (ops : List (PliOp tagLib)) : PliWatch tagLib :=
  run PliWatch.step (.start 5000 16) (ops.take 3)

theorem earlyPli_held : ¬ PliLaw (beforeLast earlyPli) (.feedback listener 100000000
    keyFrameWanted) := by
  intro hlaw
  have hsource : (beforeLast earlyPli).source listener keyFrameWanted = 30 := by decide +kernel
  have hheld : ((beforeLast earlyPli).ingress.resolvePublisher 30).isSome = true ∧
      ((beforeLast earlyPli).ingress.shouldForwardPli 30
        ((beforeLast earlyPli).time 100000000)).2 = false := by
    decide +kernel
  have hnone : (beforeLast earlyPli).sent 30 = [] := by decide +kernel
  rw [PliLaw, hsource] at hlaw
  obtain ⟨sentAt, hsent, -⟩ := hlaw.1 (by decide) hheld.1 hheld.2
  rw [hnone] at hsent
  cases hsent

theorem reboundPlis_close : ¬ PliLaw (beforeLast reboundPlis) (.feedback listener 100000000
    keyFrameWanted) := by
  intro hlaw
  have hsends : ((beforeLast reboundPlis).handled listener 100000000 keyFrameWanted).2.any
      (sendsPli 30) = true := by
    decide +kernel
  have hsent : 0 ∈ (beforeLast reboundPlis).sent 30 := by decide +kernel
  have htime : ¬ 0 + 200000000 ≤ (beforeLast reboundPlis).time 100000000 := by decide +kernel
  exact htime (hlaw.2 30 hsends 0 hsent)

theorem earlyPli_lost :
    (Along PliWatch.step ErasesLate (.start 5000 16) earlyPli ∧
      ¬ Along PliWatch.step PliLaw (.start 5000 16) earlyPli) ∧
    (Along PliWatch.step Sendable (.start 5000 16) reboundPlis ∧
      ¬ Along PliWatch.step PliLaw (.start 5000 16) reboundPlis) :=
  ⟨⟨⟨nofun, trivial, nofun, trivial, trivial⟩, fun h => earlyPli_held h.2.2.2.1⟩,
    ⟨by decide +kernel, fun h => reboundPlis_close h.2.2.2.1⟩⟩

/-- Two PLIs for a publisher that has been heard. -/
def timelyPlis : List (PliOp tagLib) :=
  [keepNotes 0 heard, .feedback listener 0 keyFrameWanted,
    .feedback listener 100000000 keyFrameWanted]

theorem pliLaw_along_timelyPlis : Along PliWatch.step PliLaw (.start 5000 16) timelyPlis :=
  pliLaw_along_of_sendable (by decide +kernel) ⟨nofun, trivial, trivial, trivial⟩

end MeetingSystem.Proof.Sfu
