import MeetingSystem.Proof.Media.RtpCodec
import MeetingSystem.Proof.Sfu.NackFifo
import MeetingSystem.Proof.Sfu.RouteAgreement

/-!
# Retransmissions

A NACK is answered from the buffer of the source, with the SSRC that the NACK
names written into the packet once more; the feedback table leads to the
source. `retransmission`: as long as no two sources have a route to an endpoint
with the same SSRC in any state that the run passes through, what comes back is
byte for byte the packet that was last forwarded with that number.

That no two sources have such a route after any operation is not enough: in
`plainRun` the feedback entry of a route is lost in the middle of one
(`plainRun_unanswered`).
-/

namespace MeetingSystem.Proof.Sfu

open MeetingSystem.Framework MeetingSystem.Impl.Sfu MeetingSystem.Proof.Media MediaIngress

variable {lib : SrtpLib} {R : RtpRouter} {source r : UInt32} {e : Endpoint}

/-! ## Packets through the router -/

/-- `Route` with the calls of the forward callbacks. -/
def routeCalls (R : RtpRouter) (packet : Bytes) : RtpRouter × List (Endpoint × Bytes) :=
  ((R.route packet).1, (R.route packet).2.getD [])

/-- The router after some packets, and everything it has forwarded. -/
def routeAll (R : RtpRouter) (packets : List Bytes) : RtpRouter × List (Endpoint × Bytes) :=
  forEach routeCalls R packets

/-- A packet toward an endpoint with an SSRC and a sequence number. -/
def isCopy (e : Endpoint) (r : UInt32) (seq : UInt16) (c : Endpoint × Bytes) : Bool :=
  c.1 = e ∧ (RtpParser.parse c.2).any fun p => p.header.ssrc = r ∧ p.header.sequence = seq

/-- The packet last forwarded to an endpoint with an SSRC and a sequence number. -/
def lastForwarded (calls : List (Endpoint × Bytes)) (e : Endpoint) (r : UInt32) (seq : UInt16) :
    Option Bytes :=
  ((calls.filter (isCopy e r seq)).getLast?).map Prod.snd

/-- What one packet does to a router. -/
theorem routeCalls_cases (R : RtpRouter) (packet : Bytes) :
    routeCalls R packet = (R, []) ∨
      ∃ parsed route, RtpParser.parse packet = some parsed ∧
        R.publishers parsed.header.ssrc = some route ∧
        routeCalls R packet =
          (R.setRoute parsed.header.ssrc
            (some { route with nack := route.nack.store parsed.header.sequence packet }),
          route.subscribers.map fun sub => (sub.endpoint, rewriteSsrc sub.rewrittenSsrc packet)) := by
  cases hparse : RtpParser.parse packet with
  | none =>
    left
    simp only [routeCalls, RtpRouter.route, hparse, Option.getD_none]
  | some parsed =>
    cases hroute : R.publishers parsed.header.ssrc with
    | none =>
      left
      simp only [routeCalls, RtpRouter.route, hparse, hroute, Option.getD_none]
    | some route =>
      right
      refine ⟨parsed, route, rfl, hroute, ?_⟩
      simp only [routeCalls, RtpRouter.route, hparse, hroute, Option.getD_some]

/-- Forwarding leaves the routes alone. -/
theorem routes_routeCalls (R : RtpRouter) (packet : Bytes) (source : UInt32) :
    (routeCalls R packet).1.routes source = R.routes source := by
  rcases routeCalls_cases R packet with heq | ⟨parsed, route, -, hroute, heq⟩
  · rw [heq]
  · rw [heq]
    by_cases hs : source = parsed.header.ssrc
    · subst hs
      simp only [RtpRouter.routes, RtpRouter.setRoute, Function.update_self, hroute]
    · simp only [RtpRouter.routes, RtpRouter.setRoute, Function.update_of_ne hs]

/-- A forwarded copy of a packet is recognized by its route and its sequence
number. -/
theorem isCopy_rewrite {packet : Bytes} {parsed : ParsedRtpPacket}
    (hparse : RtpParser.parse packet = some parsed) (sub : SubscriberRoute) (seq : UInt16) :
    isCopy e r seq (sub.endpoint, rewriteSsrc sub.rewrittenSsrc packet) = true ↔
      sub = ⟨r, e⟩ ∧ parsed.header.sequence = seq := by
  simp only [isCopy, parse_rewriteSsrc, hparse, Option.map_some, Option.any_some, decide_eq_true_eq]
  constructor
  · intro ⟨he, hr, hseq⟩
    exact ⟨by cases sub; simp_all, hseq⟩
  · intro ⟨hsub, hseq⟩
    subst hsub
    exact ⟨rfl, rfl, hseq⟩

/-! ## What is buffered is what was forwarded -/

/-- Only `source` has a route to `e` with SSRC `r`. -/
def OnlySource (R : RtpRouter) (e : Endpoint) (r source : UInt32) : Prop :=
  ∀ source', ⟨r, e⟩ ∈ R.routes source' → source' = source

/-- The buffer of a source takes the packet. -/
def Fits (R : RtpRouter) (source : UInt32) (packet : Bytes) : Prop :=
  ∀ route, R.publishers source = some route → packet.length ≤ route.nack.maxPacketSize

theorem Fits.routeCalls {packet : Bytes} (h : Fits R source packet) (other : Bytes) :
    Fits (routeCalls R other).1 source packet := by
  rcases routeCalls_cases R other with heq | ⟨parsed, route, -, hroute, heq⟩
  · rw [heq]
    exact h
  · rw [heq]
    intro route' hroute'
    by_cases hs : source = parsed.header.ssrc
    · subst hs
      simp only [RtpRouter.setRoute, Function.update_self, Option.some.injEq] at hroute'
      subst hroute'
      rw [(store_capacity _ _ _).2]
      exact h route hroute
    · simp only [RtpRouter.setRoute, Function.update_of_ne hs] at hroute'
      exact h route' hroute'

theorem getRetransmitPacket_setRoute_self (R : RtpRouter) (source : UInt32) (route : PublisherRoute)
    (seq : UInt16) :
    (R.setRoute source (some route)).getRetransmitPacket source seq = route.nack.get seq := by
  simp only [RtpRouter.getRetransmitPacket, RtpRouter.setRoute, Function.update_self,
    Option.bind_some]

theorem lastForwarded_append (calls calls' : List (Endpoint × Bytes)) (seq : UInt16) :
    lastForwarded (calls ++ calls') e r seq =
      (lastForwarded calls' e r seq).or (lastForwarded calls e r seq) := by
  rw [lastForwarded, List.filter_append, List.getLast?_append, Option.map_or]
  rfl

theorem lastForwarded_eq_none {calls : List (Endpoint × Bytes)} {seq : UInt16}
    (h : ∀ c ∈ calls, ¬ isCopy e r seq c = true) : lastForwarded calls e r seq = none := by
  rw [lastForwarded, List.filter_eq_nil_iff.mpr h]
  rfl

theorem lastForwarded_eq_some {calls : List (Endpoint × Bytes)} {seq : UInt16} {c : Endpoint × Bytes}
    (hmem : c ∈ calls) (hcopy : isCopy e r seq c = true)
    (hall : ∀ c' ∈ calls, isCopy e r seq c' = true → c' = c) :
    lastForwarded calls e r seq = some c.2 := by
  have hin : c ∈ calls.filter (isCopy e r seq) := List.mem_filter.mpr ⟨hmem, hcopy⟩
  cases hlast : (calls.filter (isCopy e r seq)).getLast? with
  | none =>
    rw [List.getLast?_eq_none_iff.mp hlast] at hin
    cases hin
  | some last =>
    have hc := List.mem_filter.mp (List.mem_of_getLast? hlast)
    rw [lastForwarded, hlast, hall last hc.1 hc.2]
    rfl

/-- A packet of the source is forwarded on the route and buffered under its
number; any other packet leaves the number as it is, or takes it away. -/
theorem routeCalls_copy (hroute : ⟨r, e⟩ ∈ R.routes source) (hone : OnlySource R e r source)
    {packet : Bytes} (hfits : Fits R source packet) (seq : UInt16) :
    (∃ parsed, RtpParser.parse packet = some parsed ∧ parsed.header.ssrc = source ∧
      lastForwarded (routeCalls R packet).2 e r seq = some (rewriteSsrc r packet) ∧
      (routeCalls R packet).1.getRetransmitPacket source seq = some packet) ∨
    lastForwarded (routeCalls R packet).2 e r seq = none ∧
      ∀ old, (routeCalls R packet).1.getRetransmitPacket source seq = some old →
        R.getRetransmitPacket source seq = some old := by
  rcases routeCalls_cases R packet with heq | ⟨parsed, route, hparse, hpub, heq⟩
  · right
    rw [heq]
    exact ⟨rfl, fun old h => h⟩
  have hcopies : ∀ c ∈ (routeCalls R packet).2, isCopy e r seq c = true →
      parsed.header.ssrc = source ∧ parsed.header.sequence = seq ∧ c = (e, rewriteSsrc r packet) := by
    intro c hc hcopy
    rw [heq] at hc
    obtain ⟨sub, hsub, rfl⟩ := List.mem_map.mp hc
    obtain ⟨rfl, hseq⟩ := (isCopy_rewrite hparse sub seq).mp hcopy
    refine ⟨hone _ ?_, hseq, rfl⟩
    simp only [RtpRouter.routes, hpub]
    exact hsub
  by_cases hsrc : parsed.header.ssrc = source
  · by_cases hseq : parsed.header.sequence = seq
    · left
      refine ⟨parsed, hparse, hsrc, ?_, ?_⟩
      · refine lastForwarded_eq_some (c := (e, rewriteSsrc r packet)) ?_ ?_
          fun c hc hcopy => (hcopies c hc hcopy).2.2
        · rw [heq]
          refine List.mem_map.mpr ⟨⟨r, e⟩, ?_, rfl⟩
          rw [← hsrc, RtpRouter.routes, hpub] at hroute
          exact hroute
        · exact (isCopy_rewrite hparse ⟨r, e⟩ seq).mpr ⟨rfl, hseq⟩
      · rw [heq, ← hsrc, getRetransmitPacket_setRoute_self, ← hseq]
        apply get_store_self
        have hlen := (parse_bound hparse).1
        have hmax := hfits route (hsrc ▸ hpub)
        simp only [storable, decide_eq_true_eq]
        exact ⟨List.ne_nil_of_length_pos (by omega), hmax⟩
    · right
      refine ⟨lastForwarded_eq_none fun c hc hcopy => hseq (hcopies c hc hcopy).2.1, ?_⟩
      intro old hold
      rw [heq, ← hsrc, getRetransmitPacket_setRoute_self] at hold
      rw [← hsrc, RtpRouter.getRetransmitPacket, hpub]
      exact get_store_ne (Ne.symm hseq) hold
  · right
    refine ⟨lastForwarded_eq_none fun c hc hcopy => hsrc (hcopies c hc hcopy).1, ?_⟩
    intro old hold
    rw [heq] at hold
    simpa only [RtpRouter.getRetransmitPacket, RtpRouter.setRoute,
      Function.update_of_ne (Ne.symm hsrc)] using hold

/-- What the buffer has for a number after some packets is the packet that was
last forwarded with it, up to the SSRC, or else what it had before. -/
theorem routeAll_copy (hroute : ⟨r, e⟩ ∈ R.routes source) (hone : OnlySource R e r source)
    {packets : List Bytes} (hfits : ∀ p ∈ packets, Fits R source p) {seq : UInt16} {packet : Bytes}
    (h : (routeAll R packets).1.getRetransmitPacket source seq = some packet) :
    (∃ parsed, RtpParser.parse packet = some parsed ∧ parsed.header.ssrc = source ∧
      lastForwarded (routeAll R packets).2 e r seq = some (rewriteSsrc r packet)) ∨
    lastForwarded (routeAll R packets).2 e r seq = none ∧
      R.getRetransmitPacket source seq = some packet := by
  induction packets generalizing R with
  | nil => exact .inr ⟨rfl, h⟩
  | cons p packets ih =>
    have hall : (routeAll R (p :: packets)).2 =
        (routeCalls R p).2 ++ (routeAll (routeCalls R p).1 packets).2 := rfl
    rw [hall, lastForwarded_append]
    have hstep := ih (R := (routeCalls R p).1) (by rw [routes_routeCalls]; exact hroute)
      (fun source' hs => hone source' (by rw [routes_routeCalls] at hs; exact hs))
      (fun p' hp' => (hfits p' (List.mem_cons_of_mem _ hp')).routeCalls p) h
    rcases hstep with ⟨parsed, hparse, hsrc, hlast⟩ | ⟨hnone, hold⟩
    · left
      refine ⟨parsed, hparse, hsrc, ?_⟩
      rw [hlast]
      rfl
    · rw [hnone, Option.none_or]
      rcases routeCalls_copy hroute hone (hfits p List.mem_cons_self) seq with
        ⟨parsed, hparse, hsrc, hlast, hbuf⟩ | ⟨hnone', hkeep⟩
      · left
        rw [hbuf, Option.some.injEq] at hold
        subst hold
        exact ⟨parsed, hparse, hsrc, hlast⟩
      · exact .inr ⟨hnone', hkeep packet hold⟩

/-! ## The answer to a NACK -/

/-- At most one source has a route to `e` with SSRC `r`. -/
def OneSource (e : Endpoint) (r : UInt32) (s : MediaIngress lib) : Prop :=
  ∀ source source', ⟨r, e⟩ ∈ s.router.routes source → ⟨r, e⟩ ∈ s.router.routes source' →
    source = source'

variable {s : MediaIngress lib}

theorem route_of_key {route : SubscriberRoute} (h : routeKey route = feedbackRouteKey e r) :
    route = ⟨r, e⟩ := by
  obtain ⟨he, hr⟩ := feedbackRouteKey_inj h
  cases route
  simp_all

theorem OneSource.separateAt (h : OneSource e r s) : SeparateAt (feedbackRouteKey e r) s := by
  intro source source' route route' hroute hroute' hkey hkey'
  rw [route_of_key hkey] at hroute
  rw [route_of_key hkey'] at hroute'
  exact h source source' hroute hroute'

/-- The answer to one lost packet: the one that was last forwarded with its
number, while the buffer still has that number. -/
def answerLost (routed : RtpRouter × List (Endpoint × Bytes)) (source : UInt32) (e : Endpoint)
    (r : UInt32) (t : MediaIngress lib) (seq : UInt16) : MediaIngress lib × List (Event lib) :=
  match (routed.1.getRetransmitPacket source seq).bind fun _ => lastForwarded routed.2 e r seq with
  | none => (t, [])
  | some packet => report (.retransmitted source) (t.sendRtp e packet)

/-- After `packets` have been routed, a NACK from `e` that names `r` and packets
forwarded since then is answered with those the buffer still has, byte for byte. -/
def AnswersNacks (s : MediaIngress lib) (source : UInt32) (e : Endpoint) (r : UInt32)
    (packets : List Bytes) : Prop :=
  let routed := routeAll s.router packets
  let t := { s with router := routed.1 }
  ∀ sender lost, (∀ seq ∈ lost, (lastForwarded routed.2 e r seq).isSome = true) →
    t.handleNack e ⟨sender, r, lost⟩ = forEach (answerLost routed source e r) t lost

theorem sendRtp_router (t : MediaIngress lib) (e : Endpoint) (packet : Bytes) :
    (t.sendRtp e packet).1.router = t.router := by
  simp only [sendRtp, sendWith]
  split <;> rfl

theorem answerLost_router (routed : RtpRouter × List (Endpoint × Bytes)) (t : MediaIngress lib)
    (seq : UInt16) : (answerLost routed source e r t seq).1.router = t.router := by
  rw [answerLost]
  split
  · rfl
  · exact sendRtp_router t e _

/-- The separate rewriting of a retransmission gives the forwarded packet again. -/
theorem retransmit_eq {packets : List Bytes} {t : MediaIngress lib} {seq : UInt16}
    (hroute : ⟨r, e⟩ ∈ R.routes source) (hone : OnlySource R e r source) (hr : r ≠ 0)
    (hfits : ∀ p ∈ packets, Fits R source p) (ht : t.router = (routeAll R packets).1)
    (hlast : (lastForwarded (routeAll R packets).2 e r seq).isSome = true) :
    retransmit e r source t seq = answerLost (routeAll R packets) source e r t seq := by
  rw [retransmit, answerLost, ht]
  cases hbuf : (routeAll R packets).1.getRetransmitPacket source seq with
  | none => rfl
  | some packet =>
    rcases routeAll_copy hroute hone hfits hbuf with ⟨parsed, hparse, hsrc, hcopy⟩ | ⟨hnone, -⟩
    · rw [Option.bind_some, hcopy]
      have hlen := (parse_bound hparse).1
      dsimp only
      rw [if_neg (List.ne_nil_of_length_pos (by omega))]
      by_cases hself : r = source
      · rw [if_neg (fun h => h.2 hself), hself, ← hsrc, rewriteSsrc_self hparse]
      · rw [if_pos ⟨hr, hself⟩]
    · rw [hnone] at hlast
      cases hlast

theorem resolveNackSourceSsrc_eq (hindexed : IndexedAt (feedbackRouteKey e r) s)
    (hroute : ⟨r, e⟩ ∈ s.router.routes source) (hr : r ≠ 0)
    (hforeign : r ∈ publisherSsrcs s → r = source) : s.resolveNackSourceSsrc e r = source := by
  rw [resolveNackSourceSsrc, if_neg hr]
  split
  · rename_i hpub
    exact hforeign (resolvePublisher_isSome.mp hpub)
  · have hf : s.feedbackRoutes (feedbackRouteKey e r) = some source :=
      hindexed source ⟨r, e⟩ hroute rfl
    rw [hf]
    rfl

theorem answersNacks_of_indexed {packets : List Bytes}
    (hindexed : IndexedAt (feedbackRouteKey e r) s) (hone : OneSource e r s)
    (hroute : ⟨r, e⟩ ∈ s.router.routes source) (hsource : source ≠ 0) (hr : r ≠ 0)
    (hforeign : r ∈ publisherSsrcs s → r = source)
    (hfits : ∀ p ∈ packets, Fits s.router source p) : AnswersNacks s source e r packets := by
  intro sender lost hlost
  have hbefore := resolveNackSourceSsrc_eq hindexed hroute hr hforeign
  have hres : resolveNackSourceSsrc { s with router := (routeAll s.router packets).1 } e r =
      source := hbefore
  rw [handleNack]
  dsimp only
  rw [hres, if_neg hsource]
  refine forEach_congr (P := fun t => t.router = (routeAll s.router packets).1)
    (fun t ht seq hseq => ⟨?_, ?_⟩) rfl
  · exact retransmit_eq hroute (fun source' h => hone source' source h hroute) hr hfits ht
      (hlost seq hseq)
  · rw [answerLost_router, ht]

/-- In every run in which, in each state it passes through, at most one source
has a route to `e` with SSRC `r`, a NACK for such a route is answered byte for
byte; and a retransmission buffer is a bounded queue. -/
theorem retransmission (port : UInt16) (nackCapacity : Nat) (os : List Op) (source r : UInt32)
    (e : Endpoint) (packets : List Bytes)
    (hone : Along step (fun s o => OneSource e r (s.step o) ∧ ∀ s' ∈ stages s o, OneSource e r s')
      (MediaIngress.new port nackCapacity : MediaIngress lib) os)
    (hroute : ⟨r, e⟩ ∈
      (run step (MediaIngress.new port nackCapacity : MediaIngress lib) os).router.routes source)
    (hforeign : r ∈
      publisherSsrcs (run step (MediaIngress.new port nackCapacity : MediaIngress lib) os) →
        r = source)
    (hfits : ∀ p ∈ packets,
      Fits (run step (MediaIngress.new port nackCapacity : MediaIngress lib) os).router source p) :
    AnswersNacks (run step (MediaIngress.new port nackCapacity : MediaIngress lib) os) source e r
        packets ∧
    ∀ (capacity maxPacketSize : Nat) (calls : List (UInt16 × Bytes)),
      let empty := NackBuffer.new capacity maxPacketSize
      let b := storeAll empty calls
      let inserted := insertions empty calls
      b.order.Nodup ∧ (∀ seq, seq ∈ b.order ↔ seq ∈ b.packets) ∧
        b.packets.keys.length ≤ empty.capacity ∧
        b.order = inserted.drop (inserted.length - empty.capacity) ∧
        ∀ seq ∈ b.order, b.get seq = lastStored empty.maxPacketSize seq calls := by
  refine ⟨?_, storeAll_fifo⟩
  have hreach : Reachable (run step (MediaIngress.new port nackCapacity : MediaIngress lib) os) :=
    ⟨port, nackCapacity, os, rfl⟩
  have hnew : OneSource e r (MediaIngress.new port nackCapacity : MediaIngress lib) := by
    intro source source' h
    rw [routes_new] at h
    cases h
  have hinv := Along.inv (P := fun s => IndexedAt (feedbackRouteKey e r) s ∧ OneSource e r s)
    (fun s o hok hs => ⟨indexedAt_step hs.1 hok.1.separateAt fun s' hs' =>
      (hok.2 s' hs').separateAt, hok.1⟩)
    ⟨indexedAt_new _ port nackCapacity, hnew⟩ hone
  obtain ⟨hsource, hr⟩ := nonZero_of_reachable hreach source ⟨r, e⟩ hroute
  exact answersNacks_of_indexed hinv.1 hinv.2 hroute hsource hr hforeign hfits

/-! ## A route whose feedback entry is gone -/

theorem RewritesDistinct.oneSource (h : RewritesDistinct s) (e : Endpoint) (r : UInt32) :
    OneSource e r s := by
  intro source source' hroute hroute'
  by_contra hne
  exact h source source' _ _ hroute hroute' hne rfl rfl

/-- A packet of the source that `listener` receives with SSRC 77. -/
def sourcePacket : Bytes := [0x80, 0, 0, 5, 0, 0, 0, 0, 0, 0, 0, 30, 1, 2, 3]

/-- A packet that is not too long for the buffer of its source. -/
def fitsHere (R : RtpRouter) (source : UInt32) (packet : Bytes) : Bool :=
  (R.publishers source).all fun route => packet.length ≤ route.nack.maxPacketSize

theorem fits_of_here {packet : Bytes} (h : fitsHere R source packet = true) :
    Fits R source packet := by
  intro route hroute
  rw [fitsHere, hroute] at h
  simpa using h

theorem retransmission_listenRun :
    (lastForwarded (routeAll (run step (MediaIngress.new 5000 16 : MediaIngress tagLib)
      listenRun).router [sourcePacket]).2 listener 77 5).isSome = true ∧
    AnswersNacks (run step (MediaIngress.new 5000 16 : MediaIngress tagLib) listenRun) 30 listener 77
      [sourcePacket] := by
  refine ⟨by decide +kernel, (retransmission 5000 16 listenRun 30 77 listener [sourcePacket]
    (listenRun_wellChosen.mono fun s o hok => ⟨hok.1.rewrites.oneSource _ _, fun s' hs' =>
      (hok.2 s' hs').oneSource _ _⟩) (by decide +kernel) (by decide +kernel) ?_).1⟩
  intro p hp
  rw [List.mem_singleton] at hp
  subst hp
  exact fits_of_here (by decide +kernel)

/-- As `closeRun`, but `w` sets its transports up again after they have selected
`listener`: what is sent there is not protected then. -/
def plainRun : List Op :=
  [.createRoom 0 "a" 8, .createRoom 0 "b" 8,
    .bindPublisher 0 "a" "u" 10 0, .bindPublisher 0 "a" "v" 20 0,
    listen "a" "w" "c1" "s1", .bindSubscriber 0 "a" "w" 77 0,
    .datagram (stunRequest "s1:c1") listener quietIo, listen "a" "w" "c1" "s1",
    .bindSubscriber 0 "a" "u" 0 0, .removePublisher "a" "v",
    .bindPublisher 0 "b" "x" 30 0, listen "b" "w" "c2" "s2", .bindSubscriber 0 "b" "w" 77 0,
    .datagram (stunRequest "s2:c2") listener quietIo, listen "b" "w" "c2" "s2",
    .closeTransport "a" "u"]

/-- No other source has SSRC 77 toward `listener` after any operation, and
still a NACK for it is not answered. -/
theorem plainRun_unanswered :
    Along step (fun s o => WellChosen (s.step o)) (MediaIngress.new 5000 16 : MediaIngress tagLib)
      plainRun ∧
    (⟨77, listener⟩ : SubscriberRoute) ∈
      (run step (MediaIngress.new 5000 16 : MediaIngress tagLib) plainRun).router.routes 30 ∧
    (∀ p ∈ [sourcePacket],
      Fits (run step (MediaIngress.new 5000 16 : MediaIngress tagLib) plainRun).router 30 p) ∧
    ¬ AnswersNacks (run step (MediaIngress.new 5000 16 : MediaIngress tagLib) plainRun) 30 listener 77
      [sourcePacket] := by
  refine ⟨along_wellChosen (by decide +kernel), by decide +kernel, ?_, fun h => ?_⟩
  · intro p hp
    rw [List.mem_singleton] at hp
    subst hp
    exact fits_of_here (by decide +kernel)
  · have hforwarded : ∀ seq ∈ ([5] : List UInt16),
        (lastForwarded (routeAll (run step (MediaIngress.new 5000 16 : MediaIngress tagLib)
          plainRun).router [sourcePacket]).2 listener 77 seq).isSome = true := by
      intro seq hseq
      rw [List.mem_singleton] at hseq
      subst hseq
      decide +kernel
    have hanswer := congrArg (fun x => x.2.length) (h 1 [5] hforwarded)
    revert hanswer
    decide +kernel

end MeetingSystem.Proof.Sfu
