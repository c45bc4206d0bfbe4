import MeetingSystem.Impl.Signaling.Failover

/-!
# Rooms that a failover creates

`recoverPublisherRoute` creates the room of a meeting on one candidate after
the other until one of them can take over. `failover_rooms` says what becomes
of a room that it has created on a node to which the meeting is not routed in
the end: it is destroyed, except where the route has been changed by somebody
else and the room's record does not name another node, when the room is kept.
-/

namespace MeetingSystem.Proof.Signaling

open MeetingSystem.Impl.Signaling

/-- Somebody else has changed the route, and the record of the room does not say
that it is on another node than the candidate. -/
def KeptInDoubt (a : CandidateAnswers) (candidate : SFUNode) : Prop :=
  a.switchRoomRoute = .ok false ∧ a.pointsElsewhere candidate = false

/-- The candidate's client is disabled once it has created the room, or the route
cannot be updated. -/
def BreaksOff (a : CandidateAnswers) : Prop :=
  a.addPublisher = .disabled ∨
    (a.addPublisher = .answered true ∧ ∃ err, a.switchRoomRoute = .error err)

/-- Every room that was created and does not become the room of the meeting has
been destroyed afterwards, or is kept in doubt. -/
def Settled (answers : Nat → CandidateAnswers) (r : Recovery) : Prop :=
  ∀ before i c n after, r.events = before ++ .createRoom i c n true :: after →
    BreaksOff (answers i) ∨ KeptInDoubt (answers i) c ∨ r.switchedTo = some c.nodeID ∨
      .destroyRoom c ∈ after

section

variable {answers : Nat → CandidateAnswers} {r : Recovery}

/-- Events that create nothing may come first. -/
theorem Settled.after (h : Settled answers r) (events : List RecoveryEvent)
    (hnone : ∀ i c n, .createRoom i c n true ∉ events) :
    Settled answers (r.after events) := by
  intro before i c n after heq
  rcases List.append_eq_append_iff.mp heq with ⟨rest, hbefore, hrest⟩ | ⟨rest, hevents, hrest⟩
  · exact h rest i c n after hrest
  · cases rest with
    | nil => exact h [] i c n after hrest.symm
    | cons e rest =>
      rw [List.cons_append] at hrest
      obtain ⟨rfl, -⟩ := List.cons.inj hrest
      exact absurd (hevents ▸ List.mem_append_right before List.mem_cons_self) (hnone i c n)

/-- A room is created first. -/
theorem Settled.created (h : Settled answers r) (i : Nat) (c : SFUNode) (n : Int)
    (events : List RecoveryEvent) (hnone : ∀ i c n, .createRoom i c n true ∉ events)
    (hroom : BreaksOff (answers i) ∨ KeptInDoubt (answers i) c ∨ r.switchedTo = some c.nodeID ∨
      .destroyRoom c ∈ events) :
    Settled answers (r.after (.createRoom i c n true :: events)) := by
  intro before j c' n' after heq
  cases before with
  | nil =>
    obtain ⟨hfirst, hafter⟩ := List.cons.inj heq
    obtain ⟨rfl, rfl, -, -⟩ := RecoveryEvent.createRoom.inj hfirst
    refine hroom.imp_right fun h => h.imp_right fun h => h.imp_right fun hmem => ?_
    rw [← hafter]
    exact List.mem_append_left _ hmem
  | cons e before =>
    obtain ⟨-, hrest⟩ := List.cons.inj heq
    exact h.after events hnone before j c' n' after hrest

theorem settled_of_notMem (hnone : ∀ i c n, .createRoom i c n true ∉ r.events) :
    Settled answers r := by
  intro before i c n after heq
  exact absurd (heq ▸ List.mem_append_right before List.mem_cons_self) (hnone i c n)

theorem settled_nil (err : Option String) (switchedTo : Option String) :
    Settled answers { events := [], error := err, switchedTo := switchedTo } :=
  settled_of_notMem fun _ _ _ => List.not_mem_nil

theorem recoverFrom_settled (answers : Nat → CandidateAnswers) (n : Int) (fromNodeID : String)
    (candidates : List SFUNode) :
    ∀ i lastErr, Settled answers (recoverFrom answers n fromNodeID i lastErr candidates) := by
  induction candidates with
  | nil =>
    intro i lastErr
    exact settled_of_notMem (by simp [recoverFrom])
  | cons c candidates ih =>
    intro i lastErr
    unfold recoverFrom
    dsimp only
    by_cases hskip : c.nodeID = "" ∨ c.mediaAddress = ""
    · rw [if_pos hskip]
      exact ih _ _
    rw [if_neg hskip]
    by_cases hfrom : fromNodeID ≠ "" ∧ c.nodeID = fromNodeID
    · rw [if_pos hfrom]
      exact ih _ _
    rw [if_neg hfrom]
    have hnot : ∀ err, Settled answers ((recoverFrom answers n fromNodeID (i + 1) err candidates).after
        [.createRoom i c n false, .markSFUNodeFailure c.nodeID]) :=
      fun err => (ih _ err).after _ (by simp)
    cases hcreate : (answers i).createRoom with
    | disabled => exact settled_of_notMem (by simp)
    | failed err => exact hnot _
    | answered success sfuAddress =>
      cases success with
      | false => exact hnot _
      | true =>
        have hgone : ∀ err, Settled answers
            ((recoverFrom answers n fromNodeID (i + 1) err candidates).after
              [.createRoom i c n true, .destroyRoom c, .markSFUNodeFailure c.nodeID]) :=
          fun err => (ih _ err).created i c n _ (by simp) (by simp)
        cases hadd : (answers i).addPublisher with
        | disabled =>
          exact (settled_nil none none).created i c n [] (by simp) (.inl (.inl hadd))
        | failed err => exact hgone _
        | answered success =>
          cases success with
          | false => exact hgone _
          | true =>
            cases hswitch : (answers i).switchRoomRoute with
            | error err =>
              exact (ih _ _).created i c n [] (by simp) (.inl (.inr ⟨hadd, err, hswitch⟩))
            | ok switched =>
              cases switched with
              | true =>
                exact (settled_nil none (some c.nodeID)).created i c n
                  [.clearSFUNodeFailure c.nodeID, .routeStatus _ _ _ _ _] (by simp)
                  (.inr (.inr (.inl rfl)))
              | false =>
                -- the room is destroyed before the last try if the route points elsewhere
                have hroom : ∀ {r}, Settled answers r → Settled answers
                    (r.after (if (answers i).pointsElsewhere c then
                      [.createRoom i c n true, .destroyRoom c] else [.createRoom i c n true])) := by
                  intro r h
                  by_cases helse : (answers i).pointsElsewhere c = true
                  · rw [if_pos helse]
                    exact h.created i c n _ (by simp) (by simp)
                  · rw [if_neg helse]
                    exact h.created i c n _ (by simp)
                      (.inr (.inl ⟨hswitch, eq_false_of_ne_true helse⟩))
                cases (answers i).retry with
                | disabled => simpa [Recovery.after] using hroom (settled_nil none none)
                | failed err => exact hroom (ih _ _)
                | answered success =>
                  cases success with
                  | true => simpa [Recovery.after] using hroom (settled_nil none none)
                  | false => exact hroom (ih _ _)

theorem recoverPublisherRoute_settled (d : RecoverDraw) :
    Settled d.answers (recoverPublisherRoute d) := by
  have hnothing : Settled d.answers {} := settled_nil none none
  unfold recoverPublisherRoute
  dsimp only
  split_ifs
  · exact hnothing
  · exact hnothing
  · exact hnothing
  · exact hnothing
  · cases d.roomMeta with
    | error err => exact hnothing
    | ok found =>
      cases found with
      | none => exact hnothing
      | some fromNodeID =>
        have hmarked : ∀ event : RecoveryEvent, (∀ i c n, event ≠ .createRoom i c n true) →
            ∀ i c n, .createRoom i c n true ∉
              (if fromNodeID ≠ "" then [.markSFUNodeFailure fromNodeID] else []) ++ [event] := by
          intro event hevent i c n hmem
          split_ifs at hmem
          · simp [Ne.symm (hevent i c n)] at hmem
          · simp [Ne.symm (hevent i c n)] at hmem
        cases d.ranked with
        | error err => exact settled_of_notMem (hmarked (.routeStatus _ _ _ _ _) (by simp))
        | ok ranked =>
          cases ranked with
          | nil => exact settled_of_notMem (hmarked (.routeStatus _ _ _ _ _) (by simp))
          | cons c ranked =>
            exact (recoverFrom_settled d.answers _ fromNodeID (c :: ranked) 0 none).after _
              (hmarked _ (by simp))

end

/-- The node to which the meeting is routed when the call returns: that of its
own switch, or else the one that the record of the room names by then. -/
def finalNode (d : RecoverDraw) (latest : String) : String :=
  (recoverPublisherRoute d).switchedTo.getD latest

/-- A room that the call has created on another node than the meeting is routed
to in the end has been destroyed, or is kept in doubt; unless the call breaks off
at that candidate. -/
theorem failover_rooms (d : RecoverDraw) (latest : String) {before after : List RecoveryEvent}
    {i : Nat} {c : SFUNode} {n : Int}
    (hcreated : (recoverPublisherRoute d).events = before ++ .createRoom i c n true :: after)
    (hon : ¬ BreaksOff (d.answers i)) (hnode : c.nodeID ≠ finalNode d latest) :
    .destroyRoom c ∈ after ∨ KeptInDoubt (d.answers i) c := by
  rcases recoverPublisherRoute_settled d before i c n after hcreated with h | h | h | h
  · exact absurd h hon
  · exact .inr h
  · refine absurd ?_ hnode
    rw [finalNode, h]
    rfl
  · exact .inl h

/-- A backup node on which everything succeeds up to the switch. -/
def switchAnswers (switched : Except String Bool) (latestMeta : Except String (Option String)) :
    CandidateAnswers where
  createRoom := .answered true "10.0.0.2:5000"
  addPublisher := .answered true
  destroyRoom := .answered true
  switchRoomRoute := switched
  latestMeta := latestMeta
  retry := .failed "timeout"

/-- `sfu-1` has failed, and `sfu-2` is there to take over. -/
def backupDraw (a : CandidateAnswers) : RecoverDraw where
  enabled := true
  meetingID := "100001"
  retry := .failed "timeout"
  acquired := true
  lockedRetry := .failed "timeout"
  roomMeta := .ok (some "sfu-1")
  maxParticipants := some 16
  ranked := .ok [⟨"sfu-2", "10.0.0.2:5000", "10.0.0.2:9000", 0⟩]
  answers _ := a

/-- Another server has moved the room to `sfu-3`, as its record says. -/
theorem failover_rooms_movedAway :
    let d := backupDraw (switchAnswers (.ok false) (.ok (some "sfu-3")))
    .destroyRoom ⟨"sfu-2", "10.0.0.2:5000", "10.0.0.2:9000", 0⟩ ∈ (recoverPublisherRoute d).events := by
  intro d
  have hcreated : (recoverPublisherRoute d).events =
      ((recoverPublisherRoute d).events.take 2) ++
        .createRoom 0 ⟨"sfu-2", "10.0.0.2:5000", "10.0.0.2:9000", 0⟩ 16 true ::
          (recoverPublisherRoute d).events.drop 3 := by
    decide +kernel
  have hon : ¬ BreaksOff (d.answers 0) := by
    rintro (h | ⟨-, err, h⟩)
    · cases h
    · cases h
  rcases failover_rooms d "sfu-3" hcreated hon (by decide +kernel) with h | h
  · exact List.mem_of_mem_drop h
  · exact absurd h.2 (by decide +kernel)

/-- The same, but the record cannot be read: the room on `sfu-2` stays. -/
theorem failover_keptInDoubt :
    let d := backupDraw (switchAnswers (.ok false) (.error "timeout"))
    (∃ n, .createRoom 0 ⟨"sfu-2", "10.0.0.2:5000", "10.0.0.2:9000", 0⟩ n true ∈
      (recoverPublisherRoute d).events) ∧
    "sfu-2" ≠ finalNode d "sfu-3" ∧
    .destroyRoom ⟨"sfu-2", "10.0.0.2:5000", "10.0.0.2:9000", 0⟩ ∉ (recoverPublisherRoute d).events := by
  refine ⟨⟨16, ?_⟩, ?_, ?_⟩ <;> decide +kernel

end MeetingSystem.Proof.Signaling
