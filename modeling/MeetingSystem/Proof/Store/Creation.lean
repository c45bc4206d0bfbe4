import MeetingSystem.Proof.Store.Invariant

/-!
# Creating a meeting among others

The id of a new meeting is computed from a counter and a random number and
stored without being looked up. A call therefore leaves the live meetings
alone exactly if none of them carries the number it computes
(`createMeeting_isolates_iff`), and two calls in a row can compute the same
one (`createMeeting_overwrites`).
-/

namespace MeetingSystem.Proof.Store

open MeetingSystem.Framework MeetingSystem.Impl.Store

/-- The meeting number is the counter modulo 10000 and the random number, above
101000; the reduction modulo 900000 never applies. -/
theorem generateMeetingIDLocked_eq (s : MemoryStore) (r : Fin 9000) :
    s.generateMeetingIDLocked r = ({ s with meetingSeq := s.meetingSeq + 1 },
      toString (101000 + (s.meetingSeq + 1).toNat % 10000 + r.val)) := by
  have hr := r.isLt
  have hraw : 100000 + ((s.meetingSeq + 1).toNat % 10000 + (r.val + 1000)) % 900000 =
      101000 + (s.meetingSeq + 1).toNat % 10000 + r.val := by omega
  simp only [MemoryStore.generateMeetingIDLocked, hraw]

/-- If the call succeeds, its meeting id was not in use and every meeting that
was live keeps its record, its participants, its join order and its messages. -/
def CreateIsolates (s : MemoryStore) (title password hostUserID : String) (maxParticipants : Int)
    (r : Fin 9000) (now : Int) : Prop :=
  ∀ s' meeting host,
    s.createMeeting title password hostUserID maxParticipants r now = (s', .ok (meeting, host)) →
    s.meetings meeting.id = none ∧
    ∀ m, s.meetings m ≠ none →
      s'.meetings m = s.meetings m ∧ s'.participants m = s.participants m ∧
      s'.joinOrder m = s.joinOrder m ∧ s'.meetingMsgs m = s.meetingMsgs m

/-- A call writes the entries of the number it computes and no others. -/
theorem createMeeting_ok {s s' : MemoryStore} {title password hostUserID : String}
    {maxParticipants : Int} {r : Fin 9000} {now : Int} {meeting : Meeting} {host : Participant}
    (h : s.createMeeting title password hostUserID maxParticipants r now =
      (s', .ok (meeting, host))) :
    s.userByID hostUserID ≠ none ∧
    meeting.id = toString (101000 + (s.meetingSeq + 1).toNat % 10000 + r.val) ∧
    s'.meetingMsgs = s.meetingMsgs ∧
    ∀ m ≠ meeting.id, s'.meetings m = s.meetings m ∧ s'.participants m = s.participants m ∧
      s'.joinOrder m = s.joinOrder m := by
  simp only [MemoryStore.createMeeting, generateMeetingIDLocked_eq,
    MemoryStore.createMeetingAt] at h
  split at h
  · simp at h
  · rename_i host' hhost
    simp only [Prod.mk.injEq, Except.ok.injEq] at h
    obtain ⟨rfl, rfl, rfl⟩ := h
    refine ⟨by simp [hhost], rfl, rfl, fun m hm => ?_⟩
    simp only [Function.update_of_ne hm, and_self]

theorem createMeeting_succeeds {s : MemoryStore} {hostUserID : String}
    (h : s.userByID hostUserID ≠ none) (title password : String) (maxParticipants : Int)
    (r : Fin 9000) (now : Int) :
    ∃ s' meeting host, s.createMeeting title password hostUserID maxParticipants r now =
      (s', .ok (meeting, host)) := by
  obtain ⟨user, huser⟩ := Option.ne_none_iff_exists'.mp h
  simp only [MemoryStore.createMeeting, generateMeetingIDLocked_eq, MemoryStore.createMeetingAt,
    huser]
  exact ⟨_, _, _, rfl⟩

theorem createIsolates_iff (s : MemoryStore) (title password hostUserID : String)
    (maxParticipants : Int) (r : Fin 9000) (now : Int) :
    CreateIsolates s title password hostUserID maxParticipants r now ↔
      s.userByID hostUserID = none ∨
      s.meetings (toString (101000 + (s.meetingSeq + 1).toNat % 10000 + r.val)) = none := by
  constructor
  · intro h
    by_cases hhost : s.userByID hostUserID = none
    · exact .inl hhost
    · obtain ⟨s', meeting, host, hc⟩ :=
        createMeeting_succeeds hhost title password maxParticipants r now
      have hid := (createMeeting_ok hc).2.1
      exact .inr (hid ▸ (h s' meeting host hc).1)
  · intro h s' meeting host hc
    obtain ⟨hhost, hid, hmsgs, hframe⟩ := createMeeting_ok hc
    have hfree : s.meetings meeting.id = none := hid ▸ h.resolve_left hhost
    refine ⟨hfree, fun m hm => ?_⟩
    obtain ⟨hmt, hps, hjo⟩ := hframe m fun e => hm (e ▸ hfree)
    exact ⟨hmt, hps, hjo, by rw [hmsgs]⟩

/-- In every reachable state a call of `CreateMeeting` leaves the live meetings
alone if and only if it fails for want of its host or no live meeting carries
the number given by the counter and the random draw. -/
theorem createMeeting_isolates_iff (hash : String → String) (os : List Op)
    (title password hostUserID : String) (maxParticipants : Int) (r : Fin 9000) (now : Int) :
    let s := run MemoryStore.step (newMemoryStore hash) os
    CreateIsolates s title password hostUserID maxParticipants r now ↔
      s.userByID hostUserID = none ∨
      s.meetings (toString (101000 + (s.meetingSeq + 1).toNat % 10000 + r.val)) = none :=
  createIsolates_iff _ title password hostUserID maxParticipants r now

/-- The second meeting of a store overwrites the first: counter 1 with random
number 1 and counter 2 with random number 0 give the same id. -/
theorem createMeeting_overwrites :
    ¬ CreateIsolates
      (run MemoryStore.step (newMemoryStore id) [.createMeeting "a" "" "u1001" 16 1 0])
      "b" "" "u1002" 16 0 0 := by
  rw [createIsolates_iff]
  decide +kernel

end MeetingSystem.Proof.Store
