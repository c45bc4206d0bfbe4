import MeetingSystem.Proof.Store.Invariant
import MeetingSystem.Proof.Store.Replies

/-!
# The in-memory store refines the specification

A room is in the store as three map entries: its meeting, its participants
under their ids, and join sequence numbers that increase along the roster.

* `MemoryRel`: the store represents a state of the specification;
* `memory_create` and the like: every call keeps the relation and is answered
  as the specification says, as long as there is a number left to draw.
-/

namespace MeetingSystem.Proof.Store

open MeetingSystem.Framework MeetingSystem.Impl.Store

/-! ## The relation -/

/-- `order` gives the members of a roster increasing numbers of at most `entries`. -/
structure Numbered (entries : Nat) (members : List UInt64) (order : JoinOrder)
    (seq : UInt64 → UInt64) : Prop where
  holds : Holds userIDFromUint64 seq members order
  increasing : members.Pairwise fun a b => seq a < seq b
  bound : ∀ n ∈ members, (seq n).toNat ≤ entries

structure MemoryRoom (users : UInt64 → Option User) (entries : Nat) (room : Spec.Room UInt64)
    (meeting : Meeting) (participants : Members) (order : JoinOrder) : Prop where
  meeting : undated meeting = roomMeeting room
  participants : Holds userIDFromUint64 (roomParticipant users room) room.roster.members
    participants
  order : ∃ seq, Numbered entries room.roster.members order seq

/-- A number in the specification and in the three maps. -/
inductive MemoryRow (users : UInt64 → Option User) (entries : Nat) :
    Option (Spec.Room UInt64) → Option Meeting → Option Members → Option JoinOrder → Prop where
  | absent : MemoryRow users entries none none none none
  | live {room : Spec.Room UInt64} {meeting : Meeting} {participants : Members} {order : JoinOrder}
      (h : MemoryRoom users entries room meeting participants order) :
      MemoryRow users entries (some room) (some meeting) (some participants) (some order)

structure MemoryRel (users : UInt64 → Option User) (st : Spec.State UInt64) (s : MemoryStore) :
    Prop where
  table : ∀ n, s.userByID (userIDFromUint64 n) = users n
  entries : s.joinSeq.toNat = st.entries
  rooms : ∀ number, MemoryRow users st.entries (st.rooms number) (s.meetings number)
    (s.participants number) (s.joinOrder number)

variable {users : UInt64 → Option User} {st : Spec.State UInt64} {s : MemoryStore}

theorem MemoryRel.absent (h : MemoryRel users st s) {number : String}
    (hroom : st.rooms number = none) :
    s.meetings number = none ∧ s.participants number = none := by
  have hrow := h.rooms number
  rw [hroom] at hrow
  generalize s.meetings number = mt at hrow ⊢
  generalize s.participants number = ps at hrow ⊢
  generalize s.joinOrder number = jo at hrow
  cases hrow with
  | absent => exact ⟨rfl, rfl⟩

theorem MemoryRel.live (h : MemoryRel users st s) {number : String} {room : Spec.Room UInt64}
    (hroom : st.rooms number = some room) :
    ∃ mt ps jo, s.meetings number = some mt ∧ s.participants number = some ps ∧
      s.membersOf number = ps ∧ s.joinOrderOf number = jo ∧
      MemoryRoom users st.entries room mt ps jo := by
  have hrow := h.rooms number
  rw [hroom] at hrow
  unfold MemoryStore.membersOf MemoryStore.joinOrderOf
  generalize s.meetings number = mt at hrow ⊢
  generalize s.participants number = ps at hrow ⊢
  generalize s.joinOrder number = jo at hrow ⊢
  cases hrow with
  | live hlive => exact ⟨_, _, _, rfl, rfl, rfl, rfl, hlive⟩

/-! ## One room -/

section

variable {entries entries' : Nat} {room : Spec.Room UInt64} {mt : Meeting} {ps : Members}
  {jo : JoinOrder}

theorem Numbered.mono {members : List UInt64} {seq : UInt64 → UInt64}
    (h : Numbered entries members jo seq) (hle : entries ≤ entries') :
    Numbered entries' members jo seq where
  holds := h.holds
  increasing := h.increasing
  bound n hn := (h.bound n hn).trans hle

/-- Who comes next gets a number above all others. -/
theorem Numbered.insert {members : List UInt64} {seq : UInt64 → UInt64}
    (h : Numbered entries members jo seq) {n next : UInt64} (hn : n ∉ members)
    (hnext : next.toNat = entries + 1) :
    Numbered (entries + 1) (members ++ [n]) (jo.insert (userIDFromUint64 n) next)
      (Function.update seq n next) where
  holds := by
    have hold : Holds userIDFromUint64 (Function.update seq n next) members jo := by
      refine h.holds.congr fun a ha => ?_
      have hne : a ≠ n := fun e => hn (e ▸ ha)
      rw [Function.update_of_ne hne]
    have hkey : userIDFromUint64 n ∉ jo := by rwa [h.holds.mem userIDFromUint64_injective]
    have hins := hold.insert hkey
    rwa [Function.update_self] at hins
  increasing := by
    rw [List.pairwise_append]
    refine ⟨h.increasing.imp_of_mem fun {a b} ha hb hab => ?_, List.pairwise_singleton _ _,
      fun a ha b hb => ?_⟩
    · have hna : a ≠ n := fun e => hn (e ▸ ha)
      have hnb : b ≠ n := fun e => hn (e ▸ hb)
      rwa [Function.update_of_ne hna, Function.update_of_ne hnb]
    · have hna : a ≠ n := fun e => hn (e ▸ ha)
      rw [List.mem_singleton.mp hb, Function.update_self, Function.update_of_ne hna,
        UInt64.lt_iff_toNat_lt]
      have := h.bound a ha
      omega
  bound a ha := by
    by_cases hna : a = n
    · rw [hna, Function.update_self]
      omega
    · rw [Function.update_of_ne hna]
      have := h.bound a ((List.mem_append.mp ha).resolve_right (by simpa using hna))
      omega

theorem Numbered.erase {members : List UInt64} {seq : UInt64 → UInt64}
    (h : Numbered entries members jo seq) (n : UInt64) :
    Numbered entries (members.erase n) (jo.erase (userIDFromUint64 n)) seq where
  holds := h.holds.erase userIDFromUint64_injective n
  increasing := h.increasing.sublist List.erase_sublist
  bound a ha := h.bound a (List.mem_of_mem_erase ha)

theorem MemoryRoom.mono (h : MemoryRoom users entries room mt ps jo) (hle : entries ≤ entries') :
    MemoryRoom users entries' room mt ps jo where
  meeting := h.meeting
  participants := h.participants
  order := h.order.imp fun _ hseq => hseq.mono hle

theorem MemoryRoom.password (h : MemoryRoom users entries room mt ps jo) :
    mt.password = room.password := congrArg Meeting.password h.meeting

theorem MemoryRoom.maxParticipants (h : MemoryRoom users entries room mt ps jo) :
    mt.maxParticipants = room.maxParticipants := congrArg Meeting.maxParticipants h.meeting

theorem MemoryRoom.hostUserID (h : MemoryRoom users entries room mt ps jo) :
    mt.hostUserID = userIDFromUint64 room.roster.leader := congrArg Meeting.hostUserID h.meeting

theorem MemoryRoom.list (h : MemoryRoom users entries room mt ps jo) :
    (participantsToList ps : Multiset Participant) = roomParticipants users room := by
  have hperm := h.participants.map fun x => x.2
  rw [List.map_map] at hperm
  exact Multiset.coe_eq_coe.mpr hperm

theorem MemoryRoom.mem (h : MemoryRoom users entries room mt ps jo) {n : UInt64} :
    userIDFromUint64 n ∈ ps ↔ n ∈ room.roster.members :=
  h.participants.mem userIDFromUint64_injective

/-- The member who has been there longest is the next host. -/
theorem MemoryRoom.pickNextHost {n b : UInt64} {rest : List UInt64}
    (h : MemoryRoom users entries room mt ps jo) (hrest : room.roster.members.erase n = b :: rest) :
    pickNextHostParticipant (ps.erase (userIDFromUint64 n)) (jo.erase (userIDFromUint64 n)) =
      some ⟨userIDFromUint64 b, roomParticipant users room b⟩ := by
  obtain ⟨seq, hseq⟩ := h.order
  have hps := h.participants.erase userIDFromUint64_injective n
  have hjo := hseq.erase n
  rw [hrest] at hps hjo
  have hlen : (ps.erase (userIDFromUint64 n)).keys.length ≠ 0 := by
    rw [hps.length_keys]
    simp
  obtain ⟨u, p, hpick⟩ := pickNextHost_isSome (jo.erase (userIDFromUint64 n)) hlen
  obtain ⟨hlookup, hleast⟩ := pickNextHost_spec hpick
  have hmem := mem_entries_iff.mpr hlookup
  rw [hps.mem_iff] at hmem
  obtain ⟨a, ha, hap⟩ := List.mem_map.mp hmem
  obtain ⟨rfl, hp⟩ := Sigma.mk.inj hap
  obtain rfl := eq_of_heq hp
  rcases List.mem_cons.mp ha with rfl | hrest'
  · exact hpick
  · -- a later member has a larger number than `b`
    have hb : b ∈ b :: rest := List.mem_cons_self
    have hle := (hleast (userIDFromUint64 b) ((hps.mem userIDFromUint64_injective).mpr hb)).1
    rw [hjo.holds.lookup ha, hjo.holds.lookup hb] at hle
    have hlt := (List.pairwise_cons.mp hjo.increasing).1 a hrest'
    exact absurd hlt (UInt64.not_lt.mpr hle)

end

/-! ## The calls -/

/-- A call that changes one room and may have drawn a number. -/
theorem MemoryRel.set (h : MemoryRel users st s) (number : String)
    {room : Option (Spec.Room UInt64)} {entries : Nat} {s' : MemoryStore}
    (hle : st.entries ≤ entries) (hseq : s'.joinSeq.toNat = entries)
    (htable : s'.userByID = s.userByID)
    (hrow : MemoryRow users entries room (s'.meetings number) (s'.participants number)
      (s'.joinOrder number))
    (hmt : ∀ m ≠ number, s'.meetings m = s.meetings m)
    (hps : ∀ m ≠ number, s'.participants m = s.participants m)
    (hjo : ∀ m ≠ number, s'.joinOrder m = s.joinOrder m) :
    MemoryRel users { rooms := Function.update st.rooms number room, entries } s' where
  table n := by rw [htable, h.table]
  entries := hseq
  rooms m := by
    dsimp only
    by_cases hm : m = number
    · subst hm
      rw [Function.update_self]
      exact hrow
    · rw [Function.update_of_ne hm, hmt m hm, hps m hm, hjo m hm]
      have hold := h.rooms m
      generalize st.rooms m = room' at hold ⊢
      generalize s.meetings m = mt at hold ⊢
      generalize s.participants m = ps at hold ⊢
      generalize s.joinOrder m = jo at hold ⊢
      cases hold with
      | absent => exact .absent
      | live hlive => exact .live (hlive.mono hle)

theorem toNat_joinSeq_succ (h : MemoryRel users st s) (hdraw : st.entries + 1 < 2 ^ 64) :
    (s.joinSeq + 1).toNat = st.entries + 1 := by
  rw [UInt64.toNat_add, h.entries, UInt64.toNat_one]
  omega

theorem memory_create (hok : TableOk users) (h : MemoryRel users st s)
    (hdraw : st.entries + 1 < 2 ^ 64) (d : Draws) (number title password : String) (host : UInt64)
    (maxParticipants : Int) :
    Refines users (MemoryRel users)
      (Spec.create (known users) st number title password host maxParticipants)
      (memoryReply s d (.create number title password host maxParticipants)) := by
  have htable := h.table host
  cases hhost : users host with
  | none =>
    rw [hhost] at htable
    simp only [Spec.create, known, hhost, memoryReply, createMeetingNo,
      MemoryStore.createMeetingAt, htable]
    exact ⟨h, rfl⟩
  | some user =>
    rw [hhost] at htable
    simp only [Spec.create, known, hhost, Option.isSome_some, if_true, memoryReply, createMeetingNo,
      MemoryStore.createMeetingAt, htable]
    generalize hmax : (if maxParticipants ≤ 0 then 16 else maxParticipants) = max
    have hid := hok.id host user hhost
    have hseq := toNat_joinSeq_succ h hdraw
    have hprofile : roomParticipant users
        { number, title, password, roster := .single host, maxParticipants := max } host =
        { userId := user.id, displayName := user.displayName, avatarUrl := user.avatarURL,
          role := 1, isAudioOn := true, isVideoOn := true, isSharing := false } := by
      rw [roomParticipant, hhost, hok.profile hhost, hid]
      simp [Framework.Roster.single]
    constructor
    · refine h.set number (Nat.le_succ _) hseq rfl ?_ ?_ ?_ ?_
      · simp only [Function.update_self]
        refine .live ⟨rfl, ?_, ?_⟩
        · have hempty : Holds userIDFromUint64 (roomParticipant users
              { number, title, password, roster := .single host, maxParticipants := max }) []
              (∅ : Members) := List.Perm.nil
          have hins := hempty.insert (x := host) (AList.notMem_empty _)
          rw [hprofile] at hins
          exact hins
        · have hempty : Numbered st.entries [] (∅ : JoinOrder) fun _ => 0 :=
            ⟨List.Perm.nil, List.Pairwise.nil, fun n hn => absurd hn List.not_mem_nil⟩
          exact ⟨_, hempty.insert List.not_mem_nil hseq⟩
      all_goals intro m hm; simp [hm]
    · show Reply.created _ _ = Reply.created _ _
      rw [hprofile]
      rfl

theorem memory_join (hok : TableOk users) (h : MemoryRel users st s)
    (hdraw : st.entries + 1 < 2 ^ 64) (d : Draws) (number password : String) (n : UInt64) :
    Refines users (MemoryRel users) (Spec.join (known users) st number password n)
      (memoryReply s d (.join number password n)) := by
  cases hroom : st.rooms number with
  | none =>
    simp only [Spec.join, hroom, memoryReply, MemoryStore.joinMeeting, (h.absent hroom).1]
    exact ⟨h, rfl⟩
  | some room =>
    obtain ⟨mt, ps, jo, hmt, hps, hps', hjo', hlive⟩ := h.live hroom
    simp only [Spec.join, hroom, memoryReply, MemoryStore.joinMeeting, hmt, hlive.password,
      hlive.maxParticipants, hps', hjo', hlive.participants.length_keys]
    by_cases hpass : room.password ≠ "" ∧ room.password ≠ password
    · rw [if_pos hpass, if_pos hpass]
      exact ⟨h, rfl⟩
    rw [if_neg hpass, if_neg hpass]
    by_cases hfull : (room.roster.members.length : Int) ≥ room.maxParticipants
    · rw [if_pos hfull, if_pos hfull]
      exact ⟨h, rfl⟩
    rw [if_neg hfull, if_neg hfull]
    by_cases hn : n ∈ room.roster.members
    · rw [dif_pos hn]
      simp only [hlive.participants.lookup hn]
      refine ⟨h, ?_⟩
      show Reply.joined _ _ _ = Reply.joined _ _ _
      rw [hlive.meeting, hlive.list]
    have hnone : ps.lookup (userIDFromUint64 n) = none :=
      AList.lookup_eq_none.mpr (by rwa [hlive.mem])
    have htable := h.table n
    rw [dif_neg hn]
    simp only [hnone]
    cases hu : users n with
    | none =>
      rw [hu] at htable
      simp only [known, hu, htable]
      exact ⟨h, rfl⟩
    | some user =>
      rw [hu] at htable
      simp only [known, hu, htable, Option.isSome_some, if_true]
      have hne := room.roster.ne_leader hn
      have hprofile : roomParticipant users { room with roster := room.roster.add n hn } n =
          { userId := userIDFromUint64 n, displayName := user.displayName,
            avatarUrl := user.avatarURL, role := 0, isAudioOn := true, isVideoOn := true,
            isSharing := false } := by
        rw [roomParticipant, hu, hok.profile hu]
        simp [Framework.Roster.add, hne]
      have hseq := toNat_joinSeq_succ h hdraw
      have hnew : MemoryRoom users (st.entries + 1)
          { room with roster := room.roster.add n hn } mt
          (ps.insert (userIDFromUint64 n)
            { userId := userIDFromUint64 n, displayName := user.displayName,
              avatarUrl := user.avatarURL, role := 0, isAudioOn := true, isVideoOn := true,
              isSharing := false })
          (jo.insert (userIDFromUint64 n) (s.joinSeq + 1)) := by
        refine ⟨hlive.meeting, ?_, ?_⟩
        · rw [← hprofile]
          have hold : Holds userIDFromUint64
              (roomParticipant users { room with roster := room.roster.add n hn })
              room.roster.members ps := hlive.participants
          exact hold.insert (by rwa [hlive.mem])
        · obtain ⟨seq, hold⟩ := hlive.order
          exact ⟨_, hold.insert hn hseq⟩
      constructor
      · refine h.set number (Nat.le_succ _) hseq rfl ?_ ?_ ?_ ?_
        · simp only [Function.update_self, hmt]
          exact .live hnew
        all_goals intro m hm; simp [hm]
      · show Reply.joined _ _ _ = Reply.joined _ _ _
        rw [hnew.meeting, hnew.list, hprofile]

section Leave

variable {k : Nat} {room : Spec.Room UInt64} {mt : Meeting} {ps : Members} {jo : JoinOrder}
  {n b : UInt64} {rest : List UInt64} {roster : Roster UInt64}

/-- The one who joined next takes over from a host who leaves. -/
theorem roomParticipant_handedOver (hleader : roster.leader = b) :
    roomParticipant users { room with roster } b =
      { roomParticipant users room b with role := 1 } := by
  simp [roomParticipant, hleader, participantFromProfile]

theorem MemoryRoom.handOver (h : MemoryRoom users k room mt ps jo)
    (hrest : room.roster.members.erase n = b :: rest) (hmembers : roster.members = b :: rest)
    (hlead : room.roster.leader = n) (hleader : roster.leader = b) :
    MemoryRoom users k { room with roster } { mt with hostUserID := userIDFromUint64 b }
      ((ps.erase (userIDFromUint64 n)).replace (userIDFromUint64 b)
        { roomParticipant users room b with role := 1 })
      (jo.erase (userIDFromUint64 n)) := by
  have hpart := h.participants.erase userIDFromUint64_injective n
  obtain ⟨seq, hseq⟩ := h.order
  have hjo := hseq.erase n
  rw [hrest] at hpart hjo
  have hleft : n ∉ b :: rest := by
    rw [← hrest]
    exact fun hn => (room.roster.nodup.mem_erase_iff.mp hn).1 rfl
  have hothers : ∀ a ∈ rest, roomParticipant users room a =
      roomParticipant users { room with roster } a := by
    intro a ha
    have hnodup : (b :: rest).Nodup := hrest ▸ room.roster.nodup.erase n
    have hab : a ≠ b := fun e => (List.nodup_cons.mp hnodup).1 (e ▸ ha)
    have han : a ≠ n := fun e => hleft (e ▸ List.mem_cons_of_mem _ ha)
    simp [roomParticipant, hleader, hlead, hab, han]
  refine ⟨?_, ?_, seq, ?_⟩
  · have hmeeting := h.meeting
    simp only [undated, roomMeeting, Meeting.mk.injEq] at hmeeting ⊢
    rw [hleader]
    tauto
  · rw [hmembers, ← roomParticipant_handedOver hleader]
    exact hpart.replace hothers
  · rw [hmembers]
    exact hjo

/-- A guest leaves. -/
theorem MemoryRoom.leave (h : MemoryRoom users k room mt ps jo)
    (hmembers : roster.members = room.roster.members.erase n)
    (hleader : roster.leader = room.roster.leader) :
    MemoryRoom users k { room with roster } mt (ps.erase (userIDFromUint64 n))
      (jo.erase (userIDFromUint64 n)) := by
  have hpart := h.participants.erase userIDFromUint64_injective n
  obtain ⟨seq, hseq⟩ := h.order
  refine ⟨?_, ?_, seq, ?_⟩
  · rw [h.meeting, roomMeeting, roomMeeting, hleader]
  · rw [hmembers]
    refine hpart.congr fun a _ => ?_
    rw [roomParticipant, roomParticipant, hleader]
  · rw [hmembers]
    exact hseq.erase n

end Leave

theorem memory_leave (h : MemoryRel users st s) (d : Draws) (number : String) (n : UInt64) :
    Refines users (MemoryRel users) (Spec.leave st number n)
      (memoryReply s d (.leave number n)) := by
  cases hroom : st.rooms number with
  | none =>
    simp only [Spec.leave, hroom, memoryReply, MemoryStore.leaveMeeting, (h.absent hroom).1]
    exact ⟨h, rfl⟩
  | some room =>
    obtain ⟨mt, ps, jo, hmt, hps, hps', hjo', hlive⟩ := h.live hroom
    have hpart := hlive.participants.erase userIDFromUint64_injective n
    have hhost : mt.hostUserID = userIDFromUint64 n ↔ room.roster.leader = n := by
      rw [hlive.hostUserID]
      exact userIDFromUint64_injective.eq_iff
    simp only [Spec.leave, hroom, memoryReply, MemoryStore.leaveMeeting, hmt, hps', hjo',
      hpart.length_keys, hhost]
    rcases room.roster.remove_cases n with ⟨hempty, hremove⟩ |
      ⟨b, rest, roster, hrest, hremove, hmembers, hleader⟩
    · simp only [hempty, hremove, List.length_nil, if_true]
      refine ⟨h.set number le_rfl h.entries rfl ?_ ?_ ?_ ?_, rfl⟩
      · simp only [Function.update_self]
        exact .absent
      all_goals intro m hm; simp [hm]
    have hlen : (b :: rest).length ≠ 0 := by simp
    simp only [hrest, hremove, if_neg hlen]
    by_cases hlead : room.roster.leader = n
    · rw [if_pos hlead] at hleader
      simp only [hlead, if_true, hlive.pickNextHost hrest, decide_true]
      constructor
      · refine h.set number le_rfl h.entries rfl ?_ ?_ ?_ ?_
        · simp only [Function.update_self]
          exact .live (hlive.handOver hrest hmembers hlead hleader)
        all_goals intro m hm; simp [hm]
      · show Reply.left _ = Reply.left _
        simp only [leftResult, if_true, hmembers, hleader, roomParticipant_handedOver hleader]
    · rw [if_neg hlead] at hleader
      simp only [if_neg hlead, decide_eq_false hlead]
      constructor
      · refine h.set number le_rfl h.entries rfl ?_ ?_ ?_ ?_
        · simp only [Function.update_self, hmt]
          exact .live (hlive.leave (hmembers.trans hrest.symm) hleader)
        all_goals intro m hm; simp [hm]
      · show Reply.left _ = Reply.left _
        simp only [leftResult, hmembers]
        rfl

theorem memory_isHost (h : MemoryRel users st s) (d : Draws) (number : String) (n : UInt64) :
    Refines users (MemoryRel users) (Spec.step (known users) st (.isHost number n))
      (memoryReply s d (.isHost number n)) := by
  cases hroom : st.rooms number with
  | none =>
    simp only [Spec.step, Spec.query, hroom, memoryReply, MemoryStore.isMeetingHost,
      (h.absent hroom).1]
    exact ⟨h, rfl⟩
  | some room =>
    obtain ⟨mt, ps, jo, hmt, hps, hps', hjo', hlive⟩ := h.live hroom
    simp only [Spec.step, Spec.query, hroom, memoryReply, MemoryStore.isMeetingHost, hmt,
      hlive.hostUserID, userIDFromUint64_injective.eq_iff]
    exact ⟨h, rfl⟩

theorem memory_hasParticipant (h : MemoryRel users st s) (d : Draws) (number : String)
    (n : UInt64) :
    Refines users (MemoryRel users) (Spec.step (known users) st (.hasParticipant number n))
      (memoryReply s d (.hasParticipant number n)) := by
  cases hroom : st.rooms number with
  | none =>
    simp only [Spec.step, Spec.query, hroom, memoryReply, MemoryStore.hasParticipant,
      (h.absent hroom).2]
    exact ⟨h, rfl⟩
  | some room =>
    obtain ⟨mt, ps, jo, hmt, hps, hps', hjo', hlive⟩ := h.live hroom
    have hsome : (ps.lookup (userIDFromUint64 n)).isSome = decide (n ∈ room.roster.members) := by
      rw [Bool.eq_iff_iff, AList.lookup_isSome, hlive.mem, decide_eq_true_iff]
    simp only [Spec.step, Spec.query, hroom, memoryReply, MemoryStore.hasParticipant, hps, hsome]
    exact ⟨h, rfl⟩

theorem memory_snapshot (h : MemoryRel users st s) (d : Draws) (number : String) :
    Refines users (MemoryRel users) (Spec.step (known users) st (.snapshot number))
      (memoryReply s d (.snapshot number)) := by
  cases hroom : st.rooms number with
  | none =>
    simp only [Spec.step, Spec.query, hroom, memoryReply, MemoryStore.snapshotMeeting,
      (h.absent hroom).1]
    exact ⟨h, rfl⟩
  | some room =>
    obtain ⟨mt, ps, jo, hmt, hps, hps', hjo', hlive⟩ := h.live hroom
    simp only [Spec.step, Spec.query, hroom, memoryReply, MemoryStore.snapshotMeeting, hmt, hps]
    refine ⟨h, ?_⟩
    show Reply.snapshot _ _ = Reply.snapshot _ _
    rw [hlive.meeting, hlive.list]

end MeetingSystem.Proof.Store
