import MeetingSystem.Framework.Run
import MeetingSystem.Proof.Store.MemoryRefines
import MeetingSystem.Proof.Store.RepoRefines
import MeetingSystem.Proof.Store.Membership

/-!
# Both stores give the same replies

The in-memory store and the database-backed one take the same calls side by
side (`Stores.step`). Both represent the state of the specification, so they
reply alike (`stores_agree`).
-/

namespace MeetingSystem.Proof.Store

open MeetingSystem.Framework MeetingSystem.Impl.Store

/-- The two stores, and the time of the last call. -/
structure Stores where
  memory : MemoryStore
  repo : RepoMeetingStore
  clock : Int

def Stores.step (s : Stores) (o : Spec.Call UInt64 × Draws) : Stores :=
  { memory := (memoryReply s.memory o.2 o.1).1
    repo := (repoReply s.repo o.2 o.1).1
    clock := o.2.now }

/-- What a call needs besides the clock: ids and titles are not empty, numbers
of new meetings are not in use, row ids increase, and whoever leaves a meeting
is in it. -/
def CallOk (s : Stores) (d : Draws) : Spec.Call UInt64 → Prop
  | .create number title _ _ _ =>
    number ≠ "" ∧ title ≠ "" ∧ s.memory.meetings number = none ∧
      s.repo.db.lastMeetingID < d.meetingID ∧ s.repo.db.lastParticipantID < d.participantID
  | .join number _ _ => number ≠ "" ∧ s.repo.db.lastParticipantID < d.participantID
  | .leave number n =>
    number ≠ "" ∧
      (s.memory.meetings number = none ∨ IsMember s.memory number (userIDFromUint64 n))
  | .isHost number _ => number ≠ ""
  | .hasParticipant number _ => number ≠ ""
  | .snapshot number => number ≠ ""

def Allowed (s : Stores) (o : Spec.Call UInt64 × Draws) : Prop :=
  s.clock ≤ o.2.now ∧ CallOk s o.2 o.1

/-- The stores reply alike to a call. -/
def SameReply (s : Stores) (o : Spec.Call UInt64 × Draws) : Prop :=
  (memoryReply s.memory o.2 o.1).2 = (repoReply s.repo o.2 o.1).2

/-- Both stores without meetings, with the same users. -/
structure Initial (memory : MemoryStore) (repo : RepoMeetingStore) : Prop where
  users : TableOk fun n => memory.userByID (userIDFromUint64 n)
  shared : ∀ n, repo.lookupUser (userIDFromUint64 n) = memory.userByID (userIDFromUint64 n)
  meetings : ∀ number, memory.meetings number = none ∧ memory.participants number = none ∧
    memory.joinOrder number = none
  joinSeq : memory.joinSeq = 0
  fallback : ∀ number,
    repo.fallback.meetings number = none ∧ repo.fallback.participants number = none
  db : repo.db.meetings = [] ∧ repo.db.participants = []

/-- Both stores represent one state of the specification. -/
def Represents (users : UInt64 → Option User) (s : Stores) : Prop :=
  ∃ st, MemoryRel users st s.memory ∧ RepoRel users s.clock st s.repo

theorem Initial.represents {memory : MemoryStore} {repo : RepoMeetingStore}
    (h : Initial memory repo) (clock : Int) :
    Represents (fun n => memory.userByID (userIDFromUint64 n)) ⟨memory, repo, clock⟩ := by
  refine ⟨.init, ⟨fun _ => rfl, by rw [h.joinSeq]; rfl, fun number => ?_⟩, h.shared, h.fallback, ?_⟩
  · obtain ⟨hmt, hps, hjo⟩ := h.meetings number
    rw [hmt, hps, hjo]
    exact .absent
  · obtain ⟨hmt, hps⟩ := h.db
    constructor
    · constructor <;> simp [hmt, hps, InOrder]
    · exact Nat.zero_le _
    · simp [hmt]
    · exact fun _ _ => rfl

section

variable {users : UInt64 → Option User} {s : Stores} {o : Spec.Call UInt64 × Draws}

theorem Refines.both {x : Spec.State UInt64 × Spec.Answer UInt64}
    (hm : Refines users (MemoryRel users) x (memoryReply s.memory o.2 o.1))
    (hr : Refines users (RepoRel users o.2.now) x (repoReply s.repo o.2 o.1)) :
    Represents users (s.step o) ∧ SameReply s o :=
  ⟨⟨x.1, hm.rel, hr.rel⟩, hm.reply.trans hr.reply.symm⟩

/-- One call. -/
theorem represents_step (hok : TableOk users) (hallowed : Allowed s o) (h : Represents users s) :
    Represents users (s.step o) ∧ SameReply s o := by
  obtain ⟨st, hm, hr⟩ := h
  obtain ⟨c, d⟩ := o
  obtain ⟨hclock, hcall⟩ := hallowed
  -- every entry of a room has used up a row id
  have hdraw : s.repo.db.lastParticipantID < d.participantID → st.entries + 1 < 2 ^ 64 := by
    intro hid
    have h1 := hr.db.entries
    have h2 := UInt64.lt_iff_toNat_lt.mp hid
    have h3 := d.participantID.toNat_lt
    omega
  have hroom : ∀ number, s.memory.meetings number = none → st.rooms number = none := by
    intro number hnone
    cases hst : st.rooms number with
    | none => rfl
    | some room =>
      obtain ⟨mt, ps, jo, hmt, -⟩ := hm.live hst
      rw [hnone] at hmt
      cases hmt
  cases c with
  | create number title password host maxParticipants =>
    obtain ⟨hnumber, htitle, hfresh, hmid, hpid⟩ := hcall
    exact Refines.both (memory_create hok hm (hdraw hpid) d number title password host maxParticipants)
      (repo_create hok hr hclock hmid hpid password host maxParticipants hnumber htitle
        (hroom number hfresh))
  | join number password n =>
    obtain ⟨hnumber, hpid⟩ := hcall
    exact Refines.both (memory_join hok hm (hdraw hpid) d number password n)
      (repo_join hok hr hclock hpid password n hnumber)
  | leave number n =>
    obtain ⟨hnumber, hmember⟩ := hcall
    refine Refines.both (memory_leave hm d number n) (repo_leave hr hclock hnumber ?_)
    intro room hst
    obtain ⟨mt, ps, jo, hmt, hps, hps', hjo', hlive⟩ := hm.live hst
    rcases hmember with hnone | hmember
    · rw [hnone] at hmt
      cases hmt
    · rwa [IsMember, hps', hlive.mem] at hmember
  | isHost number n =>
    exact Refines.both (memory_isHost hm d number n) (repo_isHost hr hclock n hcall)
  | hasParticipant number n =>
    exact Refines.both (memory_hasParticipant hm d number n) (repo_hasParticipant hr hclock n hcall)
  | snapshot number =>
    exact Refines.both (memory_snapshot hm d number) (repo_snapshot hr hclock hcall)

end

/-- In every run of calls, the two stores reply alike at every step. -/
theorem stores_agree {memory : MemoryStore} {repo : RepoMeetingStore} (hinit : Initial memory repo)
    (clock : Int) (os : List (Spec.Call UInt64 × Draws))
    (hos : Along Stores.step Allowed ⟨memory, repo, clock⟩ os) :
    Along Stores.step SameReply ⟨memory, repo, clock⟩ os := by
  have hstep := fun s o (ho : Allowed s o) => represents_step (s := s) (o := o) hinit.users ho
  exact Along.of_inv (fun s o ho h => (hstep s o ho h).1) (fun s o ho h => (hstep s o ho h).2)
    (hinit.represents clock) hos

instance (s : Stores) (d : Draws) : ∀ c, Decidable (CallOk s d c)
  | .create _ _ _ _ _ => inferInstanceAs (Decidable (_ ∧ _ ∧ _ ∧ _ ∧ _))
  | .join _ _ _ => inferInstanceAs (Decidable (_ ∧ _))
  | .leave _ _ => inferInstanceAs (Decidable (_ ∧ _))
  | .isHost _ _ => inferInstanceAs (Decidable (_ ≠ _))
  | .hasParticipant _ _ => inferInstanceAs (Decidable (_ ≠ _))
  | .snapshot _ => inferInstanceAs (Decidable (_ ≠ _))

instance (s : Stores) (o : Spec.Call UInt64 × Draws) : Decidable (Allowed s o) :=
  inferInstanceAs (Decidable (_ ∧ _))

/-- Both stores as the server starts them, with the users every store has. -/
def demoStores : Stores :=
  { memory := newMemoryStore id
    repo :=
      { fallback := newMemoryStore id, userRepo := none
        db := { meetings := [], participants := [], lastMeetingID := 0, lastParticipantID := 0 } }
    clock := 0 }

/-- The host leaves, comes back as a guest, and asks who is in the meeting. -/
def handOverRun : List (Spec.Call UInt64 × Draws) :=
  [(.create "100001" "standup" "" 1001 0, ⟨1, 1, 1⟩), (.join "100001" "" 1002, ⟨1, 1, 2⟩),
   (.leave "100001" 1001, ⟨2, 1, 2⟩), (.join "100001" "" 1001, ⟨3, 1, 3⟩),
   (.snapshot "100001", ⟨3, 1, 3⟩)]

theorem newMemoryStore_displayName (hash : String → String) (u : String) (user : User)
    (h : (newMemoryStore hash).userByID u = some user) : user.displayName ≠ "" := by
  have hnames : ∀ raw ∈ defaultUsers, raw.2.2.2 ≠ "" := by decide
  obtain ⟨raw, hraw, -, hname⟩ := newMemoryStore_row hash h
  rw [hname]
  exact hnames raw hraw

theorem demoStores_initial : Initial demoStores.memory demoStores.repo where
  users :=
    { id := fun n user h => (newMemoryStore_usersOk id).id _ _ h
      displayName := fun n user h => newMemoryStore_displayName id _ _ h
      zero := by decide +kernel }
  shared _ := rfl
  meetings _ := ⟨rfl, rfl, rfl⟩
  joinSeq := rfl
  fallback _ := ⟨rfl, rfl⟩
  db := ⟨rfl, rfl⟩

theorem stores_agree_handOver :
    Along Stores.step SameReply demoStores handOverRun ∧
      (run Stores.step demoStores handOverRun).repo.isMeetingHost "100001" "u1002" = .ok true :=
  ⟨stores_agree demoStores_initial 0 handOverRun (by decide +kernel), by decide +kernel⟩

end MeetingSystem.Proof.Store
