import MeetingSystem.Framework.BigEndian
import MeetingSystem.Impl.Signaling.Snowflake
import Mathlib.Algebra.Order.Group.Nat

/-!
# The order of snowflake ids

An id is the number of the milliseconds since the epoch, the node and the
sequence number (`toNat_pack`). Whatever the clock shows, a call that returns
leaves its generator at a later time, or at the same time with a larger sequence
number (`next_spec`).

* `snowflake_ids`: the ids of one generator increase strictly, and those of
  generators with different nodes are different.
-/

namespace MeetingSystem.Proof.Signaling

open MeetingSystem.Framework MeetingSystem.Impl.Signaling Snowflake

/-! ## The fields of an id -/

/-- A time that the 41 bits of an id have room for. -/
def InEra (ms : Int) : Prop := snowflakeEpochMs ≤ ms ∧ ms < snowflakeEpochMs + 2 ^ 41

instance (ms : Int) : Decidable (InEra ms) := inferInstanceAs (Decidable (_ ∧ _))

structure SnowflakeOk (g : Snowflake) : Prop where
  node : g.nodeID.toNat < 2 ^ 10
  sequence : g.sequence.toNat < 2 ^ 12
  lastMs : g.lastMs < snowflakeEpochMs + 2 ^ 41

theorem toNat_pack {g : Snowflake} (h : SnowflakeOk g) (hera : InEra g.lastMs) :
    g.pack.toNat = (g.lastMs - snowflakeEpochMs).toNat * 2 ^ 22 +
      (g.nodeID.toNat * 2 ^ 12 + g.sequence.toNat) := by
  obtain ⟨hnode, hsequence, hlastMs⟩ := h
  have hms : (UInt64.ofInt (g.lastMs - snowflakeEpochMs)).toNat =
      (g.lastMs - snowflakeEpochMs).toNat := by
    have hle := hera.1
    rw [UInt64.ofInt, UInt64.toNat_ofNat_of_lt']
    · congr 1
      exact Int.emod_eq_of_lt (by omega) (by omega)
    · show ((g.lastMs - snowflakeEpochMs) % 2 ^ 64).toNat < 2 ^ 64
      omega
  have hlow : g.nodeID.toNat * 2 ^ 12 + g.sequence.toNat < 2 ^ 22 := by omega
  have hnodePart : g.nodeID.toNat <<< 12 % 2 ^ 64 = g.nodeID.toNat <<< 12 := by
    rw [Nat.shiftLeft_eq]
    omega
  have htimePart : (g.lastMs - snowflakeEpochMs).toNat <<< 22 % 2 ^ 64 =
      (g.lastMs - snowflakeEpochMs).toNat <<< 22 := by
    rw [Nat.shiftLeft_eq]
    omega
  simp only [pack, UInt64.toNat_or, UInt64.toNat_shiftLeft, hms, UInt16.toNat_toUInt64]
  show (g.lastMs - snowflakeEpochMs).toNat <<< 22 % 2 ^ 64 ||| g.nodeID.toNat <<< 12 % 2 ^ 64 |||
    g.sequence.toNat = _
  rw [htimePart, hnodePart, Nat.or_assoc, or_shiftLeft hsequence, or_shiftLeft hlow]

/-- The time and the sequence number in one. -/
def place (g : Snowflake) : Int := g.lastMs * 2 ^ 12 + g.sequence.toNat

theorem pack_lt_pack {g g' : Snowflake} (h : SnowflakeOk g) (h' : SnowflakeOk g')
    (hera : InEra g.lastMs) (hera' : InEra g'.lastMs) (hnode : g'.nodeID = g.nodeID)
    (hplace : place g < place g') : g.pack < g'.pack := by
  rw [UInt64.lt_iff_toNat_lt, toNat_pack h hera, toNat_pack h' hera', hnode]
  obtain ⟨hnode, hsequence, -⟩ := h
  obtain ⟨-, hsequence', -⟩ := h'
  obtain ⟨hle, -⟩ := hera
  obtain ⟨hle', -⟩ := hera'
  rw [place, place] at hplace
  omega

/-- The node can be read back from an id. -/
theorem nodeID_of_pack_eq {g g' : Snowflake} (h : SnowflakeOk g) (h' : SnowflakeOk g')
    (hera : InEra g.lastMs) (hera' : InEra g'.lastMs) (heq : g.pack = g'.pack) :
    g.nodeID = g'.nodeID := by
  have heq := congrArg UInt64.toNat heq
  rw [toNat_pack h hera, toNat_pack h' hera'] at heq
  obtain ⟨hnode, hsequence, -⟩ := h
  obtain ⟨hnode', hsequence', -⟩ := h'
  rw [← UInt16.toNat_inj]
  omega

/-! ## One call -/

/-- The next sequence number is larger, unless it is 0 again. -/
theorem toNat_nextSequence (sequence : UInt16) :
    ((sequence + 1) &&& snowflakeSequenceMask).toNat = (sequence.toNat + 1) % 2 ^ 12 := by
  have hmask : snowflakeSequenceMask.toNat = 2 ^ 12 - 1 := by decide
  rw [UInt16.toNat_and, hmask, Nat.and_two_pow_sub_one_eq_mod, UInt16.toNat_add]
  show (sequence.toNat + 1) % 2 ^ 16 % 2 ^ 12 = _
  omega

theorem waitAfter_spec {lastMs nowMs : Int} {clock rest : Clock}
    (h : waitAfter lastMs clock = some (nowMs, rest)) :
    lastMs < nowMs ∧ nowMs ∈ clock ∧ rest ⊆ clock := by
  induction clock with
  | nil => cases h
  | cons reading clock ih =>
    rw [waitAfter] at h
    split at h
    · obtain ⟨hlt, hmem, hrest⟩ := ih h
      exact ⟨hlt, List.mem_cons_of_mem _ hmem, List.subset_cons_of_subset _ hrest⟩
    · rename_i hlate
      cases h
      exact ⟨Int.not_le.mp hlate, List.mem_cons_self, List.subset_cons_self _ _⟩

/-- What a call does that returns. -/
theorem next_spec {g g' : Snowflake} {clock rest : Clock} {id : UInt64} (h : SnowflakeOk g)
    (hclock : ∀ ms ∈ clock, InEra ms) (hnext : g.next clock = some (id, g', rest)) :
    id = g'.pack ∧ SnowflakeOk g' ∧ InEra g'.lastMs ∧ g'.nodeID = g.nodeID ∧
      place g < place g' ∧ rest ⊆ clock := by
  cases clock with
  | nil => cases hnext
  | cons reading clock =>
    obtain ⟨hreading, hclock⟩ := List.forall_mem_cons.mp hclock
    obtain ⟨hnode, hsequence, hlastMs⟩ := h
    obtain ⟨hafter, hbefore⟩ := hreading
    rw [Snowflake.next] at hnext
    generalize hnow : (if reading < g.lastMs then g.lastMs else reading) = nowMs at hnext
    -- the clock does not go back for the generator
    have hnowMs : g.lastMs ≤ nowMs ∧ InEra nowMs := by
      rw [InEra, ← hnow]
      split <;> omega
    dsimp only at hnext
    split at hnext
    · rename_i hsame
      have hnumber := toNat_nextSequence g.sequence
      generalize (g.sequence + 1) &&& snowflakeSequenceMask = sequence at hnext hnumber
      split at hnext
      · rename_i hzero
        obtain ⟨⟨later, clock'⟩, hwait, heq⟩ := Option.map_eq_some_iff.mp hnext
        obtain ⟨hlt, hmem, hrest⟩ := waitAfter_spec hwait
        have hera := hclock later hmem
        cases heq
        refine ⟨rfl, ⟨hnode, ?_, hera.2⟩, hera, rfl, ?_, List.subset_cons_of_subset _ hrest⟩
        · show sequence.toNat < 2 ^ 12
          simp [hzero]
        · simp only [place, hzero]
          show _ < later * 2 ^ 12 + 0
          omega
      · rename_i hnonzero
        have hnumber' : sequence.toNat ≠ 0 := fun hzero => hnonzero (UInt16.toNat_inj.mp hzero)
        cases hnext
        refine ⟨rfl, ⟨hnode, ?_, hlastMs⟩, ?_, rfl, ?_, List.subset_cons_self _ _⟩
        · show sequence.toNat < 2 ^ 12
          omega
        · exact hsame ▸ hnowMs.2
        · simp only [place]
          omega
    · rename_i hlater
      cases hnext
      have hzero : (0 : UInt16).toNat < 2 ^ 12 := by decide
      refine ⟨rfl, ⟨hnode, hzero, hnowMs.2.2⟩, hnowMs.2, rfl, ?_, List.subset_cons_self _ _⟩
      simp only [place]
      show _ < nowMs * 2 ^ 12 + 0
      omega

/-! ## Every run of calls -/

/-- An id that the generator has issued after it was as `g`. -/
def IssuedAfter (g : Snowflake) (id : UInt64) : Prop :=
  ∃ g', id = g'.pack ∧ SnowflakeOk g' ∧ InEra g'.lastMs ∧ g'.nodeID = g.nodeID ∧
    place g < place g'

theorem ids_after {g : Snowflake} (h : SnowflakeOk g) (calls : Nat) {clock : Clock}
    (hclock : ∀ ms ∈ clock, InEra ms) : ∀ id ∈ g.ids calls clock, IssuedAfter g id := by
  induction calls generalizing g clock with
  | zero => exact fun id hid => absurd hid List.not_mem_nil
  | succ calls ih =>
    intro id hid
    rw [Snowflake.ids] at hid
    split at hid
    · cases hid
    · rename_i first g' rest hnext
      obtain ⟨hpack, hok, hera, hnode, hplace, hrest⟩ := next_spec h hclock hnext
      rcases List.mem_cons.mp hid with rfl | hid
      · exact ⟨g', hpack, hok, hera, hnode, hplace⟩
      · obtain ⟨g'', hpack', hok', hera', hnode', hplace'⟩ :=
          ih hok (fun ms hms => hclock ms (hrest hms)) id hid
        exact ⟨g'', hpack', hok', hera', hnode'.trans hnode, hplace.trans hplace'⟩

theorem ids_increasing {g : Snowflake} (h : SnowflakeOk g) (calls : Nat) {clock : Clock}
    (hclock : ∀ ms ∈ clock, InEra ms) : (g.ids calls clock).Pairwise (· < ·) := by
  induction calls generalizing g clock with
  | zero => exact .nil
  | succ calls ih =>
    rw [Snowflake.ids]
    split
    · exact .nil
    · rename_i first g' rest hnext
      obtain ⟨hpack, hok, hera, -, -, hrest⟩ := next_spec h hclock hnext
      have hclock' : ∀ ms ∈ rest, InEra ms := fun ms hms => hclock ms (hrest hms)
      refine List.pairwise_cons.mpr ⟨fun id hid => ?_, ih hok hclock'⟩
      obtain ⟨g'', hpack', hok', hera', hnode', hplace'⟩ := ids_after hok calls hclock' id hid
      rw [hpack, hpack']
      exact pack_lt_pack hok hok' hera hera' hnode' hplace'

theorem snowflakeOk_new {nodeID : UInt16} {g : Snowflake} (h : newSnowflake nodeID = .ok g) :
    SnowflakeOk g ∧ g.nodeID = nodeID := by
  rw [newSnowflake] at h
  split at h
  · cases h
  · rename_i hnode
    cases h
    have hmax : snowflakeNodeMax.toNat = 2 ^ 10 - 1 := by decide
    rw [gt_iff_lt, UInt16.lt_iff_toNat_lt, hmax] at hnode
    have hzero : (0 : UInt16).toNat < 2 ^ 12 := by decide
    have hpast : (0 : Int) < snowflakeEpochMs + 2 ^ 41 := by decide
    exact ⟨⟨by show nodeID.toNat < 2 ^ 10; omega, hzero, hpast⟩, rfl⟩

/-- Whatever the clocks of the generators show: the ids of one increase strictly,
and those of generators with different nodes are different. -/
theorem snowflake_ids :
    (∀ (nodeID : UInt16) (g : Snowflake) (calls : Nat) (clock : Clock),
      newSnowflake nodeID = .ok g → (∀ ms ∈ clock, InEra ms) →
        (g.ids calls clock).Pairwise (· < ·)) ∧
    ∀ (nodeID nodeID' : UInt16) (g g' : Snowflake) (calls calls' : Nat) (clock clock' : Clock),
      newSnowflake nodeID = .ok g → newSnowflake nodeID' = .ok g' → nodeID ≠ nodeID' →
        (∀ ms ∈ clock, InEra ms) → (∀ ms ∈ clock', InEra ms) →
          ∀ id ∈ g.ids calls clock, ∀ id' ∈ g'.ids calls' clock', id ≠ id' := by
  refine ⟨fun nodeID g calls clock hnew hclock => ?_, ?_⟩
  · exact ids_increasing (snowflakeOk_new hnew).1 calls hclock
  · intro nodeID nodeID' g g' calls calls' clock clock' hnew hnew' hne hclock hclock' id hid
      id' hid' heq
    obtain ⟨hok, hnode⟩ := snowflakeOk_new hnew
    obtain ⟨hok', hnode'⟩ := snowflakeOk_new hnew'
    obtain ⟨a, hpack, haok, haera, hanode, -⟩ := ids_after hok calls hclock id hid
    obtain ⟨b, hpack', hbok, hbera, hbnode, -⟩ := ids_after hok' calls' hclock' id' hid'
    have hids : a.pack = b.pack := hpack.symm.trans (heq.trans hpack')
    have hsame := nodeID_of_pack_eq haok hbok haera hbera hids
    rw [hanode, hbnode, hnode, hnode'] at hsame
    exact hne hsame

/-- A clock that goes back, and stands still, for two generators. -/
def setBack : Clock := [1704067200005, 1704067200003, 1704067200005, 1704067200006]

theorem snowflake_ids_setBack :
    (Snowflake.ids ⟨1, 0, 0⟩ 4 setBack).Pairwise (· < ·) ∧
      ∀ id ∈ Snowflake.ids ⟨1, 0, 0⟩ 4 setBack, ∀ id' ∈ Snowflake.ids ⟨2, 0, 0⟩ 4 setBack,
        id ≠ id' := by
  have hone : newSnowflake 1 = .ok ⟨1, 0, 0⟩ := if_neg (by decide)
  have htwo : newSnowflake 2 = .ok ⟨2, 0, 0⟩ := if_neg (by decide)
  have hera : ∀ ms ∈ setBack, InEra ms := by decide +kernel
  exact ⟨snowflake_ids.1 1 ⟨1, 0, 0⟩ 4 setBack hone hera,
    snowflake_ids.2 1 2 ⟨1, 0, 0⟩ ⟨2, 0, 0⟩ 4 4 setBack setBack hone htwo (by decide) hera hera⟩

end MeetingSystem.Proof.Signaling
