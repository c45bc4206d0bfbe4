import MeetingSystem.Framework.Interleave
import MeetingSystem.Impl.Signaling.RecoveryLock

/-!
# Mutual exclusion of recoveries

Any number of calls of `acquireRecoveryLock` and of the functions it returns,
whose statements interleave. The lock of a meeting is made by the first call that
wants it and taken out of the map by the last one that gives it back, each while
it has `recoveryMu`. `recoveryLock_ok`: a meeting has at most one holder, calls of
one meeting use one lock, and `refs` is the number of calls that wait for it, have
it, or have unlocked it and not yet given up their reference. The last kind keeps
the lock in the map when nobody holds it (`recoveryLock_unheld`).
-/

namespace MeetingSystem.Proof.Signaling

open MeetingSystem.Framework MeetingSystem.Impl.Signaling

/-! ## The calls -/

namespace RecoveryCall

/-- Calls that have `recoveryMu`. -/
def inMap : RecoveryCall → Bool
  | .getEntry _ | .putEntry _ | .incRefs .. | .unlockMap .. | .decRefs .. | .deleteEntry ..
  | .unlockMapAgain => true
  | _ => false

/-- Calls that have the mutex at `e`. -/
def hasMutex (e : Nat) : RecoveryCall → Bool
  | .unlockEntry _ e' => e' = e
  | _ => false

/-- Calls that have the lock of the meeting `m`. -/
def holds (m : String) : RecoveryCall → Bool
  | .unlockEntry m' _ => m' = m
  | _ => false

def waits (m : String) : RecoveryCall → Bool
  | .unlockMap m' _ | .lockEntry m' _ => m' = m
  | _ => false

/-- Calls that have given the lock back, but not their reference. -/
def releases (m : String) : RecoveryCall → Bool
  | .relockMap m' _ | .decRefs m' _ => m' = m
  | _ => false

def hasRef (m : String) (c : RecoveryCall) : Bool := holds m c || waits m c || releases m c

/-- The lock that a call uses, with the meeting. -/
def uses : RecoveryCall → Option (String × Nat)
  | .incRefs m e | .unlockMap m e | .lockEntry m e | .unlockEntry m e | .relockMap m e
  | .decRefs m e | .deleteEntry m e => some (m, e)
  | _ => none

theorem exists_uses_of_hasRef {c : RecoveryCall} {m : String} (h : hasRef m c = true) :
    ∃ e, uses c = some (m, e) := by
  cases c <;> simp_all [hasRef, holds, waits, releases, uses]

/-- A call that uses a lock has a reference, or `recoveryMu`. -/
theorem hasRef_or_inMap {c : RecoveryCall} {m : String} {e : Nat} (h : uses c = some (m, e)) :
    hasRef m c = true ∨ inMap c = true := by
  cases c <;> simp_all [hasRef, holds, waits, releases, uses, inMap]

theorem hasMutex_of_holds {c : RecoveryCall} {m : String} {e : Nat} (h : holds m c = true)
    (hu : uses c = some (m, e)) : hasMutex e c = true := by
  cases c <;> simp_all [holds, uses, hasMutex]

end RecoveryCall

open RecoveryCall

/-! ## The invariant -/

/-- The references that the map counts for the meeting `m`. -/
def refsOf (s : RecoveryLocks) (m : String) : Int :=
  match s.recoveryLocks m with
  | none => 0
  | some e => (s.entries e).refs

/-- Every meeting has a lock of its own, and free memory is zero. -/
structure HeapOk (s : RecoveryLocks) : Prop where
  fresh : ∀ m e, s.recoveryLocks m = some e → e < s.fresh
  own : ∀ m m' e, s.recoveryLocks m = some e → s.recoveryLocks m' = some e → m = m'
  zero : ∀ e, s.fresh ≤ e → s.entries e = {}

/-- What a call knows of the map. -/
structure Knows (s : RecoveryLocks) (c : RecoveryCall) : Prop where
  uses : ∀ m e, uses c = some (m, e) → s.recoveryLocks m = some e
  absent : ∀ m, c = .putEntry m → s.recoveryLocks m = none

structure LocksInv (p : Pool RecoveryLocks RecoveryCall) : Prop where
  heap : HeapOk p.shared
  map : p.Counts inMap p.shared.recoveryMu.toNat
  mutex : ∀ e, p.Counts (hasMutex e) (p.shared.entries e).mu.toNat
  refs : ∀ m, p.Counts (hasRef m) (refsOf p.shared m)
  knows : ∀ i c, p.calls i = some c → Knows p.shared c
  used : ∀ m e, p.shared.recoveryLocks m = some e →
    ∃ i c, p.calls i = some c ∧ uses c = some (m, e)

namespace LocksInv

variable {p : Pool RecoveryLocks RecoveryCall} {i : Nat} {s : RecoveryLocks}
  {c' : Option RecoveryCall}

/-- The call in place `i` has moved. The others know what they knew, and a lock
in the map is used by one of them or by the call that has moved. -/
theorem update (h : LocksInv p) (hheap : HeapOk s)
    (hmap : (s.recoveryMu.toNat : Int) + ((p.calls i).any inMap).toNat =
      p.shared.recoveryMu.toNat + (c'.any inMap).toNat)
    (hmutex : ∀ e, ((s.entries e).mu.toNat : Int) + ((p.calls i).any (hasMutex e)).toNat =
      (p.shared.entries e).mu.toNat + (c'.any (hasMutex e)).toNat)
    (hrefs : ∀ m, refsOf s m + ((p.calls i).any (hasRef m)).toNat =
      refsOf p.shared m + (c'.any (hasRef m)).toNat)
    (hknows : ∀ c, c' = some c → Knows s c)
    (hothers : ∀ j c, j ≠ i → p.calls j = some c → Knows s c)
    (hused : ∀ m e, s.recoveryLocks m = some e → c'.bind uses = some (m, e) ∨
      ∃ j c, j ≠ i ∧ p.calls j = some c ∧ uses c = some (m, e)) :
    LocksInv ⟨s, Function.update p.calls i c'⟩ := by
  refine ⟨hheap, h.map.update hmap, fun e => (h.mutex e).update (hmutex e),
    fun m => (h.refs m).update (hrefs m), ?_, ?_⟩
  · intro j c hj
    by_cases hji : j = i
    · subst hji
      exact hknows c ((Function.update_self j _ _).symm.trans hj)
    · exact hothers j c hji ((Function.update_of_ne hji _ _).symm.trans hj)
  · intro m e hm
    obtain hself | ⟨j, c, hji, hc, hu⟩ := hused m e hm
    · obtain ⟨c, rfl, hu⟩ := Option.bind_eq_some_iff.mp hself
      exact ⟨i, c, Function.update_self i _ _, hu⟩
    · exact ⟨j, c, (Function.update_of_ne hji _ _).trans hc, hu⟩

/-- A move that leaves the map alone and goes on with its lock. -/
theorem keep (h : LocksInv p) (hlocks : s.recoveryLocks = p.shared.recoveryLocks)
    (hfresh : s.fresh = p.shared.fresh) (hzero : ∀ e, p.shared.fresh ≤ e → s.entries e = {})
    (hmap : (s.recoveryMu.toNat : Int) + ((p.calls i).any inMap).toNat =
      p.shared.recoveryMu.toNat + (c'.any inMap).toNat)
    (hmutex : ∀ e, ((s.entries e).mu.toNat : Int) + ((p.calls i).any (hasMutex e)).toNat =
      (p.shared.entries e).mu.toNat + (c'.any (hasMutex e)).toNat)
    (hrefs : ∀ m, refsOf s m + ((p.calls i).any (hasRef m)).toNat =
      refsOf p.shared m + (c'.any (hasRef m)).toNat)
    (hknows : ∀ c, c' = some c → Knows p.shared c)
    (huses : ∀ me, (p.calls i).bind uses = some me → c'.bind uses = some me) :
    LocksInv ⟨s, Function.update p.calls i c'⟩ := by
  have hsame : ∀ c, Knows p.shared c → Knows s c := by
    intro c hc
    refine ⟨?_, ?_⟩
    · rw [hlocks]
      exact hc.uses
    · rw [hlocks]
      exact hc.absent
  refine h.update ⟨?_, ?_, ?_⟩ hmap hmutex hrefs (fun c hc => hsame c (hknows c hc))
    (fun j c _ hc => hsame c (h.knows j c hc)) ?_
  · rw [hlocks, hfresh]
    exact h.heap.fresh
  · rw [hlocks]
    exact h.heap.own
  · rw [hfresh]
    exact hzero
  · intro m e hm
    rw [hlocks] at hm
    obtain ⟨j, c, hc, hu⟩ := h.used m e hm
    by_cases hji : j = i
    · subst hji
      refine .inl (huses _ ?_)
      rw [hc]
      exact hu
    · exact .inr ⟨j, c, hji, hc, hu⟩

end LocksInv

/-! ## One statement -/

section Fields

variable {s : RecoveryLocks} {e e' : Nat} {m m' : String}

theorem mu_setMu (b : Bool) :
    ((s.setMu e b).entries e').mu = if e' = e then b else (s.entries e').mu := by
  show (Function.update s.entries e _ e').mu = _
  by_cases he : e' = e
  · rw [he, Function.update_self, if_pos rfl]
  · rw [Function.update_of_ne he, if_neg he]

theorem refs_setMu (b : Bool) : ((s.setMu e b).entries e').refs = (s.entries e').refs := by
  show (Function.update s.entries e _ e').refs = _
  by_cases he : e' = e
  · rw [he, Function.update_self]
  · rw [Function.update_of_ne he]

theorem refsOf_setMu (b : Bool) : refsOf (s.setMu e b) m = refsOf s m := by
  have hlocks : (s.setMu e b).recoveryLocks = s.recoveryLocks := rfl
  unfold refsOf
  rw [hlocks]
  cases s.recoveryLocks m with
  | none => rfl
  | some e' => exact refs_setMu b

theorem mu_addRefs (n : Int) : ((s.addRefs e n).entries e').mu = (s.entries e').mu := by
  show (Function.update s.entries e _ e').mu = _
  by_cases he : e' = e
  · rw [he, Function.update_self]
  · rw [Function.update_of_ne he]

theorem refsOf_addRefs (h : HeapOk s) (hm : s.recoveryLocks m = some e) (n : Int) :
    refsOf (s.addRefs e n) m' = refsOf s m' + if m = m' then n else 0 := by
  have hlocks : (s.addRefs e n).recoveryLocks = s.recoveryLocks := rfl
  unfold refsOf
  rw [hlocks]
  cases hm' : s.recoveryLocks m' with
  | none =>
    have hne : m ≠ m' := by
      rintro rfl
      exact absurd (hm.symm.trans hm') nofun
    rw [if_neg hne]
    rfl
  | some e' =>
    show (Function.update s.entries e _ e').refs = (s.entries e').refs + _
    by_cases he : e' = e
    · have hmm : m = m' := h.own m m' e hm (he ▸ hm')
      rw [he, Function.update_self, if_pos hmm]
    · have hne : m ≠ m' := by
        rintro rfl
        exact he (Option.some.inj (hm'.symm.trans hm))
      rw [Function.update_of_ne he, if_neg hne, add_zero]

/-- Memory that is free stays as it is. -/
theorem zero_update (h : HeapOk s) (hm : s.recoveryLocks m = some e) (x : MeetingRecoveryLock) :
    ∀ e', s.fresh ≤ e' → Function.update s.entries e x e' = {} := by
  intro e' he'
  have hlt := h.fresh m e hm
  rw [Function.update_of_ne (by omega)]
  exact h.zero e' he'

theorem recoveryLocks_putNew :
    (s.putNew m).recoveryLocks m' = if m' = m then some s.fresh else s.recoveryLocks m' :=
  Function.update_apply ..

theorem entries_putNew (h : HeapOk s) : (s.putNew m).entries e = s.entries e := by
  show Function.update s.entries s.fresh {} e = _
  by_cases he : e = s.fresh
  · rw [he, Function.update_self, h.zero _ le_rfl]
  · rw [Function.update_of_ne he]

theorem refsOf_putNew (h : HeapOk s) (hm : s.recoveryLocks m = none) :
    refsOf (s.putNew m) m' = refsOf s m' := by
  unfold refsOf
  rw [recoveryLocks_putNew]
  split_ifs with hmm
  · rw [hmm, hm]
    show ((s.putNew m).entries s.fresh).refs = 0
    rw [entries_putNew h, h.zero _ le_rfl]
  · simp only [entries_putNew h]

theorem HeapOk.putNew (h : HeapOk s) (m : String) : HeapOk (s.putNew m) := by
  refine ⟨?_, ?_, ?_⟩
  · intro m' e hm'
    show e < s.fresh + 1
    rw [recoveryLocks_putNew] at hm'
    split_ifs at hm' with hmm
    · obtain rfl := Option.some.inj hm'
      exact Nat.lt_succ_self _
    · exact Nat.lt_succ_of_lt (h.fresh m' e hm')
  · intro m₁ m₂ e h₁ h₂
    rw [recoveryLocks_putNew] at h₁ h₂
    split_ifs at h₁ h₂ with hm₁ hm₂ hm₂
    · rw [hm₁, hm₂]
    · obtain rfl := Option.some.inj h₁
      exact absurd (h.fresh _ _ h₂) (lt_irrefl _)
    · obtain rfl := Option.some.inj h₂
      exact absurd (h.fresh _ _ h₁) (lt_irrefl _)
    · exact h.own _ _ _ h₁ h₂
  · intro e he
    rw [entries_putNew h]
    exact h.zero e (Nat.le_of_succ_le he)

theorem recoveryLocks_delete :
    (s.delete m).recoveryLocks m' = if m' = m then none else s.recoveryLocks m' :=
  Function.update_apply ..

theorem refsOf_delete (hm : refsOf s m = 0) : refsOf (s.delete m) m' = refsOf s m' := by
  by_cases hmm : m' = m
  · rw [hmm, hm]
    unfold refsOf
    rw [recoveryLocks_delete, if_pos rfl]
  · unfold refsOf
    rw [recoveryLocks_delete, if_neg hmm]
    rfl

theorem HeapOk.delete (h : HeapOk s) (m : String) : HeapOk (s.delete m) := by
  refine ⟨?_, ?_, h.zero⟩
  · intro m' e hm'
    rw [recoveryLocks_delete] at hm'
    exact h.fresh m' e (Option.ite_none_left_eq_some.mp hm').2
  · intro m₁ m₂ e h₁ h₂
    rw [recoveryLocks_delete] at h₁ h₂
    exact h.own _ _ _ (Option.ite_none_left_eq_some.mp h₁).2
      (Option.ite_none_left_eq_some.mp h₂).2

end Fields

namespace LocksInv

variable {p : Pool RecoveryLocks RecoveryCall} {i j : Nat} {c : RecoveryCall}

theorem recoveryMu_of_inMap (h : LocksInv p) (hc : p.calls i = some c) (hin : inMap c = true) :
    p.shared.recoveryMu = true := by
  have hpos := h.map.pos_iff.mpr ⟨i, Pool.mem_places hc hin⟩
  cases hmu : p.shared.recoveryMu with
  | true => rfl
  | false =>
    rw [hmu] at hpos
    exact absurd hpos (by decide)

theorem mu_of_hasMutex {e : Nat} (h : LocksInv p) (hc : p.calls i = some c)
    (hin : hasMutex e c = true) : (p.shared.entries e).mu = true := by
  have hpos := (h.mutex e).pos_iff.mpr ⟨i, Pool.mem_places hc hin⟩
  cases hmu : (p.shared.entries e).mu with
  | true => rfl
  | false =>
    rw [hmu] at hpos
    exact absurd hpos (by decide)

theorem toNat_le_one (b : Bool) : ((b.toNat : Nat) : Int) ≤ 1 := by
  cases b <;> decide

/-- One call at a time has `recoveryMu`. -/
theorem inMap_eq (h : LocksInv p) {c' : RecoveryCall} (hi : p.calls i = some c)
    (hin : inMap c = true) (hj : p.calls j = some c') (hin' : inMap c' = true) : i = j :=
  h.map.eq_of_le_one (toNat_le_one _) (Pool.mem_places hi hin) (Pool.mem_places hj hin')

theorem any_calls {Q : RecoveryCall → Bool} (c' : Option RecoveryCall) (hc : p.calls i = some c)
    (hQ : Q c = c'.any Q) : (p.calls i).any Q = c'.any Q := by
  rw [hc]
  exact hQ

/-- A new lock comes into the map. -/
theorem putEntry {m : String} (h : LocksInv p) (hc : p.calls i = some (.putEntry m)) :
    LocksInv ⟨p.shared.putNew m,
      Function.update p.calls i (some (.incRefs m p.shared.fresh))⟩ := by
  have hnone : p.shared.recoveryLocks m = none := (h.knows i _ hc).absent m rfl
  refine h.update (h.heap.putNew m) ?_ (fun e => ?_) (fun m' => ?_) ?_ ?_ ?_
  · rw [hc]
    rfl
  · rw [hc, entries_putNew h.heap]
    rfl
  · rw [hc, refsOf_putNew h.heap hnone]
    rfl
  · rintro c ⟨⟩
    refine ⟨?_, nofun⟩
    rintro m' e ⟨⟩
    rw [recoveryLocks_putNew, if_pos rfl]
  · intro j c hji hj
    refine ⟨?_, ?_⟩
    · intro m' e hu
      have hm' := (h.knows j c hj).uses m' e hu
      have hmm : m' ≠ m := by
        rintro rfl
        exact absurd (hnone.symm.trans hm') nofun
      rw [recoveryLocks_putNew, if_neg hmm]
      exact hm'
    · rintro m' rfl
      exact absurd (h.inMap_eq hj rfl hc rfl) hji
  · intro m' e hm'
    rw [recoveryLocks_putNew] at hm'
    split_ifs at hm' with hmm
    · obtain rfl := Option.some.inj hm'
      rw [hmm]
      exact .inl rfl
    · obtain ⟨j, c, hj, hu⟩ := h.used m' e hm'
      refine .inr ⟨j, c, ?_, hj, hu⟩
      rintro rfl
      obtain rfl := Option.some.inj (hj.symm.trans hc)
      exact absurd hu nofun

theorem refsOf_eq {m : String} {e : Nat} (hm : p.shared.recoveryLocks m = some e) :
    refsOf p.shared m = (p.shared.entries e).refs := by
  unfold refsOf
  rw [hm]

/-- A call at the deletion of `m` uses no lock of another meeting. -/
theorem used_other {m m' : String} {e e' : Nat} (h : LocksInv p)
    (hc : p.calls i = some (.deleteEntry m e)) (hm' : p.shared.recoveryLocks m' = some e')
    (hmm : m' ≠ m) : ∃ j c, j ≠ i ∧ p.calls j = some c ∧ uses c = some (m', e') := by
  obtain ⟨j, c, hj, hu⟩ := h.used m' e' hm'
  refine ⟨j, c, ?_, hj, hu⟩
  rintro rfl
  obtain rfl := Option.some.inj (hj.symm.trans hc)
  obtain ⟨rfl, -⟩ := Prod.mk.inj (Option.some.inj hu)
  exact hmm rfl

/-- The last one takes the lock out. -/
theorem delete {m : String} {e : Nat} (h : LocksInv p) (hc : p.calls i = some (.deleteEntry m e))
    (hrefs : (p.shared.entries e).refs ≤ 0) :
    LocksInv ⟨p.shared.delete m, Function.update p.calls i (some .unlockMapAgain)⟩ := by
  have hm : p.shared.recoveryLocks m = some e := (h.knows i _ hc).uses m e rfl
  have hzero : refsOf p.shared m = 0 := by
    obtain ⟨n, hn, -⟩ := h.refs m
    rw [refsOf_eq hm] at hn ⊢
    omega
  -- a call that uses the lock too would have a reference or `recoveryMu`
  have hunused : ∀ j c e', j ≠ i → p.calls j = some c → uses c ≠ some (m, e') := by
    intro j c e' hji hj hu
    obtain href | hin := hasRef_or_inMap hu
    · have hpos := (h.refs m).pos_iff.mpr ⟨j, Pool.mem_places hj href⟩
      omega
    · exact hji (h.inMap_eq hj hin hc rfl)
  refine h.update (h.heap.delete m) ?_ (fun e' => ?_) (fun m' => ?_) ?_ ?_ ?_
  · rw [hc]
    rfl
  · rw [hc]
    rfl
  · rw [hc, refsOf_delete hzero]
    rfl
  · rintro c ⟨⟩
    exact ⟨nofun, nofun⟩
  · intro j c hji hj
    refine ⟨?_, ?_⟩
    · intro m' e' hu
      have hmm : m' ≠ m := by
        rintro rfl
        exact hunused j c e' hji hj hu
      rw [recoveryLocks_delete, if_neg hmm]
      exact (h.knows j c hj).uses m' e' hu
    · rintro m' rfl
      exact absurd (h.inMap_eq hj rfl hc rfl) hji
  · intro m' e' hm'
    rw [recoveryLocks_delete] at hm'
    obtain ⟨hmm, hm'⟩ := Option.ite_none_left_eq_some.mp hm'
    exact .inr (h.used_other hc hm' hmm)

/-- The lock stays for those who have a reference. -/
theorem leave {m : String} {e : Nat} (h : LocksInv p) (hc : p.calls i = some (.deleteEntry m e))
    (hrefs : 0 < (p.shared.entries e).refs) :
    LocksInv ⟨p.shared, Function.update p.calls i (some .unlockMapAgain)⟩ := by
  have hm : p.shared.recoveryLocks m = some e := (h.knows i _ hc).uses m e rfl
  have hcount : ∀ Q : RecoveryCall → Bool, Q (.deleteEntry m e) = Q .unlockMapAgain →
      ∀ k : Int, k + ((p.calls i).any Q).toNat =
        k + ((some RecoveryCall.unlockMapAgain).any Q).toNat := by
    intro Q hQ k
    rw [any_calls (some _) hc hQ]
  refine h.update h.heap (hcount _ rfl _) (fun _ => hcount _ rfl _) (fun _ => hcount _ rfl _)
    ?_ (fun j c _ hj => h.knows j c hj) ?_
  · rintro c ⟨⟩
    exact ⟨nofun, nofun⟩
  · intro m' e' hm'
    by_cases hmm : m' = m
    · subst hmm
      obtain rfl := Option.some.inj (hm.symm.trans hm')
      have hpos : 0 < refsOf p.shared m' := by rwa [refsOf_eq hm]
      obtain ⟨j, hj⟩ := (h.refs m').pos_iff.mp hpos
      obtain ⟨c, hcj, href⟩ := Pool.mem_places_iff.mp hj
      obtain ⟨e', hu⟩ := exists_uses_of_hasRef href
      obtain rfl := Option.some.inj (hm.symm.trans ((h.knows j c hcj).uses m' e' hu))
      refine .inr ⟨j, c, ?_, hcj, hu⟩
      rintro rfl
      obtain rfl := Option.some.inj (hcj.symm.trans hc)
      exact absurd href Bool.false_ne_true
    · exact .inr (h.used_other hc hm' hmm)

/-- A call that goes on with its lock knows where it is. -/
theorem knows_next {c c' : RecoveryCall} (h : LocksInv p) (hc : p.calls i = some c)
    (hu : uses c' = uses c) (hput : ∀ m, c' ≠ .putEntry m) : Knows p.shared c' := by
  refine ⟨fun m e hu' => ?_, fun m hput' => absurd hput' (hput m)⟩
  rw [hu] at hu'
  exact (h.knows i c hc).uses m e hu'

/-- A statement that touches neither the map nor a lock in it. -/
theorem pass {c : RecoveryCall} {c' : Option RecoveryCall} (h : LocksInv p)
    (hc : p.calls i = some c) {recoveryMu : Bool}
    (hmap : (recoveryMu.toNat : Int) + (inMap c).toNat =
      p.shared.recoveryMu.toNat + (c'.any inMap).toNat)
    (hmutex : ∀ e, hasMutex e c = c'.any (hasMutex e))
    (hrefs : ∀ m, hasRef m c = c'.any (hasRef m))
    (huses : ∀ me, uses c = some me → c'.bind uses = some me)
    (hknows : ∀ c'', c' = some c'' → Knows p.shared c'') :
    LocksInv ⟨{ p.shared with recoveryMu := recoveryMu }, Function.update p.calls i c'⟩ := by
  refine h.keep rfl rfl h.heap.zero ?_ ?_ ?_ hknows ?_
  · rw [hc]
    exact hmap
  · intro e
    rw [any_calls c' hc (hmutex e)]
  · intro m
    rw [any_calls c' hc (hrefs m)]
    rfl
  · rw [hc]
    exact huses

/-- `Lock` or `Unlock` of the lock at `e`. -/
theorem setMu {c c' : RecoveryCall} {m : String} {e : Nat} {mu : Bool} (h : LocksInv p)
    (hc : p.calls i = some c) (hm : uses c = some (m, e)) (hu : uses c' = uses c)
    (hput : ∀ m, c' ≠ .putEntry m) (hmap : inMap c = inMap c')
    (hrefs : ∀ m, hasRef m c = hasRef m c')
    (hmu : (mu.toNat : Int) + (hasMutex e c).toNat =
      (p.shared.entries e).mu.toNat + (hasMutex e c').toNat)
    (hother : ∀ e', e' ≠ e → hasMutex e' c = hasMutex e' c') :
    LocksInv ⟨p.shared.setMu e mu, Function.update p.calls i (some c')⟩ := by
  have hm := (h.knows i c hc).uses m e hm
  refine h.keep rfl rfl (zero_update h.heap hm _) ?_ ?_ ?_ ?_ ?_
  · rw [any_calls (some c') hc hmap]
    rfl
  · intro e'
    rw [hc, mu_setMu]
    show _ + ((hasMutex e' c).toNat : Int) = _ + ((hasMutex e' c').toNat : Int)
    by_cases he : e' = e
    · rw [he, if_pos rfl]
      exact hmu
    · rw [if_neg he, hother e' he]
  · intro m'
    rw [any_calls (some c') hc (hrefs m'), refsOf_setMu]
  · rintro c'' ⟨⟩
    exact h.knows_next hc hu hput
  · rw [hc]
    exact fun me hme => hu.trans hme

/-- `refs++` or `refs--` of the lock at `e`. -/
theorem addRefs {c c' : RecoveryCall} {m : String} {e : Nat} {n : Int} (h : LocksInv p)
    (hc : p.calls i = some c) (hm : uses c = some (m, e)) (hu : uses c' = uses c)
    (hput : ∀ m, c' ≠ .putEntry m) (hmap : inMap c = inMap c')
    (hmutex : ∀ e, hasMutex e c = hasMutex e c')
    (hrefs : n + (hasRef m c).toNat = (hasRef m c').toNat)
    (hother : ∀ m', m ≠ m' → hasRef m' c = hasRef m' c') :
    LocksInv ⟨p.shared.addRefs e n, Function.update p.calls i (some c')⟩ := by
  have hm := (h.knows i c hc).uses m e hm
  refine h.keep rfl rfl (zero_update h.heap hm _) ?_ ?_ ?_ ?_ ?_
  · rw [any_calls (some c') hc hmap]
    rfl
  · intro e'
    rw [any_calls (some c') hc (hmutex e'), mu_addRefs]
  · intro m'
    rw [hc, refsOf_addRefs h.heap hm]
    show _ + ((hasRef m' c).toNat : Int) = _ + ((hasRef m' c').toNat : Int)
    by_cases hmm : m = m'
    · subst hmm
      rw [if_pos rfl]
      omega
    · rw [if_neg hmm, hother m' hmm, add_zero]
  · rintro c'' ⟨⟩
    exact h.knows_next hc hu hput
  · rw [hc]
    exact fun me hme => hu.trans hme

theorem next (h : LocksInv p) (hc : p.calls i = some c) :
    LocksInv ⟨(RecoveryCall.next p.shared () c).1,
      Function.update p.calls i (RecoveryCall.next p.shared () c).2.getLeft?⟩ := by
  have hstay : LocksInv ⟨p.shared, Function.update p.calls i (some c)⟩ := by
    rw [← hc, Function.update_eq_self]
    exact h
  cases c with
  | noLock => exact h.pass hc rfl (fun _ => rfl) (fun _ => rfl) nofun nofun
  | lockMap m =>
    cases hmu : p.shared.recoveryMu with
    | true => simpa [RecoveryCall.next, hmu] using hstay
    | false =>
      simp only [RecoveryCall.next, hmu]
      refine h.pass hc ?_ (fun _ => rfl) (fun _ => rfl) nofun ?_
      · rw [hmu]
        rfl
      · rintro c ⟨⟩
        exact ⟨nofun, nofun⟩
  | getEntry m =>
    simp only [RecoveryCall.next]
    cases hm : p.shared.recoveryLocks m with
    | none =>
      refine h.pass hc rfl (fun _ => rfl) (fun _ => rfl) nofun ?_
      rintro c ⟨⟩
      refine ⟨nofun, ?_⟩
      rintro m' ⟨⟩
      exact hm
    | some e =>
      refine h.pass hc rfl (fun _ => rfl) (fun _ => rfl) nofun ?_
      rintro c ⟨⟩
      refine ⟨?_, nofun⟩
      rintro m' e' ⟨⟩
      exact hm
  | putEntry m => exact h.putEntry hc
  | incRefs m e =>
    refine h.addRefs hc rfl rfl nofun rfl (fun _ => rfl) ?_ ?_
    · simp [hasRef, holds, waits, releases]
    · intro m' hmm
      simp [hasRef, holds, waits, releases, hmm]
  | unlockMap m e =>
    have hmu := h.recoveryMu_of_inMap hc rfl
    refine h.pass hc ?_ (fun _ => rfl) (fun _ => rfl) (fun _ hme => hme) ?_
    · rw [hmu]
      rfl
    · rintro c ⟨⟩
      exact h.knows_next hc rfl nofun
  | lockEntry m e =>
    cases hmu : (p.shared.entries e).mu with
    | true => simpa [RecoveryCall.next, hmu] using hstay
    | false =>
      simp only [RecoveryCall.next, hmu]
      refine h.setMu hc rfl rfl nofun rfl ?_ ?_ ?_
      · intro m'
        simp [hasRef, holds, waits, releases]
      · simp [hasMutex, hmu]
      · intro e' he
        simp [hasMutex, he.symm]
  | unlockEntry m e =>
    have hmu := h.mu_of_hasMutex (e := e) hc (by simp [hasMutex])
    refine h.setMu hc rfl rfl nofun rfl ?_ ?_ ?_
    · intro m'
      simp [hasRef, holds, waits, releases]
    · simp [hasMutex, hmu]
    · intro e' he
      simp [hasMutex, he.symm]
  | relockMap m e =>
    cases hmu : p.shared.recoveryMu with
    | true => simpa [RecoveryCall.next, hmu] using hstay
    | false =>
      simp only [RecoveryCall.next, hmu]
      refine h.pass hc ?_ (fun _ => rfl) (fun _ => rfl) (fun _ hme => hme) ?_
      · rw [hmu]
        rfl
      · rintro c ⟨⟩
        exact h.knows_next hc rfl nofun
  | decRefs m e =>
    refine h.addRefs hc rfl rfl nofun rfl (fun _ => rfl) ?_ ?_
    · simp [hasRef, holds, waits, releases]
    · intro m' hmm
      simp [hasRef, holds, waits, releases, hmm]
  | deleteEntry m e =>
    simp only [RecoveryCall.next]
    split_ifs with hrefs
    · exact h.delete hc hrefs
    · exact h.leave hc (not_le.mp hrefs)
  | unlockMapAgain =>
    have hmu := h.recoveryMu_of_inMap hc rfl
    refine h.pass hc ?_ (fun _ => rfl) (fun _ => rfl) nofun nofun
    rw [hmu]
    rfl

theorem start (h : LocksInv p) (hi : p.calls i = none) (m : String) :
    LocksInv (p.setCall i (some (RecoveryCall.acquireRecoveryLock m))) := by
  have hnew : ∀ c, some (RecoveryCall.acquireRecoveryLock m) = some c →
      c = .noLock ∨ c = .lockMap m := by
    rintro c ⟨⟩
    unfold RecoveryCall.acquireRecoveryLock
    split_ifs
    · exact .inl rfl
    · exact .inr rfl
  have hnone : ∀ Q : RecoveryCall → Bool, Q .noLock = false → Q (.lockMap m) = false →
      (some (RecoveryCall.acquireRecoveryLock m)).any Q = (p.calls i).any Q := by
    intro Q hno hlock
    rw [hi]
    obtain hc | hc := hnew _ rfl
    · rw [hc]
      exact hno
    · rw [hc]
      exact hlock
  refine h.keep rfl rfl h.heap.zero ?_ (fun e => ?_) (fun m' => ?_) ?_ ?_
  · rw [hnone inMap rfl rfl]
  · rw [hnone (hasMutex e) rfl rfl]
  · rw [hnone (hasRef m') rfl rfl]
  · intro c hc
    obtain rfl | rfl := hnew c hc
    · exact ⟨nofun, nofun⟩
    · exact ⟨nofun, nofun⟩
  · rw [hi]
    exact nofun

theorem move (h : LocksInv p) (mv : Move String Unit) :
    LocksInv (p.move RecoveryCall.acquireRecoveryLock RecoveryCall.next mv) := by
  obtain he | ⟨i, m, rfl, hi, he⟩ | ⟨i, ⟨⟩, c, rfl, hc, he⟩ :=
    Pool.move_cases RecoveryCall.acquireRecoveryLock RecoveryCall.next mv (p := p)
  · rw [he]
    exact h
  · rw [he]
    exact h.start hi m
  · rw [he]
    exact h.next hc

end LocksInv

/-! ## Runs -/

/-- The locks and the calls after a run from the start. -/
def recovering (moves : List (Move String Unit)) : Pool RecoveryLocks RecoveryCall :=
  run (Pool.move RecoveryCall.acquireRecoveryLock RecoveryCall.next) ⟨.empty, fun _ => none⟩ moves

theorem locksInv_recovering (moves : List (Move String Unit)) : LocksInv (recovering moves) := by
  refine run_inv (P := LocksInv) (fun _ mv h => h.move mv) ?_ moves
  have hcounts : ∀ Q : RecoveryCall → Bool,
      (Pool.mk RecoveryLocks.empty fun _ => none).Counts Q 0 :=
    Pool.Quiescent.counts fun _ => rfl
  exact ⟨⟨nofun, nofun, fun _ _ => rfl⟩, hcounts _, fun _ => hcounts _, fun _ => hcounts _, nofun,
    nofun⟩

/-- Mutual exclusion, and how long a lock is in the map. -/
structure LocksOk (p : Pool RecoveryLocks RecoveryCall) : Prop where
  /-- A meeting has at most one holder. -/
  exclusive : ∀ m i j, i ∈ p.places (holds m) → j ∈ p.places (holds m) → i = j
  /-- Calls of one meeting use one lock. -/
  same : ∀ i j c c' m e e', p.calls i = some c → p.calls j = some c' → uses c = some (m, e) →
    uses c' = some (m, e') → e = e'
  /-- `refs` counts the calls that have a reference. -/
  refs : ∀ m e, p.shared.recoveryLocks m = some e →
    p.Counts (hasRef m) (p.shared.entries e).refs
  /-- A meeting has a lock in the map as long as one of them is left. -/
  entry : p.shared.recoveryMu = false →
    ∀ m, (∃ e, p.shared.recoveryLocks m = some e) ↔ (p.places (hasRef m)).Nonempty

theorem recoveryLock_ok (moves : List (Move String Unit)) : LocksOk (recovering moves) := by
  have h := locksInv_recovering moves
  have hsame : ∀ i j c c' m e e', (recovering moves).calls i = some c →
      (recovering moves).calls j = some c' → uses c = some (m, e) → uses c' = some (m, e') →
      e = e' := by
    intro i j c c' m e e' hc hc' hu hu'
    have he := (h.knows i c hc).uses m e hu
    have he' := (h.knows j c' hc').uses m e' hu'
    exact Option.some.inj (he.symm.trans he')
  refine ⟨?_, hsame, ?_, ?_⟩
  · intro m i j hi hj
    obtain ⟨c, hc, hholds⟩ := Pool.mem_places_iff.mp hi
    obtain ⟨c', hc', hholds'⟩ := Pool.mem_places_iff.mp hj
    have href : ∀ c, holds m c = true → hasRef m c = true := by
      intro c hholds
      rw [hasRef, hholds]
      rfl
    obtain ⟨e, hu⟩ := exists_uses_of_hasRef (href c hholds)
    obtain ⟨e', hu'⟩ := exists_uses_of_hasRef (href c' hholds')
    obtain rfl := hsame i j c c' m e e' hc hc' hu hu'
    exact (h.mutex e).eq_of_le_one (LocksInv.toNat_le_one _)
      (Pool.mem_places hc (hasMutex_of_holds hholds hu))
      (Pool.mem_places hc' (hasMutex_of_holds hholds' hu'))
  · intro m e hm
    rw [← LocksInv.refsOf_eq hm]
    exact h.refs m
  · intro hmu m
    constructor
    · rintro ⟨e, hm⟩
      obtain ⟨i, c, hc, hu⟩ := h.used m e hm
      obtain href | hin := hasRef_or_inMap hu
      · exact ⟨i, Pool.mem_places hc href⟩
      · exact absurd (hmu.symm.trans (h.recoveryMu_of_inMap hc hin)) nofun
    · rintro ⟨i, hi⟩
      obtain ⟨c, hc, href⟩ := Pool.mem_places_iff.mp hi
      obtain ⟨e, hu⟩ := exists_uses_of_hasRef href
      exact ⟨e, (h.knows i c hc).uses m e hu⟩

/-- A call on its own has unlocked the mutex, and has yet to take its lock out of
the map. -/
theorem recoveryLock_unheld : ¬∀ moves m, (recovering moves).shared.recoveryMu = false →
    ((∃ e, (recovering moves).shared.recoveryLocks m = some e) ↔
      ((recovering moves).places fun c => holds m c || waits m c).Nonempty) := by
  intro h
  let moves : List (Move String Unit) := .start 0 "m" :: List.replicate 7 (.step 0 ())
  have hcall : (recovering moves).calls 0 = some (.relockMap "m" 0) := by decide
  obtain ⟨i, hi⟩ := (h moves "m" (by decide)).mp ⟨0, by decide⟩
  obtain ⟨c, hc, hQ⟩ := Pool.mem_places_iff.mp hi
  by_cases hi0 : i = 0
  · obtain rfl := Option.some.inj (hcall.symm.trans (hi0 ▸ hc))
    exact absurd hQ (by decide)
  · have hplaces : ∀ mv ∈ moves, mv.place ≠ i := by
      have hplace : ∀ mv ∈ moves, mv.place = 0 := by decide
      exact fun mv hmv e => hi0 ((e.symm.trans (hplace mv hmv)))
    have hnone : (recovering moves).calls i = none := Pool.run_calls_of_ne hplaces
    exact absurd (hnone.symm.trans hc) nofun

end MeetingSystem.Proof.Signaling
