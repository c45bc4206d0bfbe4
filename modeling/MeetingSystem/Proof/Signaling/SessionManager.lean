import MeetingSystem.Impl.Signaling.Session

/-!
# The manager's user index

What `BindUser` and `Remove` do to `byUser`: `BindUser` displaces exactly the
session the index had for the user, and `Remove` drops an entry only for the
session it is called with.
-/

namespace MeetingSystem.Proof.Signaling

open MeetingSystem.Impl.Signaling

theorem byUser_remove {m : SessionManager} {id i : Nat} {u userID : String}
    (h : m.byUser u = some i) (hi : i ≠ id) : (m.remove id userID).byUser u = some i := by
  simp only [SessionManager.remove]
  split
  · rename_i hid
    have hu : u ≠ userID := by
      rintro rfl
      exact hi (Option.some.inj (h.symm.trans hid.2))
    simp [hu, h]
  · exact h

/-- `Remove` adds no entry, and takes the one of its session's user away. -/
theorem byUser_of_remove {m : SessionManager} {id i : Nat} {u userID : String}
    (h : (m.remove id userID).byUser u = some i) :
    m.byUser u = some i ∧ (u = userID → userID ≠ "" → i ≠ id) := by
  simp only [SessionManager.remove] at h
  split at h
  · dsimp only at h
    by_cases hu : u = userID
    · rw [hu, Function.update_self] at h
      cases h
    · rw [Function.update_of_ne hu] at h
      exact ⟨h, fun heq => absurd heq hu⟩
  · rename_i hid
    refine ⟨h, fun hu hne hi => hid ⟨hne, ?_⟩⟩
    rw [← hu, ← hi]
    exact h

theorem sessions_remove (m : SessionManager) {id j : Nat} (userID : String) (hj : j ≠ id) :
    (m.remove id userID).sessions j = m.sessions j := by
  simp only [SessionManager.remove]
  split <;> exact Function.update_of_ne hj _ _

theorem bindUser_fst_byUser (m : SessionManager) (id : Nat) (u : String) :
    (m.bindUser id u).1.byUser u = some id := by
  simp [SessionManager.bindUser]

theorem bindUser_old {m : SessionManager} {u : String} {i : Nat} (id : Nat)
    (h : m.byUser u = some i) (hi : i ≠ id) : (m.bindUser id u).2 = some i := by
  simp [SessionManager.bindUser, h, hi]

theorem bindUser_old_ne {m : SessionManager} {id : Nat} {u : String} {i : Nat}
    (h : (m.bindUser id u).2 = some i) : i ≠ id := by
  simp only [SessionManager.bindUser] at h
  split at h
  · split at h
    · rename_i hne
      rw [← Option.some.inj h]
      exact hne
    · cases h
  · cases h

theorem bindUser_byUser_ne (m : SessionManager) (id : Nat) {u v : String} (h : v ≠ u) :
    (m.bindUser id u).1.byUser v = m.byUser v := by
  simp [SessionManager.bindUser, h]

end MeetingSystem.Proof.Signaling
