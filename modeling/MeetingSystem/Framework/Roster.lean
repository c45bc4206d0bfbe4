import Mathlib.Data.List.Nodup

/-!
# A group with a leader

Members in the order in which they came, one of whom leads. Whoever leaves is
struck from the list; when that is the leader, the one who has been there
longest takes over, and a group that nobody is left in is gone.

`remove_cases` says what a departure does, for proofs that do not look at the
definition.
-/

namespace MeetingSystem.Framework

structure Roster (α : Type*) where
  members : List α
  leader : α
  nodup : members.Nodup
  leader_mem : leader ∈ members

namespace Roster

variable {α : Type*}

/-- The group of its founder. -/
def single (a : α) : Roster α where
  members := [a]
  leader := a
  nodup := List.nodup_singleton a
  leader_mem := List.mem_singleton_self a

def add (r : Roster α) (a : α) (h : a ∉ r.members) : Roster α where
  members := r.members ++ [a]
  leader := r.leader
  nodup := r.nodup.append (List.nodup_singleton a) (by simpa using h)
  leader_mem := List.mem_append_left _ r.leader_mem

theorem ne_leader (r : Roster α) {a : α} (h : a ∉ r.members) : a ≠ r.leader := by
  intro e
  exact h (e ▸ r.leader_mem)

variable [DecidableEq α]

/-- The members without `a`, if there are any. -/
def remove (r : Roster α) (a : α) : Option (Roster α) :=
  match h : r.members.erase a with
  | [] => none
  | b :: rest => some
    { members := b :: rest
      leader := if r.leader = a then b else r.leader
      nodup := h ▸ r.nodup.erase a
      leader_mem := by
        split
        · exact List.mem_cons_self
        · rename_i hne
          exact h ▸ (List.mem_erase_of_ne hne).mpr r.leader_mem }

theorem remove_cases (r : Roster α) (a : α) :
    (r.members.erase a = [] ∧ r.remove a = none) ∨
      ∃ b rest r', r.members.erase a = b :: rest ∧ r.remove a = some r' ∧
        r'.members = b :: rest ∧ r'.leader = if r.leader = a then b else r.leader := by
  unfold remove
  split
  · rename_i h
    exact .inl ⟨h, rfl⟩
  · rename_i b rest h
    exact .inr ⟨b, rest, _, h, rfl, rfl, rfl⟩

end Roster

end MeetingSystem.Framework
