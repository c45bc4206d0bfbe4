import Mathlib.Data.Nat.Init

/-!
# Condition variables

The threads that wait on a condition variable for items, of which each takes one:
those that sleep, and those that are woken and have yet to get the mutex.

`Served`: if a thread sleeps, every item has a thread that is woken for it. It is kept
as long as every new item wakes a thread (`Served.add`), and threads go to sleep only
where there is no item (`Served.wait`). Items that others take, threads that give up and
threads that wake up by themselves do no harm.
-/

namespace MeetingSystem.Framework

structure CondVar where
  asleep : Nat
  woken : Nat
  deriving DecidableEq, Repr

namespace CondVar

def idle : CondVar := { asleep := 0, woken := 0 }

/-- A thread goes to sleep. -/
def wait (cv : CondVar) : CondVar := { cv with asleep := cv.asleep + 1 }

/-- A sleeping thread is woken, or wakes up by itself. -/
def notifyOne (cv : CondVar) : CondVar :=
  if cv.asleep = 0 then cv else { asleep := cv.asleep - 1, woken := cv.woken + 1 }

def notifyAll (cv : CondVar) : CondVar := { asleep := 0, woken := cv.woken + cv.asleep }

/-- A woken thread gets the mutex. -/
def resume (cv : CondVar) : CondVar := { cv with woken := cv.woken - 1 }

/-- A sleeping thread gives up. -/
def expire (cv : CondVar) : CondVar := { cv with asleep := cv.asleep - 1 }

def Served (items : Nat) (cv : CondVar) : Prop := 0 < cv.asleep → items ≤ cv.woken

variable {items : Nat} {cv : CondVar}

theorem asleep_of_notifyOne (h : 0 < cv.notifyOne.asleep) : 0 < cv.asleep := by
  unfold notifyOne at h
  split at h
  · exact h
  · exact Nat.lt_of_lt_of_le h (Nat.sub_le ..)

theorem served_idle (items : Nat) : Served items idle := fun h => absurd h (Nat.lt_irrefl 0)

theorem Served.le (h : Served items cv) {less : Nat} (hle : less ≤ items) : Served less cv :=
  fun ha => Nat.le_trans hle (h ha)

theorem Served.wait (cv : CondVar) : Served 0 cv.wait := fun _ => Nat.zero_le _

theorem Served.add (h : Served items cv) : Served (items + 1) cv.notifyOne := by
  by_cases h0 : cv.asleep = 0
  · have hsame : cv.notifyOne = cv := if_pos h0
    rw [hsame]
    exact fun ha => absurd ha (by omega)
  · have hone : cv.notifyOne = { asleep := cv.asleep - 1, woken := cv.woken + 1 } := if_neg h0
    rw [hone]
    exact fun _ => Nat.succ_le_succ (h (by omega))

theorem Served.notifyOne (h : Served items cv) : Served items cv.notifyOne :=
  h.add.le (Nat.le_succ _)

theorem Served.notifyAll (items : Nat) (cv : CondVar) : Served items cv.notifyAll :=
  fun h => absurd h (Nat.lt_irrefl 0)

/-- A thread that is woken takes an item, if there is one. -/
theorem Served.resume (h : Served items cv) : Served (items - 1) cv.resume :=
  fun ha => Nat.sub_le_sub_right (h ha) 1

theorem Served.expire (h : Served items cv) : Served items cv.expire :=
  fun ha => h (Nat.lt_of_lt_of_le ha (Nat.sub_le ..))

end CondVar

end MeetingSystem.Framework
