import MeetingSystem.Framework.Run

/-!
# A reader with messages under way

Messages wait for a reader in the order in which they were sent; the reader takes one
after the other with `take`, and acts by itself in between. What the sender wants to know
is the state in which the reader has read everything, so `Follows` is about that state, and
the rules say what sending, reading and acting do to it:

* `Follows.send`: a message more, from `P` to `Q`;
* `Follows.read`: the next message is read, which changes nothing;
* `Follows.act`: the reader goes to a state that no message tells from the old one;
* `Follows.of_read`: nothing is under way.

`Ok` is what the reader keeps as long as every message fits the state it is read in.
-/

namespace MeetingSystem.Framework

variable {C M : Type*} {take : C → M → C} {Ok : C → Prop} {Fits : C → M → Prop}

/-- The reader `c` satisfies `P` once it has read `inbox`, whose messages fit. -/
structure Follows (take : C → M → C) (Ok : C → Prop) (Fits : C → M → Prop) (c : C)
    (inbox : List M) (P : C → Prop) : Prop where
  ok : Ok c
  fits : Along take Fits c inbox
  settled : P (run take c inbox)

namespace Follows

variable {c d : C} {inbox : List M} {P Q : C → Prop}

theorem start (hok : Ok c) (hP : P c) : Follows take Ok Fits c [] P := ⟨hok, trivial, hP⟩

theorem of_read (h : Follows take Ok Fits c [] P) : P c := h.settled

theorem mono (h : Follows take Ok Fits c inbox P) (hPQ : ∀ d, P d → Q d) :
    Follows take Ok Fits c inbox Q := ⟨h.ok, h.fits, hPQ _ h.settled⟩

theorem send (hkeep : ∀ c m, Fits c m → Ok c → Ok (take c m))
    (h : Follows take Ok Fits c inbox P) {m : M}
    (hm : ∀ d, Ok d → P d → Fits d m ∧ Q (take d m)) :
    Follows take Ok Fits c (inbox ++ [m]) Q := by
  have hm := hm _ (h.fits.inv hkeep h.ok) h.settled
  refine ⟨h.ok, along_append h.fits ⟨hm.1, trivial⟩, ?_⟩
  rw [run_append]
  exact hm.2

theorem read (hkeep : ∀ c m, Fits c m → Ok c → Ok (take c m)) {m : M}
    (h : Follows take Ok Fits c (m :: inbox) P) : Follows take Ok Fits (take c m) inbox P :=
  ⟨hkeep c m h.fits.1 h.ok, h.fits.2, h.settled⟩

/-- `Sim` is kept by every message that fits. -/
theorem act {Sim : C → C → Prop} (hok : ∀ c d, Sim c d → Ok c → Ok d)
    (hkeep : ∀ c m, Fits c m → Ok c → Ok (take c m))
    (hfits : ∀ c d m, Ok c → Sim c d → Fits c m → Fits d m)
    (htake : ∀ c d m, Ok c → Sim c d → Fits c m → Sim (take c m) (take d m))
    (hP : ∀ c d, Ok c → Sim c d → P c → P d) (h : Follows take Ok Fits c inbox P)
    (hcd : Sim c d) : Follows take Ok Fits d inbox P := by
  induction inbox generalizing c d with
  | nil => exact start (hok c d hcd h.ok) (hP c d h.ok hcd h.of_read)
  | cons m inbox ih =>
    have hrest := ih (h.read hkeep) (htake c d m h.ok hcd h.fits.1)
    exact ⟨hok c d hcd h.ok, ⟨hfits c d m h.ok hcd h.fits.1, hrest.fits⟩, hrest.settled⟩

end Follows

end MeetingSystem.Framework
