import Mathlib.Data.List.Basic

/-!
# Steps that emit

Code that changes a state and reports what it did on the way: a value of type
`S × List E`, the state reached and the reports in order. `andThen` puts two
such computations in sequence and `forEach` is a loop of them; `andThen_spec`
and `forEach_spec` are the rules for a state invariant together with a
property of the reports, `forEach_rel` the rule for a preorder that every
round of a loop stays in, `forEach_sim` the one for two states that no report
tells apart.
-/

namespace MeetingSystem.Framework

variable {S E A : Type*}

/-- First `x`, then `g` from the state that `x` reached. -/
def andThen (x : S × List E) (g : S → S × List E) : S × List E :=
  ((g x.1).1, x.2 ++ (g x.1).2)

/-- The loop `for a in as`, with body `f`. -/
def forEach (f : S → A → S × List E) : S → List A → S × List E
  | s, [] => (s, [])
  | s, a :: as => andThen (f s a) fun s => forEach f s as

/-- The state reached satisfies `P` and every report satisfies `Q`. -/
def Meets (P : S → Prop) (Q : E → Prop) (x : S × List E) : Prop :=
  P x.1 ∧ ∀ e ∈ x.2, Q e

theorem Meets.pure {P : S → Prop} {Q : E → Prop} {s : S} (h : P s) : Meets P Q (s, []) :=
  ⟨h, by simp⟩

theorem Meets.mono {P P' : S → Prop} {Q Q' : E → Prop} {x : S × List E} (h : Meets P Q x)
    (hP : P x.1 → P' x.1) (hQ : ∀ e, Q e → Q' e) : Meets P' Q' x :=
  ⟨hP h.1, fun e he => hQ e (h.2 e he)⟩

theorem andThen_spec {P P' : S → Prop} {Q : E → Prop} {x : S × List E} {g : S → S × List E}
    (hx : Meets P Q x) (hg : ∀ s, P s → Meets P' Q (g s)) : Meets P' Q (andThen x g) := by
  refine ⟨(hg _ hx.1).1, fun e he => ?_⟩
  rcases List.mem_append.mp he with h | h
  · exact hx.2 e h
  · exact (hg _ hx.1).2 e h

theorem forEach_spec {P : S → Prop} {Q : E → Prop} {f : S → A → S × List E} {as : List A}
    (hf : ∀ s, ∀ a ∈ as, P s → Meets P Q (f s a)) {s : S} (hs : P s) :
    Meets P Q (forEach f s as) := by
  induction as generalizing s with
  | nil => exact Meets.pure hs
  | cons a as ih =>
    refine andThen_spec (hf s a (by simp) hs) fun s hs => ?_
    exact ih (fun s a ha => hf s a (by simp [ha])) hs

/-- Loops whose bodies do the same in every state that they reach. -/
theorem forEach_congr {P : S → Prop} {f g : S → A → S × List E} {as : List A}
    (hfg : ∀ s, P s → ∀ a ∈ as, f s a = g s a ∧ P (g s a).1) {s : S} (hs : P s) :
    forEach f s as = forEach g s as := by
  induction as generalizing s with
  | nil => rfl
  | cons a as ih =>
    obtain ⟨heq, hnext⟩ := hfg s hs a List.mem_cons_self
    rw [forEach, forEach, heq, andThen, andThen,
      ih (fun s hs a ha => hfg s hs a (List.mem_cons_of_mem _ ha)) hnext]

/-- A preorder between the states before and after every round of a loop. -/
theorem forEach_rel {R : S → S → Prop} (hrefl : ∀ s, R s s)
    (htrans : ∀ {s s' s''}, R s s' → R s' s'' → R s s'') {f : S → A → S × List E}
    (hf : ∀ s a, R s (f s a).1) (s : S) (as : List A) : R s (forEach f s as).1 := by
  induction as generalizing s with
  | nil => exact hrefl s
  | cons a as ih => exact htrans (hf s a) (ih (f s a).1)

theorem forEach_map {B : Type*} (f : S → A → S × List E) (g : B → A) (s : S) (bs : List B) :
    forEach f s (bs.map g) = forEach (fun s b => f s (g b)) s bs := by
  induction bs generalizing s with
  | nil => rfl
  | cons b bs ih =>
    show andThen (f s (g b)) (fun s => forEach f s (bs.map g)) = _
    simp only [ih]
    rfl

/-- Loops from related states, whose bodies report the same and stay related. -/
theorem forEach_sim {R : S → S → Prop} {f : S → A → S × List E}
    (hf : ∀ s s', R s s' → ∀ a, (f s a).2 = (f s' a).2 ∧ R (f s a).1 (f s' a).1) {s s' : S}
    (h : R s s') (as : List A) : (forEach f s as).2 = (forEach f s' as).2 := by
  induction as generalizing s s' with
  | nil => rfl
  | cons a as ih =>
    obtain ⟨hreports, hnext⟩ := hf s s' h a
    show (f s a).2 ++ _ = (f s' a).2 ++ _
    rw [hreports, ih hnext]

end MeetingSystem.Framework
