import MeetingSystem.Framework.ReverseIndex

/-!
# Refreshing a table with a reverse index

A group is a list of sources with the routes they should have; to refresh a
group is to rebuild the routes of its sources one after the other. Where
several sources of a group have a route with the same key, the last one gets it
(`owner`).

* `Settled`: the table is as a refresh leaves it; `settled_iff` says that this
  is so if and only if another refresh changes nothing.
* `Settled.apart`: two groups can only be settled in one table if they agree on
  the routes of common sources and on the owners of common keys; then
  refreshing one keeps the other settled (`Settled.refresh_other`).
* `Settled.shrink`: what has to hold for a group to stay settled when some
  sources are cleared and nothing is refreshed.
-/

namespace MeetingSystem.Framework

variable {S R K : Type*} [DecidableEq S] [DecidableEq K]

structure RouteGroup (S R : Type*) where
  sources : List S
  target : S → List R

namespace RouteGroup

/-- The source should have a route with the key. -/
def has (key : R → K) (g : RouteGroup S R) (k : K) (s : S) : Bool :=
  (g.target s).any fun r => key r = k

/-- The last source that should have a route with the key. -/
def owner (key : R → K) (g : RouteGroup S R) (k : K) : Option S :=
  g.sources.reverse.find? (g.has key k)

def refresh (key : R → K) (g : RouteGroup S R) (t : RouteTable S R K) : RouteTable S R K :=
  g.sources.foldl (RouteTable.rebuild key g.target) t

structure Settled (key : R → K) (g : RouteGroup S R) (t : RouteTable S R K) : Prop where
  forward : ∀ s ∈ g.sources, t.forward s = g.target s
  owned : ∀ k s, g.owner key k = some s → t.reverse k = some s
  free : ∀ k, g.owner key k = none → ∀ s ∈ g.sources, t.reverse k ≠ some s

/-- The groups agree where they meet. -/
structure Apart (key : R → K) (g g' : RouteGroup S R) : Prop where
  routes : ∀ s ∈ g.sources, s ∈ g'.sources → g.target s = g'.target s
  owners : ∀ k s s', g.owner key k = some s → g'.owner key k = some s' → s = s'

variable {key : R → K} {g g' : RouteGroup S R} {t : RouteTable S R K} {k : K} {s : S}

/-! ## Owners -/

omit [DecidableEq S] in
theorem has_iff : g.has key k s = true ↔ ∃ r ∈ g.target s, key r = k := by
  simp [has]

omit [DecidableEq S] in
theorem owner_some (h : g.owner key k = some s) : s ∈ g.sources ∧ g.has key k s = true :=
  ⟨List.mem_reverse.mp (List.mem_of_find?_eq_some h), List.find?_some h⟩

omit [DecidableEq S] in
theorem owner_none : g.owner key k = none ↔ ∀ s ∈ g.sources, ¬ g.has key k s = true := by
  simp [owner]

omit [DecidableEq S] in
theorem owner_cons (s : S) (ss : List S) (target : S → List R) :
    (RouteGroup.mk (s :: ss) target).owner key k =
      ((RouteGroup.mk ss target).owner key k).or
        (if (RouteGroup.mk ss target).has key k s = true then some s else none) := by
  simp only [owner, List.reverse_cons, List.find?_append, List.find?_singleton]
  rfl

/-! ## Refreshing -/

/-- The last owner gets a key; a key without one is taken from the sources. -/
theorem refresh_reverse (g : RouteGroup S R) (t : RouteTable S R K) (k : K) :
    (g.refresh key t).reverse k =
      (g.owner key k).or (if ∃ s ∈ g.sources, t.reverse k = some s then none else t.reverse k) := by
  obtain ⟨ss, target⟩ := g
  simp only [refresh]
  induction ss generalizing t with
  | nil => simp [owner]
  | cons s ss ih =>
    rw [List.foldl_cons, ih, owner_cons]
    cases howner : (RouteGroup.mk ss target).owner key k with
    | some s' => rfl
    | none =>
      simp only [Option.none_or, has_iff, RouteTable.rebuild_reverse]
      by_cases hs : ∃ r ∈ target s, key r = k
      · have hother : s ∉ ss := fun hmem => owner_none.mp howner s hmem (has_iff.mpr hs)
        simp [hs, hother]
      · simp only [if_neg hs, RouteTable.clear, Option.none_or]
        by_cases hrev : t.reverse k = some s
        · simp [hrev]
        · simp [hrev]

theorem refresh_forward (g : RouteGroup S R) (t : RouteTable S R K) (s : S) :
    (g.refresh key t).forward s = if s ∈ g.sources then g.target s else t.forward s :=
  RouteTable.rebuildAll_forward g.sources t s

theorem refresh_settled (g : RouteGroup S R) (t : RouteTable S R K) :
    g.Settled key (g.refresh key t) := by
  refine ⟨fun s hs => ?_, fun k s hk => ?_, fun k hk s hs => ?_⟩
  · rw [refresh_forward, if_pos hs]
  · rw [refresh_reverse, hk]
    rfl
  · rw [refresh_reverse, hk, Option.none_or]
    split
    · simp
    · rename_i hnone
      intro heq
      exact hnone ⟨s, hs, heq⟩

theorem settled_iff : g.Settled key t ↔ g.refresh key t = t := by
  constructor
  · intro h
    have hforward : (g.refresh key t).forward = t.forward := by
      funext s
      rw [refresh_forward]
      split
      · rename_i hs
        exact (h.forward s hs).symm
      · rfl
    have hreverse : (g.refresh key t).reverse = t.reverse := by
      funext k
      rw [refresh_reverse]
      cases hk : g.owner key k with
      | some s => exact (h.owned k s hk).symm
      | none =>
        rw [Option.none_or, if_neg]
        rintro ⟨s, hs, heq⟩
        exact h.free k hk s hs heq
    calc g.refresh key t = ⟨(g.refresh key t).forward, (g.refresh key t).reverse⟩ := rfl
      _ = ⟨t.forward, t.reverse⟩ := by rw [hforward, hreverse]
      _ = t := rfl
  · intro h
    rw [← h]
    exact refresh_settled g t

omit [DecidableEq S] in
/-- Groups that are settled in one table agree. -/
theorem Settled.apart (h : g.Settled key t) (h' : g'.Settled key t) : g.Apart key g' := by
  refine ⟨fun s hs hs' => ?_, fun k s s' hk hk' => ?_⟩
  · rw [← h.forward s hs, h'.forward s hs']
  · have heq := (h.owned k s hk).symm.trans (h'.owned k s' hk')
    exact Option.some.inj heq

/-! ## Clearing -/

omit [DecidableEq K] in
theorem clearAll_reverse (ss : List S) (t : RouteTable S R K) (k : K) :
    (t.clearAll ss).reverse k =
      if ∃ s ∈ ss, t.reverse k = some s then none else t.reverse k := by
  induction ss generalizing t with
  | nil => simp [RouteTable.clearAll]
  | cons s ss ih =>
    have hstep : (t.clearAll (s :: ss)).reverse k = ((t.clear s).clearAll ss).reverse k := rfl
    rw [hstep, ih]
    by_cases hrev : t.reverse k = some s
    · simp [RouteTable.clear, hrev]
    · simp [RouteTable.clear, hrev]

omit [DecidableEq K] in
theorem clearAll_reverse_some {ss : List S} (h : (t.clearAll ss).reverse k = some s) :
    t.reverse k = some s ∧ s ∉ ss := by
  rw [clearAll_reverse] at h
  split at h
  · cases h
  · rename_i hnone
    exact ⟨h, fun hs => hnone ⟨s, hs, h⟩⟩

omit [DecidableEq K] in
theorem clearAll_reverse_of {ss : List S} (h : t.reverse k = some s) (hs : s ∉ ss) :
    (t.clearAll ss).reverse k = some s := by
  rw [clearAll_reverse, if_neg, h]
  rintro ⟨s', hs', heq⟩
  rw [h] at heq
  obtain rfl := Option.some.inj heq
  exact hs hs'

/-- Some sources are cleared and a group is refreshed. Another group stays
settled if the two agree and it loses no routes. -/
theorem Settled.refresh_other (h : g.Settled key t) (hapart : g'.Apart key g) {drops : List S}
    (hdrops : ∀ s ∈ drops, s ∈ g.sources → s ∉ g'.sources → g.target s = []) :
    g.Settled key (g'.refresh key (t.clearAll drops)) := by
  refine ⟨fun s hs => ?_, fun k s hk => ?_, fun k hk s hs heq => ?_⟩
  · rw [refresh_forward]
    split
    · rename_i hs'
      exact hapart.routes s hs' hs
    · rename_i hs'
      rw [RouteTable.clearAll_forward]
      split
      · rename_i hdrop
        exact (hdrops s hdrop hs hs').symm
      · exact h.forward s hs
  · obtain ⟨hs, hhas⟩ := owner_some hk
    rw [refresh_reverse]
    cases hk' : g'.owner key k with
    | some s' =>
      rw [hapart.owners k s' s hk' hk]
      rfl
    | none =>
      -- the key is none of `g'`, so `s`, which has it, is no source of `g'`
      have hs' : s ∉ g'.sources := by
        intro hs'
        apply owner_none.mp hk' s hs'
        rw [has_iff, hapart.routes s hs' hs, ← has_iff]
        exact hhas
      have hdrop : s ∉ drops := by
        intro hdrop
        obtain ⟨r, hr, -⟩ := has_iff.mp hhas
        rw [hdrops s hdrop hs hs'] at hr
        cases hr
      have hrev := clearAll_reverse_of (h.owned k s hk) hdrop
      rw [Option.none_or, hrev, if_neg]
      rintro ⟨s', hmem, heq⟩
      obtain rfl := Option.some.inj heq
      exact hs' hmem
  · rw [refresh_reverse] at heq
    cases hk' : g'.owner key k with
    | some s' =>
      rw [hk'] at heq
      obtain rfl : s' = s := by simpa using heq
      obtain ⟨hs', hhas⟩ := owner_some hk'
      apply owner_none.mp hk s' hs
      rw [has_iff, ← hapart.routes s' hs' hs, ← has_iff]
      exact hhas
    | none =>
      rw [hk', Option.none_or] at heq
      split at heq
      · cases heq
      · exact h.free k hk s hs (clearAll_reverse_some heq).1

/-! ## Groups that lose sources -/

omit [DecidableEq S] [DecidableEq K] in
theorem find?_mono {p p' : S → Bool} {l : List S} (h : l.find? p = some s) (hs : p' s = true)
    (hp : ∀ x ∈ l, p' x = true → p x = true) : l.find? p' = some s := by
  obtain ⟨-, as, bs, rfl, has⟩ := List.find?_eq_some_iff_append.mp h
  refine List.find?_eq_some_iff_append.mpr ⟨hs, as, bs, rfl, fun x hx => ?_⟩
  have hnot := has x hx
  cases hx' : p' x with
  | false => rfl
  | true =>
    rw [hp x (List.mem_append_left _ hx) hx'] at hnot
    cases hnot

/-- `g'` is `g` without the sources in `drops`, or with nothing for them. -/
structure Shrinks (g g' : RouteGroup S R) (drops : List S) : Prop where
  sources : ∃ as ds bs, g.sources = as ++ (ds ++ bs) ∧ g'.sources = as ++ bs ∧
    ∀ s ∈ ds, s ∈ drops
  target : ∀ s ∈ g'.sources, g'.target s = if s ∈ drops then [] else g.target s

variable {drops : List S}

theorem Shrinks.mem (h : Shrinks g g' drops) (hs : s ∈ g'.sources) : s ∈ g.sources := by
  obtain ⟨as, ds, bs, hsources, hsources', -⟩ := h.sources
  rw [hsources'] at hs
  rw [hsources]
  rcases List.mem_append.mp hs with hs | hs
  · exact List.mem_append_left _ hs
  · exact List.mem_append_right _ (List.mem_append_right _ hs)

theorem Shrinks.has (h : Shrinks g g' drops) (hs : s ∈ g'.sources) :
    g'.has key k s = true ↔ s ∉ drops ∧ g.has key k s = true := by
  rw [has_iff, has_iff, h.target s hs]
  split
  · rename_i hdrop
    simp [hdrop]
  · rename_i hdrop
    simp [hdrop]

theorem Shrinks.owner (h : Shrinks g g' drops) (hk : g.owner key k = some s) (hs : s ∉ drops) :
    g'.owner key k = some s := by
  obtain ⟨as, ds, bs, hsources, hsources', hds⟩ := h.sources
  have hhas := (owner_some hk).2
  have hmem (x : S) (hx : x ∈ g'.sources) (hx' : g'.has key k x = true) : g.has key k x = true :=
    ((h.has hx).mp hx').2
  have hself (hx : s ∈ g'.sources) : g'.has key k s = true := (h.has hx).mpr ⟨hs, hhas⟩
  have has (x : S) (hx : x ∈ as.reverse) : x ∈ g'.sources := by
    rw [hsources']
    exact List.mem_append_left _ (List.mem_reverse.mp hx)
  have hbs (x : S) (hx : x ∈ bs.reverse) : x ∈ g'.sources := by
    rw [hsources']
    exact List.mem_append_right _ (List.mem_reverse.mp hx)
  simp only [RouteGroup.owner, hsources, List.reverse_append, List.find?_append] at hk
  simp only [RouteGroup.owner, hsources', List.reverse_append, List.find?_append]
  cases hb : bs.reverse.find? (g.has key k) with
  | some x =>
    rw [hb] at hk
    obtain rfl : x = s := by simpa using hk
    rw [find?_mono hb (hself (hbs x (List.mem_of_find?_eq_some hb)))
      fun y hy => hmem y (hbs y hy)]
    rfl
  | none =>
    have hb' : bs.reverse.find? (g'.has key k) = none := by
      rw [List.find?_eq_none] at hb ⊢
      exact fun x hx hx' => hb x hx (hmem x (hbs x hx) hx')
    have hd : ds.reverse.find? (g.has key k) = none := by
      cases hd : ds.reverse.find? (g.has key k) with
      | none => rfl
      | some x =>
        rw [hb, hd] at hk
        obtain rfl : x = s := by simpa using hk
        exact absurd (hds x (List.mem_reverse.mp (List.mem_of_find?_eq_some hd))) hs
    rw [hb, hd] at hk
    have ha : as.reverse.find? (g.has key k) = some s := by simpa using hk
    rw [hb', Option.none_or]
    exact find?_mono ha (hself (has s (List.mem_of_find?_eq_some ha))) fun y hy => hmem y (has y hy)

/-- A group that only lost sources stays settled if no source that is left
should have a key that the table gives to one that was cleared. -/
theorem Settled.shrink (h : g.Settled key t) (hshrinks : Shrinks g g' drops)
    (hkeys : ∀ k s, t.reverse k = some s → s ∈ drops → g'.owner key k = none) :
    g'.Settled key (t.clearAll drops) := by
  refine ⟨fun s hs => ?_, fun k s hk => ?_, fun k hk s hs heq => ?_⟩
  · rw [RouteTable.clearAll_forward, hshrinks.target s hs, h.forward s (hshrinks.mem hs)]
  · obtain ⟨hs, hhas⟩ := owner_some hk
    obtain ⟨hdrop, hhas⟩ := (hshrinks.has hs).mp hhas
    cases hz : g.owner key k with
    | none => exact absurd hhas (owner_none.mp hz s (hshrinks.mem hs))
    | some z =>
      have hrev := h.owned k z hz
      have hzdrop : z ∉ drops := by
        intro hzdrop
        rw [hkeys k z hrev hzdrop] at hk
        cases hk
      obtain rfl : z = s := by
        have heq := (hshrinks.owner hz hzdrop).symm.trans hk
        exact Option.some.inj heq
      exact clearAll_reverse_of hrev hzdrop
  · obtain ⟨hrev, hdrop⟩ := clearAll_reverse_some heq
    cases hz : g.owner key k with
    | none => exact h.free k hz s (hshrinks.mem hs) hrev
    | some z =>
      obtain rfl : z = s := Option.some.inj ((h.owned k z hz).symm.trans hrev)
      exact owner_none.mp hk z hs ((hshrinks.has hs).mpr ⟨hdrop, (owner_some hz).2⟩)

/-- A group that lost nothing. -/
theorem Settled.clearAll (h : g.Settled key t)
    (hdrops : ∀ s ∈ drops, s ∈ g.sources → g.target s = []) : g.Settled key (t.clearAll drops) := by
  apply h.shrink
  · refine ⟨⟨g.sources, [], [], by simp, by simp, by simp⟩, fun s hs => ?_⟩
    split
    · rename_i hdrop
      exact hdrops s hdrop hs
    · rfl
  · intro k s hrev hdrop
    cases hz : g.owner key k with
    | none => rfl
    | some z =>
      obtain rfl : z = s := Option.some.inj ((h.owned k z hz).symm.trans hrev)
      obtain ⟨hs, hhas⟩ := owner_some hz
      obtain ⟨r, hr, -⟩ := has_iff.mp hhas
      rw [hdrops z hdrop hs] at hr
      cases hr

end RouteGroup

end MeetingSystem.Framework
