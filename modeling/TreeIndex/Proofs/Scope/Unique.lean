import Mathlib.Data.List.Induction
import TreeIndex.Proofs.Scope

/-!
# Laws of what stands once

Components of one identity may hold different things, so it matters which of them remains, and in what order.

* `firsts`: the components in front of which **none of their identity stands**, each with what it holds itself;
* `unique_filter`, `unique_append`: what remains of a narrower scope, and of two scopes, one after the other;
* `unique_eq_firsts`, `unique_of_pairwise`: hence the first of every identity remains, and a second pass changes nothing;
* `atPathsOf_eq`: what lies where others lie is told **by the paths of the others alone**;
* `UniqueLaws`, `uniqueLaws`: all of this, for any two scopes.
-/

namespace TreeIndex.Scope

/-! ## 1. First components -/

/-- The components in front of which **none of their identity stands**. -/
def firsts (s : Scope) : Scope :=
  (s.zipIdx.filter fun x => !(s.take x.2).any (·.same x.1)).map Prod.fst

/-- A test that says the same of components **of one identity**. -/
def RespectsSame (p : Component → Bool) : Prop :=
  ∀ c d, c.same d = true → p c = p d

/-- What remains of a narrower scope is **the narrower part of what remains**. -/
theorem unique_filter {p : Component → Bool} (hp : RespectsSame p) : ∀ s : Scope,
    unique (s.filter p) = (unique s).filter p
  | [] => rfl
  | c :: cs => by
    have ih := unique_filter hp cs
    rw [unique, List.filter_cons, List.filter_cons, List.filter_filter]
    cases hc : p c with
    | true => simp only [if_true, unique, ih, List.filter_filter, Bool.and_comm]
    | false =>
      -- nothing that passes the test is the same as the first component, which does not pass it
      have hothers : ∀ d, (p d && !c.same d) = p d := by
        intro d
        cases hsame : c.same d with
        | true => rw [← hp c d hsame, hc, Bool.false_and]
        | false => rw [Bool.not_false, Bool.and_true]
      simp only [Bool.false_eq_true, if_false, ih, hothers]

/-- Of two scopes, one after the other, what remains of the second one is **what the first one does not have**. -/
theorem unique_append (t : Scope) : ∀ s : Scope,
    unique (s ++ t) = unique s ++ (unique t).filter fun c => !s.any (·.same c)
  | [] => (List.filter_eq_self.2 fun _ _ => rfl).symm
  | c :: cs => by
    rw [List.cons_append, unique, unique, unique_append t cs, List.filter_append, List.filter_filter, List.cons_append]
    simp only [List.any_cons, Bool.not_or]

/-- One more component is a first one **if none in front is of its identity**; the others are what they were. -/
theorem firsts_snoc (s : Scope) (c : Component) :
    firsts (s ++ [c]) = firsts s ++ [c].filter fun d => !s.any (·.same d) := by
  have hold : (s.zipIdx.filter fun x => !((s ++ [c]).take x.2).any (·.same x.1)) =
      s.zipIdx.filter fun x => !(s.take x.2).any (·.same x.1) := by
    refine List.filter_congr fun x hx => ?_
    have hlt := List.snd_lt_of_mem_zipIdx hx
    rw [List.take_append_of_le_length (by omega)]
  have hlast : (s ++ [c]).take s.length = s := List.take_left
  rw [firsts, List.zipIdx_append, List.filter_append, List.map_append, hold, firsts]
  congr 1
  rw [Nat.zero_add, List.zipIdx_singleton]
  simp only [List.filter_cons, List.filter_nil, hlast]
  split <;> rfl

/-- **The first of every identity remains**, in order and with what it holds itself. -/
theorem unique_eq_firsts (s : Scope) : unique s = firsts s := by
  induction s using List.reverseRecOn with
  | nil => rfl
  | append_singleton s c ih =>
    rw [unique_append, firsts_snoc, ih]
    rfl

/-! ## 2. Each once -/

theorem pairwise_unique : ∀ s : Scope, (unique s).Pairwise fun c d => c.same d = false
  | [] => List.Pairwise.nil
  | c :: cs => by
    refine List.pairwise_cons.2 ⟨fun d hd => ?_, (pairwise_unique cs).filter _⟩
    simpa using (List.mem_filter.1 hd).2

/-- Where each stands once, **all remain**. -/
theorem unique_of_pairwise : ∀ {s : Scope}, s.Pairwise (fun c d => c.same d = false) → unique s = s
  | [], _ => rfl
  | c :: cs, h => by
    obtain ⟨hc, hcs⟩ := List.pairwise_cons.1 h
    rw [unique, unique_of_pairwise hcs, List.filter_eq_self.2 fun d hd => by rw [hc d hd]; rfl]

/-! ## 3. Where others lie -/

/-- To lie where some of the others lie is said **of an identity**. -/
theorem respectsSame_isAt (t : Scope) : RespectsSame fun c => t.any fun o => o.isAt c := by
  intro c d hsame
  have hsteps := (Component.same_iff.1 hsame).2.2
  simp only [Component.isAt, Path.same, hsteps]

theorem any_isAt_eq (t : Scope) (c : Component) :
    (t.any fun o => o.isAt c) = decide (∃ o ∈ t, o.path.steps = c.path.steps) := by
  rw [Bool.eq_iff_iff, List.any_eq_true, decide_eq_true_iff]
  simp only [Component.isAt, Path.same_iff]

/-- What lies where others lie: what remains **of those at their paths**. -/
theorem atPathsOf_eq (s t : Scope) :
    atPathsOf s t = unique (s.filter fun c => ∃ o ∈ t, o.path.steps = c.path.steps) := by
  rw [atPathsOf]
  simp only [any_isAt_eq]

/-! ## 4. The laws -/

/-- **What remains of scopes** when each component is to stand once. -/
structure UniqueLaws (s t : Scope) : Prop where
  /-- It is the first component of every identity, in order and with what it holds itself. -/
  first : unique s = firsts s
  /-- A second pass changes nothing. -/
  again : unique (unique s) = unique s
  /-- Of what follows, that remains which is not there yet. -/
  append : unique (s ++ t) = unique s ++ (unique t).filter fun c => !s.any (·.same c)
  /-- It does not matter whether a scope is narrowed before or after. -/
  narrowed : ∀ p, RespectsSame p → unique (s.filter p) = (unique s).filter p
  /-- What lies where others lie is what remains of the components at their paths, -/
  located : atPathsOf s t = unique (s.filter fun c => ∃ o ∈ t, o.path.steps = c.path.steps)
  /-- or those of what remains that lie at their paths. -/
  remaining : atPathsOf s t = (unique s).filter fun c => ∃ o ∈ t, o.path.steps = c.path.steps
  /-- Only the paths of the others count, -/
  paths : ∀ u : Scope, (∀ steps, (∃ o ∈ t, o.path.steps = steps) ↔ ∃ o ∈ u, o.path.steps = steps) →
    atPathsOf s t = atPathsOf s u
  /-- and everything lies where it lies itself. -/
  self : atPathsOf s s = unique s

/-- **The laws hold** for any two scopes. -/
theorem uniqueLaws (s t : Scope) : UniqueLaws s t where
  first := unique_eq_firsts s
  again := unique_of_pairwise (pairwise_unique s)
  append := unique_append t s
  narrowed := fun p hp => unique_filter hp s
  located := atPathsOf_eq s t
  remaining := by
    rw [atPathsOf, unique_filter (respectsSame_isAt t)]
    simp only [any_isAt_eq]
  paths := fun u hu => by
    simp only [atPathsOf_eq, hu]
  self := by
    rw [atPathsOf_eq, List.filter_eq_self.2]
    exact fun c hc => decide_eq_true ⟨c, hc, rfl⟩

/-- Of two texts at one path, **the first one remains**, with its own content. -/
example : (unique [.file ⟨"a", ⟨"/a.txt"⟩, default, "old"⟩, .file ⟨"a", ⟨"//a.txt"⟩, default, "new"⟩]).map (·.source?) =
    [some "old"] := by
  decide +kernel

end TreeIndex.Scope
