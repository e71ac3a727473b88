import Mathlib.Data.List.Lex
import TreeIndex.Path

/-!
# Paths in order

* `segments_append_slash`, `segments_of_notMem`: what lies **between the slashes** of texts that are put
  together;
* `Step.before`, `Path.before`: the order of paths -- step by step, and a path stands before everything
  beneath it. Paths that say the same stand in no order (`Path.before.steps_ne`), and of two others one stands before
  the other at most (`Path.before.asymm`); `stepsPrecede_iff`: this is **how paths are compared**;
* `Path.descend`: a path followed by some names; `lex_map_name`, `map_name_inj`: steps stand in the order of
  their names, and differ as these do.
-/

namespace TreeIndex

/-! ## 1. Segments -/

/-- A slash between two texts **parts their segments**. -/
theorem segments_append_slash (cs ds : List Char) :
    segments (cs ++ '/' :: ds) = segments cs ++ segments ds := by
  induction cs with
  | nil => rfl
  | cons c cs ih =>
    rw [List.cons_append]
    by_cases hc : c = '/'
    · rw [segments, if_pos hc, ih, segments, if_pos hc]
      rfl
    · rw [segments, if_neg hc, ih, segments, if_neg hc]
      cases hs : segments cs with
      | nil => exact absurd hs (segments_ne_nil cs)
      | cons s rest => rfl

theorem segments_of_notMem : ∀ {cs : List Char}, '/' ∉ cs → segments cs = [cs]
  | [], _ => rfl
  | c :: cs, h => by
    rw [List.mem_cons, not_or] at h
    rw [segments, if_neg (Ne.symm h.1), segments_of_notMem h.2]

/-! ## 2. The order of paths -/

/-- The step **stands before** another one: its kind does, or both are names and its text does. -/
def Step.before (a b : Step) : Prop :=
  a.rank < b.rank ∨ ∃ s t : String, a = .name s ∧ b = .name t ∧ s < t

/-- The path **stands before** another one, at the first step in which they differ. -/
def Path.before (p q : Path) : Prop :=
  List.Lex Step.before p.steps q.steps

theorem Step.before.irrefl {a : Step} : ¬ a.before a := by
  rintro (h | ⟨s, t, hs, ht, h⟩)
  · exact Nat.lt_irrefl _ h
  · cases hs.symm.trans ht
    exact String.lt_irrefl s h

theorem Step.before_name_iff {s t : String} : (Step.name s).before (.name t) ↔ s < t := by
  constructor
  · rintro (h | ⟨_, _, hs, ht, h⟩)
    · exact absurd h (Nat.lt_irrefl _)
    · cases hs
      cases ht
      exact h
  · exact fun h => Or.inr ⟨s, t, rfl, rfl, h⟩

/-- Texts that differ in their first different element **are different**. -/
theorem lex_ne {α : Type} {r : α → α → Prop} (hr : ∀ a, ¬ r a a) {xs ys : List α} (h : List.Lex r xs ys) :
    xs ≠ ys := by
  induction h with
  | nil => exact nofun
  | cons _ ih => exact fun he => ih (List.cons.inj he).2
  | @rel a _ b _ hab => exact fun he => hr a ((List.cons.inj he).1 ▸ hab)

/-- Paths in order **do not say the same**. -/
theorem Path.before.steps_ne {p q : Path} (h : p.before q) : p.steps ≠ q.steps :=
  lex_ne (fun _ => Step.before.irrefl) h

/-- Of two steps **one stands before the other** at most. -/
theorem Step.before.asymm {a b : Step} (h : a.before b) : ¬ b.before a := by
  intro h'
  rcases h with h | ⟨s, t, rfl, rfl, h⟩
  · rcases h' with h' | ⟨s, t, rfl, rfl, -⟩
    · omega
    · exact Nat.lt_irrefl _ h
  · exact String.lt_asymm h (Step.before_name_iff.1 h')

/-- Of two paths **one stands before the other** at most. -/
theorem Path.before.asymm {p q : Path} (h : p.before q) : ¬ q.before p :=
  have : Std.Asymm Step.before := ⟨fun _ _ => Step.before.asymm⟩
  fun h' => Std.Asymm.asymm (r := List.Lex Step.before) _ _ h h'

theorem Step.precedes_iff {a b : Step} : a.precedes b = true ↔ a.before b := by
  cases a <;> cases b <;> simp [Step.precedes, Step.before, Step.rank]

/-- Steps **are in front of** other ones where a path that says them stands before. -/
theorem stepsPrecede_iff : ∀ {as bs : List Step}, stepsPrecede as bs = true ↔ List.Lex Step.before as bs
  | as, [] => by simp [stepsPrecede]
  | [], _ :: _ => iff_of_true rfl .nil
  | a :: as, b :: bs => by
    rw [stepsPrecede]
    split
    · rename_i heq
      subst heq
      rw [stepsPrecede_iff]
      exact ⟨.cons, fun h => by
        cases h with
        | cons h => exact h
        | rel h => exact absurd h Step.before.irrefl⟩
    · rename_i hne
      rw [Step.precedes_iff]
      exact ⟨.rel, fun h => by
        cases h with
        | cons _ => exact absurd rfl hne
        | rel h => exact h⟩

/-! ## 3. Names beneath a path -/

/-- The path **followed by names**. -/
def Path.descend (p : Path) (names : List String) : Path :=
  names.foldl Path.child p

/-- What follows the same stands in the order that it has itself. -/
theorem lex_append {α : Type} {r : α → α → Prop} {xs ys : List α} (front : List α) (h : List.Lex r xs ys) :
    List.Lex r (front ++ xs) (front ++ ys) := by
  induction front with
  | nil => exact h
  | cons _ _ ih => exact .cons ih

/-- Names as steps **are told apart as the names are**. -/
theorem map_name_inj {a b : List String} (h : a.map Step.name = b.map .name) : a = b :=
  (List.map_inj_right fun _ _ => Step.name.inj).1 h

/-- Names as steps stand **in the order of the names**. -/
theorem lex_map_name {a b : List String} (h : List.Lex (· < ·) a b) :
    List.Lex Step.before (a.map .name) (b.map .name) := by
  induction h with
  | nil => exact .nil
  | cons _ ih => exact .cons ih
  | rel h => exact .rel (Step.before_name_iff.2 h)

end TreeIndex
