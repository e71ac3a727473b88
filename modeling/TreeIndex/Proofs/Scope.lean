import TreeIndex.Scope

/-!
# Each component once

* `map_name_ofKind`: the names of one kind; `mem_of_mem_unique`: what remains was there;
* `unique_replicate_append`: a component that stands several times **remains once, where it comes first**;
* `owningFiles_flatMap`: of files with items of their own, **those that have an item** are the ones that own
  something, in their order.
-/

namespace TreeIndex.Scope

/-- The names of the components of a kind. -/
theorem map_name_ofKind (s : Scope) (kind : ComponentKind) :
    (ofKind s kind).map (·.name) =
      ((s.map fun c => (c.kind, c.name)).filter fun e => e.1 == kind).map (·.2) := by
  rw [ofKind, List.filter_map, List.map_map]
  rfl

theorem mem_of_mem_unique {c : Component} : ∀ {s : Scope}, c ∈ unique s → c ∈ s
  | d :: s, h => by
    rcases List.mem_cons.1 h with rfl | h
    · exact List.mem_cons_self
    · exact List.mem_cons_of_mem d (mem_of_mem_unique (List.mem_filter.1 h).1)

/-- A component that stands several times **remains once**, in front of others that are not the same. -/
theorem unique_replicate_append {c : Component} {s : Scope} (hs : ∀ d ∈ s, c.same d = false) :
    ∀ n, unique (List.replicate n c ++ s) = (if n = 0 then [] else [c]) ++ unique s
  | 0 => rfl
  | n + 1 => by
    have hothers : (unique s).filter (fun d => !c.same d) = unique s :=
      List.filter_eq_self.2 fun d hd => by rw [hs d (mem_of_mem_unique hd)]; rfl
    have hself : [c].filter (fun d => !c.same d) = [] := by
      rw [List.filter_cons_of_neg (by rw [Component.same_refl]; exact Bool.false_ne_true), List.filter_nil]
    rw [List.replicate_succ, List.cons_append, unique, unique_replicate_append hs n, List.filter_append,
      hothers, if_neg (Nat.succ_ne_zero n)]
    split
    · rfl
    · rw [hself]
      rfl

/-- Of files at paths of their own, each with items, **those that have an item** own something: each once, in
    their order. -/
theorem owningFiles_flatMap {own : SourceFile → List Item} : ∀ {fs : List SourceFile},
    (∀ f ∈ fs, ∀ i ∈ own f, i.file = f) → fs.Pairwise (fun f g => f.path.steps ≠ g.path.steps) →
      owningFiles ((fs.flatMap own).map .item) = (fs.filter fun f => !(own f).isEmpty).map .file
  | [], _, _ => rfl
  | f :: fs, hown, hfs => by
    obtain ⟨hf, hfs⟩ := List.pairwise_cons.1 hfs
    obtain ⟨hownf, hown⟩ := List.forall_mem_cons.1 hown
    have ih := owningFiles_flatMap hown hfs
    have hfile : ∀ is : List Item, (is.map Component.item).filterMap (fun c => c.file?.map Component.file) =
        is.map fun i => Component.file i.file := by
      intro is
      rw [List.filterMap_map, ← List.filterMap_eq_map]
      rfl
    have hreplicate : (own f).map (fun i => Component.file i.file) =
        List.replicate (own f).length (.file f) := by
      refine List.eq_replicate_iff.2 ⟨List.length_map _, fun c hc => ?_⟩
      obtain ⟨i, hi, rfl⟩ := List.mem_map.1 hc
      rw [hownf i hi]
    have hother : ∀ c ∈ (fs.flatMap own).map (fun i => Component.file i.file),
        (Component.file f).same c = false := by
      intro c hc
      obtain ⟨i, hi, rfl⟩ := List.mem_map.1 hc
      obtain ⟨g, hg, hi⟩ := List.mem_flatMap.1 hi
      rw [Bool.eq_false_iff]
      intro hsame
      have hsteps := (Component.same_iff.1 hsame).2.2
      rw [hown g hg i hi] at hsteps
      exact hf g hg hsteps
    rw [owningFiles, hfile] at ih ⊢
    rw [List.flatMap_cons, List.map_append, hreplicate, unique_replicate_append hother, ih, List.filter_cons]
    cases own f with
    | nil => rfl
    | cons i is => rfl

end TreeIndex.Scope
