import TreeIndex.Proofs.Index.Build
import TreeIndex.Proofs.Indexer.Life
import TreeIndex.Proofs.Scope

/-!
# Items found again

The items of what is shown can be found again from its files, without looking at the disk.

* `Index.extractItems?_filter`: in an index that was just built, the items of any files that are left are
  **the indexed items of these files**;
* `Remembers.exists_build?`: every index that is shown was built once, from its own definitions;
* `extractItems?_of_run`: so it holds of everything that is shown, after any run.
-/

namespace TreeIndex

/-- In an index that was built, items that are found again **are the indexed items** of the files that are
    left. -/
theorem Index.extractItems?_filter {d : Disk} {s : Settings} {ds : Definitions} {ix : Index}
    (h : Index.build? d s ds = .ok ix) (keep : Component → Bool) :
    Index.extractItems? { ix with scope := ix.scope.filter keep } =
      .ok { ix with scope := ix.scope.items.filter fun c => keep c.owner } := by
  obtain ⟨hds, files, ms, items, projects, -, hms, hitems, -, hscope⟩ := Index.build?_eq_ok h
  have hleft : (Scope.files (ix.scope.filter keep)).filterMap Component.file? =
      files.filter fun f => keep (.file f) := by
    rw [hscope, Scope.filter_assembled, Scope.files_assembled, List.filterMap_map]
    exact List.filterMap_some
  have hagain : Definitions.items? ms ((Scope.files (ix.scope.filter keep)).filterMap Component.file?) =
      .ok (items.filter fun i => keep (.file i.file)) := by
    rw [hleft]
    exact Definitions.items?_filter (fun f => keep (.file f)) hitems
  have hkept : (items.filter fun i => keep (.file i.file)).map Component.item =
      ix.scope.items.filter fun c => keep c.owner := by
    rw [hscope, Scope.items_assembled, List.filter_map]
    rfl
  rw [← hds] at hms
  refine Outcome.bind_eq_ok.2 ⟨ms, hms, Outcome.bind_eq_ok.2 ⟨_, hagain, ?_⟩⟩
  rw [hkept]

/-- An index that is shown was built once, **from its own definitions**. -/
theorem Remembers.exists_build? {s : Settings} {start : Path} {cs : List Call} {x : Indexer} {ix : Index}
    (h : Remembers s start cs x) (hv : x.view? = .ok ix) :
    ∃ d, Index.build? d s ix.definitions = .ok ix := by
  obtain ⟨c, -, d, ds, -, -, hb⟩ := h.state_eq_indexed_iff.1 (Indexer.view?_eq_ok.1 hv)
  rw [← (Index.build?_eq_ok hb).1] at hb
  exact ⟨d, hb⟩

/-- **Items found again.** However what is shown is narrowed: the items that are found again in the files that
    are left are the shown items of these files, in their order; and all of them if nothing was left out. -/
theorem extractItems?_of_run {s : Settings} {start : Path} {cs : List Call} {x : Indexer} {ix : Index}
    (h : Run s start cs x) (hv : x.view? = .ok ix) :
    (∀ keep : Component → Bool, Index.extractItems? { ix with scope := ix.scope.filter keep } =
      .ok { ix with scope := ix.scope.items.filter fun c => keep c.owner }) ∧
    ix.extractItems? = .ok { ix with scope := ix.scope.items } := by
  obtain ⟨d, hb⟩ := (remembers_of_run h).exists_build? hv
  refine ⟨Index.extractItems?_filter hb, ?_⟩
  have hall := Index.extractItems?_filter hb fun _ => true
  rw [List.filter_true, List.filter_true] at hall
  exact hall

/-- The section is found again in its text, and nothing is found where no text is left. -/
theorem extractItems?_of_run_textDisk : ∃ cs x ix, Run {} ⟨"/"⟩ cs x ∧ x.view? = .ok ix ∧
    Index.extractItems? { ix with scope := ix.scope.filter fun c => c.kind == .item } =
      .ok { ix with scope := [] } ∧
    ∃ jx, ix.extractItems? = .ok jx ∧ jx.scope.map (·.name) = ["foo"] := by
  obtain ⟨ix, hx, hnames⟩ := index_textDisk
  have hfresh : Run {} ⟨"/"⟩ [] rootIndexer := .fresh
  have hrun := hfresh.call (.index textDisk)
  rw [Indexer.answer_index hx] at hrun
  have hnone : (ix.scope.items.filter fun c => c.owner.kind == .item) = [] :=
    List.filter_eq_nil_iff.2 fun c _ => by cases c <;> exact Bool.false_ne_true
  obtain ⟨hfilter, hall⟩ := extractItems?_of_run hrun rfl
  refine ⟨_, _, ix, hrun, rfl, ?_, _, hall, ?_⟩
  · rw [hfilter, hnone]
  · rw [Scope.items, Scope.map_name_ofKind, hnames]
    rfl

end TreeIndex
