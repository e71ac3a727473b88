import TreeIndex.Proofs.Index.Build
import TreeIndex.Proofs.Index.Files
import TreeIndex.Proofs.Indexer.Life
import TreeIndex.Proofs.Scope

/-!
# What an index of a tree holds

On a disk without links, an index holds the files of the tree, then their items, then the projects.

* `Index.Holds`: the files in the order of their paths, the items **file by file and definition by definition**,
  each by its definition, and the files that own something;
* `holds_of_build?`: every index that is built is of this kind;
* `Indexer.index_eq_ok`, `Indexer.refresh_eq_ok`: what a request that succeeds **leaves behind was built**, and by
  which definitions;
* `holds_of_index`: so it is of everything that a request to index or to refresh leaves behind.
-/

namespace TreeIndex

/-- **What an index holds**: files, the items in them, and projects. -/
structure Index.Holds (ix : Index) (files : List SourceFile) (items : List Item)
    (projects : List Project) : Prop where
  scope : ix.scope = files.map .file ++ items.map .item ++ projects.map .project
  /-- The files stand in the order of their paths. -/
  files_before : files.Pairwise fun f g => f.path.before g.path
  files_definition : ∀ f ∈ files, f.definition ∈ ix.definitions.all ∧ f.definition.kind = fileKind
  /-- Every definition of items has been looked for in every file, -/
  extracted : ∀ f ∈ files, ∀ c ∈ ix.definitions.ofKind itemKind,
    ∃ m, ItemMatcher.ofDefinition? c = .ok m ∧ m.extract? f = .ok (c.itemsIn f)
  /-- and what was found is there, in this order. -/
  items_eq : items = files.flatMap ix.definitions.itemsOf
  items_definition : ∀ i ∈ items, i.file ∈ files ∧ i.definition ∈ ix.definitions.all ∧
    i.definition.kind = itemKind
  /-- The files that own an item are those that have one, in their order. -/
  owning : ∃ owning : List SourceFile, ix.scope.items.owningFiles = owning.map .file ∧ owning.Sublist files ∧
    ∀ f, f ∈ owning ↔ f ∈ files ∧ ∃ i ∈ items, i.file = f

/-- The definitions of a kind are **resolved definitions** of that kind. -/
theorem Definitions.mem_ofKind_iff {ds : Definitions} {kind : String} {c : Definition} :
    c ∈ ds.ofKind kind ↔ c ∈ ds.all ∧ c.kind = kind := by
  rw [Definitions.ofKind, List.mem_filter, beq_iff_eq]

/-- The items of a file **are its own**, and they were found by definitions of items. -/
theorem Definitions.mem_itemsOf {ds : Definitions} {f : SourceFile}
    (h : ∀ c ∈ ds.ofKind itemKind, ∃ m, ItemMatcher.ofDefinition? c = .ok m ∧
      m.extract? f = .ok (c.itemsIn f)) {i : Item} (hi : i ∈ ds.itemsOf f) :
    i.file = f ∧ i.definition ∈ ds.all ∧ i.definition.kind = itemKind := by
  obtain ⟨c, hc, hi⟩ := List.mem_flatMap.1 hi
  obtain ⟨m, hm, hfound⟩ := h c hc
  obtain ⟨hfile, hdef⟩ := ItemMatcher.extract?_file hfound i hi
  rw [(ItemMatcher.compiled_of_ofDefinition? hm).definition] at hdef
  rw [hdef]
  exact ⟨hfile, Definitions.mem_ofKind_iff.1 hc⟩

/-- **Every index that is built** from a tree without links. -/
theorem holds_of_build? {d : Disk} (hd : d.LinkFree) {s : Settings} {ds : Definitions} {ix : Index}
    (h : Index.build? d s ds = .ok ix) : ∃ files items projects, ix.Holds files items projects := by
  obtain ⟨rfl, files, ms, items, projects, hfiles, hms, hitems, -, hscope⟩ := Index.build?_eq_ok h
  obtain ⟨hextracted, heq⟩ := Definitions.items?_eq_flatMap hms hitems
  have hown : ∀ f ∈ files, ∀ i ∈ ix.definitions.itemsOf f, i.file = f ∧
      i.definition ∈ ix.definitions.all ∧ i.definition.kind = itemKind :=
    fun f hf i hi => Definitions.mem_itemsOf (hextracted f hf) hi
  have hmem : ∀ i, i ∈ items ↔ ∃ f ∈ files, i ∈ ix.definitions.itemsOf f := by
    intro i
    rw [heq]
    exact List.mem_flatMap
  have hbefore := Definitions.files?_before (Disk.followsNone_of_linkFree hd _ _) hfiles
  refine ⟨files, items, projects, hscope, hbefore, fun f hf => ?_, hextracted, heq, fun i hi => ?_,
    files.filter fun f => !(ix.definitions.itemsOf f).isEmpty, ?_, List.filter_sublist, fun f => ?_⟩
  · exact Definitions.mem_ofKind_iff.1 (Definitions.files?_definition hfiles f hf)
  · obtain ⟨f, hf, hi⟩ := (hmem i).1 hi
    obtain ⟨hfile, hdef⟩ := hown f hf i hi
    exact ⟨hfile ▸ hf, hdef⟩
  · rw [hscope, Scope.items_assembled, heq]
    exact Scope.owningFiles_flatMap (fun f hf i hi => (hown f hf i hi).1)
      (hbefore.imp fun hfg => hfg.steps_ne)
  · rw [List.mem_filter, Bool.not_eq_true', List.isEmpty_eq_false_iff_exists_mem]
    refine and_congr_right fun hf => ⟨?_, ?_⟩
    · rintro ⟨i, hi⟩
      exact ⟨i, (hmem i).2 ⟨f, hf, hi⟩, (hown f hf i hi).1⟩
    · rintro ⟨i, hi, rfl⟩
      obtain ⟨g, hg, hi⟩ := (hmem i).1 hi
      exact ⟨i, (hown g hg i hi).1.symm ▸ hi⟩

/-- A pass over the tree that succeeds **leaves an index behind** that was built. -/
theorem Indexer.build_eq_ok {d : Disk} {x y : Indexer} {ds : Definitions} (h : x.build d ds = (.ok (), y)) :
    ∃ ix, y.state = .indexed ix ∧ Index.build? d x.settings ds = .ok ix := by
  rcases Indexer.build_cases (d := d) (x := x) ds with ⟨ix, hix, hb⟩ | ⟨fault, hf, hb⟩
  · rw [hb] at h
    cases h
    exact ⟨ix, rfl, hix⟩
  · rw [hb] at h
    cases h

/-- **What a request to index leaves behind**: an index that was built, with definitions that were kept or, if there
    were none, are resolved just now. -/
theorem Indexer.index_eq_ok {d : Disk} {x y : Indexer} (h : x.index d = (.ok (), y)) :
    ∃ ix, y.view? = .ok ix ∧
      (x.state = .resolved ix.definitions ∨
        x.state = .uninitialized ∧ Definitions.resolve? d x.settings x.start = .ok ix.definitions) ∧
      Index.build? d x.settings ix.definitions = .ok ix := by
  rcases Indexer.index_cases (d := d) (x := x) with ⟨ix, -, hx⟩ | ⟨fault, -, -, hx⟩ | ⟨ds, hst, hx⟩
  · cases hx.symm.trans h
  · cases hx.symm.trans h
  · obtain ⟨ix, hix, hbuilt⟩ := Indexer.build_eq_ok (hx.symm.trans h)
    obtain rfl := (Index.build?_eq_ok hbuilt).1
    exact ⟨ix, Indexer.view?_eq_ok.2 hix, hst, hbuilt⟩

/-- **What a request to refresh leaves behind**: an index that was built with definitions that are resolved just
    now. -/
theorem Indexer.refresh_eq_ok {d : Disk} {x y : Indexer} (h : x.refresh d = (.ok (), y)) :
    ∃ ix, y.view? = .ok ix ∧ Definitions.resolve? d x.settings x.start = .ok ix.definitions ∧
      Index.build? d x.settings ix.definitions = .ok ix := by
  rcases Indexer.refresh_cases (d := d) (x := x) with ⟨ds, hds, hx⟩ | ⟨fault, -, hx⟩
  · obtain ⟨ix, hix, hbuilt⟩ := Indexer.build_eq_ok (hx.symm.trans h)
    obtain rfl := (Index.build?_eq_ok hbuilt).1
    exact ⟨ix, Indexer.view?_eq_ok.2 hix, hds, hbuilt⟩
  · cases hx.symm.trans h

/-- **What a request to index or to refresh leaves behind**: an index that was built, with definitions that were
    resolved before, or just now. -/
theorem Indexer.exists_build? {d : Disk} {x y : Indexer}
    (h : x.index d = (.ok (), y) ∨ x.refresh d = (.ok (), y)) :
    ∃ ix, y.view? = .ok ix ∧
      (x.state = .resolved ix.definitions ∨
        Definitions.resolve? d x.settings x.start = .ok ix.definitions) ∧
      Index.build? d x.settings ix.definitions = .ok ix := by
  rcases h with h | h
  · obtain ⟨ix, hview, hds, hbuilt⟩ := Indexer.index_eq_ok h
    exact ⟨ix, hview, hds.imp_right fun hst => hst.2, hbuilt⟩
  · obtain ⟨ix, hview, hds, hbuilt⟩ := Indexer.refresh_eq_ok h
    exact ⟨ix, hview, Or.inr hds, hbuilt⟩

/-- **What a request to index leaves behind** on a disk without links, or a request to refresh. The definitions
    are those that were resolved before, or just now. -/
theorem holds_of_index {d : Disk} (hd : d.LinkFree) {x y : Indexer}
    (h : x.index d = (.ok (), y) ∨ x.refresh d = (.ok (), y)) :
    ∃ ix files items projects, y.view? = .ok ix ∧
      (x.state = .resolved ix.definitions ∨
        Definitions.resolve? d x.settings x.start = .ok ix.definitions) ∧
      ix.Holds files items projects := by
  obtain ⟨ix, hview, hds, hbuilt⟩ := Indexer.exists_build? h
  obtain ⟨files, items, projects, hholds⟩ := holds_of_build? hd hbuilt
  exact ⟨ix, files, items, projects, hview, hds, hholds⟩

/-- The text stands in front of its section, and owns it. -/
theorem holds_of_index_textDisk : ∃ ix files items projects, ix.Holds files items projects ∧
    (rootIndexer.index textDisk).2.view? = .ok ix ∧ files.map (·.name) = ["a"] ∧
    items.map (·.name) = ["foo"] := by
  have hfree : textDisk.LinkFree := Disk.linkFree_of_files files_textEntries
  obtain ⟨ix, hx, hnames⟩ := index_textDisk
  obtain ⟨jx, files, items, projects, hview, -, hholds⟩ := holds_of_index hfree (Or.inl hx)
  cases hview
  rw [hx]
  have hscope : ix.scope = Scope.assembled files items projects := hholds.scope
  have hkind (kind : ComponentKind) := Scope.map_name_ofKind ix.scope kind
  rw [hnames] at hkind
  refine ⟨ix, files, items, projects, hholds, rfl, ?_, ?_⟩
  · have hfiles := hkind .file
    rw [hscope, ← Scope.files, Scope.files_assembled, List.map_map] at hfiles
    exact hfiles
  · have hitems := hkind .item
    rw [hscope, ← Scope.items, Scope.items_assembled, List.map_map] at hitems
    exact hitems

end TreeIndex
