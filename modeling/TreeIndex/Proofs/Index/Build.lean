import TreeIndex.Index
import TreeIndex.Proofs.Extraction.Matcher

/-!
# What a pass over a tree finds

A pass finds files, then the items of each of them, then projects, and puts them one after the other.

* `extract?_file`: the items of a file **say that they are its own**;
* `Definition.itemsIn`, `Definitions.itemsOf`: the items that a definition finds in a file, or all of them do;
* `items?_eq_flatMap`: the items of some files are those of each file and each definition, in this order;
* `items?_filter`: the items of some of the files are those among all items **whose file is one of them**;
* `Scope.assembled`: files, items and projects as a scope; `filter_assembled`, `files_assembled`,
  `items_assembled`, `projects_assembled`, `file_mem_assembled`, `project_mem_assembled`: what stands in it, and what
  remains of it;
* `build?_eq_ok`: what an index holds, and by what it was found.
-/

namespace TreeIndex

/-! ## 1. The items of a file -/

namespace ItemMatcher

theorem itemAt?_eq_ok {m : ItemMatcher} {f : SourceFile} {text : List Char} {lines : List (List Char)}
    {s t : Scan} {c : Pattern.Capture} {i : Item} (h : m.itemAt? f text lines s c = .ok (i, t)) :
    i.file = f ∧ i.definition = m.definition := by
  obtain ⟨stop, -, h⟩ := Outcome.bind_eq_ok.1 h
  dsimp only at h
  split at h
  · cases h
  · cases h
    exact ⟨rfl, rfl⟩

theorem itemsFrom?_eq_ok {m : ItemMatcher} {f : SourceFile} {text : List Char}
    {lines : List (List Char)} : ∀ {cs : List Pattern.Capture} {s : Scan} {items : List Item},
      m.itemsFrom? f text lines s cs = .ok items → ∀ i ∈ items, i.file = f ∧ i.definition = m.definition
  | [], _, items, h, i, hi => by
    cases h
    cases hi
  | c :: cs, s, items, h, i, hi => by
    obtain ⟨⟨j, t⟩, hj, h⟩ := Outcome.bind_eq_ok.1 h
    obtain ⟨more, hmore, h⟩ := Outcome.bind_eq_ok.1 h
    cases h
    rcases List.mem_cons.1 hi with rfl | hi
    · exact itemAt?_eq_ok hj
    · exact itemsFrom?_eq_ok hmore i hi

/-- The items of a file **say that they are its own**, and by which definition they were found. -/
theorem extract?_file {m : ItemMatcher} {f : SourceFile} {items : List Item}
    (h : m.extract? f = .ok items) : ∀ i ∈ items, i.file = f ∧ i.definition = m.definition :=
  itemsFrom?_eq_ok h

end ItemMatcher

/-! ## 2. The items of files -/

/-- The items that a definition **finds in a file**; none where it finds a fault. -/
def Definition.itemsIn (definition : Definition) (f : SourceFile) : List Item :=
  (ItemMatcher.ofDefinition? definition >>= (·.extract? f)).toOption.getD []

theorem Definition.itemsIn_eq {definition : Definition} {m : ItemMatcher} {f : SourceFile}
    {items : List Item} (hm : ItemMatcher.ofDefinition? definition = .ok m)
    (h : m.extract? f = .ok items) : definition.itemsIn f = items := by
  have hbind : (ItemMatcher.ofDefinition? definition >>= (·.extract? f)) = .ok items :=
    Outcome.bind_eq_ok.2 ⟨m, hm, h⟩
  rw [Definition.itemsIn, hbind]
  rfl

/-- The items of a file are those of **each definition**, in the order of the definitions. -/
theorem extractAll?_eq_flatMap {defs : List Definition} {ms : List ItemMatcher} {f : SourceFile}
    {items : List Item} (hms : compileAll? defs = .ok ms) (h : extractAll? f ms = .ok items) :
    (∀ definition ∈ defs, ∃ m, ItemMatcher.ofDefinition? definition = .ok m ∧
      m.extract? f = .ok (definition.itemsIn f)) ∧
    items = defs.flatMap fun definition => definition.itemsIn f := by
  have hall := Outcome.mapM_eq_ok.1 hms
  clear hms
  induction hall generalizing items with
  | nil =>
    cases h
    exact ⟨fun _ hd => absurd hd List.not_mem_nil, rfl⟩
  | @cons definition m defs ms hm _ ih =>
    obtain ⟨own, hown, h⟩ := Outcome.bind_eq_ok.1 h
    obtain ⟨more, hmore, h⟩ := Outcome.bind_eq_ok.1 h
    cases h
    have hits : definition.itemsIn f = own := Definition.itemsIn_eq hm hown
    obtain ⟨hrest, heq⟩ := ih hmore
    refine ⟨fun other ho => ?_, by rw [List.flatMap_cons, hits, heq]⟩
    rcases List.mem_cons.1 ho with rfl | ho
    · exact ⟨m, hm, hits ▸ hown⟩
    · exact hrest other ho

/-- All items that are found in a file say that they are its own. -/
theorem extractAll?_file {f : SourceFile} : ∀ {ms : List ItemMatcher} {items : List Item},
    extractAll? f ms = .ok items → ∀ i ∈ items, i.file = f
  | [], items, h, i, hi => by
    cases h
    cases hi
  | m :: ms, items, h, i, hi => by
    obtain ⟨own, hown, h⟩ := Outcome.bind_eq_ok.1 h
    obtain ⟨more, hmore, h⟩ := Outcome.bind_eq_ok.1 h
    cases h
    rcases List.mem_append.1 hi with hi | hi
    · exact (ItemMatcher.extract?_file hown i hi).1
    · exact extractAll?_file hmore i hi

namespace Definitions

/-- The items of a file, **definition by definition**. -/
def itemsOf (ds : Definitions) (f : SourceFile) : List Item :=
  (ds.ofKind itemKind).flatMap fun c => c.itemsIn f

variable {ds : Definitions} {ms : List ItemMatcher}

/-- The items of some files are those of **each file and each definition**, in this order. -/
theorem items?_eq_flatMap (hms : ds.matchers? = .ok ms) :
    ∀ {fs : List SourceFile} {items : List Item}, items? ms fs = .ok items →
      (∀ f ∈ fs, ∀ c ∈ ds.ofKind itemKind, ∃ m, ItemMatcher.ofDefinition? c = .ok m ∧
        m.extract? f = .ok (c.itemsIn f)) ∧
      items = fs.flatMap ds.itemsOf
  | [], items, h => by
    cases h
    exact ⟨fun _ hf => absurd hf List.not_mem_nil, rfl⟩
  | f :: fs, items, h => by
    obtain ⟨own, hown, h⟩ := Outcome.bind_eq_ok.1 h
    obtain ⟨more, hmore, h⟩ := Outcome.bind_eq_ok.1 h
    cases h
    obtain ⟨hf, heq⟩ := extractAll?_eq_flatMap hms hown
    obtain ⟨hfs, hrest⟩ := items?_eq_flatMap hms hmore
    refine ⟨fun g hg => ?_, by rw [heq, hrest]; rfl⟩
    rcases List.mem_cons.1 hg with rfl | hg
    · exact hf
    · exact hfs g hg

/-- The items of some of the files are those among all items **whose file is one of them**. -/
theorem items?_filter (keep : SourceFile → Bool) : ∀ {fs : List SourceFile} {items : List Item},
    items? ms fs = .ok items →
      items? ms (fs.filter keep) = .ok (items.filter fun i => keep i.file)
  | [], items, h => by
    cases h
    rfl
  | f :: fs, items, h => by
    obtain ⟨own, hown, h⟩ := Outcome.bind_eq_ok.1 h
    obtain ⟨more, hmore, h⟩ := Outcome.bind_eq_ok.1 h
    cases h
    have ih := items?_filter keep hmore
    have hfile : ∀ i ∈ own, i.file = f := extractAll?_file hown
    rw [List.filter_append, List.filter_cons]
    split
    · rename_i hf
      have hall : own.filter (fun i => keep i.file) = own :=
        List.filter_eq_self.2 fun i hi => by rw [hfile i hi, hf]
      rw [hall]
      exact Outcome.bind_eq_ok.2 ⟨own, hown, Outcome.bind_eq_ok.2 ⟨_, ih, rfl⟩⟩
    · rename_i hf
      have hnone : own.filter (fun i => keep i.file) = [] :=
        List.filter_eq_nil_iff.2 fun i hi => by rw [hfile i hi]; exact hf
      rw [hnone]
      exact ih

end Definitions

/-! ## 3. Scopes that are put together -/

namespace Scope

/-- Files, then items, then projects. -/
def assembled (fs : List SourceFile) (is : List Item) (ps : List Project) : Scope :=
  fs.map .file ++ is.map .item ++ ps.map .project

variable (fs : List SourceFile) (is : List Item) (ps : List Project)

theorem filter_assembled (keep : Component → Bool) :
    (assembled fs is ps).filter keep =
      assembled (fs.filter fun f => keep (.file f)) (is.filter fun i => keep (.item i))
        (ps.filter fun p => keep (.project p)) := by
  rw [assembled, List.filter_append, List.filter_append, List.filter_map, List.filter_map, List.filter_map]
  rfl

/-- A file stands in it **if it is one of the files**. -/
theorem file_mem_assembled {f : SourceFile} : .file f ∈ assembled fs is ps ↔ f ∈ fs := by
  simp [assembled]

/-- A project stands in it **if it is one of the projects**. -/
theorem project_mem_assembled {p : Project} : .project p ∈ assembled fs is ps ↔ p ∈ ps := by
  simp [assembled]

/-- Components of one kind are all of it, or none of another one. -/
theorem ofKind_map {α : Type} {k : ComponentKind} {g : α → Component} (hg : ∀ a, (g a).kind = k)
    (xs : List α) (kind : ComponentKind) : ofKind (xs.map g) kind = if k = kind then xs.map g else [] := by
  split
  · rename_i hk
    refine List.filter_eq_self.2 fun c hc => ?_
    obtain ⟨a, -, rfl⟩ := List.mem_map.1 hc
    exact beq_iff_eq.2 ((hg a).trans hk)
  · rename_i hk
    refine List.filter_eq_nil_iff.2 fun c hc => ?_
    obtain ⟨a, -, rfl⟩ := List.mem_map.1 hc
    exact fun h => hk ((hg a).symm.trans (beq_iff_eq.1 h))

/-- **The components of a kind** among those that were put together. -/
theorem ofKind_assembled (kind : ComponentKind) :
    ofKind (assembled fs is ps) kind =
      (if .file = kind then fs.map .file else []) ++ (if .item = kind then is.map .item else []) ++
        if .project = kind then ps.map .project else [] := by
  have hfiles := ofKind_map (g := Component.file) (fun _ => rfl) fs kind
  have hitems := ofKind_map (g := Component.item) (fun _ => rfl) is kind
  have hprojects := ofKind_map (g := Component.project) (fun _ => rfl) ps kind
  rw [← hfiles, ← hitems, ← hprojects, ofKind, assembled, List.filter_append, List.filter_append]
  rfl

theorem files_assembled : files (assembled fs is ps) = fs.map .file := by
  rw [files, ofKind_assembled]
  exact (List.append_nil _).trans (List.append_nil _)

theorem items_assembled : items (assembled fs is ps) = is.map .item := by
  rw [items, ofKind_assembled]
  exact List.append_nil _

theorem projects_assembled : projects (assembled fs is ps) = ps.map .project := by
  rw [projects, ofKind_assembled]
  rfl

end Scope

/-! ## 4. Indexes -/

/-- **What an index holds**, and by what it was found. -/
theorem Index.build?_eq_ok {d : Disk} {s : Settings} {ds : Definitions} {ix : Index}
    (h : Index.build? d s ds = .ok ix) :
    ix.definitions = ds ∧ ∃ files ms items projects, ds.files? d s = .ok files ∧
      ds.matchers? = .ok ms ∧ Definitions.items? ms files = .ok items ∧
      ds.projects? d s = .ok projects ∧ ix.scope = Scope.assembled files items projects := by
  obtain ⟨files, hfiles, h⟩ := Outcome.bind_eq_ok.1 h
  obtain ⟨ms, hms, h⟩ := Outcome.bind_eq_ok.1 h
  obtain ⟨items, hitems, h⟩ := Outcome.bind_eq_ok.1 h
  obtain ⟨projects, hprojects, h⟩ := Outcome.bind_eq_ok.1 h
  cases h
  exact ⟨rfl, files, ms, items, projects, hfiles, hms, hitems, hprojects, rfl⟩

end TreeIndex
