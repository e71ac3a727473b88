import Mathlib.Data.List.Nodup
import TreeIndex.Proofs.Index.Once
import TreeIndex.Proofs.Index.Projects
import TreeIndex.Proofs.Record.Identity

/-!
# The ids of an index

Every component of an index is known by a canonical path, so its id can tell it from all others.

* `located_of_build?`: the paths of all components are **paths to locations**;
* `Index.Undoubled`: no two items are doubles -- found in one file by a definition of one name, under one name and
  on one line -- and no two files are, where links are followed;
* `nodup_identities_iff_undoubled`: projects are never doubles, nor are files where links are not followed, so
  this is all that it takes;
* **`ids_of_index`**: the ids of an index that a request leaves behind differ **exactly if it is undoubled**, unless
  separators are mistaken or digests collide. `doubled_markDisk` is a tree in which two items have one id.
-/

namespace TreeIndex

/-! ## 1. Paths of components -/

/-- What a path leads to is **known by the path to its location**. -/
theorem Disk.exists_location {d : Disk} {p : Path} {loc : Disk.Location} {e : Disk.Entry}
    (h : d.entry? p = .ok (loc, e)) : ∃ found : Disk.Location, d.canonical p = Disk.pathTo found ∧
      ∀ name ∈ found, Disk.isEntryName name = true :=
  ⟨loc, Disk.canonical_eq_pathTo h, d.tidy.isEntryName (Disk.entry?_lands h).1⟩

namespace Index

variable {d : Disk} {s : Settings} {ds : Definitions} {ix : Index}

/-- The projects of an index, the one of the root marker and all others, **are what their files say**. -/
theorem HoldsProjects.loaded {root : Project} {own more : List Project}
    (h : ix.HoldsProjects d s root own more) : ∀ q ∈ own ++ more, Project.load? d s.markerName q.path = .ok q := by
  intro q hq
  rcases List.mem_append.1 hq with hq | hq
  · have hself := Project.load?_path h.loads
    have hreached := (h.mem_own q).1 hq
    rw [← Project.leadsTo_eq_dependsOn hself] at hreached
    rcases Project.known_of_reaches hreached with rfl | ⟨hload, -⟩
    · exact hself
    · exact hload
  · by_cases hbase : ∃ base, s.baseConfig = some base ∧ d.isFile base = true
    · obtain ⟨base, hbase, hfile⟩ := hbase
      obtain ⟨reached, hreaches, rfl⟩ := h.based base hbase hfile
      obtain ⟨r, -, -, hmem⟩ := hreaches.exists_preorder
      obtain ⟨hne, hreached⟩ := (hmem q).1 (List.mem_of_mem_filter hq)
      rcases Project.known_of_reaches hreached with heq | ⟨hload, -⟩
      · exact absurd heq hne
      · exact hload
    · have hnone := h.baseless fun base hb => Bool.eq_false_iff.2 fun hfile => hbase ⟨base, hb, hfile⟩
      rw [hnone] at hq
      cases hq

/-- **The paths of all components** of an index are paths to locations. -/
theorem located_of_build? (h : Index.build? d s ds = .ok ix) : ∀ c ∈ ix.scope, c.Located := by
  obtain ⟨root, own, more, hprojects⟩ := HoldsProjects.of_build? h
  obtain ⟨rfl, files, ms, items, projects, hfiles, hms, hitems, -, hscope⟩ := Index.build?_eq_ok h
  have hfile : ∀ f ∈ files, (Component.file f).Located := by
    intro f hf
    obtain ⟨e, -, hload⟩ := Outcome.exists_of_mem_mapM hfiles hf
    obtain ⟨-, hpath, _, _, hentry⟩ := SourceFile.load?_eq_ok hload
    obtain ⟨loc, hloc, hnames⟩ := Disk.exists_location hentry
    exact ⟨loc, hpath.trans hloc, hnames⟩
  have hitem : ∀ i ∈ items, (Component.item i).Located := by
    intro i hi
    obtain ⟨hextracted, heq⟩ := Definitions.items?_eq_flatMap hms hitems
    rw [heq] at hi
    obtain ⟨f, hf, hi⟩ := List.mem_flatMap.1 hi
    have hown := (Definitions.mem_itemsOf (hextracted f hf) hi).1
    obtain ⟨loc, hloc, hnames⟩ := hfile f hf
    exact ⟨loc, (congrArg SourceFile.path hown).trans hloc, hnames⟩
  have hproject : ∀ c ∈ ix.scope.projects, c.Located := by
    rw [hprojects.scope]
    intro c hc
    obtain ⟨q, hq, rfl⟩ := List.mem_map.1 hc
    obtain ⟨hpath, _, _, hentry⟩ := Project.load?_eq_ok (hprojects.loaded q hq)
    obtain ⟨loc, hloc, hnames⟩ := Disk.exists_location hentry
    exact ⟨loc, hpath.trans hloc, hnames⟩
  rw [hscope, Scope.projects_assembled] at hproject
  rw [hscope]
  intro c hc
  rcases List.mem_append.1 hc with hc | hc
  · rcases List.mem_append.1 hc with hc | hc
    · obtain ⟨f, hf, rfl⟩ := List.mem_map.1 hc
      exact hfile f hf
    · obtain ⟨i, hi, rfl⟩ := List.mem_map.1 hc
      exact hitem i hi
  · exact hproject c hc

/-! ## 2. Indexes without doubles -/

/-- **No two components are doubles**, of those that may be: items, and files where links are followed. -/
structure Undoubled (ix : Index) (follow : Bool) : Prop where
  items : ix.scope.items.Pairwise fun c c' => ¬ c.Doubles c'
  files : follow = true → ix.scope.files.Pairwise fun c c' => ¬ c.Doubles c'

end Index

/-- Of what was put together, **no two are doubles if no two of one kind are**. -/
theorem Scope.pairwise_assembled (files : List SourceFile) (items : List Item) (projects : List Project) :
    (assembled files items projects).Pairwise (fun c c' => ¬ c.Doubles c') ↔
      (files.map Component.file).Pairwise (fun c c' => ¬ c.Doubles c') ∧
      (items.map Component.item).Pairwise (fun c c' => ¬ c.Doubles c') ∧
      (projects.map Component.project).Pairwise (fun c c' => ¬ c.Doubles c') := by
  have hkinds {c c' : Component} (h : c.kind ≠ c'.kind) : ¬ c.Doubles c' :=
    fun hdoubles => h (Component.same_iff.1 hdoubles.1).1
  rw [assembled, List.pairwise_append, List.pairwise_append, and_assoc, and_assoc]
  refine ⟨fun h => ⟨h.1, h.2.1, h.2.2.2.1⟩, fun h => ⟨h.1, h.2.1, ?_, h.2.2, ?_⟩⟩
  · intro c hc c' hc'
    obtain ⟨f, -, rfl⟩ := List.mem_map.1 hc
    obtain ⟨i, -, rfl⟩ := List.mem_map.1 hc'
    exact hkinds (by rintro ⟨⟩)
  · intro c hc c' hc'
    obtain ⟨p, -, rfl⟩ := List.mem_map.1 hc'
    rcases List.mem_append.1 hc with hc | hc
    · obtain ⟨f, -, rfl⟩ := List.mem_map.1 hc
      exact hkinds (by rintro ⟨⟩)
    · obtain ⟨i, -, rfl⟩ := List.mem_map.1 hc
      exact hkinds (by rintro ⟨⟩)

namespace Index

variable {d : Disk} {s : Settings} {ds : Definitions} {ix : Index} {root : Path}

/-- **The identities of an index differ exactly if it is undoubled**: projects never have one path, nor do files
    where links are not followed. -/
theorem nodup_identities_iff_undoubled (h : Index.build? d s ds = .ok ix) (hs : ix.scope.Separable root) :
    (ix.scope.map (Component.identityFrom root)).Nodup ↔ ix.Undoubled s.followLinks := by
  have hlocated := located_of_build? h
  obtain ⟨first, own, more, hprojects⟩ := HoldsProjects.of_build? h
  obtain ⟨rfl, files, ms, items, projects, hfiles, -, -, -, hscope⟩ := Index.build?_eq_ok h
  have hlisted : ix.scope.files = files.map .file := by rw [hscope, Scope.files_assembled]
  have hitems : ix.scope.items = items.map .item := by rw [hscope, Scope.items_assembled]
  have hapart : (projects.map Component.project).Pairwise fun c c' => ¬ c.Doubles c' := by
    have hall : projects.map Component.project = (own ++ more).map .project := by
      rw [← hprojects.scope, hscope, Scope.projects_assembled]
    rw [hall, List.pairwise_map]
    refine hprojects.apart.imp fun hpq hdoubles => ?_
    have hsame := (Component.same_iff.1 hdoubles.1).2.2
    exact Bool.eq_false_iff.1 hpq (Path.same_iff.2 hsame)
  rw [Scope.nodup_identities_iff hs hlocated]
  constructor
  · intro hpairwise
    rw [hscope, Scope.pairwise_assembled] at hpairwise
    exact ⟨hitems ▸ hpairwise.2.1, fun _ => hlisted ▸ hpairwise.1⟩
  · intro hundoubled
    have hown := hundoubled.items
    rw [hitems] at hown
    rw [hscope, Scope.pairwise_assembled]
    refine ⟨?_, hown, hapart⟩
    cases hfollow : s.followLinks with
    | true =>
      have hfollowed := hundoubled.files hfollow
      rw [hlisted] at hfollowed
      exact hfollowed
    | false =>
      have hnone := Disk.followsNone_of_passing (d := d) hfollow ix.definitions.rootDir
      refine List.pairwise_map.2 ((Definitions.files?_before hnone hfiles).imp ?_)
      exact fun hfg hdoubles => hfg.steps_ne (Component.same_iff.1 hdoubles.1).2.2

end Index

/-- **Ids of an index.** However the tree is seen: the identities of what a request to index, or to refresh,
    leaves behind differ exactly if it is undoubled, provided that no separator is mistaken; and so do the ids,
    provided that no two identities have one digest. -/
theorem ids_of_index {d : Disk} {x y : Indexer}
    (h : x.index d = (.ok (), y) ∨ x.refresh d = (.ok (), y)) :
    ∃ ix, y.view? = .ok ix ∧ ∀ root, ix.scope.Separable root →
      ((ix.scope.map (Component.identityFrom root)).Nodup ↔ ix.Undoubled x.settings.followLinks) ∧
      (ix.scope.DigestsApart root →
        ((ix.scope.map fun c => (Record.ofComponent root c).id).Nodup ↔
          ix.Undoubled x.settings.followLinks)) := by
  obtain ⟨ix, hview, -, hbuilt⟩ := Indexer.exists_build? h
  refine ⟨ix, hview, fun root hs => ?_⟩
  have hidentities := Index.nodup_identities_iff_undoubled hbuilt hs
  exact ⟨hidentities, fun hdigests => (Scope.nodup_ids_iff hdigests).trans hidentities⟩

/-! ## 3. Two trees and their ids -/

/-- What is shown of a component from the root: its kind, its path, its definition and its identity. -/
def shownParts (c : Component) : ComponentKind × String × Option String × String :=
  (c.kind, c.path.shownFrom ⟨"/"⟩, c.definition?.map (·.name), c.identityFrom ⟨"/"⟩)

/-- Where paths are plain and one definition has found all items, **no separator is mistaken**. -/
theorem separable_of_shownParts {s : Scope} (name : String)
    (h : ∀ part ∈ s.map shownParts,
      '\x1f' ∉ part.2.1.toList ∧ (part.1 = .item → part.2.2.1 = some name)) : s.Separable ⟨"/"⟩ := by
  have hpart : ∀ c ∈ s, '\x1f' ∉ (c.path.shownFrom ⟨"/"⟩).toList ∧
      (c.kind = .item → c.definition?.map (·.name) = some name) :=
    fun c hc => h (shownParts c) (List.mem_map_of_mem hc)
  have hitem : ∀ i, Component.item i ∈ s → i.definition.name = name :=
    fun i hi => Option.some.inj ((hpart _ hi).2 rfl)
  exact ⟨fun c hc => (hpart c hc).1, fun i j hi hj _ => (hitem i hi).trans (hitem j hj).symm⟩

/-- The identities that are shown are **the identities of the components**. -/
theorem map_identity_of_shownParts (s : Scope) :
    (s.map shownParts).map (·.2.2.2) = s.map (Component.identityFrom ⟨"/"⟩) := by
  rw [List.map_map]
  rfl

/-- The text, its section and the project of its folder **have ids of their own**. -/
theorem ids_of_index_textDisk : ∃ (y : Indexer) (ix : Index), rootIndexer.index textDisk = (.ok (), y) ∧
    y.view? = .ok ix ∧ ix.scope.length = 3 ∧ ix.Undoubled false ∧
    (ix.scope.map fun c => (Record.ofComponent ⟨"/"⟩ c).id).Nodup := by
  have hrun : (rootIndexer.index textDisk).2.view?.toOption.map (fun ix => ix.scope.map shownParts) =
      some [(.file, "a.txt", some "text", "file\x1fa.txt\x1fa"),
        (.item, "a.txt", some "part", "item\x1fa.txt\x1fpart::foo:2"),
        (.project, "root.config", none, "project\x1froot.config\x1f")] := by
    decide +kernel
  obtain ⟨ix, hview, hparts⟩ := Option.map_eq_some_iff.1 hrun
  have hindex := Indexer.index_of_shown rfl (Outcome.toOption_eq_some.1 hview)
  obtain ⟨jx, hshown, hids⟩ := ids_of_index (Or.inl hindex)
  obtain rfl : ix = jx := Except.ok.inj hshown
  have hseparable : ix.scope.Separable ⟨"/"⟩ := by
    refine separable_of_shownParts "part" ?_
    rw [hparts]
    decide +kernel
  obtain ⟨hidentities, hrecords⟩ := hids ⟨"/"⟩ hseparable
  have hnames := map_identity_of_shownParts ix.scope
  rw [hparts] at hnames
  have hundoubled : ix.Undoubled false := by
    refine hidentities.1 ?_
    rw [← hnames]
    decide +kernel
  have hdigests : ((ix.scope.map (Component.identityFrom ⟨"/"⟩)).map Digest.digestText).Nodup := by
    rw [← hnames, funext digestText_eq]
    decide +kernel
  have hcollisions : ix.scope.DigestsApart ⟨"/"⟩ := fun c hc c' hc' =>
    List.inj_on_of_nodup_map hdigests (List.mem_map_of_mem hc) (List.mem_map_of_mem hc')
  refine ⟨_, ix, hindex, hshown, ?_, hundoubled, (hrecords hcollisions).2 hundoubled⟩
  have hlength := congrArg List.length hparts
  rw [List.length_map] at hlength
  exact hlength

/-- A text in which **two items start on one line**: they are found by one definition, and neither has a name. -/
def markEntries : List (String × Disk.Entry) :=
  [("a.txt", .file "<<\nstop\n".toUTF8),
   ("part.item", .file "identifier: {start: <, end: stop}".toUTF8),
   ("root.config", .file "index: {types: [file, item], identifiers: {file: .kind, item: .item}}".toUTF8),
   ("root.item", .file "".toUTF8),
   ("root.kind", .file "".toUTF8),
   ("text.kind", .file "identifier: .txt".toUTF8)]

theorem files_markEntries : ∀ x ∈ markEntries, ∃ bytes, x.2 = .file bytes := by
  decide

theorem ascending_markEntries : Ascending markEntries := by
  decide

/-- A disk with that text. -/
def markDisk : Disk :=
  ⟨markEntries, [], Disk.tidy_of_files files_markEntries ascending_markEntries (by decide +kernel)⟩

/-- The two items **have one id**. -/
theorem doubled_markDisk : ∃ (y : Indexer) (ix : Index), rootIndexer.index markDisk = (.ok (), y) ∧
    y.view? = .ok ix ∧ ix.scope.map (Component.identityFrom ⟨"/"⟩) = ["file\x1fa.txt\x1fa",
      "item\x1fa.txt\x1fpart::_:1", "item\x1fa.txt\x1fpart::_:1", "project\x1froot.config\x1f"] ∧
    ¬ (ix.scope.map fun c => (Record.ofComponent ⟨"/"⟩ c).id).Nodup := by
  have hrun : (rootIndexer.index markDisk).2.view?.toOption.map (fun ix =>
      ix.scope.map (Component.identityFrom ⟨"/"⟩)) = some ["file\x1fa.txt\x1fa",
        "item\x1fa.txt\x1fpart::_:1", "item\x1fa.txt\x1fpart::_:1", "project\x1froot.config\x1f"] := by
    decide +kernel
  obtain ⟨ix, hview, hidentities⟩ := Option.map_eq_some_iff.1 hrun
  have hindex := Indexer.index_of_shown rfl (Outcome.toOption_eq_some.1 hview)
  refine ⟨_, ix, hindex, rfl, hidentities, fun hnodup => ?_⟩
  have hids : (ix.scope.map fun c => (Record.ofComponent ⟨"/"⟩ c).id) =
      (ix.scope.map (Component.identityFrom ⟨"/"⟩)).map Digest.digestText := by
    rw [List.map_map]
    rfl
  rw [hids, hidentities] at hnodup
  have hrest := (List.nodup_cons.1 hnodup).2
  exact (List.nodup_cons.1 hrest).1 List.mem_cons_self

end TreeIndex
