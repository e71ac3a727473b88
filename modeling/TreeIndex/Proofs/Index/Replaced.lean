import TreeIndex.Proofs.Definitions.Unread
import TreeIndex.Proofs.Project.Unread

/-!
# When the text of a file is replaced

A source is read for its text and for the items in it. So where its text is replaced by another one, nothing else
in the index changes.

* `SourceFile.retold`: a file with another text; `load?_retold`, `files?_retold`: **files are read as they were**, but
  for that one;
* `items?_elsewhere`: and so are the items of the others, whatever is found in that one;
* `Index.IsSource`: a file of an index from which no definition and no project is read;
* `Index.SameBut`: two indexes with the same definitions, files and projects, which differ **in the text of one file
  and in its items** only; `sameBut_of_build?`: so it is of indexes that are built by the same definitions;
* **`sameBut_of_index`**: and of what requests leave behind, as **the same definitions** are resolved.
-/

namespace TreeIndex

open Disk (Location pathTo)

/-! ## 1. Files -/

/-- The file **with another text**, if it is the one at a path. -/
def SourceFile.retold (p : Path) (text : String) (f : SourceFile) : SourceFile :=
  if f.path.same p then { f with content := text } else f

/-- The component with another text, if it is **the file at a path**. -/
def Component.retold (p : Path) (text : String) : Component → Component
  | .file f => .file (f.retold p text)
  | c => c

section Files

variable {d d' : Disk} {loc : Location} {old : ByteArray} {text : String} {s : Settings} {ds : Definitions}

theorem SourceFile.retold_path (p : Path) (text : String) (f : SourceFile) : (f.retold p text).path = f.path := by
  unfold SourceFile.retold
  split <;> rfl

theorem SourceFile.retold_elsewhere {p : Path} {f : SourceFile} (h : f.path.same p = false) :
    f.retold p text = f := by
  rw [SourceFile.retold, h, if_neg Bool.false_ne_true]

/-- **The files elsewhere** are the same. -/
theorem SourceFile.filter_retold (p : Path) (text : String) : ∀ fs : List SourceFile,
    (fs.map (SourceFile.retold p text)).filter (fun f => !f.path.same p) = fs.filter fun f => !f.path.same p
  | [] => rfl
  | f :: fs => by
    rw [List.map_cons, List.filter_cons, List.filter_cons, SourceFile.retold_path, SourceFile.filter_retold p text fs]
    split
    · rename_i h
      rw [Bool.not_eq_true'] at h
      rw [SourceFile.retold_elsewhere h]
    · rfl

section Read

variable (h : d.DiffersAt d' loc) (hold : d.entry? (pathTo loc) = .ok (loc, .file old))
  (htext : d'.content? (pathTo loc) = .ok text)

include h hold htext

/-- A file is read **as it was**; the one that differs has its new text. -/
theorem SourceFile.load?_retold {c : Definition} {p : Path} {f f' : SourceFile}
    (hf : SourceFile.load? d c p = .ok f) (hf' : SourceFile.load? d' c p = .ok f') :
    f' = f.retold (pathTo loc) text := by
  obtain ⟨-, -, _, _, hentry⟩ := SourceFile.load?_eq_ok hf
  obtain ⟨content, hcontent, hf⟩ := Outcome.bind_eq_ok.1 hf
  obtain ⟨content', hcontent', hf'⟩ := Outcome.bind_eq_ok.1 hf'
  obtain rfl := Except.ok.inj hf
  obtain rfl := Except.ok.inj hf'
  have hself : d.canonical (pathTo loc) = pathTo loc := Disk.canonical_eq_pathTo hold
  rw [h.canonical_eq] at hcontent' ⊢
  unfold SourceFile.retold
  split
  · rename_i hsame
    have hpath : d.canonical p = d.canonical (pathTo loc) := by
      refine (Disk.canonical_eq_of_same hentry hold ?_).2
      rw [hself]
      exact hsame
    rw [hpath, hself] at hcontent'
    obtain rfl := Except.ok.inj (hcontent'.symm.trans htext)
    rfl
  · rename_i hapart
    have hmisses := Disk.misses_of_apart (Bool.eq_false_iff.2 hapart)
    rw [h.content?_eq hmisses.canonical] at hcontent'
    obtain rfl := Except.ok.inj (hcontent'.symm.trans hcontent)
    rfl

/-- **The files of a tree** are the same in the same order; the one that differs has its new text. -/
theorem Definitions.files?_retold {files files' : List SourceFile} (hf : ds.files? d s = .ok files)
    (hf' : ds.files? d' s = .ok files') : files' = files.map (SourceFile.retold (pathTo loc) text) := by
  have hclassified : ds.classified d' s = ds.classified d s := by
    rw [Definitions.classified_eq, Definitions.classified_eq, h.filesBeneath_eq]
  rw [Definitions.files?, hclassified] at hf'
  exact Outcome.mapM_eq_map hf hf' fun _ _ _ _ hfile hfile' => SourceFile.load?_retold h hold htext hfile hfile'

end Read

/-- **The items elsewhere** are the same, whatever is found in the file that differs. -/
theorem Definitions.items?_elsewhere {ms : List ItemMatcher} {p : Path} {files : List SourceFile}
    {items items' : List Item} (hitems : Definitions.items? ms files = .ok items)
    (hitems' : Definitions.items? ms (files.map (SourceFile.retold p text)) = .ok items') :
    items'.filter (fun i => !i.file.path.same p) = items.filter fun i => !i.file.path.same p := by
  have hkept := Definitions.items?_filter (fun f => !f.path.same p) hitems
  have hkept' := Definitions.items?_filter (fun f => !f.path.same p) hitems'
  rw [SourceFile.filter_retold] at hkept'
  exact Except.ok.inj (hkept'.symm.trans hkept)

end Files

/-! ## 2. Indexes -/

namespace Index

/-- A file of an index from which **nothing but its text is read**: its name has no ending of a type, it is not the
    base configuration, and no project says that it is its configuration. The root marker does say so. -/
structure IsSource (d : Disk) (s : Settings) (ix : Index) (f : SourceFile) : Prop where
  mem : .file f ∈ ix.scope
  ending : ∀ kind ending, ix.definitions.types.identifiers.get? kind = some ending →
    hasEnding f.path.fileName ending = false
  base : ∀ base, s.baseConfig = some base → (d.canonical base).same f.path = false
  project : ∀ p, .project p ∈ ix.scope → p.path.same f.path = false

/-- Two indexes are **the same but for the text of one file**, at a path, and for the items in it. -/
structure SameBut (ix ix' : Index) (p : Path) (text : String) : Prop where
  definitions : ix'.definitions = ix.definitions
  /-- The same files in the same order: with the same names, paths, definitions and texts, but for that one. -/
  files : ix'.scope.files = ix.scope.files.map (Component.retold p text)
  projects : ix'.scope.projects = ix.scope.projects
  /-- The items of all other files are the same, in the same order. -/
  items : ix'.scope.items.filter (fun c => !c.path.same p) = ix.scope.items.filter fun c => !c.path.same p

variable {d d' : Disk} {loc : Location} {old : ByteArray} {text : String} {s : Settings} {ds : Definitions}
  {ix ix' : Index} {f : SourceFile}

/-- A file of an index that is built **lies on the disk**, and its path is the one to its location. -/
theorem IsSource.exists_location (h : ix.IsSource d s f) (hb : Index.build? d s ds = .ok ix) :
    ∃ loc old, f.path = pathTo loc ∧ d.entry? (pathTo loc) = .ok (loc, .file old) := by
  obtain ⟨-, files, _, _, _, hfiles, -, -, -, hscope⟩ := Index.build?_eq_ok hb
  have hmem := h.mem
  rw [hscope, Scope.file_mem_assembled] at hmem
  obtain ⟨⟨p, c⟩, -, hload⟩ := Outcome.exists_of_mem_mapM hfiles hmem
  have hpath := (SourceFile.load?_eq_ok hload).2.1
  obtain ⟨content, hcontent, -⟩ := Outcome.bind_eq_ok.1 hload
  obtain ⟨loc, old, hentry⟩ := Disk.content?_eq_ok hcontent
  have hcanonical : d.canonical p = pathTo loc := by
    rw [← Disk.canonical_canonical, Disk.canonical_eq_pathTo hentry]
  rw [hcanonical] at hentry
  exact ⟨loc, old, hpath.trans hcanonical, hentry⟩

/-- **Indexes that are built by the same definitions**, before and after the text of a source is replaced. -/
theorem sameBut_of_build? (h : d.DiffersAt d' loc) (hold : d.entry? (pathTo loc) = .ok (loc, .file old))
    (htext : d'.content? (pathTo loc) = .ok text) (hf : ix.IsSource d s f) (hpath : f.path = pathTo loc)
    (hb : Index.build? d s ds = .ok ix) (hb' : Index.build? d' s ds = .ok ix') :
    ix.SameBut ix' (pathTo loc) text := by
  obtain ⟨rfl, files, ms, items, projects, hfiles, hms, hitems, hprojects, hscope⟩ := Index.build?_eq_ok hb
  obtain ⟨hds, files', ms', items', projects', hfiles', hms', hitems', hprojects', hscope'⟩ := Index.build?_eq_ok hb'
  obtain rfl := Definitions.files?_retold h hold htext hfiles hfiles'
  obtain rfl := Except.ok.inj (hms.symm.trans hms')
  have hapart : ∀ p ∈ projects, Project.LiesApart loc p := by
    intro p hp
    rw [Project.LiesApart, ← hpath]
    refine hf.project p ?_
    rw [hscope]
    exact (Scope.project_mem_assembled files items projects).2 hp
  have hsame := Definitions.projects?_of_differsAt h (fun base hbase => hpath ▸ hf.base base hbase) hapart hprojects
  obtain rfl := Except.ok.inj (hsame.symm.trans hprojects')
  refine ⟨hds, ?_, ?_, ?_⟩
  · rw [hscope, hscope', Scope.files_assembled, Scope.files_assembled, List.map_map, List.map_map]
    rfl
  · rw [hscope, hscope', Scope.projects_assembled, Scope.projects_assembled]
  · rw [hscope, hscope', Scope.items_assembled, Scope.items_assembled, List.filter_map, List.filter_map]
    exact congrArg _ (Definitions.items?_elsewhere hitems hitems')

end Index

/-- Two requests of one kind index **by the same definitions**, if what is resolved for one is resolved for the
    other. -/
theorem Indexer.definitions_eq {d d' : Disk} {x y y' : Indexer} {ix ix' : Index}
    (h : (x.index d = (.ok (), y) ∧ x.index d' = (.ok (), y')) ∨
      (x.refresh d = (.ok (), y) ∧ x.refresh d' = (.ok (), y')))
    (hview : y.view? = .ok ix) (hview' : y'.view? = .ok ix')
    (hagain : Definitions.resolve? d x.settings x.start = .ok ix.definitions →
      Definitions.resolve? d' x.settings x.start = .ok ix.definitions) : ix'.definitions = ix.definitions := by
  rcases h with ⟨hindex, hindex'⟩ | ⟨hrefresh, hrefresh'⟩
  · obtain ⟨jx, hshown, hkept, -⟩ := Indexer.index_eq_ok hindex
    obtain rfl : ix = jx := Except.ok.inj (hview.symm.trans hshown)
    obtain ⟨jx', hshown', hkept', -⟩ := Indexer.index_eq_ok hindex'
    obtain rfl : ix' = jx' := Except.ok.inj (hview'.symm.trans hshown')
    rcases hkept with hst | ⟨hst, hds⟩ <;> rcases hkept' with hst' | ⟨hst', hds'⟩
    · exact IndexState.resolved.inj (hst'.symm.trans hst)
    · cases hst.symm.trans hst'
    · cases hst.symm.trans hst'
    · exact Except.ok.inj (hds'.symm.trans (hagain hds))
  · obtain ⟨jx, hshown, hds, -⟩ := Indexer.refresh_eq_ok hrefresh
    obtain rfl : ix = jx := Except.ok.inj (hview.symm.trans hshown)
    obtain ⟨jx', hshown', hds', -⟩ := Indexer.refresh_eq_ok hrefresh'
    obtain rfl : ix' = jx' := Except.ok.inj (hview'.symm.trans hshown')
    exact Except.ok.inj (hds'.symm.trans (hagain hds))

/-- **When the text of a source is replaced.** Let a request index a tree in which no link is followed, and let it
    index the tree again after the text of one of its sources was replaced by another one: then both indexes are the
    same but for that text and the items in it. -/
theorem sameBut_of_index {d d' : Disk} {x y y' : Indexer} {ix : Index} {f : SourceFile} {text : String}
    (h : (x.index d = (.ok (), y) ∧ x.index d' = (.ok (), y')) ∨
      (x.refresh d = (.ok (), y) ∧ x.refresh d' = (.ok (), y')))
    (hview : y.view? = .ok ix) (hfollow : d.FollowsNone x.settings.followLinks ix.definitions.rootDir)
    (hf : ix.IsSource d x.settings f) (hwrite : d.write? f.path text.toUTF8 = .ok d') :
    ∃ ix', y'.view? = .ok ix' ∧ ix.SameBut ix' f.path text := by
  obtain ⟨jx, hshown, -, hbuilt⟩ := Indexer.exists_build? (h.imp And.left And.left)
  obtain rfl : ix = jx := Except.ok.inj (hview.symm.trans hshown)
  obtain ⟨ix', hview', -, hbuilt'⟩ := Indexer.exists_build? (h.imp And.right And.right)
  obtain ⟨loc, old, hpath, hold⟩ := hf.exists_location hbuilt
  rw [hpath] at hwrite
  obtain ⟨hdiffers, htext⟩ := Disk.differsAt_of_write? hold hwrite
  have hmarker : (d.canonical ix.definitions.rootMarker).same (pathTo loc) = false := by
    obtain ⟨root, own, more, hprojects⟩ := Index.HoldsProjects.of_build? hbuilt
    rw [← (Project.load?_eq_ok hprojects.loads).1, ← hpath]
    exact hf.project root hprojects.root_mem
  have hdefinitions : ix'.definitions = ix.definitions :=
    Indexer.definitions_eq h hview hview' <| Definitions.resolve?_of_differsAt hdiffers hfollow hmarker
      (fun base hbase => hpath ▸ hf.base base hbase) fun kind ending hkind => hpath ▸ hf.ending kind ending hkind
  rw [hdefinitions] at hbuilt'
  exact ⟨ix', hview', hpath ▸ Index.sameBut_of_build? hdiffers hold htext hf hpath hbuilt hbuilt'⟩

/-! ## 3. A text that is written anew -/

/-- Another text for the tree with one text: it has **two other sections**. -/
def otherText : String := "<bar\n>bar\n<baz\n>baz\n"

/-- The disk with the other text. -/
def otherDisk : Disk := textDisk.putFile ["a.txt"] otherText.toUTF8

theorem write?_otherText : textDisk.write? ⟨"/a.txt"⟩ otherText.toUTF8 = .ok otherDisk := by
  have htarget : (textDisk.target? ⟨"/a.txt"⟩).toOption = some ["a.txt"] := by
    decide +kernel
  exact Outcome.bind_eq_ok.2 ⟨_, Outcome.toOption_eq_some.1 htarget, rfl⟩

/-- The text **is a source** of its tree. -/
theorem isSource_textDisk : ∃ (y : Indexer) (ix : Index) (f : SourceFile),
    rootIndexer.index textDisk = (.ok (), y) ∧ y.view? = .ok ix ∧ f.path = ⟨"/a.txt"⟩ ∧
      ix.IsSource textDisk rootIndexer.settings f := by
  have hrun : (rootIndexer.index textDisk).2.view?.toOption.map (fun ix =>
      (ix.definitions.types.identifiers.entries.map (·.2), ix.scope.map fun c => (c.kind, c.path.text))) =
      some ([".kind", ".item"], [(.file, "/a.txt"), (.item, "/a.txt"), (.project, "/root.config")]) := by
    decide +kernel
  obtain ⟨ix, hview, hparts⟩ := Option.map_eq_some_iff.1 hrun
  obtain ⟨hendings, hscope⟩ := Prod.mk.inj hparts
  have hindex := Indexer.index_of_shown rfl (Outcome.toOption_eq_some.1 hview)
  obtain ⟨c, hc, hfile⟩ : ∃ c ∈ ix.scope, (c.kind, c.path.text) = (ComponentKind.file, "/a.txt") :=
    List.mem_map.1 (hscope ▸ List.mem_cons_self)
  obtain ⟨f, rfl⟩ : ∃ f, c = .file f := by
    cases c with
    | file f => exact ⟨f, rfl⟩
    | item i => cases hfile
    | project p => cases hfile
  have hpath : f.path = ⟨"/a.txt"⟩ := congrArg Path.mk (Prod.mk.inj hfile).2
  refine ⟨_, ix, f, hindex, rfl, hpath, hc, fun kind ending hkind => ?_, nofun, fun p hp => ?_⟩
  · have hmem : ending ∈ ix.definitions.types.identifiers.entries.map (·.2) :=
      List.mem_map.2 ⟨_, Dictionary.mem_entries_iff.2 hkind, rfl⟩
    have hnone : ∀ ending ∈ [".kind", ".item"], hasEnding (Path.fileName ⟨"/a.txt"⟩) ending = false := by
      decide +kernel
    rw [hpath]
    exact hnone ending (hendings ▸ hmem)
  · have hmem : (ComponentKind.project, p.path.text) ∈ ix.scope.map fun c => (c.kind, c.path.text) :=
      List.mem_map.2 ⟨_, hp, rfl⟩
    have htext : p.path.text = "/root.config" := by
      rw [hscope] at hmem
      simpa using hmem
    have hconfig : p.path = ⟨"/root.config"⟩ := congrArg Path.mk htext
    rw [hconfig, hpath]
    decide +kernel

/-- The sections of the new text **take the place of the old one**, and all else stays. -/
theorem sameBut_of_index_otherDisk : ∃ (y y' : Indexer) (ix ix' : Index) (f : SourceFile),
    rootIndexer.index textDisk = (.ok (), y) ∧ rootIndexer.index otherDisk = (.ok (), y') ∧
      y.view? = .ok ix ∧ y'.view? = .ok ix' ∧ ix.IsSource textDisk rootIndexer.settings f ∧
        textDisk.write? f.path otherText.toUTF8 = .ok otherDisk ∧ ix.SameBut ix' f.path otherText ∧
          ix'.scope.items.map (·.name) = ["bar", "baz"] := by
  obtain ⟨y, ix, f, hindex, hview, hpath, hf⟩ := isSource_textDisk
  have hrun : (rootIndexer.index otherDisk).2.view?.toOption.map (fun ix => ix.scope.items.map (·.name)) =
      some ["bar", "baz"] := by
    decide +kernel
  obtain ⟨jx, hview', hnames⟩ := Option.map_eq_some_iff.1 hrun
  have hindex' := Indexer.index_of_shown rfl (Outcome.toOption_eq_some.1 hview')
  have hwrite : textDisk.write? f.path otherText.toUTF8 = .ok otherDisk := by
    rw [hpath]
    exact write?_otherText
  have hfollow : textDisk.FollowsNone rootIndexer.settings.followLinks ix.definitions.rootDir :=
    Disk.followsNone_of_passing rfl _
  obtain ⟨ix', hshown, hsame⟩ := sameBut_of_index (Or.inl ⟨hindex, hindex'⟩) hview hfollow hf hwrite
  obtain rfl : jx = ix' := Except.ok.inj hshown
  exact ⟨y, _, ix, jx, f, hindex, hindex', hview, hshown, hf, hwrite, hsame, hnames⟩

end TreeIndex
