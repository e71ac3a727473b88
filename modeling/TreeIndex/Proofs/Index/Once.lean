import TreeIndex.Proofs.Index.Build
import TreeIndex.Proofs.Index.Files
import TreeIndex.Proofs.Indexer.Content

/-!
# Every file once

A file is known by its canonical path, and a walk may come by it under several names.

* `Disk.Parted`: two paths do not lead to one place;
* `files?_apart_iff`: files lie apart **exactly if the paths of the walk are parted**;
* `Index.OncePerFile`: no two files have one path, and what is found in a file is there once;
* **`oncePerFile_of_index`**: so it is of every index that a request leaves behind, except where links are
  followed and two paths of the walk lead to one file. `twice_linkDisk` is such a disk.
-/

namespace TreeIndex

/-! ## 1. Paths that lead to different places -/

/-- Two paths **do not lead to one place**. -/
def Disk.Parted (d : Disk) (p q : Path) : Prop :=
  ∀ (loc : Disk.Location) (e e' : Disk.Entry), d.entry? p = .ok (loc, e) → d.entry? q ≠ .ok (loc, e')

/-- Where something lies at two paths, they are parted **if their canonical paths say different things**. -/
theorem Disk.parted_iff {d : Disk} {p q : Path} {loc found : Disk.Location} {e f : Disk.Entry}
    (hp : d.entry? p = .ok (loc, e)) (hq : d.entry? q = .ok (found, f)) :
    d.Parted p q ↔ (d.canonical p).same (d.canonical q) = false := by
  constructor
  · intro h
    refine Bool.eq_false_iff.2 fun hsame => ?_
    obtain ⟨rfl, -⟩ := Disk.canonical_eq_of_same hp hq hsame
    exact h loc e f hp hq
  · intro h other e' f' hp' hq'
    have hsame : d.canonical p = d.canonical q := by
      rw [Disk.canonical_eq_pathTo hp', Disk.canonical_eq_pathTo hq']
    rw [hsame, Path.same_refl] at h
    cases h

/-! ## 2. Files that lie apart -/

namespace Definitions

variable {d : Disk} {s : Settings} {ds : Definitions} {files : List SourceFile}

/-- Files lie apart **exactly if the paths of the walk do not lead to one of them twice**. -/
theorem files?_apart_iff (h : ds.files? d s = .ok files) :
    files.Pairwise (fun f g => f.path.same g.path = false) ↔
      (ds.classified d s).Pairwise fun a b => d.Parted a.1 b.1 := by
  refine (Outcome.pairwise_iff_of_forall₂ (Outcome.mapM_eq_ok.1 h) fun a b f g hf hg => ?_).symm
  obtain ⟨-, hpath, _, _, hentry⟩ := SourceFile.load?_eq_ok hf
  obtain ⟨-, hpath', _, _, hentry'⟩ := SourceFile.load?_eq_ok hg
  rw [hpath, hpath']
  exact Disk.parted_iff hentry hentry'

end Definitions

/-! ## 3. Indexes in which every file stands once -/

/-- **Every file once**, and what is found in it. -/
structure Index.OncePerFile (ix : Index) : Prop where
  /-- No two files have one path, -/
  files_apart : ix.scope.files.Pairwise fun c c' => c.isAt c' = false
  /-- and the items at the path of a file are those that are found in it, each once. -/
  items_of : ∀ f, Component.file f ∈ ix.scope →
    ix.scope.items.filter (fun c => c.isAt (.file f)) = (ix.definitions.itemsOf f).map .item

namespace Index

variable {d : Disk} {s : Settings} {ds : Definitions} {ix : Index}

/-- Of files that lie apart, **one has the path of each**. -/
theorem filter_path_of_apart {files : List SourceFile}
    (h : files.Pairwise fun f g => f.path.same g.path = false) {f : SourceFile} (hf : f ∈ files) :
    files.filter (fun g => g.path.same f.path) = [f] := by
  obtain ⟨before, after, rfl⟩ := List.append_of_mem hf
  obtain ⟨-, hafter, hbefore⟩ := List.pairwise_append.1 h
  have hnone : before.filter (fun g => g.path.same f.path) = [] :=
    List.filter_eq_nil_iff.2 fun g hg => Bool.eq_false_iff.1 (hbefore g hg f List.mem_cons_self)
  have hrest : after.filter (fun g => g.path.same f.path) = [] := by
    refine List.filter_eq_nil_iff.2 fun g hg hsame => ?_
    have hne := (List.pairwise_cons.1 hafter).1 g hg
    rw [Path.same_iff.2 (Path.same_iff.1 hsame).symm] at hne
    cases hne
  rw [List.filter_append, hnone, List.filter_cons, hrest, if_pos (Path.same_refl f.path), List.nil_append]

/-- **When an index that is built holds every file once.** -/
theorem oncePerFile_iff (h : Index.build? d s ds = .ok ix) :
    ix.OncePerFile ↔ (s.followLinks = true → (ds.classified d s).Pairwise fun a b => d.Parted a.1 b.1) := by
  obtain ⟨rfl, files, ms, items, projects, hfiles, hms, hitems, -, hscope⟩ := Index.build?_eq_ok h
  have hlisted : ix.scope.files = files.map .file := by
    rw [hscope, Scope.files_assembled]
  constructor
  · intro hone _
    have hapart := hone.files_apart
    rw [hlisted] at hapart
    exact (Definitions.files?_apart_iff hfiles).1 (List.pairwise_map.1 hapart)
  · intro hparted
    have hapart : files.Pairwise fun f g => f.path.same g.path = false := by
      cases hs : s.followLinks with
      | true => exact (Definitions.files?_apart_iff hfiles).2 (hparted hs)
      | false =>
        have hnone := Disk.followsNone_of_passing (d := d) hs ix.definitions.rootDir
        refine (Definitions.files?_before hnone hfiles).imp fun hfg => ?_
        exact Bool.eq_false_iff.2 fun hsame => hfg.steps_ne (Path.same_iff.1 hsame)
    refine ⟨by rw [hlisted]; exact List.pairwise_map.2 hapart, fun f hf => ?_⟩
    have hmem : f ∈ files := by
      rw [hscope] at hf
      exact (Scope.file_mem_assembled files items projects).1 hf
    -- what is found in this file alone is what all items at its path are
    have hown := Definitions.items?_filter (fun g => g.path.same f.path) hitems
    rw [filter_path_of_apart hapart hmem] at hown
    have honly := (Definitions.items?_eq_flatMap hms hown).2
    rw [List.flatMap_cons, List.flatMap_nil, List.append_nil] at honly
    rw [hscope, Scope.items_assembled, ← honly, List.filter_map]
    rfl

end Index

/-- **Every file once.** A request to index, or to refresh, leaves an index behind in which no file stands twice,
    nor what is found in it; except where links are followed and two paths of the walk lead to one file. -/
theorem oncePerFile_of_index {d : Disk} {x y : Indexer}
    (h : x.index d = (.ok (), y) ∨ x.refresh d = (.ok (), y)) :
    ∃ ix, y.view? = .ok ix ∧ (ix.OncePerFile ↔ (x.settings.followLinks = true →
      (ix.definitions.classified d x.settings).Pairwise fun a b => d.Parted a.1 b.1)) := by
  obtain ⟨ix, hview, -, hbuilt⟩ := Indexer.exists_build? h
  exact ⟨ix, hview, Index.oncePerFile_iff hbuilt⟩

/-! ## 4. A text with two names -/

/-- The text, and **a link to it**. -/
def linkEntries : List (String × Disk.Entry) :=
  insertEntry "b.txt" (.link "a.txt") textEntries

theorem tidy_linkEntries : (Disk.Entry.folder linkEntries).Tidy :=
  tidy_textEntries.insert (by decide +kernel) trivial

/-- A disk with that link. -/
def linkDisk : Disk := ⟨linkEntries, [], tidy_linkEntries⟩

/-- An indexer that may follow links. -/
def linkIndexer (follow : Bool) : Indexer := { settings := { followLinks := follow }, start := ⟨"/"⟩ }

/-- The link is passed by, and the text stands once. -/
theorem oncePerFile_of_index_linkDisk : ∃ (y : Indexer) (ix : Index),
    (linkIndexer false).index linkDisk = (.ok (), y) ∧ y.view? = .ok ix ∧ ix.OncePerFile ∧
      ix.scope.map (fun c => (c.kind, c.name)) = [(.file, "a"), (.item, "foo"), (.project, "")] := by
  have hrun : ((linkIndexer false).index linkDisk).2.view?.toOption.map (fun ix =>
      ix.scope.map fun c => (c.kind, c.name)) =
      some [(.file, "a"), (.item, "foo"), (.project, "")] := by
    decide +kernel
  obtain ⟨ix, hview, hscope⟩ := Option.map_eq_some_iff.1 hrun
  have hindex := Indexer.index_of_shown rfl (Outcome.toOption_eq_some.1 hview)
  obtain ⟨jx, hshown, hone⟩ := oncePerFile_of_index (Or.inl hindex)
  obtain rfl : ix = jx := Except.ok.inj hshown
  exact ⟨_, ix, hindex, hshown, hone.2 nofun, hscope⟩

/-- Where the link is followed, **the text stands twice** under one path, and its section too. -/
theorem twice_linkDisk : ∃ (y : Indexer) (ix : Index),
    (linkIndexer true).index linkDisk = (.ok (), y) ∧ y.view? = .ok ix ∧
      ix.scope.map (fun c => (c.kind, c.path.text)) = [(.file, "/a.txt"), (.file, "/a.txt"),
        (.item, "/a.txt"), (.item, "/a.txt"), (.project, "/root.config")] ∧ ¬ ix.OncePerFile := by
  have hrun : ((linkIndexer true).index linkDisk).2.view?.toOption.map (fun ix =>
      ix.scope.map fun c => (c.kind, c.path.text)) = some [(.file, "/a.txt"), (.file, "/a.txt"),
        (.item, "/a.txt"), (.item, "/a.txt"), (.project, "/root.config")] := by
    decide +kernel
  obtain ⟨ix, hview, hscope⟩ := Option.map_eq_some_iff.1 hrun
  have hindex := Indexer.index_of_shown rfl (Outcome.toOption_eq_some.1 hview)
  refine ⟨_, ix, hindex, rfl, hscope, fun hone => ?_⟩
  have hfiles : ix.scope.files.map (fun c => c.path.text) = ["/a.txt", "/a.txt"] := by
    have hkind : ix.scope.files.map (fun c => c.path.text) =
        ((ix.scope.map fun c => (c.kind, c.path.text)).filter fun e => e.1 == .file).map (·.2) := by
      rw [Scope.files, Scope.ofKind, List.filter_map, List.map_map]
      rfl
    rw [hkind, hscope]
    rfl
  have hapart : (ix.scope.files.map fun c => c.path.text).Pairwise fun a b =>
      (Path.mk a).same ⟨b⟩ = false := List.pairwise_map.2 hone.files_apart
  rw [hfiles] at hapart
  exact absurd hapart (by decide +kernel)

end TreeIndex
