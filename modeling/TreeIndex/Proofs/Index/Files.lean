import TreeIndex.Proofs.Index.Classes
import TreeIndex.Proofs.Outcome

/-!
# The files of an index

* `mem_of_classOf?`: the definition of a file is **one of files**, and one of those that were resolved;
* `load?_eq_ok`: a file that was read lies on the disk, under its canonical path;
* `files?_definition`, `files?_before`: so the files of a tree have definitions of files and, where no links are
  followed, stand **in the order of their paths**, whatever links stand on the disk.
-/

namespace TreeIndex

namespace Definitions

theorem mem_of_better {name : String} {best : Option Definition} {d c : Definition}
    (h : better name best d = some c) : best = some c ∨ d = c := by
  unfold better at h
  split at h
  · exact Or.inl h
  · split at h
    · exact Or.inr (Option.some.inj h)
    · exact Or.inl h

/-- The definition of a file **is one of files**. -/
theorem mem_of_classOf? {ds : Definitions} {name : String} {c : Definition}
    (h : ds.classOf? name = some c) : c ∈ ds.ofKind fileKind := by
  have hall : ∀ c, ds.classOf? name = some c → c ∈ ds.ofKind fileKind := by
    refine List.foldlRecOn (motive := fun best : Option Definition =>
      ∀ c, best = some c → c ∈ ds.ofKind fileKind) _ _ nofun fun best ih d hd c hc => ?_
    rcases mem_of_better hc with hbest | rfl
    · exact ih c hbest
    · exact hd
  exact hall c h

end Definitions

/-- A file that was read **lies on the disk**, and is known by its canonical path. -/
theorem SourceFile.load?_eq_ok {d : Disk} {c : Definition} {p : Path} {f : SourceFile}
    (h : SourceFile.load? d c p = .ok f) :
    f.definition = c ∧ f.path = d.canonical p ∧ ∃ loc e, d.entry? p = .ok (loc, e) := by
  obtain ⟨content, hcontent, h⟩ := Outcome.bind_eq_ok.1 h
  cases h
  refine ⟨rfl, rfl, ?_⟩
  cases he : d.entry? p with
  | ok found => exact ⟨found.1, found.2, rfl⟩
  | error failure =>
    -- the canonical path is the path itself then, and nothing can be read there
    have hpath : d.canonical p = p := by
      rw [Disk.canonical, he]
    have hbytes : d.bytes? p = .error failure := by
      rw [Disk.bytes?, he]
    have htext : d.text? p = .error failure := by
      rw [Disk.text?, hbytes]
      rfl
    rw [Disk.content?, hpath, htext] at hcontent
    cases hcontent

namespace Definitions

variable {d : Disk} {s : Settings} {ds : Definitions} {files : List SourceFile}

/-- The definitions of files **are definitions of files**. -/
theorem files?_definition (h : ds.files? d s = .ok files) :
    ∀ f ∈ files, f.definition ∈ ds.ofKind fileKind := by
  intro f hf
  obtain ⟨⟨p, c⟩, hmem, hload⟩ := Outcome.exists_of_mem_mapM h hf
  rw [(SourceFile.load?_eq_ok hload).1]
  exact mem_of_classOf? ((mem_classified_iff d s ds).1 hmem).2

/-- Where no links are followed, **the files of a tree** stand in the order of their paths. -/
theorem files?_before (hs : d.FollowsNone s.followLinks ds.rootDir)
    (h : ds.files? d s = .ok files) : files.Pairwise fun f g => f.path.before g.path := by
  have hwalk := Disk.pairwise_filesBeneath_following (o := ds.walkOptions s) hs
  have hclassified : (ds.classified d s).Pairwise fun a b =>
      ∀ {loc loc' : Disk.Location} {e e' : Disk.Entry}, d.entry? a.1 = .ok (loc, e) →
        d.entry? b.1 = .ok (loc', e') → (d.canonical a.1).before (d.canonical b.1) := by
    rw [classified_eq]
    refine List.pairwise_filterMap.2 (hwalk.imp ?_)
    rintro p q hpq a ha b hb
    obtain ⟨_, -, rfl⟩ := Option.map_eq_some_iff.1 ha
    obtain ⟨_, -, rfl⟩ := Option.map_eq_some_iff.1 hb
    exact hpq
  refine Outcome.pairwise_mapM (fun {a b f g} hab hf hg => ?_) hclassified h
  obtain ⟨-, hpath, _, _, hentry⟩ := SourceFile.load?_eq_ok hf
  obtain ⟨-, hpath', _, _, hentry'⟩ := SourceFile.load?_eq_ok hg
  rw [hpath, hpath']
  exact hab hentry hentry'

end Definitions

end TreeIndex
