import Mathlib.Data.List.Nodup
import TreeIndex.Proofs.Disk.Ordered

/-!
# Files by the endings of their names

A walk beneath a folder sorts what it finds by the endings that are asked for.

* `prunes_eq_false_iff`, `hasEnding_iff`: names that are passed over, and endings;
* `mem_bucket_iff`, `bucket_eq`, `pairwise_bucket`: the paths of one ending;
* `get?_filesByEnding`: one bucket for each ending;
* `foundByEndings`: all of it.
-/

namespace TreeIndex.Disk

variable {d : Disk} {o : WalkOptions} {root p : Path}

/-! ## 1. Names -/

theorem hasEnding_iff {name ending : String} : hasEnding name ending = true ↔ ending.toList <:+ name.toList :=
  List.isSuffixOf_iff_suffix

/-- A name is **passed over** for an ending that is not empty. -/
theorem prunes_eq_false_iff {name : String} :
    o.prunes name = false ↔ ∀ prune ∈ o.prune, prune ≠ "" → ¬ prune.toList <:+ name.toList := by
  rw [WalkOptions.prunes, List.any_eq_false]
  refine forall₂_congr fun prune _ => ?_
  rw [Bool.and_eq_true, Bool.not_eq_true', String.isEmpty_eq_false_iff, hasEnding_iff, not_and]

/-! ## 2. Buckets -/

section Bucket

variable {endings : List String} {paths : List Path} {ending : String}

theorem mem_bucket_iff (h : ending ∈ endings) :
    p ∈ bucket endings paths ending ↔ p ∈ paths ∧ ending.toList <:+ p.fileName.toList := by
  rw [bucket, List.mem_flatMap]
  constructor
  · intro ⟨q, hq, hp⟩
    obtain rfl := List.eq_of_mem_replicate hp
    obtain ⟨hmem, hending⟩ := List.mem_filter.1 hq
    exact ⟨hmem, hasEnding_iff.1 hending⟩
  · intro ⟨hmem, hending⟩
    have hcount : endings.count ending ≠ 0 := (List.count_pos_iff.2 h).ne'
    exact ⟨p, List.mem_filter.2 ⟨hmem, hasEnding_iff.2 hending⟩, List.mem_replicate.2 ⟨hcount, rfl⟩⟩

/-- A bucket holds **every path with its ending once**, if endings are asked for once. -/
theorem bucket_eq (h : endings.Nodup) (hmem : ending ∈ endings) (paths : List Path) :
    bucket endings paths ending = paths.filter fun p => hasEnding p.fileName ending := by
  rw [bucket, List.count_eq_one_of_mem h hmem]
  simp

/-- A bucket **keeps the order** of the paths, be each in it once or several times. -/
theorem pairwise_bucket (h : paths.Pairwise Path.before) :
    (bucket endings paths ending).Pairwise fun p q => p = q ∨ p.before q := by
  rw [bucket, List.pairwise_flatMap]
  refine ⟨fun p _ => List.pairwise_replicate.2 (Or.inr (Or.inl rfl)), (h.filter _).imp ?_⟩
  intro p q hpq x hx y hy
  rw [List.eq_of_mem_replicate hx, List.eq_of_mem_replicate hy]
  exact Or.inr hpq

end Bucket

/-- **One bucket for each ending** that is asked for. -/
theorem get?_filesByEnding {endings : List String} {ending : String} {b : List Path} :
    (d.filesByEnding o root endings).get? ending = some b ↔
      ending ∈ endings ∧ bucket endings (d.filesBeneath o root) ending = b := by
  rw [filesByEnding, Dictionary.get?_ofList_map, Option.ite_none_right_eq_some, Option.some.injEq]

/-! ## 3. Files by their endings -/

/-- The path is that of a **file beneath a folder** whose name ends with a text; no name on the way to it is passed
    over, nor its own. -/
def Meets (o : WalkOptions) (root : Path) (es : List (String × Entry)) (ending : String) (p : Path) : Prop :=
  ∃ above name bytes, (Entry.folder es).at? (above ++ [name]) = some (.file bytes) ∧
    p = root.descend (above ++ [name]) ∧ ending.toList <:+ name.toList ∧
      ∀ step ∈ above ++ [name], ∀ prune ∈ o.prune, prune ≠ "" → ¬ prune.toList <:+ step.toList

/-- **What is found by endings** beneath a folder with some entries. -/
structure FoundByEndings (o : WalkOptions) (root : Path) (es : List (String × Entry)) (endings : List String)
    (found : Dictionary (List Path)) : Prop where
  /-- Each ending that is asked for has one bucket. -/
  nodup_keys : found.keys.Nodup
  mem_keys_iff : ∀ ending, ending ∈ found.keys ↔ ending ∈ endings
  /-- It holds the paths of the files that meet it. -/
  mem_iff : ∀ ending paths, found.get? ending = some paths → ∀ p, p ∈ paths ↔ Meets o root es ending p
  /-- A file whose name has another of the endings is in the other bucket as well. -/
  mem_other : ∀ ending other paths paths', found.get? ending = some paths → found.get? other = some paths' →
    ∀ p ∈ paths, other.toList <:+ p.fileName.toList → p ∈ paths'
  /-- The paths stand in order, and each once if no ending is asked for twice. -/
  ordered : ∀ ending paths, found.get? ending = some paths → paths.Pairwise fun p q => p = q ∨ p.before q
  strictly : endings.Nodup → ∀ ending paths, found.get? ending = some paths → paths.Pairwise Path.before

section Found

variable {loc : Location} {es : List (String × Entry)} (hroot : d.entry? root = .ok (loc, .folder es))
  (hfree : o.followLinks = true → (Entry.folder es).LinkFree)

include hroot hfree in
/-- A walk beneath a folder comes by **the files that meet an ending**. -/
theorem mem_filesBeneath_iff_meets {ending : String} :
    p ∈ d.filesBeneath o root ∧ ending.toList <:+ p.fileName.toList ↔ Meets o root es ending p := by
  have htidy : (Entry.folder es).Tidy := d.tidy.at? (entry?_lands hroot).1
  obtain ⟨htext, -⟩ := walk_of_entry? hroot
  rw [filesBeneath_of_folder hroot hfree, List.mem_map]
  constructor
  · rintro ⟨⟨rel, hrel, rfl⟩, hending⟩
    obtain ⟨⟨bytes, hfile⟩, hpruned⟩ := (mem_fileLocations_iff htidy).1 hrel
    rcases List.eq_nil_or_concat rel with rfl | ⟨above, name, rfl⟩
    · -- the folder itself is no file
      cases hfile
    · rw [List.concat_eq_append] at hfile hpruned hending ⊢
      rw [fileName_descend htext (htidy.isEntryName hfile)] at hending
      exact ⟨above, name, bytes, hfile, rfl, hending, fun step hstep => prunes_eq_false_iff.1 (hpruned step hstep)⟩
  · rintro ⟨above, name, bytes, hfile, rfl, hending, hpruned⟩
    rw [fileName_descend htext (htidy.isEntryName hfile)]
    refine ⟨⟨_, (mem_fileLocations_iff htidy).2 ⟨⟨bytes, hfile⟩, fun step hstep => ?_⟩, rfl⟩, hending⟩
    exact prunes_eq_false_iff.2 (hpruned step hstep)

include hroot hfree in
/-- **The files beneath a folder by the endings of their names**, beneath which no link is followed. -/
theorem foundByEndings (endings : List String) :
    FoundByEndings o root es endings (d.filesByEnding o root endings) := by
  have hordered := d.pairwise_filesBeneath o root
  refine ⟨Dictionary.nodup_keys _, fun ending => ?_, fun ending paths h p => ?_, ?_, fun ending paths h => ?_,
    fun hnodup ending paths h => ?_⟩
  · rw [Dictionary.mem_keys_iff]
    simp only [get?_filesByEnding, exists_and_left, exists_eq', and_true]
  · obtain ⟨hending, rfl⟩ := get?_filesByEnding.1 h
    rw [mem_bucket_iff hending, mem_filesBeneath_iff_meets hroot hfree]
  · intro ending other paths paths' h h' p hp hother
    obtain ⟨hending, rfl⟩ := get?_filesByEnding.1 h
    obtain ⟨hmem, rfl⟩ := get?_filesByEnding.1 h'
    exact (mem_bucket_iff hmem).2 ⟨((mem_bucket_iff hending).1 hp).1, hother⟩
  · obtain ⟨-, rfl⟩ := get?_filesByEnding.1 h
    exact pairwise_bucket hordered
  · obtain ⟨hending, rfl⟩ := get?_filesByEnding.1 h
    rw [bucket_eq hnodup hending]
    exact hordered.filter _

end Found

/-- A folder, a file whose name **comes after it**, and a folder that is passed over. -/
def scriptEntries : List (String × Entry) :=
  [("a", .folder [("b.py", .file ⟨#[]⟩)]), ("a.py", .file ⟨#[]⟩), ("skip", .folder [("c.py", .file ⟨#[]⟩)])]

theorem tidy_scriptEntries : (Entry.folder scriptEntries).Tidy := by
  simp only [scriptEntries, Entry.Tidy, TidyEntries]
  decide +kernel

theorem linkFree_scriptEntries : (Entry.folder scriptEntries).LinkFree := by
  simp only [scriptEntries, Entry.LinkFree, LinkFreeEntries, and_self]

/-- A disk with these entries. -/
def scriptDisk : Disk := ⟨scriptEntries, [], tidy_scriptEntries⟩

/-- What is asked for twice is found twice, in the order of the steps **and not of the texts**. -/
theorem foundByEndings_scriptDisk :
    FoundByEndings ⟨["", "skip"], true⟩ ⟨"/"⟩ scriptEntries [".py", "b.py", ".py"]
      (scriptDisk.filesByEnding ⟨["", "skip"], true⟩ ⟨"/"⟩ [".py", "b.py", ".py"]) ∧
    ((scriptDisk.filesByEnding ⟨["", "skip"], true⟩ ⟨"/"⟩ [".py", "b.py", ".py"]).entries.map fun e =>
      (e.1, e.2.map (·.text))) =
        [(".py", ["/a/b.py", "/a/b.py", "/a.py", "/a.py"]), ("b.py", ["/a/b.py"])] := by
  have hroot : scriptDisk.entry? ⟨"/"⟩ = .ok ([], .folder scriptEntries) := rfl
  exact ⟨foundByEndings hroot (fun _ => linkFree_scriptEntries) _, by decide +kernel⟩

end TreeIndex.Disk
