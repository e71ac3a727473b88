import Mathlib.Data.List.Perm.Subperm
import TreeIndex.Disk.Walk
import TreeIndex.Proofs.Dictionary
import TreeIndex.Proofs.Disk.Place

/-!
# What a walk finds

* `Entry.fileLocations`: the locations of the files beneath an entry, as a walk comes by them;
* `mem_fileLocations_iff`: they are the locations of **all files, where no name is passed over**;
* `pairwise_fileLocations`: and they stand in the order of the names;
* `length_fileLocations`, `length_le_fileCount`: there are **as many as there are files**, so no more files can
  be told apart;
* `walkEntry_eq`: where no link is gone through, a walk finds the path **followed by these names**;
* `Beneath`: a file that lies beneath a path.
-/

namespace TreeIndex.Disk

/-! ## 1. Locations of files -/

mutual

/-- **The locations of the files** beneath an entry, without names that are passed over. -/
def Entry.fileLocations (prunes : String → Bool) : Entry → List Location
  | .file _ => [[]]
  | .link _ => []
  | .folder es => fileLocationsIn prunes es

/-- The locations of the files of some entries. -/
def fileLocationsIn (prunes : String → Bool) : List (String × Entry) → List Location
  | [] => []
  | (name, e) :: es =>
    (if prunes name then [] else (e.fileLocations prunes).map (name :: ·)) ++ fileLocationsIn prunes es

end

section Locations

variable {prunes : String → Bool}

/-- The locations of some entries are those of each of them. -/
theorem mem_fileLocationsIn_iff {rel : Location} : ∀ {es : List (String × Entry)},
    rel ∈ fileLocationsIn prunes es ↔ ∃ name e more, (name, e) ∈ es ∧ prunes name = false ∧
      more ∈ e.fileLocations prunes ∧ rel = name :: more
  | [] => by simp [fileLocationsIn]
  | (name, e) :: es => by
    rw [fileLocationsIn, List.mem_append, mem_fileLocationsIn_iff]
    constructor
    · rintro (h | ⟨name', e', more, hmem, hrest⟩)
      · split at h
        · cases h
        · rename_i hprunes
          obtain ⟨more, hmore, rfl⟩ := List.mem_map.1 h
          exact ⟨name, e, more, List.mem_cons_self, Bool.eq_false_iff.2 hprunes, hmore, rfl⟩
      · exact ⟨name', e', more, List.mem_cons_of_mem _ hmem, hrest⟩
    · rintro ⟨name', e', more, hmem, hprunes, hmore, rfl⟩
      rcases List.mem_cons.1 hmem with heq | hmem
      · cases heq
        refine Or.inl ?_
        rw [hprunes, if_neg Bool.false_ne_true]
        exact List.mem_map_of_mem hmore
      · exact Or.inr ⟨name', e', more, hmem, hprunes, hmore, rfl⟩

/-- A walk comes by **all files**, except where a name is passed over. -/
theorem mem_fileLocations_iff : ∀ {rel : Location} {e : Entry}, e.Tidy →
    (rel ∈ e.fileLocations prunes ↔
      (∃ bytes, e.at? rel = some (.file bytes)) ∧ ∀ name ∈ rel, prunes name = false)
  | [], e, _ => by
    cases e with
    | file bytes => simp [Entry.fileLocations, Entry.at?]
    | link target => simp [Entry.fileLocations, Entry.at?]
    | folder es =>
      rw [Entry.fileLocations, mem_fileLocationsIn_iff]
      simp [Entry.at?]
  | name :: rel, e, he => by
    cases e with
    | file bytes => simp [Entry.fileLocations, Entry.at?]
    | link target => simp [Entry.fileLocations, Entry.at?]
    | folder es =>
      obtain ⟨hasc, hes⟩ := tidy_folder_iff.1 he
      rw [Entry.fileLocations, mem_fileLocationsIn_iff, Entry.at?]
      constructor
      · rintro ⟨name', e', more, hmem, hprunes, hmore, heq⟩
        cases heq
        obtain ⟨hfile, hrest⟩ := (mem_fileLocations_iff (hes _ hmem).2).1 hmore
        refine ⟨?_, List.forall_mem_cons.2 ⟨hprunes, hrest⟩⟩
        rw [Dictionary.lookup_of_mem hasc hmem]
        exact hfile
      · rintro ⟨⟨bytes, hfile⟩, hrest⟩
        obtain ⟨e', hl, hfile⟩ := Option.bind_eq_some_iff.1 hfile
        have hmem := mem_of_lookup hl
        obtain ⟨hprunes, hrest⟩ := List.forall_mem_cons.1 hrest
        exact ⟨name, e', rel, hmem, hprunes,
          (mem_fileLocations_iff (hes _ hmem).2).2 ⟨⟨bytes, hfile⟩, hrest⟩, rfl⟩

mutual

/-- Locations come **in the order of their names**. -/
theorem pairwise_fileLocations : ∀ (e : Entry), e.Tidy →
    (e.fileLocations prunes).Pairwise (List.Lex (· < ·))
  | .file _, _ => List.pairwise_singleton _ _
  | .link _, _ => List.Pairwise.nil
  | .folder es, h => by
    rw [Entry.fileLocations]
    rw [Entry.Tidy] at h
    exact pairwise_fileLocationsIn es h.1 h.2

theorem pairwise_fileLocationsIn : ∀ (es : List (String × Entry)), Ascending es → TidyEntries es →
    (fileLocationsIn prunes es).Pairwise (List.Lex (· < ·))
  | [], _, _ => List.Pairwise.nil
  | (name, e) :: es, hasc, h => by
    rw [TidyEntries] at h
    obtain ⟨hlt, hasc⟩ := List.pairwise_cons.1 hasc
    rw [fileLocationsIn]
    refine List.pairwise_append.2 ⟨?_, pairwise_fileLocationsIn es hasc h.2.2, fun a ha b hb => ?_⟩
    · split
      · exact List.Pairwise.nil
      · exact List.pairwise_map.2 ((pairwise_fileLocations e h.2.1).imp fun hab => .cons hab)
    · split at ha
      · cases ha
      · obtain ⟨more, -, rfl⟩ := List.mem_map.1 ha
        obtain ⟨name', e', more', hmem, -, -, rfl⟩ := mem_fileLocationsIn_iff.1 hb
        exact .rel (hlt _ hmem)

end

mutual

theorem length_fileLocations : ∀ e : Entry, (e.fileLocations fun _ => false).length = e.fileCount
  | .file _ => rfl
  | .link _ => rfl
  | .folder es => length_fileLocationsIn es

theorem length_fileLocationsIn : ∀ es : List (String × Entry),
    (fileLocationsIn (fun _ => false) es).length = fileCountIn es
  | [] => rfl
  | (name, e) :: es => by
    rw [fileLocationsIn, fileCountIn, List.length_append, length_fileLocationsIn es]
    simp [length_fileLocations e]

end

/-- Files at different locations are **no more than there are on the disk**. -/
theorem length_le_fileCount {d : Disk} {locs : List Location} (hnodup : locs.Nodup)
    (hfiles : ∀ loc ∈ locs, ∃ bytes, d.at? loc = some (.file bytes)) :
    locs.length ≤ (Entry.folder d.entries).fileCount := by
  rw [← length_fileLocations]
  refine (hnodup.subperm fun loc hloc => ?_).length_le
  exact (mem_fileLocations_iff d.tidy).2 ⟨hfiles loc hloc, fun _ _ => rfl⟩

end Locations

/-! ## 2. Walks -/

section Walks

variable {through : List Location → Path → List Path} {prunes : String → Bool}

mutual

/-- Where no link stands, or links are passed by, a walk finds **the path followed by the names** of the files. -/
theorem walkEntry_eq : ∀ (e : Entry) (above : List Location) (loc : Location) (p : Path),
    (e.LinkFree ∨ ∀ above p, through above p = []) →
      walkEntry through prunes above loc p e = (e.fileLocations prunes).map p.descend
  | .file _, _, _, _, _ => rfl
  | .link _, above, _, p, h => by
    rcases h with hfree | hpassed
    · rw [Entry.LinkFree] at hfree
      exact hfree.elim
    · rw [walkEntry, hpassed]
      rfl
  | .folder es, above, loc, p, h => by
    rw [Entry.LinkFree] at h
    rw [walkEntry, Entry.fileLocations]
    exact walkEntries_eq es (loc :: above) loc p h

theorem walkEntries_eq : ∀ (es : List (String × Entry)) (above : List Location) (loc : Location)
    (p : Path), (LinkFreeEntries es ∨ ∀ above p, through above p = []) →
      walkEntries through prunes above loc p es = (fileLocationsIn prunes es).map p.descend
  | [], _, _, _, _ => rfl
  | (name, e) :: es, above, loc, p, h => by
    rw [LinkFreeEntries] at h
    rw [walkEntries, fileLocationsIn, List.map_append, walkEntries_eq es above loc p (h.imp_left And.right)]
    congr 1
    split
    · rfl
    · rw [walkEntry_eq e above (loc ++ [name]) (p.child name) (h.imp_left And.left), List.map_map]
      rfl

end

end Walks

/-- A file lies **beneath a path**: at the path followed by names, or at the path itself. -/
def Beneath (d : Disk) (root p : Path) : Prop :=
  ∃ loc e rel bytes, d.entry? root = .ok (loc, e) ∧ e.at? rel = some (.file bytes) ∧ p = root.descend rel

end TreeIndex.Disk
