import TreeIndex.Proofs.Disk.Grown
import TreeIndex.Proofs.Faults
import TreeIndex.Proofs.Writing

/-!
# Files that may not be replaced

Whether something lies at a path is asked before the missing folders of the path are made, and the file is written
after that. A path that goes up from a missing folder leads nowhere when it is asked, and **to an old file** when it is
written to.

* `Unreplaced`, `unreplaced_of_write`: what writing leaves on the disk where nothing may be replaced -- if something
  lies at the path, it is refused; every file stays but the one that the path leads to at last; and where the path goes
  up only from what is there, **all files stay**, and what is written is a new file;
* `not_kept_of_write`: where it goes up from a missing folder, **a file is lost**.
-/

namespace TreeIndex

open Disk

/-! ## 1. What stays -/

/-- **What writing a file leaves on the disk** where nothing may be replaced, and what it answers. -/
structure Unreplaced (f : SourceFile) (p : Path) (d : Disk) (r : Except Fault SourceFile) (left : Disk) : Prop where
  /-- It is refused exactly if something lies at the path, -/
  refused_iff : (∃ q, r = .error (.conflict q)) ↔ d.holds p = true
  /-- and then nothing changes. -/
  untouched : ∀ q, r = .error (.conflict q) → q = p ∧ left = d
  /-- No file changes but the one that the path leads to at last. -/
  elsewhere : ∀ loc bytes, d.at? loc = some (.file bytes) → left.Misses loc p → left.at? loc = some (.file bytes)
  /-- If the path goes up only from what is there, no file changes at all, -/
  kept : d.Grounded p → ∀ loc bytes, d.at? loc = some (.file bytes) → left.at? loc = some (.file bytes)
  /-- and what is written lies where nothing was. -/
  fresh : d.Grounded p → ∀ g, r = .ok g → ∃ loc, left.entry? p = .ok (loc, .file f.content.toUTF8) ∧ d.at? loc = none

section Ways

variable {f : SourceFile} {p : Path} {d folders : Disk} {r : Except Fault SourceFile}

/-- An outcome that is a file, or a failure of the disk, **refuses nothing**. -/
theorem ne_conflict_of_faultsIn (hr : FaultsIn [.io] r) (q : Path) : r ≠ .error (.conflict q) := by
  intro h
  have hcategory := hr _ h
  cases List.mem_singleton.1 hcategory

/-- If something lies at the path, **nothing changes**. -/
theorem unreplaced_of_refused (hp : d.holds p = true) : Unreplaced f p d (.error (.conflict p)) d where
  refused_iff := ⟨fun _ => hp, fun _ => ⟨p, rfl⟩⟩
  untouched := fun q hq => ⟨by cases hq; rfl, rfl⟩
  elsewhere := fun _ _ hat _ => hat
  kept := fun _ _ _ hat => hat
  fresh := fun _ g hg => by cases hg

/-- If the file is never written, **only folders come in**. -/
theorem unreplaced_of_failed {q : Path} {failure : Failure} (hp : d.holds p = false) (hfolders : d.Grows folders) :
    Unreplaced f p d (.error (.io q failure)) folders where
  refused_iff := by
    rw [hp]
    exact iff_of_false (fun h => by obtain ⟨q, hq⟩ := h; cases hq) Bool.false_ne_true
  untouched := fun q hq => by cases hq
  elsewhere := fun loc bytes hat _ => (hfolders.file_iff loc List.not_mem_nil bytes).2 hat
  kept := fun _ loc bytes hat => (hfolders.file_iff loc List.not_mem_nil bytes).2 hat
  fresh := fun _ g hg => by cases hg

/-- If the file is written where the path leads once its folders are made, **no other file changes**, and an old one
    lies there only if the path goes up from what was missing. -/
theorem unreplaced_of_stored (hd : d.LinkFree) (hp : d.holds p = false) (hfolders : d.Grows folders) {loc : Location}
    (hloc : folders.target? p = .ok loc) (hr : FaultsIn [.io] r) :
    Unreplaced f p d r (folders.putFile loc f.content.toUTF8) := by
  have hfree := hfolders.linkFree hd
  obtain ⟨place, hplace, hplaceLoc, htakes⟩ := exists_place?_of_target? hfree hloc
  have hstored := entry?_of_target? hfree hloc f.content.toUTF8
  have hother (other : Location) (bytes : ByteArray) (hne : other ≠ loc) (hat : d.at? other = some (.file bytes)) :
      (folders.putFile loc f.content.toUTF8).at? other = some (.file bytes) := by
    have hnot : other ∉ [loc] := fun hmem => hne (List.mem_singleton.1 hmem)
    rw [(keepsFiles_putFile htakes f.content.toUTF8).file_iff other hnot]
    exact (hfolders.file_iff other List.not_mem_nil bytes).2 hat
  have hnew (hgrounded : d.Grounded p) : d.at? loc = none := by
    cases hat : d.at? loc with
    | none => rfl
    | some e =>
      -- the path led there before the folders were made, and then it would have been refused
      have hentry := entry?_of_grows hd hfolders hgrounded hplace (e := e) (by rw [hplaceLoc, hat])
      rw [holds, hentry] at hp
      cases hp
  exact
    { refused_iff := by
        rw [hp]
        exact iff_of_false (not_exists.2 (ne_conflict_of_faultsIn hr)) Bool.false_ne_true
      untouched := fun q hq => absurd hq (ne_conflict_of_faultsIn hr q)
      elsewhere := fun other bytes hat hmiss => by
        refine hother other bytes (fun heq => ?_) hat
        rw [heq] at hmiss
        exact hmiss _ hstored
      kept := fun hgrounded other bytes hat => by
        refine hother other bytes (fun heq => ?_) hat
        cases (heq ▸ hnew hgrounded).symm.trans hat
      fresh := fun hgrounded g _ => ⟨loc, hstored, hnew hgrounded⟩ }

end Ways

/-- **Writing a file where nothing may be replaced**, on a disk without links. -/
theorem unreplaced_of_write (f : SourceFile) (destination : Destination) (stamp : String) {o : WriteOptions} {d : Disk}
    (hd : d.LinkFree) (ho : o.overwrite = false) : Unreplaced f (destination.pathFor f stamp) d
      (f.write destination stamp o d).1 (f.write destination stamp o d).2 := by
  unfold SourceFile.write SourceFile.writeUnder
  generalize destination.pathFor f stamp = p
  cases hp : d.holds p with
  | true =>
    have hroom : makeRoom .plain p o d = (.error (.conflict p), d) := by
      rw [makeRoom, if_pos hp, ho]
      rfl
    rw [Work.bind_of_error hroom]
    exact unreplaced_of_refused hp
  | false =>
    have hroom : makeRoom .plain p o d = (.ok (), d) := by
      rw [makeRoom, hp, if_neg Bool.false_ne_true]
    rw [Work.bind_of_ok hroom]
    obtain ⟨folders, hgrows, ⟨q, failure, hfolders⟩ | hfolders⟩ := makeFolderOf_cases .plain hd p
    · rw [Work.bind_of_error hfolders]
      exact unreplaced_of_failed hp hgrows
    rw [Work.bind_of_ok hfolders]
    cases hloc : folders.target? p with
    | error failure =>
      have hwrite : writeTo .plain p f.content.toUTF8 folders = (.error failure, folders) :=
        Work.bind_of_error (Work.read_of_eq hloc)
      rw [Work.bind_of_error (Work.at_of_error hwrite p)]
      exact unreplaced_of_failed hp hgrows
    | ok loc =>
      have hwrite : writeTo .plain p f.content.toUTF8 folders = (.ok (), folders.putFile loc f.content.toUTF8) :=
        Work.bind_of_ok (Work.read_of_eq hloc)
      rw [Work.bind_of_ok (Work.at_of_ok hwrite p)]
      exact unreplaced_of_stored hd hp hgrows hloc (SourceFile.load?_faultsIn _ f.definition p)

/-! ## 2. Up from a folder -/

/-- A folder with nothing in it, and an old script. -/
def draftEntries : List (String × Entry) :=
  [("drafts", .folder []), ("tool.py", .file "old".toUTF8)]

theorem tidy_draftEntries : (Entry.folder draftEntries).Tidy := by
  simp only [draftEntries, Entry.Tidy, TidyEntries]
  decide +kernel

/-- Their disk. -/
def draftDisk : Disk := ⟨draftEntries, [], tidy_draftEntries⟩

theorem linkFree_draftDisk : draftDisk.LinkFree :=
  ⟨trivial, trivial, trivial⟩

theorem grounded_draftDisk : draftDisk.Grounded ⟨"drafts/../copy.py"⟩ := by
  intro before after hpieces
  have hall : pieces "drafts/../copy.py".toList = ["drafts", "..", "copy.py"] := by
    decide +kernel
  rw [hall] at hpieces
  obtain rfl : before = ["drafts"] := by
    rcases before with _ | ⟨_, _ | ⟨_, _ | ⟨_, _⟩⟩⟩ <;> simp_all
  exact ⟨["drafts"], .folder [], rfl⟩

/-- Up from the folder that is there, **a new file** is written beside the old one. -/
theorem unreplaced_of_write_drafts : draftDisk.Grounded ⟨"drafts/../copy.py"⟩ ∧
    Unreplaced newScript ⟨"drafts/../copy.py"⟩ draftDisk
      (newScript.write (.path ⟨"drafts/../copy.py"⟩) "" {} draftDisk).1
      (newScript.write (.path ⟨"drafts/../copy.py"⟩) "" {} draftDisk).2 ∧
    (newScript.write (.path ⟨"drafts/../copy.py"⟩) "" {} draftDisk).1.toOption.map (·.content) = some "new" ∧
    ["tool.py", "copy.py"].map (fun name =>
      ((newScript.write (.path ⟨"drafts/../copy.py"⟩) "" {} draftDisk).2.content? ⟨name⟩).toOption) =
        [some "old", some "new"] := by
  refine ⟨grounded_draftDisk, ?_, ?_, ?_⟩
  · exact unreplaced_of_write newScript (.path ⟨"drafts/../copy.py"⟩) "" linkFree_draftDisk rfl
  · decide +kernel
  · decide +kernel

/-- Up from a folder that is missing, **the old script is lost**, and writing succeeds. -/
theorem not_kept_of_write :
    (newScript.write (.path ⟨"missing/../tool.py"⟩) "" {} draftDisk).1.toOption.map (·.content) = some "new" ∧
    ¬ ∀ (f : SourceFile) (destination : Destination) (stamp : String) (o : WriteOptions) (d : Disk), d.LinkFree →
      o.overwrite = false → ∀ loc bytes, d.at? loc = some (.file bytes) →
        (f.write destination stamp o d).2.at? loc = some (.file bytes) := by
  refine ⟨by decide +kernel, fun h => ?_⟩
  have hkept := h newScript (.path ⟨"missing/../tool.py"⟩) "" {} draftDisk linkFree_draftDisk rfl ["tool.py"]
    "old".toUTF8 rfl
  have hread : ((newScript.write (.path ⟨"missing/../tool.py"⟩) "" {} draftDisk).2.content?
      (pathTo ["tool.py"])).toOption = some "new" := by
    decide +kernel
  obtain ⟨loc, bytes, hentry, htext⟩ := content?_eq_ok_iff.1 (Outcome.toOption_eq_some.1 hread)
  obtain ⟨-, hfile⟩ := entry?_pathTo hkept (by simp) hentry
  obtain rfl := Entry.file.inj hfile
  have hold : String.fromUTF8? "old".toUTF8 = some "old" := dif_pos "old".isValidUTF8
  exact absurd (hold.symm.trans htext) (by decide)

end TreeIndex
