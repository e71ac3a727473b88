import TreeIndex.Proofs.Disk.Shape
import TreeIndex.Proofs.Disk.Transfer
import TreeIndex.Writing

/-!
# Files that are written

A file is written in several steps, and each of them may fail when others have taken effect: a file or a folder is not
what it would have to be, or is closed, or bytes stop on their way. What was there before **is not lost** before the
file itself was opened; from then on it is in the backup, or nowhere.

* `locate_backupPath_ne`: a backup lies **beside its file**, under a name of its own;
* `Backed`, `Spared`, `KeepsSpared`: room for a file, and what a backup leaves alone;
* `Course`, `course_of_write`: **how writing goes** -- it is refused, it fails before the file was opened or after that,
  or the file is stored and read again;
* `Written`, `written_of_write`: what that leaves on the disk, **in whatever circumstances**. A file that may not be
  replaced is not touched, a file that is replaced is in its backup, and no other file changes, whether writing succeeds
  or fails; and if a file that was opened takes all bytes and is read again, no failure changes the file at all;
* `lost_of_write`: if it does not, and there is no backup, **the old text is gone**;
* `old_of_write`: where nothing fails that the entries allow, no failure needs a condition.
-/

namespace TreeIndex

open Disk

/-! ## 1. Backups -/

section Backups

variable {p : Path} {d : Disk}

theorem names_backupPath (hp : NamesFile p) : ∃ front name, names p.text.toList = front ++ [name] ∧
    names (backupPath p).text.toList = front ++ [name ++ ".bak"] :=
  names_addText hp (by decide)

/-- The name of a backup is **longer**: by four characters. -/
theorem backup_ne {name other : String} (h : other.toList.length < name.toList.length + 4) :
    name ++ ".bak" ≠ other := by
  intro he
  have hlength := congrArg (fun s => s.toList.length) he
  rw [String.toList_append, List.length_append] at hlength
  have hbak : ".bak".toList.length = 4 := rfl
  omega

theorem up_notMem_backupPath (hp : NamesFile p) (hup : Step.up ∉ p.steps) : Step.up ∉ (backupPath p).steps := by
  obtain ⟨front, name, hnames, hbackup⟩ := names_backupPath hp
  rw [up_mem_steps_iff, hnames, List.mem_append, not_or] at hup
  rw [up_mem_steps_iff, hbackup, List.mem_append, not_or, List.mem_singleton]
  have hshort : "..".toList.length < name.toList.length + 4 := Nat.lt_of_lt_of_le (by decide) (Nat.le_add_left 4 _)
  exact ⟨hup.1, (backup_ne hshort).symm⟩

/-- A backup lies **elsewhere**. -/
theorem locate_backupPath_ne (hp : NamesFile p) : d.locate (backupPath p) ≠ d.locate p := by
  obtain ⟨front, name, hnames, hbackup⟩ := names_backupPath hp
  have hdot : name ≠ "." := by
    rintro rfl
    exact hp.dot (by rw [hnames, List.getLast?_concat])
  have hbakDot : name ++ ".bak" ≠ "." := backup_ne (Nat.lt_of_lt_of_le (by decide) (Nat.le_add_left 4 _))
  have hne : name ++ ".bak" ≠ name := backup_ne (Nat.lt_add_of_pos_right (by decide))
  intro he
  have hlast := congrArg List.getLast? he
  simp only [locate, hnames, hbackup, List.filter_append, List.filter_cons_of_pos, hdot, hbakDot, ne_eq,
    not_false_eq_true, decide_true, List.filter_nil, ← List.append_assoc, List.getLast?_concat,
    Option.some.injEq] at hlast
  exact hne hlast

end Backups

/-! ## 2. Work at a path -/

namespace Disk.Work

variable {β : Type} {w : Work Failure β} {d d' : Disk}

theorem at_of_ok {x : β} (h : w d = (.ok x, d')) (p : Path) : Work.at p w d = (.ok x, d') := by
  rw [Work.at, h]

theorem at_of_error {failure : Failure} (h : w d = (.error failure, d')) (p : Path) :
    Work.at p w d = (.error (.io p failure), d') := by
  rw [Work.at, h]

end Disk.Work

/-! ## 3. How writing goes -/

/-- **Room was made** for a file: a copy is kept of what was there, if it is asked for, and nothing else changes. -/
structure Backed (c : Circumstances) (p : Path) (o : WriteOptions) (d room : Disk) : Prop where
  copied : d.holds p = true → o.backup = true → ∃ old, d.entry? p = .ok (d.locate p, .file old) ∧
    Stores c d room (backupPath p)
      (if d.locate p ∈ c.names (d.locate (backupPath p)) then ByteArray.empty else old)
  same : ¬ (d.holds p = true ∧ o.backup = true) → room = d

/-- A file **apart from the backup**: no copy is kept, or it is another file than the copy. -/
def Spared (c : Circumstances) (p : Path) (o : WriteOptions) (d : Disk) (loc : Location) : Prop :=
  d.holds p = true → o.backup = true → Apart c d (backupPath p) loc

/-- All files apart from the backup **are the same**. -/
def KeepsSpared (c : Circumstances) (p : Path) (o : WriteOptions) (d room : Disk) : Prop :=
  ∃ changed, d.KeepsFiles room changed ∧
    ∀ loc bytes, d.at? loc = some (.file bytes) → Spared c p o d loc → loc ∉ changed

/-- **How writing a file goes**: it is refused, it fails before the file was opened, it fails after that, or the file is
    stored and read again. -/
inductive Course (c : Circumstances) (f : SourceFile) (p : Path) (o : WriteOptions) (d : Disk) :
    Except Fault SourceFile → Disk → Prop
  | refused (hp : d.holds p = true) (ho : o.overwrite = false) : Course c f p o d (.error (.conflict p)) d
  | failed {left : Disk} {q : Path} {failure : Failure} (ho : d.holds p = true → o.overwrite = true)
      (hleft : KeepsSpared c p o d left) : Course c f p o d (.error (.io q failure)) left
  | broken {room folders left : Disk} {q : Path} {failure : Failure} {bytes : ByteArray}
      (ho : d.holds p = true → o.overwrite = true) (hroom : Backed c p o d room)
      (hfolders : room.KeepsFiles folders []) (hleft : Stores c folders left p bytes) (hc : ¬ c.Completes) :
      Course c f p o d (.error (.io q failure)) left
  | written {room folders left : Disk} (ho : d.holds p = true → o.overwrite = true) (hroom : Backed c p o d room)
      (hfolders : room.KeepsFiles folders []) (hleft : Stores c folders left p f.content.toUTF8) :
      Course c f p o d
        (.ok ⟨SourceFile.nameFor f.definition (left.canonical p), left.canonical p, f.definition, f.content⟩) left

/-- The folder of a file is made, or cannot be made. **Only folders come in.** -/
theorem makeFolderOf_cases (c : Circumstances) {d : Disk} (hd : d.LinkFree) (p : Path) : ∃ folders, d.Grows folders ∧
    ((∃ q failure, makeFolderOf c p d = (.error (.io q failure), folders)) ∨
      makeFolderOf c p d = (.ok (), folders)) := by
  unfold makeFolderOf
  cases p.parent? with
  | none => exact ⟨d, .refl d, Or.inr rfl⟩
  | some folder =>
    dsimp only
    by_cases hempty : folder.text.isEmpty = true
    · rw [if_pos hempty]
      exact ⟨d, .refl d, Or.inr rfl⟩
    · rw [if_neg hempty]
      have hgrows := grows_makeFoldersUnder c.folder hd folder
      rcases hmade : makeFoldersUnder c.folder folder d with ⟨_ | _, folders⟩ <;> rw [hmade] at hgrows
      · exact ⟨folders, hgrows, Or.inl ⟨folder, _, Work.at_of_error hmade folder⟩⟩
      · exact ⟨folders, hgrows, Or.inr (Work.at_of_ok hmade folder)⟩

/-- Where something lies, the folder around it **is there**. -/
theorem makeFolderOf_of_entry (c : Circumstances) {p : Path} {d : Disk} {loc : Location} {e : Entry} (hd : d.LinkFree)
    (h : d.entry? p = .ok (loc, e)) :
    makeFolderOf c p d = (.ok (), d) := by
  unfold makeFolderOf
  cases hparent : p.parent? with
  | none => rfl
  | some folder =>
    dsimp only
    by_cases hempty : folder.text.isEmpty = true
    · rw [if_pos hempty]
      rfl
    · rw [if_neg hempty]
      obtain ⟨above, es, habove⟩ := exists_folder_of_parent? hd h hparent fun he => hempty (String.isEmpty_iff.2 he)
      exact Work.at_of_ok (makeFoldersUnder_of_folder c.folder hd habove) folder

/-- Nothing changes but the backup, and **after that nothing but folders**. -/
theorem KeepsSpared.trans {c : Circumstances} {p : Path} {o : WriteOptions} {d room folders : Disk}
    (h : KeepsSpared c p o d room) (hfolders : room.KeepsFiles folders []) : KeepsSpared c p o d folders := by
  obtain ⟨changed, hkeeps, hmissed⟩ := h
  refine ⟨changed ++ [], hkeeps.trans hfolders, fun loc bytes hat hspared => ?_⟩
  rw [List.append_nil]
  exact hmissed loc bytes hat hspared

theorem keepsSpared_refl (c : Circumstances) (p : Path) (o : WriteOptions) (d : Disk) : KeepsSpared c p o d d :=
  ⟨[], .refl d, fun _ _ _ _ => List.not_mem_nil⟩

section Steps

variable {c : Circumstances} {p : Path} {o : WriteOptions} {d d' room : Disk} {bytes : ByteArray}
  (hd : d.LinkFree) (hup : Step.up ∉ p.steps)

include hd hup

/-- A text that was stored at a path **can be read again** from there. -/
theorem load?_of_stores {text : String} (hhere : d.HereFits) (h : Stores c d d' p text.toUTF8)
    (definition : Definition) : SourceFile.load? d' definition p =
      .ok ⟨SourceFile.nameFor definition (d'.canonical p), d'.canonical p, definition, text⟩ := by
  have hentry := h.entry? hd hup
  have hcanonical := entry?_canonical (h.keeps.linkFree hd) (h.keeps.hereFits hhere) hentry
  exact Outcome.bind_eq_ok.2 ⟨text, content?_of_file hcanonical, rfl⟩

variable (hc : c.Describes d)

include hc

/-- However much of a backup is stored, **all files apart from it are the same**. -/
theorem keepsSpared_of_stores (hp : NamesFile p) (hholds : d.holds p = true) (hbackup : o.backup = true)
    (h : Stores c d d' (backupPath p) bytes) : KeepsSpared c p o d d' :=
  ⟨c.names (d.locate (backupPath p)), h.keeps, fun _ _ hat hspared =>
    notMem_names_of_apart hd (up_notMem_backupPath hp hup) hc h.names hat (hspared hholds hbackup)⟩

theorem Backed.keepsSpared (h : Backed c p o d room) : KeepsSpared c p o d room := by
  by_cases hboth : d.holds p = true ∧ o.backup = true
  · obtain ⟨old, hentry, hstores⟩ := h.copied hboth.1 hboth.2
    exact keepsSpared_of_stores hd hup hc ((entry?_eq_file_iff hd hup).1 hentry).1 hboth.1 hboth.2 hstores
  · rw [h.same hboth]
    exact keepsSpared_refl c p o d

/-- A copy is kept, or **cannot be kept**. What has come of it by then changes nothing else. -/
theorem copyTo_backupPath_cases (hholds : d.holds p = true) (hbackup : o.backup = true) :
    (∃ failure room, copyTo c p (backupPath p) d = (.error failure, room) ∧ KeepsSpared c p o d room) ∨
      ∃ room, copyTo c p (backupPath p) d = (.ok (), room) ∧ Backed c p o d room := by
  by_cases hfile : ∃ found old, d.entry? p = .ok (found, .file old)
  · obtain ⟨found, old, hentry⟩ := hfile
    obtain ⟨hp, rfl, -⟩ := (entry?_eq_file_iff hd hup).1 hentry
    have harrival := arrival_of_copyTo hd (up_notMem_backupPath hp hup) hc.fits hentry
    rcases hcopy : copyTo c p (backupPath p) d with ⟨_ | _, room⟩ <;> rw [hcopy] at harrival
    · refine Or.inl ⟨_, room, rfl, ?_⟩
      cases harrival with
      | closed => exact keepsSpared_refl c p o _
      | stopped _ hstores => exact keepsSpared_of_stores hd hup hc hp hholds hbackup hstores
    · cases harrival with
      | whole hstores =>
        exact Or.inr ⟨room, rfl, fun _ _ => ⟨old, hentry, hstores⟩, fun hnot => absurd ⟨hholds, hbackup⟩ hnot⟩
  · obtain ⟨failure, hcopy⟩ :=
      copyTo_of_not_file (c := c) (p := backupPath p) fun found old hentry => hfile ⟨found, old, hentry⟩
    exact Or.inl ⟨failure, d, hcopy, keepsSpared_refl c p o d⟩

/-- Room is refused, cannot be made, **or is made**. -/
theorem makeRoom_cases (o : WriteOptions) :
    (d.holds p = true ∧ o.overwrite = false ∧ makeRoom c p o d = (.error (.conflict p), d)) ∨
      (d.holds p = true → o.overwrite = true) ∧
        ((∃ q failure room, makeRoom c p o d = (.error (.io q failure), room) ∧ KeepsSpared c p o d room) ∨
          ∃ room, makeRoom c p o d = (.ok (), room) ∧ Backed c p o d room) := by
  unfold makeRoom
  by_cases hp : d.holds p = true
  · rw [if_pos hp]
    cases ho : o.overwrite with
    | false => exact Or.inl ⟨hp, rfl, rfl⟩
    | true =>
      refine Or.inr ⟨fun _ => rfl, ?_⟩
      rw [if_neg (by decide)]
      by_cases hb : o.backup = true
      · rw [if_pos hb]
        rcases copyTo_backupPath_cases hd hup hc hp hb with ⟨failure, room, hcopy, hkeeps⟩ | ⟨room, hcopy, hbacked⟩
        · exact Or.inl ⟨backupPath p, failure, room, Work.at_of_error hcopy _, hkeeps⟩
        · exact Or.inr ⟨room, Work.at_of_ok hcopy _, hbacked⟩
      · rw [if_neg hb]
        exact Or.inr ⟨d, rfl, fun _ hb' => absurd hb' hb, fun _ => rfl⟩
  · rw [if_neg hp]
    exact Or.inr ⟨fun hp' => absurd hp' hp, Or.inr ⟨d, rfl, fun hp' => absurd hp' hp, fun _ => rfl⟩⟩

end Steps

/-- What was stored is read again, **or reading fails** for a reason of its own. -/
theorem readBack?_cases {c : Circumstances} {p : Path} {d d' : Disk} {text : String} (hd : d.LinkFree)
    (hup : Step.up ∉ p.steps) (hhere : d.HereFits) (h : Stores c d d' p text.toUTF8) (definition : Definition) :
    (¬ c.Completes ∧ ∃ q failure, readBack? c d' definition p = .error (.io q failure)) ∨
      readBack? c d' definition p =
        .ok ⟨SourceFile.nameFor definition (d'.canonical p), d'.canonical p, definition, text⟩ := by
  unfold readBack?
  cases hreading : c.reading with
  | some failure =>
    refine Or.inl ⟨fun hc => ?_, d'.canonical p, failure, rfl⟩
    rw [hc.reading] at hreading
    cases hreading
  | none => exact Or.inr (load?_of_stores hd hup hhere h definition)

/-- **Writing goes one of these ways.** -/
theorem course_of_write (c : Circumstances) (f : SourceFile) (destination : Destination) (stamp : String)
    (o : WriteOptions) {d : Disk} (hd : d.LinkFree) (hhere : d.HereFits)
    (hup : Step.up ∉ (destination.pathFor f stamp).steps) (hc : c.Describes d) :
    Course c f (destination.pathFor f stamp) o d
      (f.writeUnder c destination stamp o d).1 (f.writeUnder c destination stamp o d).2 := by
  unfold SourceFile.writeUnder
  generalize destination.pathFor f stamp = p at hup ⊢
  rcases makeRoom_cases hd hup hc o with ⟨hp, ho, hroom⟩ | ⟨ho, ⟨q, failure, room, hroom, hkeeps⟩ | ⟨room, hroom, hbacked⟩⟩
  · rw [Work.bind_of_error hroom]
    exact .refused hp ho
  · rw [Work.bind_of_error hroom]
    exact .failed ho hkeeps
  rw [Work.bind_of_ok hroom]
  have hspared := hbacked.keepsSpared hd hup hc
  have ⟨_, hroomKept, _⟩ := hspared
  obtain ⟨folders, ⟨hkept, -⟩, ⟨q, failure, hfolders⟩ | hfolders⟩ := makeFolderOf_cases c (hroomKept.linkFree hd) p
  · rw [Work.bind_of_error hfolders]
    exact .failed ho (hspared.trans hkept)
  rw [Work.bind_of_ok hfolders]
  have hfoldersKept := hroomKept.trans hkept
  have hfoldersFree := hfoldersKept.linkFree hd
  have harrival := arrival_of_writeTo hfoldersFree hup (hc.fits.of_keepsFiles hfoldersKept) f.content.toUTF8
  rcases hwrite : writeTo c p f.content.toUTF8 folders with ⟨_ | _, left⟩ <;> rw [hwrite] at harrival
  · rw [Work.bind_of_error (Work.at_of_error hwrite p)]
    cases harrival with
    | closed => exact .failed ho (hspared.trans hkept)
    | stopped ht hstores => exact .broken ho hbacked hkept hstores fun hcomplete => hcomplete.target _ _ ht
  · rw [Work.bind_of_ok (Work.at_of_ok hwrite p)]
    cases harrival with
    | whole hstores =>
      rcases readBack?_cases hfoldersFree hup (hfoldersKept.hereFits hhere) hstores f.definition with
        ⟨hbroken, q, failure, hread⟩ | hread
      · rw [Work.read_of_eq hread]
        exact .broken ho hbacked hkept hstores hbroken
      · rw [Work.read_of_eq hread]
        exact .written ho hbacked hkept hstores

/-! ## 4. What it leaves on the disk -/

/-- **What writing a file leaves on the disk**, and what it answers. -/
structure Written (c : Circumstances) (f : SourceFile) (p : Path) (o : WriteOptions) (d : Disk)
    (r : Except Fault SourceFile) (left : Disk) : Prop where
  /-- It is refused exactly if something is there that may not be replaced, -/
  refused_iff : (∃ q, r = .error (.conflict q)) ↔ d.holds p = true ∧ o.overwrite = false
  /-- and then nothing changes. -/
  untouched : ∀ q, r = .error (.conflict q) → q = p ∧ left = d
  /-- What was written is there, and the answer says so. -/
  content : ∀ g, r = .ok g → (∃ loc, left.entry? p = .ok (loc, .file f.content.toUTF8)) ∧ g.content = f.content ∧
    g.definition = f.definition ∧ g.path = left.canonical p
  /-- What was there before is in the backup, if that is another file. -/
  backup : ∀ g, r = .ok g → d.holds p = true → o.backup = true → ∃ loc old, d.entry? p = .ok (loc, .file old) ∧
    (Apart c d (backupPath p) loc → ∃ copy, left.entry? (backupPath p) = .ok (copy, .file old))
  /-- All other files are as they were, -/
  kept : ∀ g, r = .ok g → ∀ loc bytes, d.at? loc = some (.file bytes) → Apart c d p loc → Spared c p o d loc →
    left.at? loc = some (.file bytes)
  /-- also after a failure. -/
  others : ∀ fault, r = .error fault → ∀ loc bytes, d.at? loc = some (.file bytes) → Apart c d p loc →
    Spared c p o d loc → left.at? loc = some (.file bytes)
  /-- If a file that was opened takes all bytes and is read again, all files but the backup are, -/
  failed : c.Completes → ∀ fault, r = .error fault → ∀ loc bytes, d.at? loc = some (.file bytes) →
    Spared c p o d loc → left.at? loc = some (.file bytes)
  /-- and so what was there before is not lost. -/
  old : c.Completes → ∀ fault, r = .error fault → ∀ loc bytes, d.entry? p = .ok (loc, .file bytes) →
    Spared c p o d loc → left.entry? p = .ok (loc, .file bytes)
  /-- If it does not, what was there before is not lost where a copy is kept of it. -/
  saved : ∀ fault, r = .error fault → o.backup = true → ∀ loc bytes, d.entry? p = .ok (loc, .file bytes) →
    Apart c d (backupPath p) loc → left.entry? p = .ok (loc, .file bytes) ∨
      ∃ copy, left.entry? (backupPath p) = .ok (copy, .file bytes)

section Course

variable {c : Circumstances} {f : SourceFile} {p : Path} {o : WriteOptions} {d room left : Disk} {loc : Location}
  {bytes : ByteArray}

theorem not_refused (ho : d.holds p = true → o.overwrite = true) : ¬ (d.holds p = true ∧ o.overwrite = false) := by
  rintro ⟨hp, hoff⟩
  rw [ho hp] at hoff
  cases hoff

theorem KeepsSpared.at? (h : KeepsSpared c p o d left) (hat : d.at? loc = some (.file bytes))
    (hspared : Spared c p o d loc) : left.at? loc = some (.file bytes) := by
  obtain ⟨changed, hkeeps, hmissed⟩ := h
  exact (hkeeps.file_iff loc (hmissed loc bytes hat hspared) bytes).2 hat

variable (hd : d.LinkFree) (hup : Step.up ∉ p.steps)

include hd hup

/-- What was there before is there still, if **all files but the backup** are. -/
theorem KeepsSpared.entry? (h : KeepsSpared c p o d left) (hentry : d.entry? p = .ok (loc, .file bytes))
    (hspared : Spared c p o d loc) : left.entry? p = .ok (loc, .file bytes) := by
  obtain ⟨hnames, hloc, hat⟩ := (entry?_eq_file_iff hd hup).1 hentry
  have hleft := h.at? hat hspared
  obtain ⟨changed, hkeeps, -⟩ := h
  exact (entry?_eq_file_iff (hkeeps.linkFree hd) hup).2 ⟨hnames, hkeeps.locate_eq p ▸ hloc, hleft⟩

variable {folders : Disk} (hc : c.Describes d) (hbacked : Backed c p o d room)
  (hfolders : room.KeepsFiles folders []) (hleft : Stores c folders left p bytes)

include hc hbacked hfolders hleft

/-- Once the file was opened, **all others are as they were**. -/
theorem at?_of_stores {other : Location} {content : ByteArray} (hat : d.at? other = some (.file content))
    (hapart : Apart c d p other) (hspared : Spared c p o d other) : left.at? other = some (.file content) := by
  have hkept := (hbacked.keepsSpared hd hup hc).trans hfolders
  have hbefore := hkept.at? hat hspared
  obtain ⟨changed, hkeeps, -⟩ := hkept
  have hnot : other ∉ c.names (folders.locate p) := by
    rw [hkeeps.locate_eq]
    exact notMem_names_of_apart hd hup hc hleft.names hat hapart
  exact (hleft.keeps.file_iff other hnot content).2 hbefore

/-- And **the backup is still there**, if it is another file. -/
theorem entry?_backupPath_of_stores (hp : d.holds p = true) (hb : o.backup = true) : ∃ loc old,
    d.entry? p = .ok (loc, .file old) ∧
      (Apart c d (backupPath p) loc → ∃ copy, left.entry? (backupPath p) = .ok (copy, .file old)) := by
  obtain ⟨old, hentry, hstores⟩ := hbacked.copied hp hb
  obtain ⟨hnames, -, hat⟩ := (entry?_eq_file_iff hd hup).1 hentry
  have hbackup := up_notMem_backupPath hnames hup
  refine ⟨d.locate p, old, hentry, fun hapart => ⟨left.locate (backupPath p), ?_⟩⟩
  have hnot := notMem_names_of_apart hd hbackup hc hstores.names hat hapart
  rw [if_neg hnot] at hstores
  have hkeeps := (hstores.keeps.trans hfolders).trans hleft.keeps
  refine (entry?_eq_file_iff (hkeeps.linkFree hd) hbackup).2 ⟨hstores.names, rfl, ?_⟩
  have hother : d.locate (backupPath p) ∉ c.names (folders.locate p) := by
    rw [(hstores.keeps.trans hfolders).locate_eq]
    exact notMem_names_symm hc (locate_backupPath_ne hnames) hnot
  rw [hkeeps.locate_eq, hleft.keeps.file_iff _ hother, hfolders.file_iff _ List.not_mem_nil]
  exact hstores.holds

end Course

/-- **Whichever way writing goes**, this is what it leaves. -/
theorem written_of_course {c : Circumstances} {f : SourceFile} {p : Path} {o : WriteOptions} {d left : Disk}
    {r : Except Fault SourceFile} (hd : d.LinkFree) (hup : Step.up ∉ p.steps) (hc : c.Describes d)
    (h : Course c f p o d r left) : Written c f p o d r left := by
  cases h with
  | refused hp ho =>
    exact
      { refused_iff := ⟨fun _ => ⟨hp, ho⟩, fun _ => ⟨p, rfl⟩⟩
        untouched := fun q hq => ⟨by cases hq; rfl, rfl⟩
        content := fun g hg => by cases hg
        backup := fun g hg => by cases hg
        kept := fun g hg => by cases hg
        others := fun _ _ _ _ hat _ _ => hat
        failed := fun _ _ _ _ _ hat _ => hat
        old := fun _ _ _ _ _ hentry _ => hentry
        saved := fun _ _ _ _ _ hentry _ => Or.inl hentry }
  | @failed left q failure ho hleft =>
    exact
      { refused_iff := iff_of_false (fun hr => by obtain ⟨q, hq⟩ := hr; cases hq) (not_refused ho)
        untouched := fun q hq => by cases hq
        content := fun g hg => by cases hg
        backup := fun g hg => by cases hg
        kept := fun g hg => by cases hg
        others := fun _ _ _ _ hat _ hspared => hleft.at? hat hspared
        failed := fun _ _ _ _ _ hat hspared => hleft.at? hat hspared
        old := fun _ _ _ _ _ hentry hspared => hleft.entry? hd hup hentry hspared
        saved := fun _ _ _ _ _ hentry hapart => Or.inl (hleft.entry? hd hup hentry fun _ _ => hapart) }
  | @broken room folders left q failure bytes ho hbacked hfolders hleft hbroken =>
    exact
      { refused_iff := iff_of_false (fun hr => by obtain ⟨q, hq⟩ := hr; cases hq) (not_refused ho)
        untouched := fun q hq => by cases hq
        content := fun g hg => by cases hg
        backup := fun g hg => by cases hg
        kept := fun g hg => by cases hg
        others := fun _ _ _ _ hat hapart hspared => at?_of_stores hd hup hc hbacked hfolders hleft hat hapart hspared
        failed := fun hcomplete => absurd hcomplete hbroken
        old := fun hcomplete => absurd hcomplete hbroken
        saved := fun _ _ hb loc bytes hentry hapart => by
          have hp : d.holds p = true := by
            rw [holds, hentry]
            rfl
          obtain ⟨found, old, hfound, hcopy⟩ := entry?_backupPath_of_stores hd hup hc hbacked hfolders hleft hp hb
          cases hentry.symm.trans hfound
          exact Or.inr (hcopy hapart) }
  | @written room folders left ho hbacked hfolders hleft =>
    obtain ⟨changed, hkeeps, -⟩ := (hbacked.keepsSpared hd hup hc).trans hfolders
    exact
      { refused_iff := iff_of_false (fun hr => by obtain ⟨q, hq⟩ := hr; cases hq) (not_refused ho)
        untouched := fun q hq => by cases hq
        content := fun g hg => by
          cases hg
          exact ⟨⟨_, hleft.entry? (hkeeps.linkFree hd) hup⟩, rfl, rfl, rfl⟩
        backup := fun _ _ hp hb => entry?_backupPath_of_stores hd hup hc hbacked hfolders hleft hp hb
        kept := fun _ _ _ _ hat hapart hspared => at?_of_stores hd hup hc hbacked hfolders hleft hat hapart hspared
        others := fun fault hfault => by cases hfault
        failed := fun _ fault hfault => by cases hfault
        old := fun _ fault hfault => by cases hfault
        saved := fun fault hfault => by cases hfault }

/-- A script, an older copy of it, the same script under another name, and something else. -/
def writtenEntries : List (String × Entry) :=
  [("notes.txt", .file "notes".toUTF8), ("same.py", .file "old".toUTF8), ("tool.py", .file "old".toUTF8),
    ("tool.py.bak", .file "older".toUTF8)]

theorem tidy_writtenEntries : (Entry.folder writtenEntries).Tidy :=
  tidy_of_files (by decide) (by decide) (by decide)

/-- Their disk. -/
def writtenDisk : Disk := ⟨writtenEntries, [], tidy_writtenEntries⟩

/-- The script and its other name. -/
def scriptNames (loc : Location) : List Location :=
  if loc = ["tool.py"] then [["same.py"]] else if loc = ["same.py"] then [["tool.py"]] else []

/-- What is written. -/
def newScript : SourceFile :=
  ⟨"tool", ⟨"tool.py"⟩, ⟨"script", "file", .suffix ".py", ∅, [], ⟨"script.file.index"⟩⟩, "new"⟩

/-- It is written where the old one is. -/
def rewritten (c : Circumstances) (o : WriteOptions) : Except Fault SourceFile × Disk :=
  newScript.writeUnder c (.path ⟨"tool.py"⟩) "" o writtenDisk

/-- Whether that succeeds, and the texts of the four files then. -/
def textsAfter (c : Circumstances) (o : WriteOptions) : Bool × List (Option String) :=
  ((rewritten c o).1.isOk, ["notes.txt", "same.py", "tool.py", "tool.py.bak"].map fun name =>
    ((rewritten c o).2.content? ⟨name⟩).toOption)

theorem describes_scriptNames {c : Circumstances} (h : c.otherNames = scriptNames) : c.Describes writtenDisk := by
  have hcases (loc other : Location) (hother : other ∈ c.otherNames loc) :
      (loc = ["tool.py"] ∧ other = ["same.py"]) ∨ (loc = ["same.py"] ∧ other = ["tool.py"]) := by
    rw [h, scriptNames] at hother
    split at hother
    · exact Or.inl ⟨‹_›, List.mem_singleton.1 hother⟩
    split at hother
    · exact Or.inr ⟨‹_›, List.mem_singleton.1 hother⟩
    · cases hother
  constructor
  · intro loc other hother
    rcases hcases loc other hother with ⟨rfl, rfl⟩ | ⟨rfl, rfl⟩ <;> exact ⟨"old".toUTF8, rfl, rfl⟩
  · intro loc other hother
    rw [h]
    rcases hcases loc other hother with ⟨rfl, rfl⟩ | ⟨rfl, rfl⟩ <;> decide

/-- **What was there is lost** where no copy is kept of it and the file is opened in vain: it holds what came of the new
    text. -/
theorem lost_of_write {c : Circumstances} (f : SourceFile) (destination : Destination) (stamp : String)
    {o : WriteOptions} {d : Disk} (hd : d.LinkFree) (hup : Step.up ∉ (destination.pathFor f stamp).steps)
    (hc : c.Describes d) (hbroken : ¬ c.Completes) (hopened : ∀ failure, c.target ≠ .refused failure)
    (ho : o.overwrite = true) (hb : o.backup = false) {loc : Location} {old : ByteArray}
    (h : d.entry? (destination.pathFor f stamp) = .ok (loc, .file old)) :
    ∃ fault count, (f.writeUnder c destination stamp o d).1 = .error fault ∧
      Disk.entry? (f.writeUnder c destination stamp o d).2 (destination.pathFor f stamp) =
        .ok (loc, .file (f.content.toUTF8.extract 0 count)) := by
  unfold SourceFile.writeUnder
  generalize destination.pathFor f stamp = p at hup h ⊢
  have hholds : d.holds p = true := by
    rw [holds, h]
    rfl
  have hroom : makeRoom c p o d = (.ok (), d) := by
    rw [makeRoom, if_pos hholds, ho, hb]
    rfl
  rw [Work.bind_of_ok hroom, Work.bind_of_ok (makeFolderOf_of_entry c hd h)]
  have htarget := target?_of_file hd hup h
  have hloc := ((entry?_eq_file_iff hd hup).1 h).2.1
  have hstored (bytes : ByteArray) : Disk.entry? (d.putAll (c.names loc) bytes) p = .ok (loc, .file bytes) := by
    have hstores := stores_of_target? hd hup hc.fits htarget bytes
    rw [hstores.entry? hd hup, hstores.keeps.locate_eq, ← hloc]
  have hsend : writeTo c p f.content.toUTF8 d = send c c.target loc f.content.toUTF8 d :=
    Work.bind_of_ok (Work.read_of_eq htarget)
  cases ht : c.target with
  | refused failure => exact absurd ht (hopened failure)
  | stopped count failure =>
    have hwrite : writeTo c p f.content.toUTF8 d =
        (.error failure, d.putAll (c.names loc) (f.content.toUTF8.extract 0 count)) := by
      rw [hsend, ht]
      rfl
    rw [Work.bind_of_error (Work.at_of_error hwrite p)]
    exact ⟨_, count, rfl, hstored _⟩
  | whole =>
    have hwrite : writeTo c p f.content.toUTF8 d = (.ok (), d.putAll (c.names loc) f.content.toUTF8) := by
      rw [hsend, ht]
      rfl
    rw [Work.bind_of_ok (Work.at_of_ok hwrite p)]
    cases hreading : c.reading with
    | none =>
      refine absurd ⟨fun count failure => ?_, hreading⟩ hbroken
      rw [ht]
      exact nofun
    | some failure =>
      have hread : readBack? c (d.putAll (c.names loc) f.content.toUTF8) f.definition p =
          .error (.io ((d.putAll (c.names loc) f.content.toUTF8).canonical p) failure) := by
        rw [readBack?, hreading]
      rw [Work.read_of_eq hread]
      refine ⟨_, f.content.toUTF8.size, rfl, ?_⟩
      rw [ByteArray.extract_zero_size]
      exact hstored _

/-- On a disk that is full after one byte of the backup, the old text stays; after one byte of the new text it is in the
    backup, and nowhere if none is kept. -/
example :
    textsAfter { backup := .stopped 1 .storageFull } ⟨true, true⟩ =
      (false, [some "notes", some "old", some "old", some "o"]) ∧
    textsAfter { target := .stopped 1 .storageFull } ⟨true, true⟩ =
      (false, [some "notes", some "old", some "n", some "old"]) ∧
    textsAfter { target := .stopped 1 .storageFull } ⟨true, false⟩ =
      (false, [some "notes", some "old", some "n", some "older"]) := by
  decide +kernel

/-! ## 7. Where nothing fails -/

theorem describes_plain (d : Disk) : Circumstances.plain.Describes d :=
  ⟨fun _ _ hother => absurd hother List.not_mem_nil, fun _ _ hother => absurd hother List.not_mem_nil⟩

theorem completes_plain : Circumstances.plain.Completes :=
  ⟨fun _ _ => nofun, rfl⟩

/-- A file with one name is **another one than its backup**. -/
theorem apart_backupPath {c : Circumstances} {p : Path} {d : Disk} {loc : Location} {bytes : ByteArray}
    (hd : d.LinkFree) (hup : Step.up ∉ p.steps) (hc : c.Describes d) (hnames : c.otherNames loc = [])
    (h : d.entry? p = .ok (loc, .file bytes)) : Apart c d (backupPath p) loc := by
  obtain ⟨hp, rfl, hat⟩ := (entry?_eq_file_iff hd hup).1 h
  intro found e he hmem
  rcases List.mem_cons.1 hmem with rfl | hother
  · obtain rfl := Option.some.inj ((entry?_lands he).1.symm.trans hat)
    obtain ⟨-, hloc, -⟩ := (entry?_eq_file_iff hd (up_notMem_backupPath hp hup)).1 he
    exact locate_backupPath_ne hp hloc.symm
  · have hback := hc.symm _ _ hother
    rw [hnames] at hback
    exact List.not_mem_nil hback

/-- Where nothing fails that the entries allow, what was there before **is not lost** in any failure. -/
theorem old_of_write (f : SourceFile) (destination : Destination) (stamp : String) (o : WriteOptions) {d : Disk}
    (hd : d.LinkFree) (hhere : d.HereFits) (hup : Step.up ∉ (destination.pathFor f stamp).steps) {fault : Fault}
    (hfault : (f.write destination stamp o d).1 = .error fault) {loc : Location} {bytes : ByteArray}
    (h : d.entry? (destination.pathFor f stamp) = .ok (loc, .file bytes)) :
    Disk.entry? (f.write destination stamp o d).2 (destination.pathFor f stamp) = .ok (loc, .file bytes) := by
  have hcourse := course_of_write .plain f destination stamp o hd hhere hup (describes_plain d)
  refine (written_of_course hd hup (describes_plain d) hcourse).old completes_plain fault hfault loc bytes h ?_
  exact fun _ _ => apart_backupPath hd hup (describes_plain d) rfl h

end TreeIndex
