import TreeIndex.Disk.Change

/-!
# Bytes on their way to a file

A file that is written is opened first, which empties it, and is filled after that. It may be closed to who writes,
and the bytes may stop anywhere: the disk is full, or breaks. None of that can be read off the entries of a disk, nor
can that two names are names of one file.

* `Transfer`: how far bytes come that are sent to a file;
* `Circumstances`: what decides about writing **besides the entries**; `Circumstances.plain`: every file has one name,
  and nothing fails that the entries allow;
* `Circumstances.Describes`: circumstances that a disk can be in; `Circumstances.Completes`: a file that was opened to
  be written takes all bytes, and is read again;
* `writeTo`, `copyTo`: bytes that are written to a path, and a file that is copied there.
-/

namespace TreeIndex.Disk

/-! ## 1. Circumstances -/

/-- **How far bytes come** that are sent to a file. -/
inductive Transfer where
  | whole
  /-- The file is not opened, and stays as it was. -/
  | refused (failure : Failure)
  /-- The file was emptied, and holds so many of the bytes. -/
  | stopped (count : Nat) (failure : Failure)

/-- What decides about writing **besides the entries**. -/
structure Circumstances where
  /-- The other names of the file at a location. -/
  otherNames : Location → List Location := fun _ => []
  /-- Folders that are not made, though they could be. -/
  folder : Path → Option Failure := fun _ => none
  /-- How far the bytes of a backup come. -/
  backup : Transfer := .whole
  /-- How far the bytes come that are written. -/
  target : Transfer := .whole
  /-- Why what was written is not read again. -/
  reading : Option Failure := none

/-- Every file has one name, and **nothing fails** that the entries allow. -/
def Circumstances.plain : Circumstances := {}

namespace Circumstances

variable (c : Circumstances)

/-- **The names of the file** at a location. -/
def names (loc : Location) : List Location :=
  loc :: c.otherNames loc

/-- Other names are names **of the same file**. -/
structure Describes (d : Disk) : Prop where
  same : ∀ loc, ∀ other ∈ c.otherNames loc, ∃ bytes, d.at? loc = some (.file bytes) ∧ d.at? other = some (.file bytes)
  symm : ∀ loc, ∀ other ∈ c.otherNames loc, loc ∈ c.otherNames other

/-- A file that was **opened to be written** takes all bytes, and is read again. -/
structure Completes : Prop where
  target : ∀ count failure, c.target ≠ .stopped count failure
  reading : c.reading = none

end Circumstances

/-! ## 2. Files that are filled -/

/-- Puts a file at several locations. -/
def putAll (d : Disk) (locs : List Location) (bytes : ByteArray) : Disk :=
  locs.foldl (fun d loc => d.putFile loc bytes) d

/-- **Sends bytes** to a location, however far they come. They are seen under every name of the file. -/
def send (c : Circumstances) (t : Transfer) (loc : Location) (bytes : ByteArray) : Work Failure Unit := fun d =>
  match t with
  | .whole => (.ok (), d.putAll (c.names loc) bytes)
  | .refused failure => (.error failure, d)
  | .stopped count failure => (.error failure, d.putAll (c.names loc) (bytes.extract 0 count))

/-- **Writes bytes** to a path. -/
def writeTo (c : Circumstances) (p : Path) (bytes : ByteArray) : Work Failure Unit := do
  let loc ← Work.read fun d => d.target? p
  send c c.target loc bytes

/-- The file at the end of a path, where there has to be one. -/
def regular? (d : Disk) (p : Path) : Except Failure (Location × ByteArray) :=
  match d.entry? p with
  | .ok (loc, .file bytes) => .ok (loc, bytes)
  | .ok _ => .error .notAFile
  | .error f => .error f

/-- **Copies a file.** The target is emptied before the file is read, so that a file copied to itself is empty. -/
def copyTo (c : Circumstances) (source target : Path) : Work Failure Unit := do
  let (origin, bytes) ← Work.read fun d => d.regular? source
  let loc ← Work.read fun d => d.target? target
  send c c.backup loc (if origin ∈ c.names loc then ByteArray.empty else bytes)

end TreeIndex.Disk
