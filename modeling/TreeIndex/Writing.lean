import TreeIndex.Content
import TreeIndex.Destination
import TreeIndex.Disk.Transfer

/-!
# Writing files

* `WriteOptions`: whether a file that is there is replaced, and whether it is kept as a backup;
* `backupPath`: where the backup of a path lies;
* `SourceFile.writeUnder`: writes the content of a file to a destination and reads it again from there. What was
  changed before a failure stays changed;
* `SourceFile.write`: the same where nothing fails that the entries of the disk allow.
-/

namespace TreeIndex

/-- What happens to a file **that is there already**. -/
structure WriteOptions where
  overwrite : Bool := false
  backup : Bool := false

/-- Where the backup of a path lies. -/
def backupPath (p : Path) : Path :=
  p.addText ".bak"

namespace Disk

/-- Work whose failures are faults at a path. -/
def Work.at {β : Type} (p : Path) (w : Work Failure β) : Work Fault β := fun d =>
  match w d with
  | (.ok x, d) => (.ok x, d)
  | (.error f, d) => (.error (.io p f), d)

section Steps

variable (c : Circumstances)

/-- Makes room for a file: refuses if something is there that may not be replaced, or **keeps a copy** of it. -/
def makeRoom (p : Path) (o : WriteOptions) : Work Fault Unit := fun d =>
  if d.holds p then
    if !o.overwrite then (.error (.conflict p), d)
    else if o.backup then Work.at (backupPath p) (copyTo c p (backupPath p)) d
    else (.ok (), d)
  else (.ok (), d)

/-- Makes the folder that a path lies in. -/
def makeFolderOf (p : Path) : Work Fault Unit :=
  match p.parent? with
  | some folder => if folder.text.isEmpty then pure () else (makeFoldersUnder c.folder folder).at folder
  | none => pure ()

/-- Reads a file **that was just written**. -/
def readBack? (d : Disk) (definition : Definition) (p : Path) : Except Fault SourceFile :=
  match c.reading with
  | some failure => .error (.io (d.canonical p) failure)
  | none => SourceFile.load? d definition p

end Steps

end Disk

open Disk

/-- **Writes the content of a file** to the path that a destination means, at a time given by its stamp, and
    answers with the file that is there now. -/
def SourceFile.writeUnder (c : Circumstances) (f : SourceFile) (destination : Destination) (stamp : String)
    (o : WriteOptions) : Work Fault SourceFile := do
  let p := destination.pathFor f stamp
  makeRoom c p o
  makeFolderOf c p
  Work.at p (writeTo c p f.content.toUTF8)
  Work.read fun d => readBack? c d f.definition p

/-- Writes the content of a file where **nothing fails** that the entries allow. -/
def SourceFile.write (f : SourceFile) (destination : Destination) (stamp : String) (o : WriteOptions) :
    Work Fault SourceFile :=
  f.writeUnder .plain destination stamp o

end TreeIndex
