import TreeIndex.Component
import TreeIndex.Disk.Place
import TreeIndex.Yaml.Document

/-!
# The content of files

What the files of a disk say, or the fault that they do not say it.

* `content?`: the text of a file;
* `value?`: the value of the document in a file; one that says nothing, or null, says the empty mapping;
* `mapping?`: the entries of a document that must be a mapping;
* `SourceFile.load?`: a file of some definition, under its canonical path.
-/

namespace TreeIndex

open Yaml (Value Mapping)

namespace Disk

/-- The **text** of a file. -/
def content? (d : Disk) (p : Path) : Except Fault String :=
  match d.text? p with
  | .ok text => .ok text
  | .error f => .error (.io p f)

/-- What the **document** in a file says. -/
def value? (d : Disk) (p : Path) : Except Fault Value := do
  let text ← d.content? p
  match Value.ofText? text with
  | .ok .null => .ok (.mapping [])
  | .ok v => .ok v
  | .error _ => .error (.malformed p)

/-- The entries of the document in a file. -/
def mapping? (d : Disk) (p : Path) : Except Fault Mapping := do
  match ← d.value? p with
  | .mapping entries => .ok entries
  | other => .error (.configuration p (.notAMapping other))

end Disk

/-- **A file of some definition**, as it is on the disk; its name does not keep the definition's suffix. -/
def SourceFile.load? (d : Disk) (definition : Definition) (p : Path) : Except Fault SourceFile := do
  let path := d.canonical p
  let content ← d.content? path
  .ok ⟨SourceFile.nameFor definition path, path, definition, content⟩

end TreeIndex
