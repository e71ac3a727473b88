import TreeIndex.Content
import TreeIndex.Yaml.Decode

/-!
# Projects on a disk

A project is what its configuration file says: a name and its dependencies.

* `ProjectRecord.ofValue?`: what a configuration says;
* `Project.load?`: the project of a configuration file. A root marker may leave out the name, which is then
  that of its folder;
* `Project.dependencyPath?`: the configuration file of a dependency, seen from the project's folder. A folder
  stands for the root marker in it;
* `Project.withDependencies?`: a project and everything it depends on, directly or not, each once;
* `baseDependencies?`: what a base configuration depends on. It is no project itself.
-/

namespace TreeIndex

open Yaml

/-! ## 1. Configurations of projects -/

/-- What the configuration of a project **says**. -/
structure ProjectRecord where
  name : Option String := none
  dependencies : List Dependency := []
deriving Inhabited

/-- A dependency while its fields are read. -/
structure DependencyDraft where
  name : Option String := none
  path : Option String := none

namespace DependencyDraft

/-- Reads one field. -/
def set? (draft : DependencyDraft) (field : String) (v : Value) : Except Mismatch DependencyDraft :=
  if field = "name" then do
    let name ← textOf? .text v
    .ok { draft with name := some name }
  else do
    let path ← textOf? .path v
    .ok { draft with path := some path }

/-- The dependency, if no field is missing. -/
def finish? (draft : DependencyDraft) : Except Mismatch Dependency :=
  match draft.name, draft.path with
  | some name, some path => .ok ⟨name, ⟨path⟩⟩
  | none, _ => .error (.missing "name")
  | _, none => .error (.missing "path")

end DependencyDraft

/-- A dependency from a value. -/
def Dependency.ofValue? (v : Value) : Except Mismatch Dependency := do
  let draft ← fieldsOf? "Dependency" ["name", "path"] DependencyDraft.set? {} v
  draft.finish?

namespace ProjectRecord

/-- Reads one field. -/
def set? (r : ProjectRecord) (field : String) (v : Value) : Except Mismatch ProjectRecord :=
  if field = "name" then do
    let name ← optional? (textOf? .text) v
    .ok { r with name := name }
  else do
    let dependencies ← itemsOf? Dependency.ofValue? v
    .ok { r with dependencies := dependencies }

/-- What a value says of a project. -/
def ofValue? (v : Value) : Except Mismatch ProjectRecord :=
  fieldsOf? "ProjectConfig" ["name", "dependencies"] set? {} v

/-- What a configuration file says of a project. -/
def load? (d : Disk) (p : Path) : Except Fault ProjectRecord := do
  let v ← d.value? p
  match ofValue? v with
  | .ok r => .ok r
  | .error mismatch => .error (.mismatched p mismatch)

end ProjectRecord

/-! ## 2. Projects -/

namespace Project

/-- The folder of the configuration file. -/
def folder (p : Project) : Path :=
  p.path.folder

/-- The name of the folder in which a path lies. -/
def folderName (p : Path) : String :=
  p.folder.fileName

/-- **The project of a configuration file.** -/
def load? (d : Disk) (marker : String) (p : Path) : Except Fault Project := do
  let path := d.canonical p
  let r ← ProjectRecord.load? d path
  match r.name with
  | some name => .ok ⟨name, path, r.dependencies⟩
  | none =>
    if path.fileName? = some marker then .ok ⟨folderName path, path, r.dependencies⟩
    else .error (.configuration path .unnamedProject)

/-! ## 3. Dependencies -/

/-- Where the configuration file of a dependency is looked for. -/
def candidate (d : Disk) (marker : String) (p : Project) (dependency : Dependency) : Path :=
  let path := p.folder.join dependency.path
  if d.isFolder path then path.child marker else path

/-- The **configuration file** of a dependency. -/
def dependencyPath? (d : Disk) (marker : String) (p : Project) (dependency : Dependency) :
    Except Fault Path :=
  let path := candidate d marker p dependency
  if d.isFile path then .ok (d.canonical path)
  else .error (.discovery (.noDependency dependency.name p.name p.path path))

/-- The path is one of those that were visited. -/
def isAmong (visited : List Path) (p : Path) : Bool :=
  visited.any p.same

/-- The projects that some dependencies mean, in their order, without those that were visited. **The last one
    is read first**, so its fault comes before those of the others. -/
def dependencies? (d : Disk) (marker : String) (visited : List Path) (p : Project) :
    List Dependency → Except Fault (List Project)
  | [] => .ok []
  | dependency :: rest => do
    let later ← dependencies? d marker visited p rest
    let path ← dependencyPath? d marker p dependency
    if isAmong visited path then .ok later
    else do
      let q ← load? d marker path
      .ok (q :: later)

/-- The projects that are reached from some pending ones, **each before its dependencies**, without those that
    were visited; at most so many are left to visit. -/
def reach? (d : Disk) (marker : String) :
    Nat → List Path → List Project → Except Fault (List Project)
  | 0, _, _ => .ok []
  | left + 1, visited, pending =>
    match pending.dropWhile fun p => isAmong visited p.path with
    | [] => .ok []
    | p :: rest => do
      let visited := p.path :: visited
      let found ← dependencies? d marker visited p p.dependencies
      let reached ← reach? d marker left visited (found ++ rest)
      .ok (p :: reached)

/-- **The project and everything it depends on.** Every project but the first one lies in a file of its own, so
    the files of the disk bound how many there are. -/
def withDependencies? (d : Disk) (marker : String) (p : Project) : Except Fault (List Project) :=
  reach? d marker ((Disk.Entry.folder d.entries).fileCount + 1) [] [p]

end Project

/-- The name of a base configuration that has none. -/
def baseName : String := "base"

/-- What **a base configuration** depends on, directly or not. -/
def baseDependencies? (d : Disk) (marker : String) (p : Path) : Except Fault (List Project) := do
  let path := d.canonical p
  let r ← ProjectRecord.load? d path
  if r.dependencies.isEmpty then .ok []
  else do
    let reached ← Project.withDependencies? d marker ⟨r.name.getD baseName, path, r.dependencies⟩
    .ok (reached.drop 1)

end TreeIndex
