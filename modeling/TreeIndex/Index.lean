import TreeIndex.Definitions.Resolution
import TreeIndex.Extraction
import TreeIndex.Project
import TreeIndex.Scope

/-!
# Indexes

An index holds the files of a tree, the items in them, and the projects around it.

* `Placed`: values at paths, in the order of the paths;
* `Definitions.classified`: the files of a tree, each with its definition. One definition after the other takes over the
  files whose names end with its suffix (`takeBucket`), unless another one holds them by a suffix that is as long;
* `files?`, `items?`, `projects?`: what a tree holds;
* `Index`: a scope together with the definitions by which it was found; `Index.build?`: everything that a tree
  holds -- files, items and projects, in this order;
* `Index.atPath?`, `Index.extractItems?`, `Index.rootProject?`: what an index says.
-/

namespace TreeIndex

/-! ## 1. Values at paths -/

/-- A value at a path. What the path says stands beside it, so that it is read once. -/
structure Placed (α : Type) where
  path : Path
  value : α
  steps : List Step
  steps_eq : steps = path.steps

namespace Placed

variable {α : Type}

/-- A value at a path. -/
def of (p : Path) (value : α) : Placed α :=
  ⟨p, value, p.steps, rfl⟩

/-- The value where some steps lead. -/
def value? (steps : List Step) (es : List (Placed α)) : Option α :=
  (es.find? fun e => e.steps == steps).map value

/-- Adds a value, **in the order of the paths**, or replaces the one at its path. -/
def insert (e : Placed α) : List (Placed α) → List (Placed α)
  | [] => [e]
  | f :: rest =>
    if f.steps == e.steps then { f with value := e.value } :: rest
    else if stepsPrecede e.steps f.steps then e :: f :: rest
    else f :: insert e rest

end Placed

/-! ## 2. Files -/

namespace Definitions

/-- How the walk for files goes. -/
def walkOptions (ds : Definitions) (s : Settings) : WalkOptions :=
  ⟨ds.suffixes ignoreKind, s.followLinks⟩

/-- The suffix is longer than the one by which a file is held, or no definition holds the file. -/
def outdoes (suffix : String) (held : Option Definition) : Bool :=
  match held.bind Definition.suffix? with
  | some other => other.utf8ByteSize < suffix.utf8ByteSize
  | none => true

/-- A definition **takes over the file** at a path, if its suffix is the longer one. -/
def takeOver (c : Definition) (suffix : String) (held : List (Placed Definition)) (p : Path) :
    List (Placed Definition) :=
  let e := Placed.of p c
  if outdoes suffix (Placed.value? e.steps held) then e.insert held else held

/-- A definition takes over the files with its suffix, **one after the other**. -/
def takeBucket (buckets : Dictionary (List Path)) (held : List (Placed Definition)) (c : Definition) :
    List (Placed Definition) :=
  match c.suffix? with
  | none => held
  | some suffix => ((buckets.get? suffix).getD []).foldl (takeOver c suffix) held

/-- The paths of the files of a tree, each with its definition: of those whose suffix its name ends with, the one with
    **the longest suffix**, or else the first. -/
def classified (d : Disk) (s : Settings) (ds : Definitions) : List (Path × Definition) :=
  let buckets := d.filesByEnding (ds.walkOptions s) ds.rootDir (ds.suffixes fileKind)
  ((ds.ofKind fileKind).foldl (takeBucket buckets) []).map fun e => (e.path, e.value)

/-- **The files of a tree**, in the order of their paths. -/
def files? (d : Disk) (s : Settings) (ds : Definitions) : Except Fault (List SourceFile) :=
  (ds.classified d s).mapM fun e => SourceFile.load? d e.2 e.1

/-! ## 3. Items -/

/-- The matchers of a tree. -/
def matchers? (ds : Definitions) : Except Fault (List ItemMatcher) :=
  compileAll? (ds.ofKind itemKind)

/-- The items of some files, **file by file**. -/
def items? (ms : List ItemMatcher) : List SourceFile → Except Fault (List Item)
  | [] => .ok []
  | f :: fs => do
    let items ← extractAll? f ms
    let more ← items? ms fs
    .ok (items ++ more)

/-! ## 4. Projects -/

/-- The first of all projects with the same path. -/
def distinctProjects : List Project → List Project
  | [] => []
  | p :: ps => p :: (distinctProjects ps).filter fun q => !p.path.same q.path

/-- **The projects of a tree**: its own, what that one depends on, and what the user's defaults depend on. -/
def projects? (d : Disk) (s : Settings) (ds : Definitions) : Except Fault (List Project) := do
  let root ← Project.load? d s.markerName ds.rootMarker
  let own ← root.withDependencies? d s.markerName
  let more ← match s.baseConfig with
    | some base => if d.isFile base then baseDependencies? d s.markerName base else .ok []
    | none => .ok []
  .ok (distinctProjects (own ++ more))

end Definitions

/-! ## 5. Indexes -/

/-- A scope and the definitions **by which it was found**. -/
structure Index where
  definitions : Definitions
  scope : Scope
deriving Inhabited

namespace Index

/-- **Everything that a tree holds.** -/
def build? (d : Disk) (s : Settings) (ds : Definitions) : Except Fault Index := do
  let files ← ds.files? d s
  let matchers ← ds.matchers?
  let items ← Definitions.items? matchers files
  let projects ← ds.projects? d s
  .ok ⟨ds, files.map .file ++ items.map .item ++ projects.map .project⟩

/-- What is indexed at a path or beneath it; there must be something. -/
def atPath? (d : Disk) (ix : Index) (p : Path) : Except Fault Index :=
  match ix.scope.beneath (d.canonical p) with
  | [] => .error (.emptyScope (.nothingAt p))
  | found => .ok { ix with scope := found }

/-- The items of the files in scope, **found again**. -/
def extractItems? (ix : Index) : Except Fault Index := do
  let matchers ← ix.definitions.matchers?
  let items ← Definitions.items? matchers (ix.scope.files.filterMap Component.file?)
  .ok { ix with scope := items.map .item }

/-- The **project of the root marker**. -/
def rootProject? (d : Disk) (ix : Index) : Except Fault Project := do
  let marker := d.canonical ix.definitions.rootMarker
  let c ← Scope.one? (ix.scope.projects.filter fun c => c.path.same marker)
  match c.project? with
  | some p => .ok p
  | none => .error (.emptyScope .noRootProject)

end Index

end TreeIndex
