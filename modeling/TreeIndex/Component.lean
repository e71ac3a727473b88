import TreeIndex.Definition
import TreeIndex.Text.Lines

/-!
# Components

An index holds files, the items found in them, and projects.

* `SourceFile`: a file with its content, which was read once; `Item`: a range of its lines;
  `Project`: a unit of source around a configuration file;
* `Component`: any of them, with its kind, name and path;
* `Component.same`: two components are the same if kind, name and path agree;
* `Component.shown`: a component in words.
-/

namespace TreeIndex

/-! ## 1. Files -/

/-- A file of some definition, **with its content**. -/
structure SourceFile where
  name : String
  path : Path
  definition : Definition
  content : String
deriving Inhabited

namespace SourceFile

/-- The name of a file of some definition: the file name without the definition's suffix. -/
def nameFor (definition : Definition) (path : Path) : String :=
  match definition.suffix? with
  | some suffix => path.stem suffix
  | none => path.fileName

/-- The lines of the file, without their endings. -/
def lines (f : SourceFile) : List String :=
  Text.lines f.content

/-- How many lines the file has. -/
def lineCount (f : SourceFile) : Nat :=
  Text.lineCount f.content

/-- The lines from `first` up to, but without, `stop`. -/
def sliceLines (f : SourceFile) (first stop : Nat) : String :=
  Text.sliceLines f.content first stop

end SourceFile

/-! ## 2. Items -/

/-- A **range of lines** of a file, found by a definition of items. The first line is the one on which the
    item starts; the stop line is the one that ends it and does not belong to it. -/
structure Item where
  name : String
  file : SourceFile
  definition : Definition
  lineStart : Nat
  lineEnd : Nat
  properties : Dictionary String
deriving Inhabited

namespace Item

/-- The name of an item that none is captured for. -/
def unnamed : String := "_"

/-- The text of the item: from its first line up to the line that ends it. -/
def source (i : Item) : String :=
  i.file.sliceLines i.lineStart i.lineEnd

/-- The text between the first line and the line that ends the item. -/
def body (i : Item) : String :=
  i.file.sliceLines (i.lineStart + 1) i.lineEnd

end Item

/-! ## 3. Projects -/

/-- A dependency as a project declares it. -/
structure Dependency where
  name : String
  path : Path
deriving DecidableEq, Inhabited

/-- A unit of source around a **configuration file**, whose canonical path it is known by. -/
structure Project where
  name : String
  path : Path
  dependencies : List Dependency
deriving DecidableEq, Inhabited

/-! ## 4. Components -/

/-- The kinds of components. -/
inductive ComponentKind where
  | file
  | item
  | project
deriving DecidableEq, Inhabited

/-- The name of a kind. -/
def ComponentKind.name : ComponentKind → String
  | file => "file"
  | item => "item"
  | project => "project"

/-- **Anything an index holds.** -/
inductive Component where
  | file (f : SourceFile)
  | item (i : Item)
  | project (p : Project)
deriving Inhabited

namespace Component

/-- The kind of a component. -/
def kind : Component → ComponentKind
  | file _ => .file
  | item _ => .item
  | project _ => .project

/-- The name of a component. -/
def name : Component → String
  | file f => f.name
  | item i => i.name
  | project p => p.name

/-- The path of a file, of the file of an item, or of a project's configuration. -/
def path : Component → Path
  | file f => f.path
  | item i => i.file.path
  | project p => p.path

/-- The definition of a file or an item. -/
def definition? : Component → Option Definition
  | file f => some f.definition
  | item i => some i.definition
  | project _ => none

/-- The file of a file or an item. -/
def file? : Component → Option SourceFile
  | file f => some f
  | item i => some i.file
  | project _ => none

/-- The file that a file or an item belongs to; a project **stands for itself**. -/
def owner (c : Component) : Component :=
  match c.file? with
  | some f => file f
  | none => c

/-- The item that a component is. -/
def item? : Component → Option Item
  | item i => some i
  | _ => none

/-- The project that a component is. -/
def project? : Component → Option Project
  | project p => some p
  | _ => none

/-- The text of a file, or of the lines of an item. -/
def source? : Component → Option String
  | file f => some f.content
  | item i => some i.source
  | project _ => none

/-- The range of lines of an item. -/
def lines? (c : Component) : Option (Nat × Nat) :=
  c.item?.map fun i => (i.lineStart, i.lineEnd)

/-- What an item captured under a key. -/
def property? (c : Component) (key : String) : Option String :=
  c.item?.bind fun i => i.properties.get? key

/-- The query is the component's name, its kind, or its definition's name or type. -/
def isMeantBy (c : Component) (query : String) : Bool :=
  c.name == query || c.kind.name == query || (c.definition?.any fun d => d.isMeantBy query)

/-- Both lie at the same path. -/
def isAt (c d : Component) : Bool :=
  c.path.same d.path

/-- The same component: **kind, name and path agree**. -/
def same (c d : Component) : Bool :=
  c.kind == d.kind && c.name == d.name && c.path.same d.path

theorem same_iff {c d : Component} :
    c.same d = true ↔ c.kind = d.kind ∧ c.name = d.name ∧ c.path.steps = d.path.steps := by
  simp [same, Path.same, and_assoc]

theorem same_refl (c : Component) : c.same c = true :=
  same_iff.2 ⟨rfl, rfl, rfl⟩

/-- A component in words. -/
def shown : Component → String
  | file f => "file " ++ f.name ++ " [" ++ f.definition.name ++ "] at " ++ f.path.text
  | item i =>
    "item " ++ i.name ++ " [" ++ i.definition.name ++ "] lines " ++ toString i.lineStart ++ ".."
      ++ toString i.lineEnd ++ " in " ++ i.file.path.text
  | project p => "project " ++ p.name ++ " at " ++ p.path.text

end Component

end TreeIndex
