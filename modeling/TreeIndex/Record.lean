import TreeIndex.Component
import TreeIndex.Digest
import TreeIndex.Json

/-!
# Records

A record sums up a component for other programs.

* `identity`: the text that says what a component is -- its kind, its path from the root and its name, with a
  separator that no name should hold; `Record.idOf`: its digest;
* `qualifiedName`: an item is told from others of its file by its definition and the line it starts on;
* `Record`, `Record.ofComponent`: the record of a component as seen from a root;
* `Record.json`, `writeRecords`: the record and a list of them as JSON. What a component lacks is left out.
-/

namespace TreeIndex

/-! ## 1. Identities -/

/-- The character between the parts of an identity. -/
def unitSeparator : String := "\x1f"

/-- The text that **says what a component is**. -/
def identity (kind : ComponentKind) (path name : String) : String :=
  kind.name ++ unitSeparator ++ path ++ unitSeparator ++ name

/-- The name by which a component is told from others at its path. -/
def qualifiedName : Component → String
  | .item i => i.definition.name ++ "::" ++ i.name ++ ":" ++ toString i.lineStart
  | c => c.name

/-! ## 2. Records -/

/-- What other programs learn of **a component**. -/
structure Record where
  id : String
  kind : ComponentKind
  name : String
  path : String
  definition : Option String
  indexType : Option String
  lineStart : Option Nat
  lineEnd : Option Nat
  properties : Dictionary String
  dependencies : List Dependency

namespace Record

/-- The id of a component: the digest of its identity. -/
def idOf (kind : ComponentKind) (path name : String) : String :=
  Digest.digestText (identity kind path name)

/-- **The record of a component** as seen from a root. -/
def ofComponent (root : Path) (c : Component) : Record :=
  let path := c.path.shownFrom root
  { id := idOf c.kind path (qualifiedName c)
    kind := c.kind
    name := c.name
    path := path
    definition := c.definition?.map (·.name)
    indexType := c.definition?.map (·.kind)
    lineStart := c.lines?.map (·.1)
    lineEnd := c.lines?.map (·.2)
    properties := (c.item?.map (·.properties)).getD ∅
    dependencies := (c.project?.map (·.dependencies)).getD [] }

/-! ## 3. JSON -/

/-- A field that may be missing. -/
def optional {α : Type} (name : String) (value : Option α) (write : α → Json) : List (String × Json) :=
  match value with
  | some x => [(name, write x)]
  | none => []

/-- A field that is left out if it is empty. -/
def unlessEmpty (name : String) (isEmpty : Bool) (value : Json) : List (String × Json) :=
  if isEmpty then [] else [(name, value)]

/-- A dependency as JSON. -/
def dependencyJson (d : Dependency) : Json :=
  .object [("name", .text d.name), ("path", .text d.path.text)]

/-- A record as JSON. -/
def json (r : Record) : Json :=
  .object ([("id", .text r.id), ("kind", .text r.kind.name), ("name", .text r.name), ("path", .text r.path)]
    ++ optional "definition" r.definition .text
    ++ optional "index_type" r.indexType .text
    ++ optional "line_start" r.lineStart .number
    ++ optional "line_end" r.lineEnd .number
    ++ unlessEmpty "properties" r.properties.isEmpty
      (.object (r.properties.entries.map fun e => (e.1, .text e.2)))
    ++ unlessEmpty "dependencies" r.dependencies.isEmpty (.array (r.dependencies.map dependencyJson)))

end Record

/-- Records as **one JSON array** on a line of its own. -/
def writeRecords (rs : List Record) : String :=
  (Json.array (rs.map Record.json)).compact ++ "\n"

end TreeIndex
