import TreeIndex.Definition
import TreeIndex.Definitions.Section
import TreeIndex.Yaml.Merge

/-!
# Inheritance

Every type has one root definition, from which the other definitions of the type inherit.

* `Draft`: a definition as it was read, before it inherits;
* `Draft.onto?`: a definition with its own configuration merged over that of its root;
* `family?`: the root definition of a type and the definitions that inherit from it. There must be one root
  and at least one more;
* `families?`: the families of all types. Missing roots are told all at once, any other fault at once.
-/

namespace TreeIndex

open Yaml (Mapping mergeMappings)

/-! ## 1. Drafts -/

/-- A definition **as it was read**. -/
structure Draft where
  name : String
  kind : String
  config : Mapping
  path : Path
deriving Inhabited

namespace Draft

/-- The draft is one of a root definition. -/
def isRoot (draft : Draft) : Bool :=
  draft.name == rootName

/-- The draft recognises something itself. -/
def hasIdentifier (draft : Draft) : Bool :=
  Mapping.contains draft.config (.text "identifier")

/-- **The definition** that inherits from a root definition. What it recognises it must say itself. -/
def onto? (root : Definition) (draft : Draft) : Except Fault Definition :=
  if draft.hasIdentifier then
    Definition.effective? draft.name draft.kind (mergeMappings root.config draft.config) draft.path
  else .error (.configuration draft.path (.noIdentifier draft.kind draft.name))

end Draft

/-! ## 2. Families -/

/-- A root definition and **what inherits from it**. -/
structure Family where
  root : Definition
  children : List Definition
deriving Inhabited

/-- The name of the file that a missing root definition should be in. -/
def rootFileName (types : Types) (kind : String) : String :=
  rootName ++ (types.identifiers.get? kind).getD ""

/-- The family of a type, or none if its root definition is missing. -/
def family? (types : Types) (drafts : List Draft) (kind : String) : Except Fault (Option Family) :=
  let own := drafts.filter fun draft => draft.kind == kind
  let children := own.filter fun draft => !draft.isRoot
  match own.filter Draft.isRoot with
  | [] => .ok none
  | [root] =>
    if children.isEmpty then
      .error (.discovery (.noChildren kind ((types.identifiers.get? kind).getD "") root.path))
    else do
      let d ← Definition.root? kind root.config root.path
      let ds ← children.mapM (Draft.onto? d)
      .ok (some ⟨d, ds⟩)
  | roots => .error (.discovery (.severalRoots kind (roots.map (·.path))))

/-- **The families of all types**, in the order of the types. -/
def families? (types : Types) (drafts : List Draft) : Except Fault (List (String × Family)) := do
  let found ← types.names.mapM fun kind => do
    let family ← family? types drafts kind
    .ok (kind, family)
  match (found.filter fun e => e.2.isNone).map fun e => rootFileName types e.1 with
  | [] => .ok (found.filterMap fun e => e.2.map fun family => (e.1, family))
  | names => .error (.discovery (.missingRoots names))

end TreeIndex
