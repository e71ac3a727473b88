import TreeIndex.Definitions.Inheritance
import TreeIndex.Content
import TreeIndex.Disk.Walk
import TreeIndex.Settings

/-!
# The definitions of a tree

The nearest root marker above a path says where a tree is and which types of definitions it has; the
definitions are found beneath it.

* `Definitions`: the definitions of a tree; `ofKind`, `get?`, `rootOf?`, `suffixes`: those of a type, the one
  with a name, the root of a type, and the endings of a type's files;
* `findMarker?`: the nearest root marker at a path or above it;
* `rootConfig?`: the marker's document, merged over the user's defaults;
* `drafts?`: the files that define something, ending by ending, in the order of their paths;
* `Definitions.resolve?`: all of it.
-/

namespace TreeIndex

open Yaml (Value Mapping)

/-! ## 1. Definitions -/

/-- **The definitions of a tree.** -/
structure Definitions where
  rootDir : Path
  rootMarker : Path
  rootConfig : Mapping
  types : Types
  roots : Dictionary Definition
  /-- The definitions that are no roots, type by type. -/
  all : List Definition
deriving Inhabited

namespace Definitions

/-- The definitions of a type. -/
def ofKind (ds : Definitions) (kind : String) : List Definition :=
  ds.all.filter fun d => d.kind == kind

/-- The first definition with a name. -/
def get? (ds : Definitions) (name : String) : Option Definition :=
  ds.all.find? fun d => d.name == name

/-- The root definition of a type. -/
def rootOf? (ds : Definitions) (kind : String) : Option Definition :=
  ds.roots.get? kind

/-- The endings of the names of a type's files. -/
def suffixes (ds : Definitions) (kind : String) : List String :=
  (ds.ofKind kind).filterMap Definition.suffix?

end Definitions

/-! ## 2. The root marker -/

/-- The folder that a search from a path starts in. -/
def searchStart (d : Disk) (p : Path) : Path :=
  if d.isFile p then p.parent?.getD p else p

/-- The **nearest root marker**, in the folder of the path or above it. -/
def findMarker? (d : Disk) (s : Settings) (start : Path) : Except Fault Path :=
  let folder := searchStart d (d.canonical start)
  match (folder.ancestors.map fun p => p.child s.markerName).find? d.isFile with
  | some marker => .ok marker
  | none => .error (.discovery (.noMarker s.markerName folder))

/-- The document of a root marker, **over the user's defaults** if there are some. -/
def rootValue? (d : Disk) (s : Settings) (marker : Path) : Except Fault Value := do
  let v ← d.value? marker
  match s.baseConfig with
  | none => .ok v
  | some base =>
    if d.isFile base then do
      let b ← d.value? base
      .ok (Yaml.merge b v)
    else .ok v

/-- The configuration of a tree. -/
def rootConfig? (d : Disk) (s : Settings) (marker : Path) : Except Fault Mapping := do
  match ← rootValue? d s marker with
  | .mapping entries => .ok entries
  | other => .error (.configuration marker (.rootNotAMapping other))

/-! ## 3. Drafts -/

/-- The draft in a file whose name has the ending of a type. The marker itself defines a root. -/
def draft? (d : Disk) (marker : Path) (ending kind : String) (p : Path) : Except Fault Draft := do
  let path := d.canonical p
  let name := if path.same marker then rootName else path.stem ending
  let config ← d.mapping? path
  .ok ⟨name, kind, config, path⟩

/-- The drafts beneath a folder, **ending by ending**. -/
def drafts? (d : Disk) (s : Settings) (folder marker : Path) (types : Types) :
    Except Fault (List Draft) := do
  let kinds := types.byEnding
  let found := d.filesByEnding ⟨[], s.followLinks⟩ folder kinds.keys
  let drafts ← found.entries.mapM fun e =>
    e.2.mapM fun p => draft? d marker e.1 ((kinds.get? e.1).getD "") p
  .ok drafts.flatten

/-! ## 4. Resolution -/

/-- **The definitions of the tree** in which a path lies. -/
def Definitions.resolve? (d : Disk) (s : Settings) (start : Path) : Except Fault Definitions := do
  let marker ← findMarker? d s start
  let folder := marker.parent?.getD ⟨"."⟩
  let config ← rootConfig? d s marker
  let types ← Definition.inFile marker (Types.ofConfig? config)
  let drafts ← drafts? d s folder marker types
  let families ← families? types drafts
  .ok
    { rootDir := folder
      rootMarker := marker
      rootConfig := config
      types := types
      roots := Dictionary.ofList (families.map fun e => (e.1, e.2.root))
      all := families.flatMap fun e => e.2.children }

end TreeIndex
