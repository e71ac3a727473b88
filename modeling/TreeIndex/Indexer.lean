import TreeIndex.Index

/-!
# The life of an indexer

An indexer resolves the definitions of a tree and indexes it, once. The disk may change between two requests.

* `IndexState`: nothing is known, the definitions are, or everything is indexed;
* `Indexer`: the state, with the number of passes over the tree;
* `resolve`: the definitions, resolved at most once; `index`: everything, which is refused a second time;
* `refresh`: everything again from scratch. If that fails the index stays as it was;
* `view?`: what is indexed; `rootProject?`: the project of the root marker;
* `start?`, `ofProject?`: an indexer that has indexed its tree.

Every request answers and leaves an indexer behind, also where it fails.
-/

namespace TreeIndex

/-! ## 1. States -/

/-- **How far** an indexer is. -/
inductive IndexState where
  | uninitialized
  | resolved (definitions : Definitions)
  | indexed (index : Index)
deriving Inhabited

namespace IndexState

/-- A state in words. -/
def name : IndexState → String
  | uninitialized => "uninitialized"
  | resolved _ => "resolved"
  | indexed _ => "indexed"

/-- The definitions, as soon as they are known. -/
def definitions? : IndexState → Option Definitions
  | uninitialized => none
  | resolved ds => some ds
  | indexed ix => some ix.definitions

end IndexState

/-! ## 2. Indexers -/

/-- What indexes **the tree in which a path lies**. -/
structure Indexer where
  settings : Settings
  start : Path
  state : IndexState := .uninitialized
  /-- How many times the tree was gone through. -/
  builds : Nat := 0
deriving Inhabited

namespace Indexer

/-- What a request answers, and the indexer after it. -/
abbrev Reply (β : Type) := Except Fault β × Indexer

/-- The definitions, **resolved only** if they are not known yet. -/
def resolve (d : Disk) (x : Indexer) : Reply Definitions :=
  match x.state.definitions? with
  | some ds => (.ok ds, x)
  | none =>
    match Definitions.resolve? d x.settings x.start with
    | .ok ds => (.ok ds, { x with state := .resolved ds })
    | .error f => (.error f, x)

/-- Goes through the tree; the pass counts whether it succeeds or not. -/
def build (d : Disk) (x : Indexer) (ds : Definitions) : Reply Unit :=
  let x := { x with builds := x.builds + 1 }
  match Index.build? d x.settings ds with
  | .ok ix => (.ok (), { x with state := .indexed ix })
  | .error f => (.error f, x)

/-- **Indexes the tree**, unless that was done. -/
def index (d : Disk) (x : Indexer) : Reply Unit :=
  match x.state with
  | .indexed ix => (.error (.alreadyIndexed ix.definitions.rootDir), x)
  | _ =>
    match x.resolve d with
    | (.ok ds, x) => x.build d ds
    | (.error f, x) => (.error f, x)

/-- Resolves and indexes **from scratch**. -/
def refresh (d : Disk) (x : Indexer) : Reply Unit :=
  match Definitions.resolve? d x.settings x.start with
  | .ok ds => x.build d ds
  | .error f => (.error f, x)

/-- Everything that is indexed. -/
def view? (x : Indexer) : Except Fault Index :=
  match x.state with
  | .indexed ix => .ok ix
  | other => .error (.notIndexed other.name)

/-- The project of the root marker. -/
def rootProject? (d : Disk) (x : Indexer) : Except Fault Project := do
  let ix ← x.view?
  ix.rootProject? d

/-- An indexer that has **indexed** the tree of a path. -/
def start? (d : Disk) (s : Settings) (start : Path) : Except Fault Indexer :=
  match index d { settings := s, start := start } with
  | (.ok (), x) => .ok x
  | (.error f, _) => .error f

/-- An indexer that has indexed the tree of a project. -/
def ofProject? (d : Disk) (s : Settings) (p : Project) : Except Fault Indexer :=
  start? d s p.folder

end Indexer

end TreeIndex
