import TreeIndex.Component

/-!
# Scopes

A scope is a list of components that can be asked and narrowed.

* `files`, `items`, `projects`, `ofKind`, `named`, `matching`, `beneath`: narrower scopes, in the same order;
* `unique`: the first of all components that are the same; `atPathsOf`: what lies where others lie;
* `nonempty?`, `one?`, `byName?`: what a scope must hold, or the fault that it does not;
* `owningFiles`: the files of everything in it, each once;
* `sameAs`: two scopes hold the same, in the same order; `described`: a line for every component.
-/

namespace TreeIndex

/-- Components **in order**. -/
abbrev Scope := List Component

namespace Scope

/-! ## 1. Narrowing -/

/-- The components of a kind. -/
def ofKind (s : Scope) (kind : ComponentKind) : Scope :=
  s.filter fun c => c.kind == kind

/-- The files. -/
def files (s : Scope) : Scope := ofKind s .file

/-- The items. -/
def items (s : Scope) : Scope := ofKind s .item

/-- The projects. -/
def projects (s : Scope) : Scope := ofKind s .project

/-- The components with a name. -/
def named (s : Scope) (name : String) : Scope :=
  s.filter fun c => c.name == name

/-- The components that a query means. -/
def matching (s : Scope) (query : String) : Scope :=
  s.filter fun c => c.isMeantBy query

/-- The components at a path or beneath it. -/
def beneath (s : Scope) (target : Path) : Scope :=
  s.filter fun c => c.path.startsWith target

/-! ## 2. Each once -/

/-- The **first** of all components that are the same. -/
def unique : Scope → Scope
  | [] => []
  | c :: cs => c :: (unique cs).filter fun d => !c.same d

/-- What lies where some of the others lie, each once. -/
def atPathsOf (s others : Scope) : Scope :=
  unique (s.filter fun c => others.any fun o => o.isAt c)

/-- The files of everything in scope, each once. -/
def owningFiles (s : Scope) : Scope :=
  unique (s.filterMap fun c => c.file?.map .file)

/-- Both hold the same components in the same order. -/
def sameAs : Scope → Scope → Bool
  | [], [] => true
  | c :: cs, d :: ds => c.same d && sameAs cs ds
  | _, _ => false

/-! ## 3. Asking -/

/-- A line for every component. -/
def described (s : Scope) : String :=
  "\n".intercalate (s.map fun c => "  " ++ c.shown)

/-- All components; there must be some. -/
def nonempty? (s : Scope) : Except Fault Scope :=
  if s.isEmpty then .error (.emptyScope .noComponents) else .ok s

/-- The **only** component; `none` says what a scope without any means. -/
def only? (none : EmptyCause) : Scope → Except Fault Component
  | [] => .error (.emptyScope none)
  | [c] => .ok c
  | many => .error (.ambiguousScope many.length (described many))

/-- The only component. -/
def one? (s : Scope) : Except Fault Component :=
  only? .noneExpectedOne s

/-- The only component with a name. -/
def byName? (s : Scope) (name : String) : Except Fault Component :=
  only? (.nothingNamed name) (named s name)

/-- The texts of the files and items. -/
def sources (s : Scope) : List String :=
  s.filterMap (·.source?)

/-- What the components captured under a key. -/
def properties (s : Scope) (key : String) : List (Option String) :=
  s.map (·.property? key)

end Scope

end TreeIndex
