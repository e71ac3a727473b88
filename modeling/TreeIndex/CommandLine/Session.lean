import TreeIndex.CommandLine.Arguments
import TreeIndex.CommandLine.Output
import TreeIndex.Indexer
import TreeIndex.UserDefaults

/-!
# Commands

* `Surroundings`: the user's home folder, a base configuration, and whether colours are on;
* `Failure`: a fault, and what was to be done when it happened;
* `Request.settings`, `Request.start`: how a request finds its tree;
* `Request.answer?`: what a request prints;
* `Outcome`: the code that a session ends with, and what it prints on its two channels;
* `session`: the words of a command line, answered.
-/

namespace TreeIndex.CommandLine

/-! ## 1. Surroundings -/

/-- What a session finds **around it**. -/
structure Surroundings where
  home : Option Path := none
  baseConfig : Option String := none
  colours : Bool := false

/-- A fault, and what was **to be done** when it happened. -/
structure Failure where
  context : Option String
  fault : Fault

/-- What a failure prints. -/
def Failure.report (f : Failure) : String :=
  match f.context with
  | some context => failureReport context (faultChain f.fault)
  | none => failureReport f.fault.message f.fault.cause?.toList

/-- A fault with a context. -/
def within {β : Type} (context : String) (r : Except Fault β) : Except Failure β :=
  match r with
  | .ok x => .ok x
  | .error f => .error ⟨some context, f⟩

/-- A fault without a context. -/
def plainly {β : Type} (r : Except Fault β) : Except Failure β :=
  match r with
  | .ok x => .ok x
  | .error f => .error ⟨none, f⟩

/-! ## 2. Requests -/

namespace Request

/-- The **settings** of a request: a base configuration that is named stands in for the user's defaults. -/
def settings (d : Disk) (home : Option Path) (r : Request) : Settings :=
  let s : Settings := if r.options.noUserDefaults then {} else Settings.withUserDefaults d home
  match r.options.baseConfig with
  | some base => { s with baseConfig := some ⟨base⟩ }
  | none => s

/-- Where the search for the tree **starts**: where one stands, or where one is told. -/
def start (d : Disk) (r : Request) : Path :=
  match r.options.start with
  | some start => ⟨start⟩
  | none => Disk.pathTo d.here

/-- The definitions of the tree. -/
def definitions? (d : Disk) (home : Option Path) (r : Request) : Except Failure Definitions :=
  let start := r.start d
  within ("Failed to resolve index definitions from " ++ start.text)
    (Definitions.resolve? d (r.settings d home) start)

/-- The index of the tree. -/
def index? (d : Disk) (home : Option Path) (r : Request) : Except Failure Index := do
  let start := r.start d
  let x ← within ("Failed to index source tree from " ++ start.text)
    (Indexer.start? d (r.settings d home) start)
  plainly x.view?

/-- The items at a path, with a name. -/
def itemsOf (d : Disk) (ix : Index) (file name : Option String) : Scope :=
  let items := ix.scope.items
  let items := match file with
    | some file => items.beneath (d.canonical ⟨file⟩)
    | none => items
  match name with
  | some name => items.named name
  | none => items

/-- The components that a command asks for. -/
def componentsOf? (d : Disk) (ix : Index) : Command → Except Failure Scope
  | .definitions => .ok []
  | .files => .ok ix.scope.files
  | .items file name => .ok (itemsOf d ix file name)
  | .projects true => .ok ix.scope.projects
  | .projects false => do
    let p ← plainly (ix.rootProject? d)
    .ok [.project p]
  | .beneath path => do
    let found ← plainly (ix.atPath? d ⟨path⟩)
    .ok found.scope

/-- **What a request prints.** -/
def answer? (d : Disk) (around : Surroundings) (r : Request) : Except Failure String :=
  match r.command with
  | .definitions => do
    let ds ← r.definitions? d around.home
    .ok (definitionText r.options.json around.colours ds)
  | command => do
    let ix ← r.index? d around.home
    let s ← componentsOf? d ix command
    .ok (componentText r.options.json around.colours ix.definitions.rootDir s)

end Request

/-! ## 3. Sessions -/

/-- How a session **ends**. -/
structure Outcome where
  code : Nat
  printed : String := ""
  complaint : String := ""
deriving DecidableEq

/-- The program and its version. -/
def versionText : String := "source-framework 0.1.0\n"

/-- How a session ends without a request. -/
def Outcome.ofStop : Stop → Outcome
  | .usage => { code := 2 }
  | .help => { code := 0 }
  | .version => { code := 0, printed := versionText }

/-- How a session ends **with the answer** to a request. -/
def Outcome.ofAnswer : Except Failure String → Outcome
  | .ok text => { code := 0, printed := text }
  | .error f => { code := 1, complaint := f.report }

/-- **A session**: the words of a command line, on a disk, in some surroundings. -/
def session (d : Disk) (around : Surroundings) (words : List String) : Outcome :=
  match Request.ofWords? around.baseConfig words with
  | .error stop => .ofStop stop
  | .ok r => .ofAnswer (r.answer? d around)

end TreeIndex.CommandLine
