/-!
# Arguments

The words of a command line say which command is meant and which options it has.

* `OptionSpec`, `Level`: the options of a command, its operands, and the commands that may follow it;
* `Stop`: why no command is run -- the words are no command line, or help or the version was asked for;
* `Given`: what was said so far on one level; `Level.read?`: reads the words of a level up to a command;
* `Command`, `Options`, `Request.ofWords?`: the command with its options. Options of every command may stand
  on either side of it, and what follows it wins.

An option that takes a value finds it behind an equals sign or in the next word; a word that begins with a dash
is never such a value. No option may be said twice on a level. After two dashes no word is an option.
-/

namespace TreeIndex.CommandLine

/-! ## 1. Levels -/

/-- What a value may be. -/
inductive ValueRule where
  /-- There is none. -/
  | none
  /-- Any text. -/
  | text
  /-- Any text but the empty one. -/
  | path
deriving DecidableEq

/-- An **option**. -/
structure OptionSpec where
  name : String
  letter : Option Char := .none
  value : ValueRule := .none
deriving DecidableEq

/-- What may be said **on one level** of a command line. -/
structure Level where
  options : List OptionSpec
  /-- How many operands there can be. -/
  operands : Nat := 0
  commands : List String := []

/-- Why **no command** is run. -/
inductive Stop where
  | usage
  | help
  | version
deriving DecidableEq

/-! ## 2. What was said -/

/-- What was said **so far** on one level. -/
structure Given where
  /-- Options with their values; that of an option without one is empty. -/
  values : List (String × String) := []
  /-- The last option, whose value is not settled yet. -/
  pending : Option (OptionSpec × Option String) := .none
  operands : List String := []
  /-- Two dashes were said. -/
  onlyOperands : Bool := false

namespace Given

/-- An option waits for its value. -/
def awaits (g : Given) : Bool :=
  match g.pending with
  | some (_, .none) => true
  | _ => false

/-- The value of an option. -/
def get? (g : Given) (name : String) : Option String :=
  g.values.lookup name

/-- The option was said. -/
def has (g : Given) (name : String) : Bool :=
  (g.get? name).isSome

/-- Adds an option with its value; it must be **new**, and the value must suit it. -/
def add? (g : Given) (o : OptionSpec) (value : String) : Except Stop Given :=
  if g.has o.name || (o.value == .path && value.isEmpty) then .error .usage
  else .ok { g with values := g.values ++ [(o.name, value)] }

/-- Settles the last option. -/
def settle? (g : Given) : Except Stop Given :=
  match g.pending with
  | .none => .ok g
  | some (_, .none) => .error .usage
  | some (o, some value) => { g with pending := .none }.add? o value

/-- Adds an option without a value; help and the version end everything. -/
def flag? (g : Given) (o : OptionSpec) : Except Stop Given := do
  let g ← g.settle?
  if o.name = "help" then .error .help
  else if o.name = "version" then .error .version
  else g.add? o ""

end Given

/-! ## 3. Words -/

/-- The text in front of the first equals sign, and the text behind it. -/
def splitValue : List Char → List Char × Option (List Char)
  | [] => ([], none)
  | '=' :: cs => ([], some cs)
  | c :: cs =>
    let (name, value) := splitValue cs
    (c :: name, value)

namespace Level

/-- Reads an option that is said by its name. -/
def named? (l : Level) (g : Given) (word : List Char) : Except Stop Given :=
  let (name, attached) := splitValue word
  match l.options.find? fun o => o.name == String.ofList name with
  | none => .error .usage
  | some o =>
    match o.value, attached with
    | .none, some _ => .error .usage
    | .none, none => g.flag? o
    | _, some value => do
      let g ← g.settle?
      g.add? o (String.ofList value)
    | _, none => do
      let g ← g.settle?
      .ok { g with pending := some (o, none) }

/-- Reads options that are said by letters; none of them takes a value. -/
def lettered? (l : Level) : Given → List Char → Except Stop Given
  | g, [] => .ok g
  | g, c :: cs =>
    match l.options.find? fun o => o.letter == some c with
    | none => .error .usage
    | some o => do
      let g ← g.flag? o
      lettered? l g cs

/-- Reads an operand. -/
def operand? (l : Level) (g : Given) (word : String) : Except Stop Given := do
  let g ← g.settle?
  if g.operands.length < l.operands && !word.isEmpty then .ok { g with operands := g.operands ++ [word] }
  else .error .usage

/-- Reads a word that is no command. -/
def word? (l : Level) (g : Given) (word : String) : Except Stop Given :=
  if g.onlyOperands then l.operand? g word
  else
    match word.toList with
    | ['-', '-'] => .ok { g with onlyOperands := true }
    | '-' :: '-' :: cs => l.named? g cs
    | '-' :: c :: cs => l.lettered? g (c :: cs)
    | _ =>
      match g.pending with
      | some (o, none) => .ok { g with pending := some (o, some word) }
      | _ => l.operand? g word

/-- Reads the words of a level, **up to a command** with the words behind it. -/
def read? (l : Level) : Given → List String → Except Stop (Given × Option (String × List String))
  | g, [] => .ok (g, none)
  | g, word :: rest =>
    if !g.onlyOperands && !g.awaits && l.commands.contains word then .ok (g, some (word, rest))
    else do
      let g ← l.word? g word
      l.read? g rest

end Level

/-! ## 4. Commands -/

/-- What is to be done. -/
inductive Command where
  | definitions
  | files
  | items (file name : Option String)
  | projects (withDependencies : Bool)
  | beneath (path : String)
deriving DecidableEq

/-- The options of every command. -/
structure Options where
  start : Option String := none
  baseConfig : Option String := none
  noUserDefaults : Bool := false
  json : Bool := false
  verbose : Bool := false
deriving DecidableEq

/-- A command **with its options**. -/
structure Request where
  options : Options
  command : Command
deriving DecidableEq

/-- The options that every level has. -/
def commonOptions : List OptionSpec :=
  [⟨"from", none, .path⟩, ⟨"base-config", none, .path⟩, ⟨"no-user-defaults", none, .none⟩,
    ⟨"json", none, .none⟩, ⟨"verbose", some 'v', .none⟩, ⟨"help", some 'h', .none⟩]

/-- The level in front of the command. -/
def outer : Level :=
  { options := commonOptions ++ [⟨"version", some 'V', .none⟩]
    commands := ["definitions", "files", "items", "projects", "at", "help"] }

/-- The level behind a command. -/
def inner (command : String) : Level :=
  match command with
  | "items" => { options := commonOptions ++ [⟨"file", none, .path⟩, ⟨"name", none, .text⟩] }
  | "projects" => { options := commonOptions ++ [⟨"with-dependencies", none, .none⟩] }
  | "at" => { options := commonOptions, operands := 1 }
  | _ => { options := commonOptions }

/-- The command that is named, with what was said behind it. -/
def command? (name : String) (g : Given) : Except Stop Command :=
  match name with
  | "definitions" => .ok .definitions
  | "files" => .ok .files
  | "items" => .ok (.items (g.get? "file") (g.get? "name"))
  | "projects" => .ok (.projects (g.has "with-dependencies"))
  | "at" =>
    match g.operands with
    | [path] => .ok (.beneath path)
    | _ => .error .usage
  | _ => .error .usage

/-- What help is asked for; the words may name one command. -/
def helpFor (words : List String) : Stop :=
  match words with
  | [] => .help
  | [word] => if outer.commands.contains word then .help else .usage
  | _ => .usage

/-- The surroundings may name a base configuration, for a level that does not; it must not be empty. -/
def suits (surrounding : Option String) (g : Given) : Bool :=
  g.has "base-config" || surrounding != some ""

/-- The options that were said on the two levels and by the surroundings. -/
def optionsOf (surrounding : Option String) (before behind : Given) : Options :=
  { start := (behind.get? "from").or (before.get? "from")
    baseConfig := ((behind.get? "base-config").or (before.get? "base-config")).or surrounding
    noUserDefaults := behind.has "no-user-defaults" || before.has "no-user-defaults"
    json := behind.has "json" || before.has "json"
    verbose := behind.has "verbose" || before.has "verbose" }

/-- **The request that some words make**; the surroundings may name a base configuration. -/
def Request.ofWords? (surrounding : Option String) (words : List String) : Except Stop Request := do
  let (before, rest) ← outer.read? {} words
  match rest with
  | none => .error .usage
  | some (name, rest) =>
    if name = "help" then .error (helpFor rest)
    else do
      let (behind, _) ← (inner name).read? {} rest
      let behind ← behind.settle?
      let command ← command? name behind
      let before ← before.settle?
      if suits surrounding before && suits surrounding behind then
        .ok ⟨optionsOf surrounding before behind, command⟩
      else .error .usage

end TreeIndex.CommandLine
