import TreeIndex.Definitions.Resolution
import TreeIndex.Record
import TreeIndex.Scope

/-!
# What the commands print

* `Colour`, `painted`: text in a colour, if colours are on;
* `componentLine`, `componentLines`: a line for every component of a scope;
* `definitionLine`, `definitionLines`: the root marker and a line for every definition;
* `definitionsJson`: the definitions as JSON;
* `failureReport`: a fault with what lies behind it.
-/

namespace TreeIndex.CommandLine

/-! ## 1. Colours -/

/-- What a text looks like on a terminal. -/
inductive Colour where
  | boldGreen
  | cyan
  | bold
  | dimmed
  | yellow
deriving DecidableEq

/-- The code of a look. -/
def Colour.code : Colour → String
  | boldGreen => "1;32"
  | cyan => "36"
  | bold => "1"
  | dimmed => "2"
  | yellow => "33"

/-- The sequence that sets a look. -/
def Colour.opening (c : Colour) : String :=
  "\x1b[" ++ c.code ++ "m"

/-- The sequence that ends every look. -/
def closing : String := "\x1b[0m"

/-- A text with blanks at its end, at least so wide. -/
def padded (width : Nat) (text : String) : String :=
  text ++ String.ofList (List.replicate (width - text.length) ' ')

/-- A text **in a colour**; a sequence in it that ends the look sets it again. The blanks that make it wide
    enough are counted before. -/
def painted (colours : Bool) (c : Colour) (width : Nat) (text : String) : String :=
  if colours then
    c.opening ++ padded width (text.replace closing (closing ++ c.opening)) ++ closing
  else padded width text

/-! ## 2. Components -/

/-- The definition of a component in brackets. -/
def definitionMark (c : Component) : String :=
  match c.definition? with
  | some d => " [" ++ d.name ++ "]"
  | none => ""

/-- The lines of an item behind a colon. -/
def linesMark (c : Component) : String :=
  match c.lines? with
  | some (first, stop) => ":" ++ toString first ++ "-" ++ toString stop
  | none => ""

/-- **A line for a component**: its kind, its name, its definition and where it is. -/
def componentLine (colours : Bool) (root : Path) (c : Component) : String :=
  painted colours .cyan 8 c.kind.name ++ " " ++ painted colours .bold 0 c.name
    ++ painted colours .dimmed 0 (definitionMark c) ++ " " ++ c.path.shownFrom root ++ linesMark c ++ "\n"

/-- A line for every component. -/
def componentLines (colours : Bool) (root : Path) (s : Scope) : String :=
  if s.isEmpty then painted colours .yellow 0 "nothing found" ++ "\n"
  else String.join (s.map (componentLine colours root))

/-- The components, as JSON or line by line. -/
def componentText (json colours : Bool) (root : Path) (s : Scope) : String :=
  if json then writeRecords (s.map (Record.ofComponent root)) else componentLines colours root s

/-! ## 3. Definitions -/

/-- **A line for a definition**: its type, its name, what it recognises and where it was read. -/
def definitionLine (colours : Bool) (root : Path) (d : Definition) : String :=
  painted colours .cyan 8 d.kind ++ " " ++ painted colours .bold 0 d.name ++ " " ++ d.identifier.shown
    ++ " (" ++ d.source.shownFrom root ++ ")\n"

/-- The root marker and a line for every definition. -/
def definitionLines (colours : Bool) (ds : Definitions) : String :=
  painted colours .boldGreen 0 "root" ++ " " ++ ds.rootMarker.text ++ "\n"
    ++ String.join (ds.all.map (definitionLine colours ds.rootDir))

/-- A definition as JSON; the fields are in the order of their names. -/
def definitionJson (root : Path) (d : Definition) : Json :=
  .object [("identifier", .text d.identifier.shown), ("name", .text d.name),
    ("source", .text (d.source.shownFrom root)), ("type", .text d.kind)]

/-- The definitions as JSON, line by line. -/
def definitionsJson (ds : Definitions) : String :=
  (Json.array (ds.all.map (definitionJson ds.rootDir))).pretty 0 ++ "\n"

/-- The definitions, as JSON or line by line. -/
def definitionText (json colours : Bool) (ds : Definitions) : String :=
  if json then definitionsJson ds else definitionLines colours ds

/-! ## 4. Failures -/

/-- A text whose lines begin with blanks, the first one with a mark. -/
def indented (mark blanks text : String) : String :=
  mark ++ ("\n" ++ blanks).intercalate (text.splitOn "\n")

/-- A number in front of a cause. -/
def causeMark (n : Nat) : String :=
  let digits := toString n
  String.ofList (List.replicate (5 - digits.length) ' ') ++ digits ++ ": "

/-- The causes of a failure, numbered if there are several. -/
def causeLines : List String → List String
  | [cause] => [indented "    " "    " cause]
  | causes => causes.mapIdx fun n cause => indented (causeMark n) "       " cause

/-- **What a failure prints**: what went wrong, and the causes behind it. -/
def failureReport (message : String) (causes : List String) : String :=
  "Error: " ++ message ++ "\n"
    ++ (if causes.isEmpty then ""
      else "\nCaused by:\n" ++ String.join ((causeLines causes).map (· ++ "\n")))

/-- A fault in words, and what lies behind it. -/
def faultChain (f : Fault) : List String :=
  f.message :: f.cause?.toList

end TreeIndex.CommandLine
