import TreeIndex.Pattern.Search

/-!
# Compiled patterns

* `Pattern`, `Pattern.ofText?`: a text as a pattern that can be searched for;
* `groupNames`: the names of its groups, in order;
* `captures`: all matches in a text; `Capture.named?`: what a group matched, if it took part;
* `accepts`: whether a text holds a match;
* `escape`: a text as a pattern that matches itself (every character that a pattern uses gets a backslash).
-/

namespace TreeIndex

open Pattern

/-- A pattern that can be searched for. -/
structure Pattern where
  text : String
  node : Pattern.Node
  program : Array Inst

namespace Pattern

/-! ## 1. Patterns -/

/-- **A text as a pattern.** -/
def ofText? (text : String) : Except Defect Pattern := do
  let node ← Node.ofText? text
  .ok ⟨text, node, node.program.toArray⟩

/-- The names of the groups, in order. -/
def groupNames (p : Pattern) : List String :=
  p.node.names

/-! ## 2. Matches in a text -/

/-- What a match captured: where it stands and what each named group matched. -/
structure Capture where
  start : Nat
  stop : Nat
  text : List Char
  groups : List (String × Option String)

/-- What a named group matched, if it took part. -/
def Capture.named? (c : Capture) (name : String) : Option String :=
  (c.groups.lookup name).join

/-- What a match captured of a text. -/
def captureOf (p : Pattern) (cs : List Char) (m : Match) : Capture :=
  { start := m.start
    stop := m.stop
    text := part cs m.start m.stop
    groups := p.groupNames.map fun name =>
      let range := (p.node.indexOf? name).bind m.range?
      (name, range.map fun r => String.ofList (part cs r.1 r.2)) }

/-- **All matches in a text**, from left to right. -/
def captures (p : Pattern) (cs : List Char) : List Capture :=
  (findAll p.program cs).map (p.captureOf cs)

/-- The text **holds a match**. -/
def accepts (p : Pattern) (cs : List Char) : Bool :=
  (findFrom? p.program cs 0).isSome

/-! ## 3. Texts that match themselves -/

/-- A character as a pattern that matches it alone. -/
def escapeChar (c : Char) : List Char :=
  if isMeta c then ['\\', c] else [c]

/-- A text as a pattern that **matches itself**. -/
def escape (text : String) : String :=
  String.ofList (text.toList.flatMap escapeChar)

end Pattern

end TreeIndex
