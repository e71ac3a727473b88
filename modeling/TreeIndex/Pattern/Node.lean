import TreeIndex.Pattern.Term

/-!
# Nodes

A node is what a term means once flags and counts are settled.

* `Place`: places in a text, and `Place.holds`: whether the characters around a position make it one;
* `Node`: patterns made of sets, places, groups, sequences, alternatives of which the first is preferred, and
  repetitions that prefer more or fewer rounds;
* `repeated`: a count unfolded -- so many copies in a row, and the further ones nested in each other, so that a
  copy is tried only after the one before it;
* `Flags`, `node?`: the node of a term under some flags, with the flags after it;
* `names`: the names of the groups, in order.
-/

namespace TreeIndex.Pattern

open TreeIndex.Text

/-! ## 1. Places -/

/-- A place in a text. -/
inductive Place where
  | textStart
  | textEnd
  | lineStart
  | lineEnd
  /-- As `lineStart` and `lineEnd`, where a carriage return ends a line too. -/
  | returnStart
  | returnEnd
  | word (edge : WordEdge) (ascii : Bool)
deriving DecidableEq, Inhabited

/-- The character is there and belongs to a word. -/
def isWordAt (ascii : Bool) : Option Char → Bool
  | none => false
  | some c => if ascii then (CharSet.ranges asciiWord).has c else isWord c

/-- The two sides of a position make the edge of a word. -/
def WordEdge.holds (edge : WordEdge) (before after : Bool) : Bool :=
  match edge with
  | boundary => before != after
  | inside => before == after
  | start => !before && after
  | finish => before && !after
  | startHalf => !before
  | finishHalf => !after

/-- The characters around a position **make it such a place**. -/
def Place.holds (p : Place) (before after : Option Char) : Bool :=
  match p with
  | textStart => before.isNone
  | textEnd => after.isNone
  | lineStart => before.isNone || before == some '\n'
  | lineEnd => after.isNone || after == some '\n'
  | returnStart =>
    before.isNone || before == some '\n' || (before == some '\r' && after != some '\n')
  | returnEnd =>
    after.isNone || after == some '\r' || (after == some '\n' && before != some '\r')
  | word edge ascii => edge.holds (isWordAt ascii before) (isWordAt ascii after)

/-! ## 2. Nodes -/

/-- A pattern. -/
inductive Node where
  | empty
  | set (s : CharSet)
  | place (p : Place)
  | group (index : Nat) (name : Option String) (body : Node)
  | cat (first second : Node)
  | alt (first second : Node)
  /-- The body or nothing; a greedy one prefers the body. -/
  | opt (greedy : Bool) (body : Node)
  /-- The body once or more; a greedy one prefers more. -/
  | plus (greedy : Bool) (body : Node)
deriving Inhabited

namespace Node

/-- The pattern can match **nothing but the empty text**. -/
def isEmptyOnly : Node → Bool
  | empty => true
  | set _ => false
  | place _ => true
  | group _ _ body => body.isEmptyOnly
  | cat a b => a.isEmptyOnly && b.isEmptyOnly
  | alt a b => a.isEmptyOnly && b.isEmptyOnly
  | opt _ body => body.isEmptyOnly
  | plus _ body => body.isEmptyOnly

/-- How many steps the pattern takes when it is unfolded. -/
def size : Node → Nat
  | empty => 0
  | set _ => 1
  | place _ => 1
  | group _ _ body => body.size + 2
  | cat a b => a.size + b.size
  | alt a b => a.size + b.size + 2
  | opt _ body => body.size + 1
  | plus _ body => body.size + 1

/-- Patterns in a row. -/
def row : List Node → Node
  | [] => empty
  | [n] => n
  | n :: ns => cat n (row ns)

/-- Alternatives, the first of which is preferred. -/
def choice : List Node → Node
  | [] => empty
  | [n] => n
  | n :: ns => alt n (choice ns)

/-- So many copies in a row. -/
def copies : Nat → Node → Node
  | 0, _ => empty
  | 1, n => n
  | k + 2, n => cat n (copies (k + 1) n)

/-- Up to so many copies, **each one only after the one before it**. -/
def upTo (greedy : Bool) : Nat → Node → Node
  | 0, _ => empty
  | 1, n => opt greedy n
  | k + 2, n => opt greedy (cat n (upTo greedy (k + 1) n))

/-- At least so many rounds. -/
def atLeast (greedy : Bool) : Nat → Node → Node
  | 0, n => opt greedy (plus greedy n)
  | 1, n => plus greedy n
  | k + 2, n => cat (copies (k + 1) n) (plus greedy n)

/-- A pattern repeated: at least `least` and at most `most` times. What matches the empty text alone is
    repeated once at most, and no round at all is the empty pattern. -/
def repeated (least : Nat) (most : Option Nat) (greedy : Bool) (n : Node) : Node :=
  let least := if n.isEmptyOnly then min least 1 else least
  let most := if n.isEmptyOnly then some ((most.map (min · 1)).getD 1) else most
  match most with
  | none => atLeast greedy least n
  | some most =>
    if most = 0 then empty
    else if least = most then copies least n
    else if least = 0 then upTo greedy most n
    else cat (copies least n) (upTo greedy (most - least) n)

/-- Names and further ones that are not among them. -/
def joinNames (xs ys : List String) : List String :=
  xs ++ ys.filter fun y => !xs.contains y

/-- The names of the groups, in the order of the text; a group that is unfolded several times is one. -/
def names : Node → List String
  | empty => []
  | set _ => []
  | place _ => []
  | group _ name body => name.toList ++ body.names
  | cat a b => joinNames a.names b.names
  | alt a b => joinNames a.names b.names
  | opt _ body => body.names
  | plus _ body => body.names

/-- The number of the group with a name. -/
def indexOf? (name : String) : Node → Option Nat
  | empty => none
  | set _ => none
  | place _ => none
  | group i n body => if n = some name then some i else body.indexOf? name
  | cat a b => (a.indexOf? name).or (b.indexOf? name)
  | alt a b => (a.indexOf? name).or (b.indexOf? name)
  | opt _ body => body.indexOf? name
  | plus _ body => body.indexOf? name

end Node

/-! ## 3. Flags -/

/-- The flags in force. -/
structure Flags where
  ignoreCase : Bool := false
  manyLines : Bool := false
  dotAll : Bool := false
  lazyByDefault : Bool := false
  unicode : Bool := true
  returns : Bool := false

namespace Flags

/-- The flags after one is set or taken back. -/
def set (f : Flags) (flag : Flag) (on : Bool) : Flags :=
  match flag with
  | .i => { f with ignoreCase := on }
  | .m => { f with manyLines := on }
  | .s => { f with dotAll := on }
  | .lazy => { f with lazyByDefault := on }
  | .u => { f with unicode := on }
  | .r => { f with returns := on }
  | .x => f

/-- The flags after a change. -/
def change (f : Flags) (c : FlagChange) : Flags :=
  c.foldl (fun f e => f.set e.1 e.2) f

/-- The place that a term means. -/
def place (f : Flags) : PlaceTerm → Place
  | .lineStart => if f.manyLines then if f.returns then .returnStart else .lineStart else .textStart
  | .lineEnd => if f.manyLines then if f.returns then .returnEnd else .lineEnd else .textEnd
  | .textStart => .textStart
  | .textEnd => .textEnd
  | .word edge => .word edge (!f.unicode)

/-- The set closed under case, if case is ignored. -/
def closeCase (f : Flags) (s : CharSet) : CharSet :=
  if f.ignoreCase then if f.unicode then .caseless s else .inter (.caseless s) .ascii else s

/-- The set or what lies outside it. -/
def negate (negated : Bool) (s : CharSet) : CharSet :=
  if negated then .complement s else s

/-- The set of a character that is written out, which is a whole character also without Unicode. Only ASCII has two cases
    then. -/
def char (f : Flags) (c : Char) : CharSet :=
  if !f.unicode && 0x80 ≤ c.toNat then .single c else f.closeCase (.single c)

/-- The set that a letter names. -/
def letter (f : Flags) (k : LetterClass) : CharSet :=
  match k with
  | .word => if f.unicode then .word else .ranges asciiWord
  | .digit => if f.unicode then .digit else .ranges asciiDigits
  | .blank => if f.unicode then .blank else .ranges asciiBlanks
  | .property s => f.closeCase s

/-- What a dot matches. -/
def dot (f : Flags) : CharSet :=
  if f.dotAll then .everything
  else if f.returns then .complement (.union (.single '\r') (.single '\n'))
  else .complement (.single '\n')

end Flags

/-! ## 4. Nodes from terms -/

mutual

/-- The set of a bracketed set. Case is closed before a set is negated. -/
def SetTerm.toSet (f : Flags) : SetTerm → CharSet
  | chars lo hi => .between lo hi
  | letter k negated => Flags.negate negated (f.letter k)
  | named s negated => Flags.negate negated (f.closeCase s)
  | bracket negated s => Flags.negate negated (f.closeCase (s.toSet f))
  | union items => unionOf f items
  | combine op s t =>
    let left := f.closeCase (s.toSet f)
    let right := f.closeCase (t.toSet f)
    match op with
    | .inter => .inter left right
    | .diff => .diff left right
    | .symmDiff => .symmDiff left right

/-- The union of some bracketed sets. -/
def SetTerm.unionOf (f : Flags) : List SetTerm → CharSet
  | [] => .nothing
  | [s] => s.toSet f
  | s :: ss => .union (s.toSet f) (unionOf f ss)

end

/-- The class means characters outside ASCII. Those of Unicode do, whatever they hold. -/
def LetterClass.leavesAscii : LetterClass → Bool
  | property _ => true
  | _ => false

mutual

/-- Some part of a bracketed set means characters outside ASCII. -/
def SetTerm.leavesAscii : SetTerm → Bool
  | chars _ hi => 0x80 ≤ hi.toNat
  | letter k negated => negated || k.leavesAscii
  | named _ negated => negated
  | bracket negated s => negated || s.leavesAscii
  | union items => anyLeavesAscii items
  | combine _ s t => s.leavesAscii || t.leavesAscii

/-- Some of the bracketed sets means characters outside ASCII. -/
def SetTerm.anyLeavesAscii : List SetTerm → Bool
  | [] => false
  | s :: ss => s.leavesAscii || anyLeavesAscii ss

end

/-- A set that can stand under the flags: without Unicode it must keep to ASCII. -/
def setNode? (f : Flags) (leavesAscii : Bool) (s : CharSet) : Except Defect Node :=
  if !f.unicode && leavesAscii then .error .halfCharacter else .ok (.set s)

mutual

/-- **The node of a term** under some flags, with the flags after it. A group keeps its flags to itself. -/
def Term.node? (f : Flags) : Term → Except Defect (Node × Flags)
  | flags change => .ok (.empty, f.change change)
  | char c => .ok (.set (f.char c), f)
  -- the byte alone, which is no character from 0x80 on
  | byte c => (setNode? f (0x80 ≤ c.toNat) (f.char c)).map fun n => (n, f)
  | dot => (setNode? f true f.dot).map fun n => (n, f)
  | place p => .ok (.place (f.place p), f)
  | letter k negated =>
    (setNode? f (negated || k.leavesAscii) (Flags.negate negated (f.letter k))).map fun n => (n, f)
  | set negated s =>
    (setNode? f (negated || s.leavesAscii) (Flags.negate negated (f.closeCase (s.toSet f)))).map
      fun n => (n, f)
  | repeated t least most greedy => do
    let (n, f) ← t.node? f
    .ok (Node.repeated least most (greedy != f.lazyByDefault) n, f)
  | group kind t => do
    match kind with
    | .numbered i => do
      let (n, _) ← t.node? f
      .ok (.group i none n, f)
    | .named i name => do
      let (n, _) ← t.node? f
      .ok (.group i (some name) n, f)
    | .flagged change => do
      let (n, _) ← t.node? (f.change change)
      .ok (n, f)
  | cat items => do
    let (ns, f) ← nodes? f items
    .ok (Node.row ns, f)
  | alt branches => do
    let (ns, f) ← nodes? f branches
    .ok (Node.choice ns, f)

/-- The nodes of some terms, where the flags of one go over to the next. -/
def Term.nodes? (f : Flags) : List Term → Except Defect (List Node × Flags)
  | [] => .ok ([], f)
  | t :: ts => do
    let (n, f) ← t.node? f
    let (ns, f) ← nodes? f ts
    .ok (n :: ns, f)

end

/-- How many steps a pattern may take when it is unfolded. -/
def largest : Nat := 400000

/-- **The node of a text.** -/
def Node.ofText? (text : String) : Except Defect Node := do
  let t ← Term.ofText? text
  let (n, _) ← t.node? {}
  if largest < n.size then .error .size else .ok n

end TreeIndex.Pattern
