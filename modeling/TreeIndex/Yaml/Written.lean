import TreeIndex.Yaml.Spot

/-!
# Written scalars

A scalar is written plain, between quote marks, or as a block of lines. What it says is its text.

* `Style`, `Written`: how a scalar was written, and what it says;
* `Gap`: blanks and breaks inside a scalar, which count only once something follows; `Gap.fold`: one break
  becomes a blank, of several the first is dropped;
* `plain?`, `quoted?`, `block?`: a scalar of each kind from where it starts, with the spots after it.
-/

namespace TreeIndex.Yaml

/-! ## 1. What a scalar says -/

/-- How a scalar was written. -/
inductive Style where
  | plain
  | quoted
  | literal
  | folded
deriving DecidableEq, Inhabited

/-- A scalar as it was written; `broken` if a line break ended it. -/
structure Written where
  text : String
  style : Style
  broken : Bool
deriving DecidableEq, Inhabited

/-- Blanks and breaks that wait for what follows; lists hold the latest character first. -/
structure Gap where
  blanks : List Char := []
  broken : Bool := false
  first : List Char := []
  more : List Char := []

namespace Gap

/-- Nothing waits. -/
def isEmpty (g : Gap) : Bool :=
  !g.broken && g.blanks.isEmpty

/-- A break after what waits: blanks before the first break are lost. -/
def addBreak (g : Gap) (c : Char) : Gap :=
  if g.broken then { g with more := c :: g.more }
  else { g with blanks := [], broken := true, first := [c] }

/-- A blank after what waits: after a break it is lost. -/
def addBlank (g : Gap) (c : Char) : Gap :=
  if g.broken then g else { g with blanks := c :: g.blanks }

/-- What waits, **once something follows**: a single newline becomes a blank, and of several the first is
    dropped. The text holds its latest character first. -/
def fold (g : Gap) (text : List Char) : List Char :=
  if g.broken then
    if g.first = ['\n'] then
      if g.more = [] then ' ' :: text else g.more ++ text
    else g.more ++ g.first ++ text
  else g.blanks ++ text

end Gap

/-! ## 2. Plain scalars -/

/-- A plain scalar ends at the character, which stands in front of `rest`. -/
def endsPlain (flow : Bool) (c : Char) (rest : List Spot) : Bool :=
  (c = ':' && endsWord (lookAhead rest 0)) || (flow && [',', '[', ']', '{', '}'].contains c)

/-- A colon in a flow collection that belongs to nothing. -/
def strayColon (flow : Bool) (c : Char) (rest : List Spot) : Bool :=
  flow && c = ':' && [',', '?', '[', ']', '{', '}'].contains (lookAhead rest 0)

/-- The end of a plain scalar after a gap: the text stands too far left, or a marker or a comment begins. -/
def endsAfterGap (flow : Bool) (indent : Int) (ss : List Spot) : Bool :=
  (!flow && decide ((columnOf ss : Int) < indent)) || atDocumentMarker ss || lookAhead ss 0 = '#'

/-- A plain scalar from some place inside it on. -/
def plainFrom (flow : Bool) (indent : Int) :
    List Char → Gap → List Spot → Except Malformed (Written × List Spot)
  | text, gap, [] => .ok (⟨String.ofList text.reverse, .plain, gap.broken⟩, [])
  | text, gap, s :: rest =>
    if isGap s.char then
      if gap.broken && s.char = '\t' && decide ((s.column : Int) < indent) then .error .misplaced
      else plainFrom flow indent text (gap.addBlank s.char) rest
    else if isBreak s.char then plainFrom flow indent text (gap.addBreak s.char) rest
    else if isEnd s.char || (!gap.isEmpty && endsAfterGap flow indent (s :: rest)) then
      .ok (⟨String.ofList text.reverse, .plain, gap.broken⟩, s :: rest)
    else if strayColon flow s.char rest then .error .misplaced
    else if endsPlain flow s.char rest then
      .ok (⟨String.ofList text.reverse, .plain, gap.broken⟩, s :: rest)
    else plainFrom flow indent (s.char :: gap.fold text) {} rest

/-- A **plain** scalar; its further lines stand to the right of the column `indent - 1`. -/
def plain? (flow : Bool) (indent : Int) (ss : List Spot) : Except Malformed (Written × List Spot) :=
  plainFrom flow indent [] {} ss

/-! ## 3. Quoted scalars -/

/-- What a letter after a backslash stands for. -/
inductive Escape where
  /-- One character. -/
  | char (c : Char)
  /-- The character with the number of the next digits. -/
  | digits (n : Nat)

/-- The meaning of a letter after a backslash. -/
def escape? (c : Char) : Option Escape :=
  if c = '0' then some (.char '\x00')
  else if c = 'a' then some (.char '\x07')
  else if c = 'b' then some (.char '\x08')
  else if c = 't' || c = '\t' then some (.char '\t')
  else if c = 'n' then some (.char '\n')
  else if c = 'v' then some (.char '\x0b')
  else if c = 'f' then some (.char '\x0c')
  else if c = 'r' then some (.char '\r')
  else if c = 'e' then some (.char '\x1b')
  else if c = ' ' || c = '"' || c = '/' || c = '\\' then some (.char c)
  else if c = 'N' then some (.char '\u0085')
  else if c = '_' then some (.char '\u00A0')
  else if c = 'L' then some (.char '\u2028')
  else if c = 'P' then some (.char '\u2029')
  else if c = 'x' then some (.digits 2)
  else if c = 'u' then some (.digits 4)
  else if c = 'U' then some (.digits 8)
  else none

/-- The character with a number, unless no character has it. -/
def charOf? (n : Nat) : Option Char :=
  if n.isValidChar then some (Char.ofNat n) else none

/-- Where a quoted text stands: in its midst, behind a backslash, or in the digits of a number of which
    some are still to come. -/
inductive QuotedState where
  | midst
  | escaped
  | number (left value : Nat)

/-- A text between double quote marks from some place inside it on. -/
def doubleFrom : QuotedState → List Char → Gap → List Spot → Except Malformed (Written × List Spot)
  | _, _, _, [] => .error .unclosed
  | .number left value, text, gap, s :: rest =>
    match hexValue? s.char with
    | none => .error .escape
    | some d =>
      let value := 16 * value + d
      match left with
      | 0 | 1 =>
        match charOf? value with
        | some c => doubleFrom .midst (c :: text) gap rest
        | none => .error .escape
      | left + 1 => doubleFrom (.number left value) text gap rest
  | .escaped, text, _, s :: rest =>
    if isBreak s.char then doubleFrom .midst text { broken := true } rest
    else
      match escape? s.char with
      | some (.char c) => doubleFrom .midst (c :: text) {} rest
      | some (.digits n) => doubleFrom (.number n 0) text {} rest
      | none => .error .escape
  | .midst, text, gap, s :: rest =>
    if isGap s.char then doubleFrom .midst text (gap.addBlank s.char) rest
    else if isBreak s.char then doubleFrom .midst text (gap.addBreak s.char) rest
    else if isEnd s.char || (!gap.isEmpty && atDocumentMarker (s :: rest)) then .error .unclosed
    else
      let text := gap.fold text
      if s.char = '"' then .ok (⟨String.ofList text.reverse, .quoted, false⟩, rest)
      else if s.char = '\\' then doubleFrom .escaped text {} rest
      else doubleFrom .midst (s.char :: text) {} rest

/-- A text between single quote marks from some place inside it on; `twice` right after a mark that may be
    the first of two. -/
def singleFrom : Bool → List Char → Gap → List Spot → Except Malformed (Written × List Spot)
  | true, text, _, [] => .ok (⟨String.ofList text.reverse, .quoted, false⟩, [])
  | false, _, _, [] => .error .unclosed
  | true, text, _, s :: rest =>
    if s.char = '\'' then singleFrom false ('\'' :: text) {} rest
    else .ok (⟨String.ofList text.reverse, .quoted, false⟩, s :: rest)
  | false, text, gap, s :: rest =>
    if isGap s.char then singleFrom false text (gap.addBlank s.char) rest
    else if isBreak s.char then singleFrom false text (gap.addBreak s.char) rest
    else if isEnd s.char || (!gap.isEmpty && atDocumentMarker (s :: rest)) then .error .unclosed
    else
      let text := gap.fold text
      if s.char = '\'' then singleFrom true text {} rest
      else singleFrom false (s.char :: text) {} rest

/-- A **quoted** scalar, from behind its first mark on. -/
def quoted? (single : Bool) (ss : List Spot) : Except Malformed (Written × List Spot) :=
  if single then singleFrom false [] {} ss else doubleFrom .midst [] {} ss

/-! ## 4. Blocks of lines -/

/-- What happens to the line breaks at the end of a block: all but one are dropped, all are, or none. -/
inductive Chomping where
  | clip
  | strip
  | keep
deriving DecidableEq

/-- The sign that says what happens to the line breaks at the end. -/
def chomping? (c : Char) : Option Chomping :=
  if c = '+' then some .keep else if c = '-' then some .strip else none

/-- The digit that says how far a block is indented. -/
def increment? (c : Char) : Option Nat :=
  if c.isDigit then some (c.toNat - '0'.toNat) else none

/-- The signs at the head of a block, in either order: what happens to the breaks at its end, and by how much
    it is indented (0: as far as its first line). -/
def blockHead? (ss : List Spot) : Except Malformed (Chomping × Nat × List Spot) :=
  let afterSign (chomping : Chomping) (rest : List Spot) :=
    match increment? (lookAhead rest 0) with
    | some 0 => .error .blockHead
    | some n => .ok (chomping, n, rest.drop 1)
    | none => .ok (chomping, 0, rest)
  match chomping? (lookAhead ss 0) with
  | some chomping => afterSign chomping (ss.drop 1)
  | none =>
    match increment? (lookAhead ss 0) with
    | some 0 => .error .blockHead
    | some n =>
      match chomping? (lookAhead ss 1) with
      | some chomping => .ok (chomping, n, ss.drop 2)
      | none => .ok (.clip, n, ss.drop 1)
    | none => .ok (.clip, 0, ss)

/-- What a block has said so far. `indent` is 0 until the first line with content; `widest` is the widest
    indentation seen before it. `lastBreak` ended the last line, `more` are the breaks after it; lists hold
    the latest character first. -/
structure BlockState where
  inLine : Bool := false
  indent : Nat
  widest : Nat := 0
  text : List Char := []
  lastBreak : List Char := []
  more : List Char := []
  leadingBlank : Bool := false

namespace BlockState

/-- A line with content begins: the breaks before it are folded or kept. -/
def beginLine (b : BlockState) (folded : Bool) (c : Char) : BlockState :=
  let text :=
    if folded && b.lastBreak = ['\n'] && !b.leadingBlank && !isGap c then
      if b.more = [] then ' ' :: b.text else b.more ++ b.text
    else b.more ++ b.lastBreak ++ b.text
  { b with inLine := true, text := c :: text, lastBreak := [], more := [], leadingBlank := isGap c }

/-- The text of the block with the breaks at its end. -/
def finish (b : BlockState) (chomping : Chomping) : String :=
  let text :=
    match chomping with
    | .strip => b.text
    | .clip => b.lastBreak ++ b.text
    | .keep => b.more ++ b.lastBreak ++ b.text
  String.ofList text.reverse

end BlockState

/-- The lines of a block; `least` is the least indentation they may have. -/
def blockFrom (folded : Bool) (chomping : Chomping) (least : Nat) :
    BlockState → List Spot → Except Malformed (String × List Spot)
  | b, [] => .ok (b.finish chomping, [])
  | b, s :: rest =>
    if b.inLine then
      if isBreak s.char then
        blockFrom folded chomping least
          { b with inLine := false, lastBreak := [s.char], more := [] } rest
      else if isEnd s.char then .ok (b.finish chomping, s :: rest)
      else blockFrom folded chomping least { b with text := s.char :: b.text } rest
    else
      let open_ := b.indent = 0 || s.column < b.indent
      let widest := max b.widest s.column
      if open_ && s.char = ' ' then blockFrom folded chomping least b rest
      else if open_ && s.char = '\t' then .error .misplaced
      else if isBreak s.char then
        blockFrom folded chomping least { b with widest := widest, more := s.char :: b.more } rest
      else
        let indent := if b.indent = 0 then max widest least else b.indent
        if s.column = indent && !isEnd s.char then
          blockFrom folded chomping least
            (({ b with indent := indent, widest := widest } : BlockState).beginLine folded s.char) rest
        else .ok (b.finish chomping, s :: rest)

/-- A **block** of lines, from behind its sign on, in a collection at column `indent`. -/
def block? (folded : Bool) (indent : Int) (ss : List Spot) :
    Except Malformed (Written × List Spot) := do
  let (chomping, increment, rest) ← blockHead? ss
  match skipToBreak? rest with
  | none => .error .blockHead
  | some rest =>
    let start := if increment = 0 then 0 else (max indent 0).toNat + increment
    let least := (max (indent + 1) 1).toNat
    let (text, rest) ← blockFrom folded chomping least { indent := start } rest
    .ok (⟨text, if folded then .folded else .literal, true⟩, rest)

end TreeIndex.Yaml
