/-!
# Characters in their place

YAML depends on columns, so a text is read as a list of spots: a character with its line, its column and
its index.

* `Malformed`: why a text is no document;
* `Spot`, `spots?`: the text as spots, closed by a NUL, which no text holds; line endings of one and of two
  characters both read as a newline, and the two Unicode separators stay what they are;
* `isGap`, `isBreak`, `endsWord`: blanks, line breaks, and both together with the end;
* `lookAhead`: a character some places ahead; `atMarker`: three equal characters that fill a line's start.
-/

namespace TreeIndex.Yaml

/-! ## 1. Malformed texts -/

/-- Why a text is **no YAML document**. -/
inductive Malformed where
  /-- A control character stands in the text. -/
  | control
  /-- No token starts with the character. -/
  | character
  /-- A key, a value, an entry or a tab stands where none may stand. -/
  | misplaced
  /-- A simple key lacks its colon. -/
  | colon
  /-- A quoted text does not end, or a document marker stands in it. -/
  | unclosed
  /-- An escape that means nothing. -/
  | escape
  /-- The head of a block text. -/
  | blockHead
  /-- A directive that is unknown, misspelt, repeated or of another version. -/
  | directive
  /-- A tag, its handle or its end. -/
  | tag
  /-- The name of an anchor or an alias. -/
  | anchor
  /-- The tokens do not form a document. -/
  | arrangement
  /-- An alias that no anchor precedes. -/
  | unknownAlias
  /-- Collections are nested too deeply. -/
  | depth
  /-- Aliases are followed too often. -/
  | repetition
  /-- A mapping holds a key twice. -/
  | duplicateKey
  /-- A scalar does not suit its tag, or a number is too large. -/
  | scalar
  /-- The document is not of the shape that is asked for. -/
  | shape
deriving DecidableEq, Inhabited

/-! ## 2. Characters -/

/-- A character that may stand in a text. -/
def isAdmitted (c : Char) : Bool :=
  let n := c.toNat
  n = 0x09 || n = 0x0A || n = 0x0D || (0x20 ≤ n && n ≤ 0x7E) || n = 0x85 || (0xA0 ≤ n && n ≤ 0xFFFD)
    || 0x10000 ≤ n

/-- A space or a tab. -/
def isGap (c : Char) : Bool :=
  c = ' ' || c = '\t'

/-- A line break, as spots hold it. -/
def isBreak (c : Char) : Bool :=
  c = '\n' || c = '\u2028' || c = '\u2029'

/-- The end of the text. -/
def isEnd (c : Char) : Bool :=
  c = '\x00'

/-- A character that no word holds: a gap, a break or the end. -/
def endsWord (c : Char) : Bool :=
  isGap c || isBreak c || isEnd c

/-- A letter, a digit, a dash or an underscore, of ASCII alone: names of anchors are made of them. -/
def isNameChar (c : Char) : Bool :=
  c.isAlphanum || c = '_' || c = '-'

/-- The value of a hexadecimal digit. -/
def hexValue? (c : Char) : Option Nat :=
  if '0' ≤ c ∧ c ≤ '9' then some (c.toNat - '0'.toNat)
  else if 'a' ≤ c ∧ c ≤ 'f' then some (c.toNat - 'a'.toNat + 10)
  else if 'A' ≤ c ∧ c ≤ 'F' then some (c.toNat - 'A'.toNat + 10)
  else none

/-! ## 3. Spots -/

/-- A character **in its place**. -/
structure Spot where
  char : Char
  line : Nat
  column : Nat
  index : Nat
deriving DecidableEq, Inhabited

/-- The rest of a text from a place on; its end is a spot of its own. -/
def spotsFrom (line column index : Nat) : List Char → List Spot
  | [] => [⟨'\x00', line, column, index⟩]
  | '\r' :: '\n' :: cs => ⟨'\n', line, column, index⟩ :: spotsFrom (line + 1) 0 (index + 2) cs
  | c :: cs =>
    if c = '\r' || c = '\u0085' then
      ⟨'\n', line, column, index⟩ :: spotsFrom (line + 1) 0 (index + 1) cs
    else if isBreak c then ⟨c, line, column, index⟩ :: spotsFrom (line + 1) 0 (index + 1) cs
    else ⟨c, line, column, index⟩ :: spotsFrom line (column + 1) (index + 1) cs

/-- The text without a byte order mark in front. -/
def dropMark : List Char → List Char
  | '\uFEFF' :: cs => cs
  | cs => cs

/-- **A text as spots.** -/
def spots? (text : String) : Except Malformed (List Spot) :=
  let cs := dropMark text.toList
  if cs.all isAdmitted then .ok (spotsFrom 0 0 0 cs) else .error .control

/-- The character some places ahead; past the end it is the end. -/
def lookAhead (ss : List Spot) (n : Nat) : Char :=
  match ss[n]? with
  | some s => s.char
  | none => '\x00'

/-- The column of the next character. -/
def columnOf : List Spot → Nat
  | s :: _ => s.column
  | [] => 0

/-- Three times the character at the start of a line, and nothing that belongs to it. -/
def atMarker (c : Char) (ss : List Spot) : Bool :=
  columnOf ss == 0 && lookAhead ss 0 == c && lookAhead ss 1 == c && lookAhead ss 2 == c
    && endsWord (lookAhead ss 3)

/-- A document starts or ends here. -/
def atDocumentMarker (ss : List Spot) : Bool :=
  atMarker '-' ss || atMarker '.' ss

/-- Spaces and tabs passed over. -/
def skipGaps : List Spot → List Spot
  | s :: rest => if isGap s.char then skipGaps rest else s :: rest
  | [] => []

/-- The rest of a line passed over. -/
def skipLine : List Spot → List Spot
  | s :: rest => if isBreak s.char || isEnd s.char then s :: rest else skipLine rest
  | [] => []

/-- Spaces, tabs and a comment passed over, up to the end of the line; nothing else may stand there. -/
def skipToBreak? (ss : List Spot) : Option (List Spot) :=
  let ss := skipGaps ss
  let ss := if lookAhead ss 0 = '#' then skipLine ss else ss
  if isBreak (lookAhead ss 0) then some (ss.drop 1)
  else if isEnd (lookAhead ss 0) then some ss
  else none

/-- Splits at the first spot whose character fails the test. -/
def takeSpots (test : Char → Bool) : List Spot → List Char × List Spot
  | [] => ([], [])
  | s :: rest =>
    if test s.char then
      let (cs, rest) := takeSpots test rest
      (s.char :: cs, rest)
    else ([], s :: rest)

end TreeIndex.Yaml
