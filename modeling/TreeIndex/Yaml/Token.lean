import TreeIndex.Yaml.Written

/-!
# Tokens

A text is a sequence of tokens. Most are written; some stand for indentation alone: a collection starts where
a line is indented more deeply, and ends where one is indented less. A key is known by the colon after it, so
its token is put in late, in front of what turns out to be the key.

* `Token`: the tokens;
* `Reader`: what is left to read, the tokens so far, the columns of the open collections and the places where
  a key may have begun;
* `Reader.next`: one step; `tokens?`: all tokens of a text.

A key that needs no question mark stands on one line and is at most 1024 characters long.
-/

namespace TreeIndex.Yaml

/-! ## 1. Tokens -/

/-- A token of a text. -/
inductive Token where
  | version (major minor : Nat)
  | tagHandle (handle meaning : String)
  | documentStart
  | documentEnd
  | blockSequence
  | blockMapping
  | blockEnd
  | flowSequence
  | flowSequenceEnd
  | flowMapping
  | flowMappingEnd
  | blockEntry
  | flowEntry
  | key
  | value
  | anchor (name : String)
  | alias (name : String)
  /-- A tag: its handle, which is empty if the tag is written out, and the rest. -/
  | tag (handle rest : String)
  | scalar (text : String) (style : Style)
deriving DecidableEq, Inhabited

/-! ## 2. Names and tags -/

/-- The characters of a tag; the last three only where they can end nothing else. -/
def isTagChar (verbatim : Bool) (c : Char) : Bool :=
  isNameChar c || [';', '/', '?', ':', '@', '&', '=', '+', '$', '.', '%', '!', '~', '*', '\'', '(', ')'].contains c
    || (verbatim && [',', '[', ']'].contains c)

/-- How many bytes a character has whose first byte is given. -/
def byteCount? (first : Nat) : Option Nat :=
  if first < 0x80 then some 1
  else if 0xC0 ≤ first ∧ first < 0xE0 then some 2
  else if 0xE0 ≤ first ∧ first < 0xF0 then some 3
  else if 0xF0 ≤ first ∧ first < 0xF8 then some 4
  else none

/-- The bits of a first byte that belong to its character. -/
def leadBits (first count : Nat) : Nat :=
  match count with
  | 1 => first
  | 2 => first % 0x20
  | 3 => first % 0x10
  | _ => first % 0x08

/-- Characters where a percent sign with two digits stands for a byte. `left` bytes of a character with the
    number `value` are still to come. -/
def decodeBytes : (left value : Nat) → List Char → Option (List Char)
  | 0, _, [] => some []
  | _ + 1, _, [] => none
  | left, value, '%' :: a :: b :: rest =>
    match hexValue? a, hexValue? b with
    | some x, some y =>
      let byte := 16 * x + y
      match left with
      | 0 =>
        match byteCount? byte with
        | none => none
        | some 1 => (charOf? byte).bind fun c => (decodeBytes 0 0 rest).map (c :: ·)
        | some n => decodeBytes (n - 1) (leadBits byte n) rest
      | left + 1 =>
        if byte / 0x40 = 2 then
          let value := 0x40 * value + byte % 0x40
          if left = 0 then (charOf? value).bind fun c => (decodeBytes 0 0 rest).map (c :: ·)
          else decodeBytes left value rest
        else none
    | _, _ => none
  | 0, _, c :: rest => if c = '%' then none else (decodeBytes 0 0 rest).map (c :: ·)
  | _ + 1, _, _ :: _ => none

/-- The rest of a tag from some place on. -/
def tagRest? (verbatim : Bool) (ss : List Spot) : Except Malformed (List Char × List Spot) :=
  let (cs, rest) := takeSpots (isTagChar verbatim) ss
  match decodeBytes 0 0 cs with
  | some cs => .ok (cs, rest)
  | none => .error .tag

/-- An exclamation mark, a name that may be empty, and a second mark if there is one. -/
def tagHandle? (ss : List Spot) : Except Malformed (List Char × List Spot) :=
  if lookAhead ss 0 = '!' then
    let (cs, rest) := takeSpots isNameChar (ss.drop 1)
    if lookAhead rest 0 = '!' then .ok ('!' :: cs ++ ['!'], rest.drop 1) else .ok ('!' :: cs, rest)
  else .error .tag

/-- The tag begins with a whole handle: two marks with a name between them, or with none. -/
def isWholeHandle (handle : List Char) : Bool :=
  1 < handle.length && handle.getLast? == some '!'

/-- A **tag**; in a flow collection a comma may follow at once. -/
def tag? (flow : Bool) (ss : List Spot) : Except Malformed (Token × List Spot) := do
  let (token, rest) ←
    if lookAhead ss 1 = '<' then do
      let (cs, rest) ← tagRest? true (ss.drop 2)
      if cs.isEmpty || lookAhead rest 0 ≠ '>' then .error .tag
      else .ok (Token.tag "" (String.ofList cs), rest.drop 1)
    else do
      let (handle, rest) ← tagHandle? ss
      let (cs, rest) ← tagRest? false rest
      if isWholeHandle handle then
        if cs.isEmpty then .error .tag
        else .ok (Token.tag (String.ofList handle) (String.ofList cs), rest)
      else
        let cs := handle.drop 1 ++ cs
        if cs.isEmpty then .ok (Token.tag "" "!", rest) else .ok (Token.tag "!" (String.ofList cs), rest)
  let next := lookAhead rest 0
  if endsWord next || (flow && next = ',') then .ok (token, rest) else .error .tag

/-- The name of an **anchor** or an **alias**, from behind its sign on. -/
def anchorName? (ss : List Spot) : Except Malformed (String × List Spot) :=
  let (cs, rest) := takeSpots isNameChar ss
  let next := lookAhead rest 0
  if !cs.isEmpty && (endsWord next || ['?', ':', ',', ']', '}', '%', '@', '`'].contains next) then
    .ok (String.ofList cs, rest)
  else .error .anchor

/-! ## 3. Directives -/

/-- A number of at most nine digits. -/
def shortNumber? (ss : List Spot) : Option (Nat × List Spot) :=
  let (cs, rest) := takeSpots Char.isDigit ss
  if cs.isEmpty || 9 < cs.length then none
  else some (cs.foldl (fun n c => 10 * n + (c.toNat - '0'.toNat)) 0, rest)

/-- The two numbers of a version. -/
def versionNumbers? (ss : List Spot) : Option (Token × List Spot) := do
  let (major, rest) ← shortNumber? (skipGaps ss)
  if lookAhead rest 0 = '.' then
    let (minor, rest) ← shortNumber? (rest.drop 1)
    some (.version major minor, rest)
  else none

/-- A handle and its meaning. -/
def handleMeaning? (ss : List Spot) : Except Malformed (Token × List Spot) := do
  let (handle, rest) ← tagHandle? (skipGaps ss)
  if (isWholeHandle handle || handle = ['!']) && isGap (lookAhead rest 0) then
    let (cs, rest) ← tagRest? true (skipGaps rest)
    if !cs.isEmpty && endsWord (lookAhead rest 0) then
      .ok (.tagHandle (String.ofList handle) (String.ofList cs), rest)
    else .error .directive
  else .error .directive

/-- A **directive**, from behind its sign on to the end of its line. -/
def directive? (ss : List Spot) : Except Malformed (Token × List Spot) := do
  let (name, rest) := takeSpots isNameChar ss
  if !endsWord (lookAhead rest 0) then .error .directive
  else
    let (token, rest) ←
      if name = "YAML".toList then
        match versionNumbers? rest with
        | some found => .ok found
        | none => .error .directive
      else if name = "TAG".toList then handleMeaning? rest
      else .error .directive
    match skipToBreak? rest with
    | some rest => .ok (token, rest)
    | none => .error .directive

/-! ## 4. Reading -/

/-- A place where a simple key may have begun: in front of which token, and where in the text. A key is
    `required` where nothing but a key can stand. -/
structure KeyPlace where
  required : Bool
  tokens : Nat
  line : Nat
  column : Nat
  index : Nat

/-- What is left to read, and what is known about what was read. -/
structure Reader where
  rest : List Spot
  /-- The tokens so far, the latest first. -/
  made : List Token := []
  /-- The column of the innermost open block collection; -1 outside. -/
  indent : Int := -1
  /-- The columns of the collections around it. -/
  outerIndents : List Int := []
  /-- A simple key may begin here. -/
  keyAllowed : Bool := true
  /-- Where a key may have begun in the innermost flow collection, or in the block around all of them. -/
  key : Option KeyPlace := none
  /-- The same for the collections around it, the innermost first. -/
  outerKeys : List (Option KeyPlace) := []

namespace Reader

/-- The reader is inside a flow collection. -/
def inFlow (r : Reader) : Bool :=
  !r.outerKeys.isEmpty

/-- Adds a token at the end. -/
def push (r : Reader) (t : Token) : Reader :=
  { r with made := t :: r.made }

/-- Adds a token in front of the one with number `n`. -/
def insertAt (r : Reader) (n : Nat) (t : Token) : Reader :=
  { r with made := r.made.insertIdx (r.made.length - n) t }

/-- Passes over `n` characters. -/
def skip (r : Reader) (n : Nat) : Reader :=
  { r with rest := r.rest.drop n }

/-- The column of the next character. -/
def column (r : Reader) : Int :=
  (columnOf r.rest : Int)

/-- A place cannot hold a key any more: the line has ended, or the key would be too long. -/
def isStale (r : Reader) (k : KeyPlace) : Bool :=
  match r.rest with
  | s :: _ => k.line < s.line || k.index + 1024 < s.index
  | [] => true

/-- Forgets a place that is stale; it must not have been required. -/
def freshKey? (r : Reader) : Option KeyPlace → Except Malformed (Option KeyPlace)
  | none => .ok none
  | some k =>
    if r.isStale k then if k.required then .error .colon else .ok none
    else .ok (some k)

/-- Forgets every place that cannot hold a key any more. -/
def dropStale (r : Reader) : Except Malformed Reader := do
  let key ← r.freshKey? r.key
  let outerKeys ← r.outerKeys.mapM r.freshKey?
  .ok { r with key := key, outerKeys := outerKeys }

/-- Forgets the innermost place; it must not have been required. -/
def dropKey (r : Reader) : Except Malformed Reader :=
  match r.key with
  | some k => if k.required then .error .colon else .ok { r with key := none }
  | none => .ok r

/-- Remembers that a simple key may begin here. -/
def markKey (r : Reader) : Except Malformed Reader :=
  if r.keyAllowed then do
    let r ← r.dropKey
    match r.rest with
    | s :: _ =>
      let required := !r.inFlow && r.indent == (s.column : Int)
      .ok { r with key := some ⟨required, r.made.length, s.line, s.column, s.index⟩ }
    | [] => .ok r
  else .ok r

/-- A block collection opens if the column lies to the right of the one that is open; its token stands at the
    end, or in front of token `n`. -/
def openBlock (r : Reader) (column : Int) (n : Option Nat) (t : Token) : Reader :=
  if r.inFlow || column ≤ r.indent then r
  else
    let r := { r with indent := column, outerIndents := r.indent :: r.outerIndents }
    match n with
    | some n => r.insertAt n t
    | none => r.push t

/-- Block collections that began to the right of the column end. -/
def closeBlocks (column : Int) : Int → List Int → List Token → Int × List Int × List Token
  | indent, [], made => if column < indent then (-1, [], .blockEnd :: made) else (indent, [], made)
  | indent, outer :: more, made =>
    if column < indent then closeBlocks column outer more (.blockEnd :: made)
    else (indent, outer :: more, made)

/-- Closes the block collections to the right of the column; inside a flow collection none is closed. -/
def closeTo (r : Reader) (column : Int) : Reader :=
  if r.inFlow then r
  else
    let (indent, outer, made) := closeBlocks column r.indent r.outerIndents r.made
    { r with indent := indent, outerIndents := outer, made := made }

/-! ## 5. One token -/

/-- Blanks, comments and line breaks passed over. Tabs count as blanks where no key may begin; after a line
    break outside flow collections a key may begin again. -/
def skipBlank (flow : Bool) : Bool → Bool → List Spot → Bool × List Spot
  | keyAllowed, _, [] => (keyAllowed, [])
  | keyAllowed, comment, s :: rest =>
    if isBreak s.char then skipBlank flow (keyAllowed || !flow) false rest
    else if isEnd s.char then (keyAllowed, s :: rest)
    else if comment then skipBlank flow keyAllowed true rest
    else if s.char = '#' then skipBlank flow keyAllowed true rest
    else if s.char = ' ' || (s.char = '\t' && (flow || !keyAllowed))
        || (s.char = '\uFEFF' && s.column = 0) then
      skipBlank flow keyAllowed false rest
    else (keyAllowed, s :: rest)

/-- A document marker or a directive: all blocks end, and no key may begin. -/
def betweenDocuments (r : Reader) : Except Malformed Reader := do
  let r ← (r.closeTo (-1)).dropKey
  .ok { r with keyAllowed := false }

/-- A flow collection begins. -/
def beginFlow (r : Reader) (t : Token) : Except Malformed Reader := do
  let r ← r.markKey
  .ok (({ r with key := none, outerKeys := r.key :: r.outerKeys, keyAllowed := true }.skip 1).push t)

/-- A flow collection ends. -/
def endFlow (r : Reader) (t : Token) : Except Malformed Reader := do
  let r ← r.dropKey
  let r :=
    match r.outerKeys with
    | k :: more => { r with key := k, outerKeys := more }
    | [] => r
  .ok (({ r with keyAllowed := false }.skip 1).push t)

/-- A comma. -/
def flowEntry (r : Reader) : Except Malformed Reader := do
  let r ← r.dropKey
  .ok (({ r with keyAllowed := true }.skip 1).push .flowEntry)

/-- A dash: an entry of a block sequence. -/
def blockEntry (r : Reader) : Except Malformed Reader :=
  if !r.inFlow && !r.keyAllowed then .error .misplaced
  else do
    let r ← (r.openBlock r.column none .blockSequence).dropKey
    .ok (({ r with keyAllowed := true }.skip 1).push .blockEntry)

/-- A question mark: a key that may be anything. -/
def explicitKey (r : Reader) : Except Malformed Reader :=
  if !r.inFlow && !r.keyAllowed then .error .misplaced
  else do
    let r ← (r.openBlock r.column none .blockMapping).dropKey
    .ok (({ r with keyAllowed := !r.inFlow }.skip 1).push .key)

/-- A colon: **the place where a key may have begun held a key**, or the key is empty or explicit. -/
def colon (r : Reader) : Except Malformed Reader :=
  match r.key with
  | some k =>
    let r := (r.insertAt k.tokens .key).openBlock (k.column : Int) (some k.tokens) .blockMapping
    .ok (({ r with key := none, keyAllowed := false }.skip 1).push .value)
  | none =>
    if !r.inFlow && !r.keyAllowed then .error .misplaced
    else
      let r := r.openBlock r.column none .blockMapping
      .ok (({ r with keyAllowed := !r.inFlow }.skip 1).push .value)

/-- A token that may be, or begin, a simple key. -/
def keyed (r : Reader) (read : List Spot → Except Malformed (Token × List Spot)) :
    Except Malformed Reader := do
  let r ← r.markKey
  let (t, rest) ← read r.rest
  .ok ({ r with rest := rest, keyAllowed := false }.push t)

/-- A plain scalar. A line break at its end allows a key again. -/
def plainScalar (r : Reader) : Except Malformed Reader := do
  let r ← r.markKey
  let (w, rest) ← plain? r.inFlow (r.indent + 1) r.rest
  .ok ({ r with rest := rest, keyAllowed := w.broken }.push (.scalar w.text w.style))

/-- A block scalar. -/
def blockScalar (r : Reader) (folded : Bool) : Except Malformed Reader := do
  let r ← r.dropKey
  let (w, rest) ← block? folded r.indent (r.rest.drop 1)
  .ok ({ r with rest := rest, keyAllowed := true }.push (.scalar w.text w.style))

/-- A plain scalar may start here. -/
def startsPlain (flow : Bool) (ss : List Spot) : Bool :=
  let c := lookAhead ss 0
  let next := lookAhead ss 1
  if c = '-' then !isGap next
  else if c = '?' || c = ':' then !flow && !endsWord next
  else !(endsWord c || [',', '[', ']', '{', '}', '#', '&', '*', '!', '|', '>', '\'', '"', '%', '@', '`'].contains c)

/-- The end of the text: all blocks end. -/
def finish (r : Reader) : Except Malformed Reader :=
  (r.closeTo (-1)).dropKey

/-- The token at a place where neither a blank nor the end stands. -/
def token (r : Reader) : Except Malformed Reader :=
  let c := lookAhead r.rest 0
  let next := lookAhead r.rest 1
  if columnOf r.rest = 0 && c = '%' then do
    let r ← r.betweenDocuments
    let (t, rest) ← directive? (r.rest.drop 1)
    .ok ({ r with rest := rest }.push t)
  else if atMarker '-' r.rest then do
    let r ← r.betweenDocuments
    .ok ((r.skip 3).push .documentStart)
  else if atMarker '.' r.rest then do
    let r ← r.betweenDocuments
    .ok ((r.skip 3).push .documentEnd)
  else if c = '[' then r.beginFlow .flowSequence
  else if c = '{' then r.beginFlow .flowMapping
  else if c = ']' then r.endFlow .flowSequenceEnd
  else if c = '}' then r.endFlow .flowMappingEnd
  else if c = ',' then r.flowEntry
  else if c = '-' && endsWord next then r.blockEntry
  else if c = '?' && (r.inFlow || endsWord next) then r.explicitKey
  else if c = ':' && (r.inFlow || endsWord next) then r.colon
  else if c = '*' then
    r.keyed fun ss => (anchorName? (ss.drop 1)).map fun (name, rest) => (.alias name, rest)
  else if c = '&' then
    r.keyed fun ss => (anchorName? (ss.drop 1)).map fun (name, rest) => (.anchor name, rest)
  else if c = '!' then r.keyed (tag? r.inFlow)
  else if c = '|' && !r.inFlow then r.blockScalar false
  else if c = '>' && !r.inFlow then r.blockScalar true
  else if c = '\'' || c = '"' then
    r.keyed fun ss =>
      (quoted? (c = '\'') (ss.drop 1)).map fun (w, rest) => (.scalar w.text w.style, rest)
  else if startsPlain r.inFlow r.rest then r.plainScalar
  else .error .character

/-- **One step**: blanks, then a token, or the end. The flag says whether this was the end. -/
def next (r : Reader) : Except Malformed (Bool × Reader) := do
  let (keyAllowed, rest) := skipBlank r.inFlow r.keyAllowed false r.rest
  let r ← { r with keyAllowed := keyAllowed, rest := rest }.dropStale
  let r := r.closeTo r.column
  if isEnd (lookAhead r.rest 0) then do
    let r ← r.finish
    .ok (true, r)
  else do
    let r ← r.token
    .ok (false, r)

/-- At most `limit` steps. -/
def run : Nat → Reader → Except Malformed (List Token)
  | 0, r => .ok r.made.reverse
  | limit + 1, r => do
    let (done, r) ← r.next
    if done then .ok r.made.reverse else run limit r

end Reader

/-- **The tokens of a text**: every step but the last passes over a character. -/
def tokens? (text : String) : Except Malformed (List Token) := do
  let ss ← spots? text
  Reader.run (ss.length + 1) { rest := ss }

end TreeIndex.Yaml
