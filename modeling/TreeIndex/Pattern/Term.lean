import TreeIndex.Pattern.Property

/-!
# Terms

The text of a pattern is read as a term. A term says what was written and nothing about what it means: flags
stand where they were set, and a set is not yet known to ignore case.

* `Defect`: why a text is no pattern;
* `Term`, `SetTerm`: patterns and bracketed sets as they were written;
* `escape?`, `counted?`, `groupHead?`: what follows a backslash, an opening brace and an opening bracket;
  `property?`: a class of Unicode;
* `Term.ofText?`: the term of a text. A closing brace or a closing square bracket on its own stands for
  itself; an opening brace always opens a count.

With the flag `x` blanks mean nothing and a number sign starts a comment.
-/

namespace TreeIndex.Pattern

open TreeIndex.Text

/-! ## 1. Terms -/

/-- Why a text is **no pattern**. -/
inductive Defect where
  /-- A group, a set, a count, a name or an escape does not end. -/
  | unclosed
  /-- A closing bracket that closes nothing. -/
  | unopened
  /-- A repetition of nothing. -/
  | nothingRepeated
  /-- A count without a number, with too large a number, or with its bounds in the wrong order. -/
  | count
  /-- A backslash in front of something that has no meaning there. -/
  | escape
  /-- A range whose ends are no characters, or stand in the wrong order. -/
  | range
  /-- A group name that is empty, misspelt or already taken. -/
  | groupName
  /-- A flag that is unknown, repeated or missing. -/
  | flag
  /-- A look ahead or behind. -/
  | lookAround
  /-- The pattern is nested too deeply. -/
  | depth
  /-- The pattern is too large. -/
  | size
  /-- Without the flag `u` the pattern could match half a character. -/
  | halfCharacter
deriving DecidableEq, Inhabited

/-- The classes that a letter stands for, **on its own or with a name**. -/
inductive LetterClass where
  | word
  | digit
  | blank
  | property (s : CharSet)
deriving DecidableEq

/-- Where a word begins or ends. -/
inductive WordEdge where
  | boundary
  | inside
  | start
  | finish
  | startHalf
  | finishHalf
deriving DecidableEq

/-- A place in a text, as it was written. -/
inductive PlaceTerm where
  | lineStart
  | lineEnd
  | textStart
  | textEnd
  | word (edge : WordEdge)
deriving DecidableEq

/-- The flags: ignore case, many lines, dot matches all, lazy by default, Unicode, two-character line ends,
    blanks mean nothing. -/
inductive Flag where
  | i
  | m
  | s
  | lazy
  | u
  | r
  | x
deriving DecidableEq

/-- Flags that are set or taken back, in the order written. -/
abbrev FlagChange := List (Flag × Bool)

/-- How two sets are combined. -/
inductive SetOperation where
  | inter
  | diff
  | symmDiff
deriving DecidableEq

/-- A bracketed set, as it was written. -/
inductive SetTerm where
  | chars (lo hi : Char)
  | letter (k : LetterClass) (negated : Bool)
  | named (s : CharSet) (negated : Bool)
  | bracket (negated : Bool) (s : SetTerm)
  | union (items : List SetTerm)
  | combine (op : SetOperation) (s t : SetTerm)
deriving Inhabited

/-- What a group does besides holding its term together. -/
inductive GroupKind where
  | numbered (index : Nat)
  | named (index : Nat) (name : String)
  | flagged (change : FlagChange)
deriving DecidableEq

/-- A pattern, as it was written. -/
inductive Term where
  | flags (change : FlagChange)
  | char (c : Char)
  /-- A character that was written as one byte. -/
  | byte (c : Char)
  | dot
  | place (p : PlaceTerm)
  | letter (k : LetterClass) (negated : Bool)
  | set (negated : Bool) (s : SetTerm)
  | repeated (t : Term) (least : Nat) (most : Option Nat) (greedy : Bool)
  | group (kind : GroupKind) (t : Term)
  | cat (items : List Term)
  | alt (branches : List Term)
deriving Inhabited

/-! ## 2. Blanks between the parts -/

/-- Blanks and comments passed over; `comment` inside a comment. -/
def skipVerbose : Bool → List Char → List Char
  | _, [] => []
  | true, c :: cs => skipVerbose (c ≠ '\n') cs
  | false, c :: cs =>
    if isBlank c then skipVerbose false cs
    else if c = '#' then skipVerbose true cs
    else c :: cs

/-- Blanks and comments passed over, if they mean nothing. -/
def skipBlanks (verbose : Bool) (cs : List Char) : List Char :=
  if verbose then skipVerbose false cs else cs

/-! ## 3. Escapes -/

/-- What a backslash with its letter stands for. -/
inductive Escaped where
  | char (c : Char)
  | byte (c : Char)
  | letter (k : LetterClass) (negated : Bool)
  | place (p : PlaceTerm)

/-- The characters that a pattern uses for itself. -/
def isMeta (c : Char) : Bool :=
  ['\\', '.', '+', '*', '?', '(', ')', '|', '[', ']', '\x7b', '\x7d', '^', '$', '#', '&', '-', '~'].contains c

/-- A character that stands for itself behind a backslash: every ASCII character but letters, digits and the
    two angle brackets. -/
def escapesToItself (c : Char) : Bool :=
  c.toNat < 0x80 && !c.isAlphanum && c ≠ '<' && c ≠ '>'

/-- The value of a hexadecimal digit. -/
def hexDigit? (c : Char) : Option Nat :=
  if '0' ≤ c ∧ c ≤ '9' then some (c.toNat - '0'.toNat)
  else if 'a' ≤ c ∧ c ≤ 'f' then some (c.toNat - 'a'.toNat + 10)
  else if 'A' ≤ c ∧ c ≤ 'F' then some (c.toNat - 'A'.toNat + 10)
  else none

/-- The character with the number that hexadecimal digits say. -/
def charOfHex? (cs : List Char) : Except Defect Char :=
  match cs.foldlM (fun n c => (hexDigit? c).map (16 * n + ·)) 0 with
  | some n => if !cs.isEmpty && n.isValidChar then .ok (Char.ofNat n) else .error .escape
  | none => .error .escape

/-- What stands in braces, from behind the opening one on; `comment` inside a comment. Blanks and comments are left out
    if they mean nothing. -/
def braced? (verbose : Bool) : Bool → List Char → Option (List Char × List Char)
  | _, [] => none
  | true, c :: cs => braced? verbose (c ≠ '\n') cs
  | false, c :: cs =>
    if verbose && isBlank c then braced? verbose false cs
    else if verbose && c = '#' then braced? verbose true cs
    else if c = '\x7d' then some ([], cs)
    else (braced? verbose false cs).map fun (inner, rest) => (c :: inner, rest)

/-- Just so many characters; blanks may stand in front of each if they mean nothing. -/
def taken? (verbose : Bool) : Nat → List Char → Option (List Char × List Char)
  | 0, cs => some ([], cs)
  | count + 1, cs =>
    match skipBlanks verbose cs with
    | [] => none
    | c :: rest => (taken? verbose count rest).map fun (more, rest) => (c :: more, rest)

/-- A character by its number: in braces, or with just so many digits. -/
def numberedChar? (verbose : Bool) (count : Nat) (short : Char → Escaped) (cs : List Char) :
    Except Defect (Escaped × List Char) :=
  match skipBlanks verbose cs with
  | '\x7b' :: cs =>
    match braced? verbose false cs with
    | some (digits, rest) => (charOfHex? digits).map fun c => (.char c, rest)
    | none => .error .unclosed
  | _ =>
    match taken? verbose count cs with
    | some (digits, rest) => (charOfHex? digits).map fun c => (short c, rest)
    | none => .error .unclosed

/-- The class of Unicode that a text names, or what lies outside it. -/
def propertyOf? (negated : Bool) (name : List Char) : Except Defect Escaped :=
  match classSet? name with
  | some (s, outside) => .ok (.letter (.property s) (negated != outside))
  | none => .error .escape

/-- A class of Unicode: by a name of one letter, or in braces. -/
def property? (verbose negated : Bool) (cs : List Char) : Except Defect (Escaped × List Char) :=
  match skipBlanks verbose cs with
  | [] => .error .unclosed
  | '\x7b' :: cs =>
    match braced? verbose false cs with
    | some (name, rest) => (propertyOf? negated name).map fun e => (e, rest)
    | none => .error .unclosed
  | c :: rest => (propertyOf? negated [c]).map fun e => (e, rest)

/-- The edge of a word that is named in braces; none if the braces hold something else. -/
def wordEdge? (verbose : Bool) (cs : List Char) : Except Defect (Option (WordEdge × List Char)) :=
  let isNamePart (c : Char) := c.isAlpha || c = '-'
  match skipBlanks verbose cs with
  | [] => .error .unclosed
  | c :: cs =>
    if !isNamePart c then .ok none
    else
      let name := (c :: cs).takeWhile isNamePart
      match skipBlanks verbose ((c :: cs).dropWhile isNamePart) with
      | '\x7d' :: rest =>
        match String.ofList name with
        | "start" => .ok (some (.start, rest))
        | "end" => .ok (some (.finish, rest))
        | "start-half" => .ok (some (.startHalf, rest))
        | "end-half" => .ok (some (.finishHalf, rest))
        | _ => .error .escape
      | _ => .error .unclosed

/-- What follows a **backslash**. -/
def escape? (verbose : Bool) : List Char → Except Defect (Escaped × List Char)
  | [] => .error .escape
  | 'x' :: cs => numberedChar? verbose 2 .byte cs
  | 'u' :: cs => numberedChar? verbose 4 .char cs
  | 'U' :: cs => numberedChar? verbose 8 .char cs
  | 'p' :: cs => property? verbose false cs
  | 'P' :: cs => property? verbose true cs
  | 'd' :: cs => .ok (.letter .digit false, cs)
  | 'D' :: cs => .ok (.letter .digit true, cs)
  | 's' :: cs => .ok (.letter .blank false, cs)
  | 'S' :: cs => .ok (.letter .blank true, cs)
  | 'w' :: cs => .ok (.letter .word false, cs)
  | 'W' :: cs => .ok (.letter .word true, cs)
  | 'a' :: cs => .ok (.char '\x07', cs)
  | 'f' :: cs => .ok (.char '\x0c', cs)
  | 't' :: cs => .ok (.char '\t', cs)
  | 'n' :: cs => .ok (.char '\n', cs)
  | 'r' :: cs => .ok (.char '\r', cs)
  | 'v' :: cs => .ok (.char '\x0b', cs)
  | 'A' :: cs => .ok (.place .textStart, cs)
  | 'z' :: cs => .ok (.place .textEnd, cs)
  | 'B' :: cs => .ok (.place (.word .inside), cs)
  | '<' :: cs => .ok (.place (.word .start), cs)
  | '>' :: cs => .ok (.place (.word .finish), cs)
  | 'b' :: '\x7b' :: cs => do
    match ← wordEdge? verbose cs with
    | some (edge, rest) => .ok (.place (.word edge), rest)
    | none => .ok (.place (.word .boundary), '\x7b' :: cs)
  | 'b' :: cs => .ok (.place (.word .boundary), cs)
  | c :: cs => if escapesToItself c then .ok (.char c, cs) else .error .escape

/-! ## 4. Counts -/

/-- The digits of a count, and the rest; blanks may stand between them if they mean nothing. -/
def countDigits (verbose : Bool) : List Char → List Char × List Char
  | [] => ([], [])
  | c :: cs =>
    if c.isDigit then
      let (ds, rest) := countDigits verbose cs
      (c :: ds, rest)
    else if verbose && isBlank c then countDigits verbose cs
    else ([], c :: cs)

/-- A number of a count, if there is one; blanks may stand around it. -/
def countNumber? (verbose : Bool) (cs : List Char) : Except Defect (Option Nat × List Char) :=
  let (ds, rest) := countDigits verbose (cs.dropWhile isBlank)
  let rest := rest.dropWhile isBlank
  if ds.isEmpty then .ok (none, rest)
  else
    let n := ds.foldl (fun n c => 10 * n + (c.toNat - '0'.toNat)) 0
    if n < Nat.pow 2 32 then .ok (some n, rest) else .error .count

/-- What follows an **opening brace**: the least and the greatest number of repetitions. -/
def counted? (verbose : Bool) (cs : List Char) : Except Defect ((Nat × Option Nat) × List Char) := do
  let (first, rest) ← countNumber? verbose (skipBlanks verbose cs)
  let least ←
    match first with
    | some n => .ok n
    | none => .error .count
  match rest with
  | '\x7d' :: rest => .ok ((least, some least), rest)
  | ',' :: rest =>
    match skipBlanks verbose rest with
    | '\x7d' :: rest => .ok ((least, none), rest)
    | rest => do
      let (last, rest) ← countNumber? verbose rest
      match last, rest with
      | some most, '\x7d' :: rest => if least ≤ most then .ok ((least, some most), rest) else .error .count
      | _, _ => .error .count
  | _ => .error .count

/-- A question mark, which makes a repetition lazy. -/
def lazyMark : List Char → Bool × List Char
  | '?' :: cs => (false, cs)
  | cs => (true, cs)

/-! ## 5. Groups -/

/-- The flag that a letter names. -/
def flag? : Char → Option Flag
  | 'i' => some .i
  | 'm' => some .m
  | 's' => some .s
  | 'U' => some .lazy
  | 'u' => some .u
  | 'R' => some .r
  | 'x' => some .x
  | _ => none

/-- Flags up to the bracket or the colon that ends them. After a dash flags are taken back. -/
def flagChange? (negated dangling : Bool) (change : FlagChange) :
    List Char → Except Defect (FlagChange × List Char)
  | [] => .error .unclosed
  | c :: cs =>
    if c = ':' ∨ c = ')' then
      if dangling then .error .flag else .ok (change, c :: cs)
    else if c = '-' then
      if negated then .error .flag else flagChange? true true change cs
    else
      match flag? c with
      | some f =>
        if change.any fun e => e.1 == f then .error .flag
        else flagChange? negated false (change ++ [(f, !negated)]) cs
      | none => .error .flag

/-- A character of a group name. -/
def isNamePart (isFirst : Bool) (c : Char) : Bool :=
  c = '_' || isAlphabetic c || (!isFirst && (c = '.' || c = '[' || c = ']' || isNumeric c))

/-- A group name up to the angle bracket that closes it. -/
def groupName? (cs : List Char) : Except Defect (String × List Char) :=
  let name := cs.takeWhile (· ≠ '>')
  match cs.dropWhile (· ≠ '>'), name with
  | _ :: rest, c :: more =>
    if isNamePart true c && more.all (isNamePart false) then .ok (String.ofList name, rest)
    else .error .groupName
  | _, _ => .error .groupName

/-- How a group begins: with flags alone, or as a group of a kind. A numbered group gets its number later. -/
inductive GroupHead where
  | flags (change : FlagChange)
  | flagged (change : FlagChange)
  | named (name : String)
  | plain

/-- Flags in front of a group, or on their own. -/
def flagHead? (cs : List Char) : Except Defect (GroupHead × List Char) := do
  let (change, rest) ← flagChange? false false [] cs
  match rest with
  | ')' :: rest => if change.isEmpty then .error .nothingRepeated else .ok (.flags change, rest)
  | _ => .ok (.flagged change, rest.drop 1)

/-- What follows an **opening bracket**. -/
def groupHead? : List Char → Except Defect (GroupHead × List Char)
  | '?' :: '=' :: _ => .error .lookAround
  | '?' :: '!' :: _ => .error .lookAround
  | '?' :: '<' :: '=' :: _ => .error .lookAround
  | '?' :: '<' :: '!' :: _ => .error .lookAround
  | '?' :: 'P' :: '<' :: cs => (groupName? cs).map fun (name, rest) => (.named name, rest)
  | '?' :: '<' :: cs => (groupName? cs).map fun (name, rest) => (.named name, rest)
  | '?' :: cs => flagHead? cs
  | cs => .ok (.plain, cs)

/-! ## 6. Bracketed sets -/

/-- A caret, which negates a set. -/
def caret : List Char → Bool × List Char
  | '^' :: cs => (true, cs)
  | cs => (false, cs)

/-- A named set, from behind its opening bracket on. -/
def namedSet? (cs : List Char) : Option (SetTerm × List Char) :=
  match cs with
  | ':' :: cs =>
    let (negated, cs) := caret cs
    match cs.dropWhile (· ≠ ':') with
    | ':' :: ']' :: rest =>
      (named? (String.ofList (cs.takeWhile (· ≠ ':')))).map fun s => (.named s negated, rest)
    | _ => none
  | _ => none

/-- What one place of a set holds, before it is known whether a range begins there. -/
def setPart? (verbose : Bool) : List Char → Except Defect (Escaped × List Char)
  | [] => .error .unclosed
  | '\\' :: cs => escape? verbose cs
  | c :: cs => .ok (.char c, cs)

/-- The character that a part of a set stands for. -/
def Escaped.char? : Escaped → Option Char
  | .char c => some c
  | .byte c => some c
  | _ => none

/-- A part of a set on its own. -/
def setItem? : Escaped → Except Defect SetTerm
  | .char c => .ok (.chars c c)
  | .byte c => .ok (.chars c c)
  | .letter k negated => .ok (.letter k negated)
  | .place _ => .error .escape

/-- A character of a set, or a range of characters. -/
def setRange? (verbose : Bool) (cs : List Char) : Except Defect (SetTerm × List Char) := do
  let (first, rest) ← setPart? verbose cs
  let rest := skipBlanks verbose rest
  match rest with
  | [] => .error .unclosed
  | '-' :: more =>
    let more := skipBlanks verbose more
    match more with
    | [] => .error .unclosed
    | ']' :: _ => (setItem? first).map fun t => (t, rest)
    | '-' :: _ => (setItem? first).map fun t => (t, rest)
    | _ => do
      let (last, rest) ← setPart? verbose more
      match first.char?, last.char? with
      | some c, some d => if c ≤ d then .ok (.chars c d, rest) else .error .range
      | _, _ => .error .range
  | _ => (setItem? first).map fun t => (t, rest)

/-- Dashes at the start of a set, which stand for themselves. -/
def leadingDashes (verbose : Bool) : List Char → List SetTerm × List Char
  | [] => ([], [])
  | c :: cs =>
    if c = '-' then
      let (items, rest) := leadingDashes verbose cs
      (.chars '-' '-' :: items, rest)
    else if verbose && isBlank c then leadingDashes verbose cs
    else ([], c :: cs)

/-- How a set begins, from behind its bracket on: whether it is negated, and what stands for itself only
    there. -/
def setStart (verbose : Bool) (cs : List Char) : Bool × List SetTerm × List Char :=
  let (negated, cs) := caret (skipBlanks verbose cs)
  match leadingDashes verbose (skipBlanks verbose cs) with
  | ([], ']' :: rest) => (negated, [.chars ']' ']'], rest)
  | (items, rest) => (negated, items, rest)

/-- What was read of a set, joined to what stands in front of the last operation. -/
def joinSet (left : Option (SetOperation × SetTerm)) (items : List SetTerm) : SetTerm :=
  let right :=
    match items with
    | [t] => t
    | _ => .union items.reverse
  match left with
  | some (op, s) => .combine op s right
  | none => right

/-- The parts of a set up to its end; `items` holds the latest part first, and `left` what stands in front of
    the last operation. -/
def setParts? (verbose : Bool) : Nat → Option (SetOperation × SetTerm) → List SetTerm → List Char →
    Except Defect (SetTerm × List Char)
  | 0, _, _, _ => .error .unclosed
  | fuel + 1, left, items, cs =>
    match skipBlanks verbose cs with
    | [] => .error .unclosed
    | ']' :: rest => .ok (joinSet left items, rest)
    | '[' :: rest =>
      match namedSet? rest with
      | some (t, rest) => setParts? verbose fuel left (t :: items) rest
      | none => do
        let (negated, start, rest) := setStart verbose rest
        let (t, rest) ← setParts? verbose fuel none start.reverse rest
        setParts? verbose fuel left (.bracket negated t :: items) rest
    | '&' :: '&' :: rest => setParts? verbose fuel (some (.inter, joinSet left items)) [] rest
    | '-' :: '-' :: rest => setParts? verbose fuel (some (.diff, joinSet left items)) [] rest
    | '~' :: '~' :: rest => setParts? verbose fuel (some (.symmDiff, joinSet left items)) [] rest
    | cs => do
      let (t, rest) ← setRange? verbose cs
      setParts? verbose fuel left (t :: items) rest

/-- A **bracketed set**, from behind its first bracket on. -/
def set? (verbose : Bool) (cs : List Char) : Except Defect (Term × List Char) := do
  let (negated, start, rest) := setStart verbose cs
  let (t, rest) ← setParts? verbose (cs.length + 1) none start.reverse rest
  .ok (.set negated t, rest)

/-! ## 7. Patterns -/

/-- What is known between two parts of a pattern. -/
structure Cursor where
  rest : List Char
  verbose : Bool := false
  /-- How many groups have a number. -/
  groups : Nat := 0
  /-- The names of groups so far. -/
  names : List String := []

/-- Items in a row; a single one is not wrapped. -/
def joinItems (items : List Term) : Term :=
  match items with
  | [t] => t
  | _ => .cat items.reverse

/-- Alternatives; a single one is not wrapped. -/
def joinBranches (branches : List Term) : Term :=
  match branches with
  | [t] => t
  | _ => .alt branches.reverse

/-- The latest item repeated; there must be one, and it must not be flags alone. -/
def repeatLast? (least : Nat) (most : Option Nat) (greedy : Bool) : List Term → Except Defect (List Term)
  | [] => .error .nothingRepeated
  | .flags _ :: _ => .error .nothingRepeated
  | t :: items => .ok (.repeated t least most greedy :: items)

/-- The term that an escape stands for outside a set. -/
def escapedTerm : Escaped → Term
  | .char c => .char c
  | .byte c => .byte c
  | .letter k negated => .letter k negated
  | .place p => .place p

/-- The flag `x` after a change. -/
def verboseAfter (change : FlagChange) (verbose : Bool) : Bool :=
  (change.lookup .x).getD verbose

/-- A group of a kind, numbered if it is to be numbered. -/
def openGroup? (head : GroupHead) (c : Cursor) : Except Defect (GroupKind × Cursor) :=
  match head with
  | .flags change => .ok (.flagged change, c)
  | .flagged change => .ok (.flagged change, { c with verbose := verboseAfter change c.verbose })
  | .plain => .ok (.numbered (c.groups + 1), { c with groups := c.groups + 1 })
  | .named name =>
    if c.names.contains name then .error .groupName
    else
      .ok (.named (c.groups + 1) name, { c with groups := c.groups + 1, names := name :: c.names })

/-- A pattern up to its end or up to a closing bracket; `items` and `branches` hold the latest first. -/
def pattern? : Nat → (branches items : List Term) → Cursor → Except Defect (Term × Cursor)
  | 0, _, _, _ => .error .unclosed
  | fuel + 1, branches, items, c =>
    let cs := skipBlanks c.verbose c.rest
    match cs with
    | [] => .ok (joinBranches (joinItems items :: branches), { c with rest := [] })
    | ')' :: _ => .ok (joinBranches (joinItems items :: branches), { c with rest := cs })
    | '|' :: rest => pattern? fuel (joinItems items :: branches) [] { c with rest := rest }
    | '(' :: rest => do
      let (head, rest) ← groupHead? (skipBlanks c.verbose rest)
      match head with
      | .flags change =>
        pattern? fuel branches (.flags change :: items)
          { c with rest := rest, verbose := verboseAfter change c.verbose }
      | _ => do
        let (kind, inner) ← openGroup? head { c with rest := rest }
        let (t, after) ← pattern? fuel [] [] inner
        match after.rest with
        | ')' :: rest =>
          pattern? fuel branches (.group kind t :: items)
            { after with rest := rest, verbose := c.verbose }
        | _ => .error .unclosed
    | '[' :: rest => do
      let (t, rest) ← set? c.verbose rest
      pattern? fuel branches (t :: items) { c with rest := rest }
    | '?' :: rest => do
      let (greedy, rest) := lazyMark rest
      let items ← repeatLast? 0 (some 1) greedy items
      pattern? fuel branches items { c with rest := rest }
    | '*' :: rest => do
      let (greedy, rest) := lazyMark rest
      let items ← repeatLast? 0 none greedy items
      pattern? fuel branches items { c with rest := rest }
    | '+' :: rest => do
      let (greedy, rest) := lazyMark rest
      let items ← repeatLast? 1 none greedy items
      pattern? fuel branches items { c with rest := rest }
    | '\x7b' :: rest => do
      let ((least, most), rest) ← counted? c.verbose rest
      let (greedy, rest) := lazyMark (skipBlanks c.verbose rest)
      let items ← repeatLast? least most greedy items
      pattern? fuel branches items { c with rest := rest }
    | '\\' :: rest => do
      let (e, rest) ← escape? c.verbose rest
      pattern? fuel branches (escapedTerm e :: items) { c with rest := rest }
    | '.' :: rest => pattern? fuel branches (.dot :: items) { c with rest := rest }
    | '^' :: rest => pattern? fuel branches (.place .lineStart :: items) { c with rest := rest }
    | '$' :: rest => pattern? fuel branches (.place .lineEnd :: items) { c with rest := rest }
    | x :: rest => pattern? fuel branches (.char x :: items) { c with rest := rest }

/-! ## 8. Depth -/

mutual

/-- How deep a set is nested. -/
def SetTerm.depth : SetTerm → Nat
  | chars .. => 0
  | letter .. => 0
  | named .. => 0
  | bracket _ s => 1 + s.depth
  | union items => if items.isEmpty then 0 else 1 + depthOfSets items
  | combine _ s t => 1 + max s.depth t.depth

/-- The greatest depth of some sets. -/
def SetTerm.depthOfSets : List SetTerm → Nat
  | [] => 0
  | s :: ss => max s.depth (depthOfSets ss)

end

mutual

/-- How deep a term is nested. -/
def Term.depth : Term → Nat
  | set _ s => 1 + s.depth
  | repeated t _ _ _ => 1 + t.depth
  | group _ t => 1 + t.depth
  | cat items => if items.isEmpty then 0 else 1 + depthOfTerms items
  | alt branches => 1 + depthOfTerms branches
  | _ => 0

/-- The greatest depth of some terms. -/
def Term.depthOfTerms : List Term → Nat
  | [] => 0
  | t :: ts => max t.depth (depthOfTerms ts)

end

/-- How deep a pattern may be nested. -/
def deepest : Nat := 250

/-- **The term of a text.** -/
def Term.ofText? (text : String) : Except Defect Term := do
  let cs := text.toList
  let (t, c) ← pattern? (cs.length + 1) [] [] { rest := cs }
  if !c.rest.isEmpty then .error .unopened
  else if deepest < t.depth then .error .depth
  else .ok t

end TreeIndex.Pattern
