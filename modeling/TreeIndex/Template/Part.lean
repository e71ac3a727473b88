/-!
# The parts of a template

A template is the text of a pattern with placeholders in braces. A brace that opens no placeholder is text, and
a backslash keeps the character after it from opening one.

* `Part`: literal text, or a placeholder: a tag on its own, a tag with another name, or a tag with its own
  fragment;
* `placeholder?`: the placeholder that a brace opens, and how many characters it takes;
* `parts`: the parts of a template; `Part.chars`: a part as it was written;
* `tags`: the tags of the placeholders, in order.
-/

namespace TreeIndex.Template

/-! ## 1. Parts -/

/-- What follows the tag of a placeholder. -/
inductive Form where
  /-- Nothing: the tag names its group. -/
  | plain
  /-- Another name for the group. -/
  | alias (name : List Char)
  /-- The fragment itself. -/
  | fragment (text : List Char)
deriving DecidableEq

/-- A part of a template. -/
inductive Part where
  | literal (text : List Char)
  | placeholder (tag : List Char) (form : Form)
deriving DecidableEq

/-- A part **as it was written**. -/
def Part.chars : Part → List Char
  | literal text => text
  | placeholder tag .plain => '\x7b' :: tag ++ ['\x7d']
  | placeholder tag (.alias name) => '\x7b' :: tag ++ ':' :: name ++ ['\x7d']
  | placeholder tag (.fragment text) => '\x7b' :: tag ++ ':' :: text ++ ['\x7d']

/-! ## 2. Identifiers -/

/-- An identifier can begin with the character. -/
def beginsIdentifier (c : Char) : Bool :=
  c.isAlpha || c = '_'

/-- An identifier can go on with the character. -/
def continuesIdentifier (c : Char) : Bool :=
  c.isAlphanum || c = '_'

/-- Letters, digits and underscores of ASCII, no digit in front. -/
def isIdentifier : List Char → Bool
  | [] => false
  | c :: cs => beginsIdentifier c && cs.all continuesIdentifier

/-- The identifier in front of a text; empty if there is none. -/
def leadingIdentifier : List Char → List Char
  | [] => []
  | c :: cs => if beginsIdentifier c then c :: cs.takeWhile continuesIdentifier else []

/-! ## 3. Placeholders -/

/-- The text up to the brace that closes it. Braces inside it count, unless a backslash stands in front of
    them; `depth` of them are open, and `escaped` right behind a backslash. -/
def untilClosing : (depth : Nat) → (escaped : Bool) → List Char → Option (List Char)
  | _, _, [] => none
  | depth, true, c :: cs => (untilClosing depth false cs).map (c :: ·)
  | depth, false, c :: cs =>
    if c = '\\' then (untilClosing depth true cs).map (c :: ·)
    else if c = '\x7b' then (untilClosing (depth + 1) false cs).map (c :: ·)
    else if c = '\x7d' then
      match depth with
      | 0 => some []
      | depth + 1 => (untilClosing depth false cs).map (c :: ·)
    else (untilClosing depth false cs).map (c :: ·)

/-- What the text behind a tag's colon is: **an identifier is another name**, anything else a fragment. -/
def formOf (text : List Char) : Form :=
  if isIdentifier text then .alias text else .fragment text

/-- The **placeholder** that a brace in front of the text opens, and how many characters of the text belong
    to it. -/
def placeholder? (cs : List Char) : Option (Part × Nat) :=
  match leadingIdentifier cs with
  | [] => none
  | tag =>
    match cs.drop tag.length with
    | '\x7d' :: _ => some (.placeholder tag .plain, tag.length + 1)
    | ':' :: rest =>
      (untilClosing 0 false rest).map fun text =>
        (.placeholder tag (formOf text), tag.length + text.length + 2)
    | _ => none

/-! ## 4. Templates -/

/-- Puts literal text in front of some parts; it joins literal text that stands there already. -/
def pushLiteral (text : List Char) : List Part → List Part
  | .literal more :: rest => .literal (text ++ more) :: rest
  | ps => .literal text :: ps

/-- The parts of a text after `skip` characters of it. -/
def partsFrom : (skip : Nat) → List Char → List Part
  | _, [] => []
  | skip + 1, _ :: cs => partsFrom skip cs
  | 0, c :: cs =>
    if c = '\\' then
      match cs with
      | [] => [.literal [c]]
      | d :: _ => pushLiteral [c, d] (partsFrom 1 cs)
    else if c = '\x7b' then
      match placeholder? cs with
      | some (p, n) => p :: partsFrom n cs
      | none => pushLiteral [c] (partsFrom 0 cs)
    else pushLiteral [c] (partsFrom 0 cs)

/-- **The parts of a template.** -/
def parts (template : String) : List Part :=
  partsFrom 0 template.toList

/-- The tags of the placeholders, in order. -/
def tags (template : String) : List String :=
  (parts template).filterMap fun
    | .placeholder tag _ => some (String.ofList tag)
    | .literal _ => none

end TreeIndex.Template
