import TreeIndex.Template.Part
import TreeIndex.Pattern.Compiled
import TreeIndex.Fault

/-!
# Expanded templates

A template becomes a pattern once its placeholders are replaced by fragments, each in a group of its own.

* `Segment`: expanded text, or a tag that is bound late; `segments`: what a template expands to under a
  dictionary of fragments. A group name is used once; the same name again only groups;
* `start?`: a start template as a pattern, in which every tag must be known and `^` and `$` stand at lines;
* `EndTemplate`: an end template; its unknown tags are bound from what a start match captured
  (`EndTemplate.bind?`), and the captured text matches itself;
* `anchored`: a pattern that is to match at the start;
* `pair?`: both templates together -- every late tag must be a group of the start pattern.
-/

namespace TreeIndex.Template

/-! ## 1. Segments -/

/-- A piece of an expanded template. -/
inductive Segment where
  | pattern (text : List Char)
  /-- Bound from a start match. -/
  | late (tag : List Char)
deriving DecidableEq

/-- A fragment in a group; the name is given **to the first group that asks for it**. -/
def grouped (used : List (List Char)) (name fragment : List Char) : List Char :=
  if used.contains name then "(?:".toList ++ fragment ++ [')']
  else "(?P<".toList ++ name ++ '>' :: fragment ++ [')']

/-- The name of the group of a placeholder. -/
def groupName (tag : List Char) : Form → List Char
  | .alias name => name
  | _ => tag

/-- The fragment of a placeholder: its own, or what the dictionary holds for its tag. -/
def fragment? (fragments : Dictionary String) (tag : List Char) : Form → Option (List Char)
  | .fragment text => some text
  | _ => (fragments.get? (String.ofList tag)).map String.toList

/-- The segments of some parts, when some group names are used already. -/
def segmentsFrom (fragments : Dictionary String) : List (List Char) → List Part → List Segment
  | _, [] => []
  | used, .literal text :: ps => .pattern text :: segmentsFrom fragments used ps
  | used, .placeholder tag form :: ps =>
    match fragment? fragments tag form with
    | some text =>
      let name := groupName tag form
      .pattern (grouped used name text) :: segmentsFrom fragments (name :: used) ps
    | none => .late tag :: segmentsFrom fragments used ps

/-- What a template **expands to**. -/
def segments (fragments : Dictionary String) (template : String) : List Segment :=
  segmentsFrom fragments [] (parts template)

/-- The tags that are bound late, in order. -/
def lateTags (ss : List Segment) : List String :=
  ss.filterMap fun
    | .late tag => some (String.ofList tag)
    | .pattern _ => none

/-- The text of the segments that are no late tags. -/
def patternText (ss : List Segment) : List Char :=
  ss.flatMap fun
    | .pattern text => text
    | .late _ => []

/-! ## 2. Patterns -/

/-- A text as a pattern; the file is the one whose template it comes from. -/
def build? (file : Path) (text : String) : Except Fault Pattern :=
  match Pattern.ofText? text with
  | .ok p => .ok p
  | .error _ => .error (.invalidPattern text file)

/-- A pattern that matches **at the start** of the text it is matched against. -/
def anchored (pattern : String) : String :=
  "^(?:" ++ pattern ++ ")"

/-- A start template as text: `^` and `$` stand at the lines of a text. -/
def startText (ss : List Segment) : String :=
  "(?m)" ++ String.ofList (patternText ss)

/-- **A start template as a pattern**; every tag must be known. -/
def start? (fragments : Dictionary String) (file : Path) (template : String) : Except Fault Pattern :=
  let ss := segments fragments template
  match lateTags ss with
  | tag :: _ => .error (.unresolvedTag tag template file)
  | [] => build? file (startText ss)

end TreeIndex.Template

namespace TreeIndex

open Template

/-! ## 3. End templates -/

/-- An end template. -/
structure EndTemplate where
  template : String
  segments : List Segment
deriving DecidableEq

namespace EndTemplate

/-- The tags that are bound late, in order. -/
def lateTags (e : EndTemplate) : List String :=
  Template.lateTags e.segments

/-- Nothing is bound late. -/
def isStatic (e : EndTemplate) : Bool :=
  e.lateTags.isEmpty

/-- The text of some segments, where **a late tag stands for what was captured**, and that matches itself.
    The first late tag without a capture is the error. -/
def bindSegments? (captures : Dictionary String) : List Segment → Except String (List Char)
  | [] => .ok []
  | .pattern text :: ss => do
    let rest ← bindSegments? captures ss
    .ok (text ++ rest)
  | .late tag :: ss =>
    match captures.get? (String.ofList tag) with
    | some value => do
      let rest ← bindSegments? captures ss
      .ok ((Pattern.escape value).toList ++ rest)
    | none => .error (String.ofList tag)

/-- The text of an end template under some captures. -/
def bind? (e : EndTemplate) (captures : Dictionary String) : Except String String :=
  (bindSegments? captures e.segments).map String.ofList

/-- The anchored text of an end template in which nothing is bound late: what is bound **from no capture at all**.
    It falls back to the empty text. -/
def staticText (e : EndTemplate) : String :=
  anchored ((e.bind? ∅).toOption.getD "")

/-- **An end template.** One in which nothing is bound late must be a pattern. -/
def ofText? (fragments : Dictionary String) (file : Path) (template : String) :
    Except Fault EndTemplate := do
  let e : EndTemplate := ⟨template, Template.segments fragments template⟩
  if e.isStatic then
    let _ ← build? file e.staticText
    .ok e
  else .ok e

end EndTemplate

/-- **A start template and an end template**; what is bound late must be captured by the start. -/
def Template.pair? (fragments : Dictionary String) (file : Path) (start stop : String) :
    Except Fault (Pattern × EndTemplate) := do
  let p ← Template.start? fragments file start
  let e ← EndTemplate.ofText? fragments file stop
  match e.lateTags.find? fun tag => !p.groupNames.contains tag with
  | some tag => .error (.unresolvedTag tag stop file)
  | none => .ok (p, e)

end TreeIndex
