import TreeIndex.Template.Expansion
import TreeIndex.Component

/-!
# Extraction

Items are found in a file by a start pattern, and each of them ends at the first later line that its end
pattern matches at its beginning.

* `ItemMatcher`, `ItemMatcher.ofDefinition?`: the patterns of a definition of items;
* `Scan`: how far a file has been read, with the number of newlines so far;
* `endPattern?`: the end pattern for one start match -- built once, or from what the match captured;
* `extract?`: the items of one definition in a file, in the order of the text; `extractAll?`: those of several
  definitions, one after the other.

Start matches do not overlap, so newlines are counted once. The line that ends an item is searched behind its
start match: a line that begins within the match is passed over.
-/

namespace TreeIndex

open Template

/-! ## 1. Matchers -/

/-- The patterns of **one definition of items**; the end pattern is built in advance where nothing is bound
    late. -/
structure ItemMatcher where
  definition : Definition
  start : Pattern
  stop : EndTemplate
  staticStop : Option Pattern

namespace ItemMatcher

/-- The end template of a definition: its own, or the default among its fragments. -/
def endTemplate? (d : Definition) (stop : Option String) : Except Fault String :=
  match stop with
  | some stop => .ok stop
  | none =>
    match d.fragments.get? endDefaultTag with
    | some stop => .ok stop
    | none => .error (.configuration d.source (.noEnd d.name))

/-- **The matcher of a definition.** -/
def ofDefinition? (d : Definition) : Except Fault ItemMatcher :=
  if d.kind ≠ itemKind then .error (.configuration d.source (.noItems d.kind d.name))
  else
    match d.identifier with
    | .template start stop => do
      let stop ← endTemplate? d stop
      let (p, e) ← Template.pair? d.fragments d.source start stop
      if e.isStatic then do
        let q ← build? d.source e.staticText
        .ok ⟨d, p, e, some q⟩
      else .ok ⟨d, p, e, none⟩
    | _ => .error (.configuration d.source (.noTemplates d.name))

/-! ## 2. One match -/

/-- How far a file has been read, and how many newlines stand in front of that. -/
structure Scan where
  offset : Nat := 0
  newlines : Nat := 0

/-- What the groups of a match captured, under their names. -/
def properties (c : Pattern.Capture) : Dictionary String :=
  Dictionary.ofList (c.groups.filterMap fun e => e.2.map fun text => (e.1, text))

/-- The **end pattern** for a start match on some line. -/
def endPattern? (m : ItemMatcher) (f : SourceFile) (line : Nat) (captured : Dictionary String) :
    Except Fault Pattern :=
  match m.staticStop with
  | some p => .ok p
  | none =>
    match m.stop.bind? captured with
    | .ok text => build? m.definition.source (anchored text)
    | .error tag => .error (.unboundTag tag m.stop.template f.path line captured)

/-- The index of the first line from `first` on that the pattern matches. -/
def findLine? (p : Pattern) (lines : List (List Char)) (first : Nat) : Option Nat :=
  ((lines.drop first).findIdx? p.accepts).map (first + ·)

/-- The item of a start match, and how far the file has been read behind it. -/
def itemAt? (m : ItemMatcher) (f : SourceFile) (text : List Char) (lines : List (List Char)) (s : Scan)
    (c : Pattern.Capture) : Except Fault (Item × Scan) := do
  let before := s.newlines + Text.newlines (Pattern.part text s.offset c.start)
  let lineStart := before + 1
  let newlines := before + Text.newlines c.text
  let first := if c.text.getLast? = some '\n' then newlines else newlines + 1
  let captured := properties c
  let stop ← m.endPattern? f lineStart captured
  match findLine? stop lines first with
  | none => .error (.unterminated f.path lineStart m.start.text stop.text captured)
  | some index =>
    let name := (captured.get? "name").getD Item.unnamed
    .ok (⟨name, f, m.definition, lineStart, index + 1, captured.erase "name"⟩, ⟨c.stop, newlines⟩)

/-! ## 3. All matches -/

/-- The items of some start matches. -/
def itemsFrom? (m : ItemMatcher) (f : SourceFile) (text : List Char) (lines : List (List Char)) :
    Scan → List Pattern.Capture → Except Fault (List Item)
  | _, [] => .ok []
  | s, c :: cs => do
    let (item, s) ← m.itemAt? f text lines s c
    let items ← m.itemsFrom? f text lines s cs
    .ok (item :: items)

/-- **The items of a definition** in a file, in the order of the text. -/
def extract? (m : ItemMatcher) (f : SourceFile) : Except Fault (List Item) :=
  let text := f.content.toList
  let lines := (Text.pieces text).map Text.chomp
  m.itemsFrom? f text lines {} (m.start.captures text)

end ItemMatcher

/-- The matchers of some definitions. -/
def compileAll? (ds : List Definition) : Except Fault (List ItemMatcher) :=
  ds.mapM ItemMatcher.ofDefinition?

/-- The items of a file, **definition by definition**. -/
def extractAll? (f : SourceFile) : List ItemMatcher → Except Fault (List Item)
  | [] => .ok []
  | m :: ms => do
    let items ← m.extract? f
    let more ← extractAll? f ms
    .ok (items ++ more)

end TreeIndex
