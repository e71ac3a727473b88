import TreeIndex.Yaml.Node
import TreeIndex.Yaml.Scalar

/-!
# Documents

The nodes of a document say a value once its aliases are followed.

* `numbered?`: every anchor gets a number, and every alias the number of its anchor;
* `Anchors`: what the numbers stand for; `follow?`: the node behind an alias;
* `value?`: what a node says;
* `Value.ofText?`: the value of a text; `mappingOfText?`: the same for a text that must be a mapping, where a
  text that holds nothing is the empty mapping.

Collections may be nested 128 deep, and aliases may be followed a hundred times as often as the document has
parts.
-/

namespace TreeIndex.Yaml

/-! ## 1. Numbers for anchors -/

/-- The names met so far, each with its number. A name that is met again gets a new number, which is the
    count of the names. -/
abbrev Names := List (String × Nat)

/-- Numbers an anchor, if there is one. -/
def Names.declare (names : Names) : Option String → Option Nat × Names
  | none => (none, names)
  | some name => (some names.length, (name, names.length) :: names.filter fun e => !(e.1 == name))

mutual

/-- The node with numbers **in place of names**; an alias must follow its anchor. -/
def numbered? (names : Names) : Node String → Except Malformed (Node Nat × Names)
  | .scalar text style tag anchor =>
    let (anchor, names) := names.declare anchor
    .ok (.scalar text style tag anchor, names)
  | .sequence items tag anchor => do
    let (anchor, names) := names.declare anchor
    let (items, names) ← numberedItems? names items
    .ok (.sequence items tag anchor, names)
  | .mapping entries tag anchor => do
    let (anchor, names) := names.declare anchor
    let (entries, names) ← numberedEntries? names entries
    .ok (.mapping entries tag anchor, names)
  | .alias name =>
    match names.lookup name with
    | some n => .ok (.alias n, names)
    | none => .error .unknownAlias

/-- The items of a sequence with numbers in place of names. -/
def numberedItems? (names : Names) : List (Node String) → Except Malformed (List (Node Nat) × Names)
  | [] => .ok ([], names)
  | item :: items => do
    let (item, names) ← numbered? names item
    let (items, names) ← numberedItems? names items
    .ok (item :: items, names)

/-- The entries of a mapping with numbers in place of names. -/
def numberedEntries? (names : Names) :
    List (Node String × Node String) → Except Malformed (List (Node Nat × Node Nat) × Names)
  | [] => .ok ([], names)
  | (key, value) :: entries => do
    let (key, names) ← numbered? names key
    let (value, names) ← numbered? names value
    let (entries, names) ← numberedEntries? names entries
    .ok ((key, value) :: entries, names)

end

/-! ## 2. What the numbers stand for -/

/-- Nodes with the numbers of their anchors, in the order of the text. -/
abbrev Anchors := List (Nat × Node Nat)

mutual

/-- The nodes with an anchor in and below a node. -/
def Node.anchors : Node Nat → Anchors
  | .scalar text style tag anchor => anchored anchor (.scalar text style tag anchor)
  | .sequence items tag anchor => anchored anchor (.sequence items tag anchor) ++ itemAnchors items
  | .mapping entries tag anchor => anchored anchor (.mapping entries tag anchor) ++ entryAnchors entries
  | .alias _ => []

/-- A node under the number of its anchor, if it has one. -/
def Node.anchored (anchor : Option Nat) (node : Node Nat) : Anchors :=
  match anchor with
  | some n => [(n, node)]
  | none => []

/-- The nodes with an anchor in a sequence. -/
def Node.itemAnchors : List (Node Nat) → Anchors
  | [] => []
  | item :: items => item.anchors ++ itemAnchors items

/-- The nodes with an anchor in a mapping. -/
def Node.entryAnchors : List (Node Nat × Node Nat) → Anchors
  | [] => []
  | (key, value) :: entries => key.anchors ++ value.anchors ++ entryAnchors entries

end

mutual

/-- How many parts a node has: a collection counts for its beginning and its end. -/
def Node.parts : Node Nat → Nat
  | .scalar .. => 1
  | .alias _ => 1
  | .sequence items _ _ => 2 + itemParts items
  | .mapping entries _ _ => 2 + entryParts entries

/-- The parts of the items of a sequence. -/
def Node.itemParts : List (Node Nat) → Nat
  | [] => 0
  | item :: items => item.parts + itemParts items

/-- The parts of the entries of a mapping. -/
def Node.entryParts : List (Node Nat × Node Nat) → Nat
  | [] => 0
  | (key, value) :: entries => key.parts + value.parts + entryParts entries

end

/-- A document whose aliases can be followed. -/
structure Document where
  root : Node Nat
  /-- The anchors, the latest first. -/
  anchors : Anchors
  /-- How often aliases may be followed. -/
  allowance : Nat

/-- A document with its anchors numbered. -/
def Document.ofNode? (node : Node String) : Except Malformed Document := do
  let (root, _) ← numbered? [] node
  .ok ⟨root, root.anchors.reverse, 100 * root.parts⟩

/-- Work that may still follow some aliases. -/
abbrev Following (β : Type) := StateT Nat (Except Malformed) β

/-- The node behind an alias: the **last** one with its number. Any other node stands for itself. -/
def Document.follow? (d : Document) (node : Node Nat) : Following (Node Nat) := fun left =>
  match node with
  | .alias n =>
    match left, d.anchors.lookup n with
    | 0, _ => .error .repetition
    | left + 1, some found => .ok (found, left)
    | _ + 1, none => .error .unknownAlias
  | _ => .ok (node, left)

/-! ## 3. What a node says -/

/-- The name of a tag that belongs to the document: it starts with an exclamation mark, which is no part of
    the name unless the tag is nothing else. -/
def ownTag? (tag : String) : Option String :=
  match tag.toList with
  | ['!'] => some "!"
  | '!' :: '!' :: [] => some "!"
  | '!' :: '!' :: cs => some (String.ofList cs)
  | '!' :: cs => some (String.ofList cs)
  | _ => none

/-- The tags that name a kind of scalar. -/
def kindTag (kind : String) : String :=
  "tag:yaml.org,2002:" ++ kind

/-- What a scalar under a tag that is not the document's own says. -/
def kindValue? (tag text : String) : Except Malformed Value :=
  let found : Option Value :=
    if tag = kindTag "bool" then (boolOf? text).map .bool
    else if tag = kindTag "int" then
      match intOf text with
      | .number n => some (.int n)
      | _ => none
    else if tag = kindTag "float" then (floatOf? text).map .float
    else if tag = kindTag "null" then if isNullText text then some .null else none
    else some (.text text)
  match found with
  | some v => .ok v
  | none => .error .scalar

/-- What a scalar without a tag, or below its own tag, says. -/
def plainOrText? (text : String) (style : Style) : Except Malformed Value :=
  if style = .plain then
    match plainValue? text with
    | some v => .ok v
    | none => .error .scalar
  else .ok (.text text)

/-- What a scalar says. -/
def scalarValue? (text : String) (style : Style) (tag : Option String) : Except Malformed Value :=
  match tag with
  | none => plainOrText? text style
  | some tag =>
    match ownTag? tag with
    | some name => (plainOrText? text style).map (.tagged name)
    | none => kindValue? tag text

/-- A value below a tag of the document's own. -/
def underTag (tag : Option String) (v : Value) : Value :=
  match tag.bind ownTag? with
  | some name => .tagged name v
  | none => v

/-- Entries whose keys are all different. -/
def distinctEntries? (entries : Mapping) : Except Malformed Mapping :=
  entries.foldlM (fun made e =>
    if Mapping.contains made e.1 then .error .duplicateKey else .ok (made ++ [e])) []

/-- **What a node says**, if it is nested at most `depth` deep. -/
def Document.value? (d : Document) : Nat → Node Nat → Following Value
  | 0, node => do
    match ← d.follow? node with
    | .scalar text style tag _ => scalarValue? text style tag
    | _ => throw .depth
  | depth + 1, node => do
    match ← d.follow? node with
    | .scalar text style tag _ => scalarValue? text style tag
    | .sequence items tag _ => do
      let items ← items.mapM (d.value? depth)
      return underTag tag (.sequence items)
    | .mapping entries tag _ => do
      let entries ← entries.mapM fun e => do
        let key ← d.value? depth e.1
        let value ← d.value? depth e.2
        return (key, value)
      let entries ← distinctEntries? entries
      return underTag tag (.mapping entries)
    | .alias _ => throw .unknownAlias

/-- How deep collections may be nested. -/
def deepest : Nat := 128

/-! ## 4. Texts -/

/-- **The value of a text.** A text that holds nothing says null. -/
def Value.ofText? (text : String) : Except Malformed Value := do
  match ← document? text with
  | none => .ok .null
  | some node => do
    let d ← Document.ofNode? node
    (d.value? deepest d.root).run' d.allowance

/-- The root of a document is written as nothing. -/
def Node.isNothing {α : Type} : Node α → Bool
  | .scalar text style _ _ => text.isEmpty && style = .plain
  | _ => false

/-- **The mapping of a text**, below its tags. A text that holds nothing is the empty mapping. -/
def mappingOfText? (text : String) : Except Malformed Mapping := do
  match ← document? text with
  | none => .ok []
  | some node => do
    let d ← Document.ofNode? node
    if d.root.isNothing then .ok []
    else
      match d.root with
      | .mapping .. => do
        let v ← (d.value? deepest d.root).run' d.allowance
        match v.asMapping? with
        | some entries => .ok entries
        | none => .error .shape
      | _ => .error .shape

end TreeIndex.Yaml
