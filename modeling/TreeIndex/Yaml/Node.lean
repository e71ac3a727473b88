import TreeIndex.Yaml.Token

/-!
# Nodes

The tokens of a document form a tree of nodes.

* `Node`: scalars, sequences, mappings and aliases; a node may carry a tag and an anchor;
* `Handles`: what the handles of tags stand for; `Handles.resolve?`: a tag in full;
* `node?`: a node in block style or in flow style, with the tokens after it;
* `document?`: the one document of a text; a text without a document has none.

A collection of which nothing is written where a node is due holds an empty plain scalar there.
-/

namespace TreeIndex.Yaml

/-! ## 1. Trees -/

/-- A node of a document; anchors and aliases are known by an `α`. -/
inductive Node (α : Type) where
  | scalar (text : String) (style : Style) (tag : Option String) (anchor : Option α)
  | sequence (items : List (Node α)) (tag : Option String) (anchor : Option α)
  | mapping (entries : List (Node α × Node α)) (tag : Option String) (anchor : Option α)
  | alias (name : α)
deriving Inhabited

/-- The node that stands where nothing is written. -/
def Node.nothing {α : Type} : Node α :=
  .scalar "" .plain none none

/-! ## 2. Tags in full -/

/-- What the handles of tags stand for. -/
abbrev Handles := List (String × String)

/-- The handles that need no directive. -/
def Handles.usual : Handles :=
  [("!", "!"), ("!!", "tag:yaml.org,2002:")]

/-- The tag in full: an empty handle is no handle, any other one must be known. -/
def Handles.resolve? (handles : Handles) (handle rest : String) : Except Malformed String :=
  if handle.isEmpty then .ok rest
  else
    match handles.lookup handle with
    | some meaning => .ok (meaning ++ rest)
    | none => .error .tag

/-- What stands in front of a node: a tag and an anchor, in either order. -/
structure Properties where
  tag : Option String := none
  anchor : Option String := none

/-- The properties in front of a node. -/
def properties? (handles : Handles) : List Token → Except Malformed (Properties × List Token)
  | .anchor name :: .tag handle rest :: ts => do
    let tag ← handles.resolve? handle rest
    .ok ({ tag := some tag, anchor := some name }, ts)
  | .anchor name :: ts => .ok ({ anchor := some name }, ts)
  | .tag handle rest :: .anchor name :: ts => do
    let tag ← handles.resolve? handle rest
    .ok ({ tag := some tag, anchor := some name }, ts)
  | .tag handle rest :: ts => do
    let tag ← handles.resolve? handle rest
    .ok ({ tag := some tag }, ts)
  | ts => .ok ({}, ts)

/-! ## 3. Nodes from tokens -/

/-- What was read, and the tokens after it. -/
abbrev WithRest (β : Type) := β × List Token

/-- The tag of a scalar: a lone exclamation mark says nothing about one. -/
def scalarTag (tag : Option String) : Option String :=
  if tag = some "!" then none else tag

/-- A node of which only its properties are written; it must have some. -/
def emptyNode? (p : Properties) (ts : List Token) :
    Except Malformed (WithRest (Node String)) :=
  if p.tag.isSome || p.anchor.isSome then .ok (.scalar "" .plain p.tag p.anchor, ts)
  else .error .arrangement

/-- Which entries of a sequence are read: those between block markers, those that a mapping's indentation
    holds, or those between commas. -/
inductive Place where
  | block
  | indentless
  | flow
deriving DecidableEq

mutual

/-- A node; `fuel` bounds the number of steps. In a block a collection may open by indentation, and as the
    key or value of a block mapping a sequence may stand without any. -/
def node? (handles : Handles) (place : Place) : Nat → List Token →
    Except Malformed (WithRest (Node String))
  | 0, _ => .error .arrangement
  | fuel + 1, ts =>
    match ts with
    | .alias name :: rest => .ok (.alias name, rest)
    | _ => do
      let (p, ts) ← properties? handles ts
      match ts with
      | .scalar text style :: rest => .ok (.scalar text style (scalarTag p.tag) p.anchor, rest)
      | .flowSequence :: rest => do
        let (items, rest) ← flowItems? handles fuel true rest
        .ok (.sequence items p.tag p.anchor, rest)
      | .flowMapping :: rest => do
        let (entries, rest) ← flowEntries? handles fuel true rest
        .ok (.mapping entries p.tag p.anchor, rest)
      | .blockEntry :: rest =>
        if place = .indentless then do
          let (items, rest) ← indentlessItems? handles fuel (.blockEntry :: rest)
          .ok (.sequence items p.tag p.anchor, rest)
        else emptyNode? p (.blockEntry :: rest)
      | .blockSequence :: rest =>
        if place = .flow then emptyNode? p (.blockSequence :: rest)
        else do
          let (items, rest) ← blockItems? handles fuel rest
          .ok (.sequence items p.tag p.anchor, rest)
      | .blockMapping :: rest =>
        if place = .flow then emptyNode? p (.blockMapping :: rest)
        else do
          let (entries, rest) ← blockEntries? handles fuel rest
          .ok (.mapping entries p.tag p.anchor, rest)
      | ts => emptyNode? p ts

/-- The entries of a block sequence up to its end. -/
def blockItems? (handles : Handles) : Nat → List Token →
    Except Malformed (WithRest (List (Node String)))
  | 0, _ => .error .arrangement
  | fuel + 1, ts =>
    match ts with
    | .blockEnd :: rest => .ok ([], rest)
    | .blockEntry :: rest => do
      let (item, rest) ←
        match rest with
        | .blockEntry :: _ => .ok (Node.nothing, rest)
        | .blockEnd :: _ => .ok (Node.nothing, rest)
        | _ => node? handles .block fuel rest
      let (items, rest) ← blockItems? handles fuel rest
      .ok (item :: items, rest)
    | _ => .error .arrangement

/-- The entries of a sequence that stands at the indentation of its mapping. -/
def indentlessItems? (handles : Handles) : Nat → List Token →
    Except Malformed (WithRest (List (Node String)))
  | 0, _ => .error .arrangement
  | fuel + 1, ts =>
    match ts with
    | .blockEntry :: rest => do
      let (item, rest) ←
        match rest with
        | .blockEntry :: _ => .ok (Node.nothing, rest)
        | .key :: _ => .ok (Node.nothing, rest)
        | .value :: _ => .ok (Node.nothing, rest)
        | .blockEnd :: _ => .ok (Node.nothing, rest)
        | _ => node? handles .block fuel rest
      let (items, rest) ← indentlessItems? handles fuel rest
      .ok (item :: items, rest)
    | _ => .ok ([], ts)

/-- The entries of a block mapping up to its end. -/
def blockEntries? (handles : Handles) : Nat → List Token →
    Except Malformed (WithRest (List (Node String × Node String)))
  | 0, _ => .error .arrangement
  | fuel + 1, ts =>
    match ts with
    | .blockEnd :: rest => .ok ([], rest)
    | .key :: rest => do
      let (key, rest) ← blockPart? handles fuel rest
      let (value, rest) ←
        match rest with
        | .value :: rest => blockPart? handles fuel rest
        | _ => .ok (Node.nothing, rest)
      let (entries, rest) ← blockEntries? handles fuel rest
      .ok ((key, value) :: entries, rest)
    | _ => .error .arrangement

/-- A key or a value of a block mapping, which may be left out. -/
def blockPart? (handles : Handles) : Nat → List Token →
    Except Malformed (WithRest (Node String))
  | 0, _ => .error .arrangement
  | fuel + 1, ts =>
    match ts with
    | .key :: _ => .ok (Node.nothing, ts)
    | .value :: _ => .ok (Node.nothing, ts)
    | .blockEnd :: _ => .ok (Node.nothing, ts)
    | _ => node? handles .indentless fuel ts

/-- The entries of a flow sequence up to its end; commas stand between them. An entry may be a mapping with
    one key. -/
def flowItems? (handles : Handles) : Nat → Bool → List Token →
    Except Malformed (WithRest (List (Node String)))
  | 0, _, _ => .error .arrangement
  | fuel + 1, isFirst, ts =>
    match ts with
    | .flowSequenceEnd :: rest => .ok ([], rest)
    | _ => do
      let ts ←
        if isFirst then .ok ts
        else
          match ts with
          | .flowEntry :: rest => .ok rest
          | _ => .error .arrangement
      match ts with
      | .flowSequenceEnd :: rest => .ok ([], rest)
      | .key :: rest => do
        let (item, rest) ← singlePair? handles fuel rest
        let (items, rest) ← flowItems? handles fuel false rest
        .ok (item :: items, rest)
      | _ => do
        let (item, rest) ← node? handles .flow fuel ts
        let (items, rest) ← flowItems? handles fuel false rest
        .ok (item :: items, rest)

/-- A mapping with one key inside a flow sequence, from behind the sign of its key on. Where the key is left
    out, the token after the sign is lost with it. -/
def singlePair? (handles : Handles) : Nat → List Token →
    Except Malformed (WithRest (Node String))
  | 0, _ => .error .arrangement
  | fuel + 1, ts => do
    let (key, rest) ←
      match ts with
      | .value :: rest => .ok (Node.nothing, rest)
      | .flowEntry :: rest => .ok (Node.nothing, rest)
      | .flowSequenceEnd :: rest => .ok (Node.nothing, rest)
      | _ => node? handles .flow fuel ts
    let (value, rest) ←
      match rest with
      | .value :: rest =>
        match rest with
        | .flowEntry :: _ => .ok (Node.nothing, rest)
        | .flowSequenceEnd :: _ => .ok (Node.nothing, rest)
        | _ => node? handles .flow fuel rest
      | _ => .ok (Node.nothing, rest)
    .ok (.mapping [(key, value)] none none, rest)

/-- The entries of a flow mapping up to its end; commas stand between them. -/
def flowEntries? (handles : Handles) :
    Nat → Bool → List Token →
    Except Malformed (WithRest (List (Node String × Node String)))
  | 0, _, _ => .error .arrangement
  | fuel + 1, isFirst, ts =>
    match ts with
    | .flowMappingEnd :: rest => .ok ([], rest)
    | _ => do
      let ts ←
        if isFirst then .ok ts
        else
          match ts with
          | .flowEntry :: rest => .ok rest
          | _ => .error .arrangement
      match ts with
      | .flowMappingEnd :: rest => .ok ([], rest)
      | .key :: rest => do
        let (key, rest) ← flowPart? handles fuel rest
        let (value, rest) ←
          match rest with
          | .value :: rest => flowPart? handles fuel rest
          | _ => .ok (Node.nothing, rest)
        let (entries, rest) ← flowEntries? handles fuel false rest
        .ok ((key, value) :: entries, rest)
      | _ => do
        let (key, rest) ← node? handles .flow fuel ts
        let (entries, rest) ← flowEntries? handles fuel false rest
        .ok ((key, Node.nothing) :: entries, rest)

/-- A key or a value of a flow mapping, which may be left out. -/
def flowPart? (handles : Handles) : Nat → List Token →
    Except Malformed (WithRest (Node String))
  | 0, _ => .error .arrangement
  | fuel + 1, ts =>
    match ts with
    | .value :: _ => .ok (Node.nothing, ts)
    | .flowEntry :: _ => .ok (Node.nothing, ts)
    | .flowMappingEnd :: _ => .ok (Node.nothing, ts)
    | _ => node? handles .flow fuel ts

end

/-! ## 4. Documents -/

/-- The directives in front of a document: at most one version, which must be 1.1 or 1.2, and handles that
    are declared once each. -/
def directives? : (versioned : Bool) → Handles → List Token → Except Malformed (Handles × List Token)
  | versioned, handles, .version major minor :: ts =>
    if versioned || major ≠ 1 || (minor ≠ 1 && minor ≠ 2) then .error .directive
    else directives? true handles ts
  | versioned, handles, .tagHandle handle meaning :: ts =>
    if (handles.lookup handle).isSome then .error .directive
    else directives? versioned (handles ++ [(handle, meaning)]) ts
  | _, handles, ts => .ok (handles, ts)

/-- The node of a document whose marker has been read; it may be left out. -/
def content? (handles : Handles) (fuel : Nat) (ts : List Token) :
    Except Malformed (WithRest (Node String)) :=
  match ts with
  | [] => .ok (Node.nothing, ts)
  | .version _ _ :: _ => .ok (Node.nothing, ts)
  | .tagHandle _ _ :: _ => .ok (Node.nothing, ts)
  | .documentStart :: _ => .ok (Node.nothing, ts)
  | .documentEnd :: _ => .ok (Node.nothing, ts)
  | _ => node? handles .block fuel ts

/-- After the document nothing but end markers stands. -/
def endsText (ts : List Token) : Bool :=
  ts.all (· == .documentEnd)

/-- **The document of a text**, or none if the text holds nothing. -/
def document? (text : String) : Except Malformed (Option (Node String)) := do
  let ts ← tokens? text
  let fuel := 2 * ts.length + 2
  let (root, rest) ←
    match ts with
    | [] => .ok (none, [])
    | .version _ _ :: _ | .tagHandle _ _ :: _ | .documentStart :: _ => do
      let (handles, rest) ← directives? false [] ts
      match rest with
      | .documentStart :: rest => do
        let (root, rest) ← content? (handles ++ Handles.usual) fuel rest
        .ok (some root, rest)
      | _ => .error .arrangement
    | _ => do
      let (root, rest) ← node? Handles.usual .block fuel ts
      .ok (some root, rest)
  if endsText rest then .ok root else .error .arrangement

end TreeIndex.Yaml
