import TreeIndex.Yaml.Value

/-!
# Values of a given shape

A record that is read from a value must find the shape it expects.

* `Shape`, `Mismatch`: what was expected, and why a value does not suit it; `Mismatch.message`: the same in
  words;
* `textOf?`, `optional?`, `itemsOf?`, `textsUnder?`: readings of a value, which look below its tags; where a
  collection is expected, null is the empty one;
* `fieldsOf?`: reads the fields of a record, in the order in which the value lists them. Unknown fields are
  passed over, and a field that is listed twice is refused.
-/

namespace TreeIndex.Yaml

/-! ## 1. Shapes -/

/-- What was expected. -/
inductive Shape where
  | text
  | path
  | sequence
  | mapping
  | record (name : String)
  | field
deriving DecidableEq

/-- A shape in words. -/
def Shape.words : Shape → String
  | text => "a string"
  | path => "path string"
  | sequence => "a sequence"
  | mapping => "a map"
  | record name => "struct " ++ name
  | field => "field identifier"

/-- Why a value **does not suit** what reads it. -/
inductive Mismatch where
  | shape (found : Value) (expected : Shape)
  | missing (field : String)
  | repeated (field : String)
deriving Inhabited

/-- The kind of a value in words, with the value of a scalar. -/
def Value.words (v : Value) : String :=
  match v.untagged with
  | .null => "unit value"
  | .bool b => s!"boolean `{b}`"
  | .int n => s!"integer `{n}`"
  | .float x => "floating point `" ++ x.positional ++ "`"
  | .text s => "string " ++ Text.quoted s
  | .sequence _ => "sequence"
  | .mapping _ => "map"
  | .tagged _ _ => "enum"

/-- A mismatch in words. -/
def Mismatch.message : Mismatch → String
  | shape found expected => "invalid type: " ++ found.words ++ ", expected " ++ expected.words
  | missing field => "missing field `" ++ field ++ "`"
  | repeated field => "duplicate field `" ++ field ++ "`"

/-! ## 2. Readings -/

/-- A text, where a text or a path is expected. -/
def textOf? (expected : Shape) (v : Value) : Except Mismatch String :=
  match v.asText? with
  | some s => .ok s
  | none => .error (.shape v expected)

/-- Nothing if the value is null, else its reading. -/
def optional? {β : Type} (read : Value → Except Mismatch β) (v : Value) : Except Mismatch (Option β) :=
  match v with
  | .null => .ok none
  | v => (read v).map some

/-- The readings of the items of a sequence. -/
def itemsOf? {β : Type} (read : Value → Except Mismatch β) (v : Value) : Except Mismatch (List β) :=
  match v.untagged with
  | .sequence items => items.mapM read
  | .null => .ok []
  | _ => .error (.shape v .sequence)

/-- The entries of a mapping whose keys and values are texts. -/
def textsUnder? (v : Value) : Except Mismatch (List (String × String)) :=
  match v.untagged with
  | .mapping entries =>
    entries.mapM fun e => do
      let key ← textOf? .text e.1
      let value ← textOf? .text e.2
      .ok (key, value)
  | .null => .ok []
  | _ => .error (.shape v .mapping)

/-- Reads the fields of a record one after the other. -/
def fieldsFrom? {σ : Type} (known : List String) (read : σ → String → Value → Except Mismatch σ) :
    List String → σ → Mapping → Except Mismatch σ
  | _, s, [] => .ok s
  | seen, s, (key, value) :: rest => do
    let name ← textOf? .field key
    if !known.contains name then fieldsFrom? known read seen s rest
    else if seen.contains name then .error (.repeated name)
    else do
      let s ← read s name value
      fieldsFrom? known read (name :: seen) s rest

/-- **Reads the fields of a record** from a mapping. -/
def fieldsOf? {σ : Type} (record : String) (known : List String)
    (read : σ → String → Value → Except Mismatch σ) (start : σ) (v : Value) : Except Mismatch σ :=
  match v.untagged with
  | .mapping entries => fieldsFrom? known read [] start entries
  | .null => .ok start
  | _ => .error (.shape v (.record record))

end TreeIndex.Yaml
