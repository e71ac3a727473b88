import TreeIndex.Number.Binary64
import TreeIndex.Text.Quoted

/-!
# Values

What a document says is a value: null, a truth value, a number, a text, a sequence, a mapping whose keys are
any values, or a value under a tag.

* `Value`, `Mapping`: the values; a mapping lists its entries in the order in which they were written;
* `Value.same`: equality of values -- the order of a mapping's entries does not matter, and a whole number is
  never equal to one with a fraction;
* `find?`, `set`, `getText?`: look-ups in mappings and changes of them, by equal keys;
* `untagged`, `asMapping?`, `asText?`: what a value is below its tags;
* `scalarText?`: the text of a scalar that is no null;
* `shown`: a value as a message shows it.
-/

namespace TreeIndex.Yaml

/-! ## 1. Values -/

/-- What a document says. -/
inductive Value where
  | null
  | bool (b : Bool)
  | int (n : Int)
  | float (x : Binary64)
  | text (s : String)
  | sequence (items : List Value)
  | mapping (entries : List (Value × Value))
  | tagged (tag : String) (value : Value)
deriving Inhabited

/-- The entries of a mapping, in the order in which they were written. -/
abbrev Mapping := List (Value × Value)

namespace Value

/-! ## 2. Equality -/

mutual

/-- **Equality of values.** -/
def same : Value → Value → Bool
  | null, null => true
  | bool a, bool b => a == b
  | int m, int n => m == n
  | float x, float y => x.same y
  | text s, text t => s == t
  | sequence xs, sequence ys => sameItems xs ys
  | mapping es, mapping fs => es.length == fs.length && sameEntries es fs
  | tagged s v, tagged t w => s == t && same v w
  | _, _ => false

/-- Equality of sequences, item by item. -/
def sameItems : List Value → List Value → Bool
  | [], [] => true
  | x :: xs, y :: ys => same x y && sameItems xs ys
  | _, _ => false

/-- Every entry stands among the others, under an equal key with an equal value. -/
def sameEntries : List (Value × Value) → List (Value × Value) → Bool
  | [], _ => true
  | (k, v) :: es, fs => (fs.any fun f => same k f.1 && same v f.2) && sameEntries es fs

end

/-! ## 3. Below the tags -/

/-- The value below its tags. -/
def untagged : Value → Value
  | tagged _ v => untagged v
  | v => v

/-- The entries of a mapping, with or without tags. -/
def asMapping? (v : Value) : Option Mapping :=
  match v.untagged with
  | mapping es => some es
  | _ => none

/-- The text of a text, with or without tags. -/
def asText? (v : Value) : Option String :=
  match v.untagged with
  | text s => some s
  | _ => none

/-- The text of a text, a number or a truth value that **carries no tag**. -/
def scalarText? : Value → Option String
  | text s => some s
  | int n => some (toString n)
  | float x => some x.text
  | bool b => some (toString b)
  | _ => none

/-! ## 4. Shown values -/

mutual

/-- A value **as a message shows it**. -/
def shown : Value → String
  | null => "Null"
  | bool b => "Bool(" ++ toString b ++ ")"
  | int n => "Number(" ++ toString n ++ ")"
  | float x => "Number(" ++ x.text ++ ")"
  | text s => "String(" ++ Text.quoted s ++ ")"
  | sequence items => "Sequence [" ++ ", ".intercalate (shownItems items) ++ "]"
  | mapping entries => "Mapping \x7b" ++ ", ".intercalate (shownEntries entries) ++ "\x7d"
  | tagged tag v => "TaggedValue \x7b tag: !" ++ tag ++ ", value: " ++ shown v ++ " \x7d"

/-- The items of a sequence as a message shows them. -/
def shownItems : List Value → List String
  | [] => []
  | v :: vs => shown v :: shownItems vs

/-- The entries of a mapping as a message shows them: a key that is a text stands for itself. -/
def shownEntries : List (Value × Value) → List String
  | [] => []
  | (text s, v) :: es => (Text.quoted s ++ ": " ++ shown v) :: shownEntries es
  | (k, v) :: es => (shown k ++ ": " ++ shown v) :: shownEntries es

end

/-- A value that may be missing, as a message shows it. -/
def shownOption : Option Value → String
  | none => "None"
  | some v => "Some(" ++ v.shown ++ ")"

end Value

/-! ## 5. Mappings -/

namespace Mapping

/-- The value under an equal key. -/
def find? : Mapping → Value → Option Value
  | [], _ => none
  | (k, v) :: es, key => if k.same key then some v else find? es key

/-- The value under a text. -/
def get? (m : Mapping) (key : String) : Option Value :=
  find? m (.text key)

/-- Some value stands under an equal key. -/
def contains (m : Mapping) (key : Value) : Bool :=
  (find? m key).isSome

/-- The first value that stands under one of the texts. -/
def firstOf? (m : Mapping) (keys : List String) : Option Value :=
  keys.findSome? m.get?

end Mapping

end TreeIndex.Yaml
