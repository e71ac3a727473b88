/-!
# JSON text

Records are written as JSON.

* `Json`: texts, whole numbers, arrays and objects whose fields keep their order;
* `escape`, `quoted`: a text between quote marks -- the mark, the backslash and the controls are escaped, and
  every other character stands for itself;
* `compact`: a value without blanks; `pretty`: a value with a line for every item and every field.
-/

namespace TreeIndex

/-- A value that is written. -/
inductive Json where
  | text (s : String)
  | number (n : Nat)
  | array (items : List Json)
  | object (fields : List (String × Json))
deriving Inhabited

namespace Json

/-! ## 1. Texts -/

/-- A character between quote marks. -/
def escape (c : Char) : List Char :=
  if c = '"' then ['\\', '"']
  else if c = '\\' then ['\\', '\\']
  else if c = '\n' then ['\\', 'n']
  else if c = '\r' then ['\\', 'r']
  else if c = '\t' then ['\\', 't']
  else if c = '\x08' then ['\\', 'b']
  else if c = '\x0c' then ['\\', 'f']
  else if c.toNat < 0x20 then
    ['\\', 'u', '0', '0', Nat.digitChar (c.toNat / 16), Nat.digitChar (c.toNat % 16)]
  else [c]

/-- A text **between quote marks**. -/
def quoted (s : String) : String :=
  "\"" ++ String.ofList (s.toList.flatMap escape) ++ "\""

/-! ## 2. Without blanks -/

mutual

/-- A value **without blanks**. -/
def compact : Json → String
  | text s => quoted s
  | number n => toString n
  | array items => "[" ++ ",".intercalate (compactItems items) ++ "]"
  | object fields => "\x7b" ++ ",".intercalate (compactFields fields) ++ "\x7d"

/-- The items of an array without blanks. -/
def compactItems : List Json → List String
  | [] => []
  | v :: vs => v.compact :: compactItems vs

/-- The fields of an object without blanks. -/
def compactFields : List (String × Json) → List String
  | [] => []
  | (k, v) :: fs => (quoted k ++ ":" ++ v.compact) :: compactFields fs

end

/-! ## 3. With lines -/

/-- Two blanks for every level. -/
def indentation (level : Nat) : String :=
  String.ofList (List.replicate (2 * level) ' ')

/-- Lines between brackets; nothing stands between the brackets of an empty list. -/
def bracketed (opening closing : String) (level : Nat) (lines : List String) : String :=
  if lines.isEmpty then opening ++ closing
  else
    opening ++ "\n" ++ ",\n".intercalate (lines.map (indentation (level + 1) ++ ·)) ++ "\n"
      ++ indentation level ++ closing

mutual

/-- A value with a **line for every item** and every field. -/
def pretty (level : Nat) : Json → String
  | text s => quoted s
  | number n => toString n
  | array items => bracketed "[" "]" level (prettyItems (level + 1) items)
  | object fields => bracketed "\x7b" "\x7d" level (prettyFields (level + 1) fields)

/-- The items of an array, each on lines of its own. -/
def prettyItems (level : Nat) : List Json → List String
  | [] => []
  | v :: vs => v.pretty level :: prettyItems level vs

/-- The fields of an object, each on lines of its own. -/
def prettyFields (level : Nat) : List (String × Json) → List String
  | [] => []
  | (k, v) :: fs => (quoted k ++ ": " ++ v.pretty level) :: prettyFields level fs

end

end Json

end TreeIndex
