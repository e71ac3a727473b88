import TreeIndex.Text.Class.Hidden
import TreeIndex.Text.Class.Combining

/-!
# Quoted text

Messages show a text between quote marks, so that its ends and its odd characters can be seen.

* `escape`: one character as it stands between the marks -- the mark itself, the backslash and the usual
  controls by a letter, what has no shape of its own by its number, everything else as it is;
* `quoted`: the whole text;
* `listed`, `paired`, `keyed`: lists, pairs and dictionaries of shown values.
-/

namespace TreeIndex.Text

/-! ## 1. Numbers in base sixteen -/

/-- The digits of a number in base sixteen, in small letters, without leading zeros. -/
def hex (n : Nat) : String :=
  String.ofList (Nat.toDigits 16 n)

/-! ## 2. Characters -/

/-- A character as it stands **between quote marks**. -/
def escape (c : Char) : String :=
  if c = '"' then "\\\""
  else if c = '\\' then "\\\\"
  else if c = '\n' then "\\n"
  else if c = '\r' then "\\r"
  else if c = '\t' then "\\t"
  else if c = '\x00' then "\\0"
  else if isCombining c || isHidden c then "\\u\x7b" ++ hex c.toNat ++ "\x7d"
  else c.toString

/-- The text between quote marks. -/
def quoted (text : String) : String :=
  "\"" ++ String.join (text.toList.map escape) ++ "\""

/-! ## 3. Lists, pairs and dictionaries -/

/-- Shown values as a list. -/
def listed (shown : List String) : String :=
  "[" ++ ", ".intercalate shown ++ "]"

/-- Two shown values as a pair. -/
def paired (first second : String) : String :=
  "(" ++ first ++ ", " ++ second ++ ")"

/-- Shown keys with their shown values. -/
def keyed (entries : List (String × String)) : String :=
  "\x7b" ++ ", ".intercalate (entries.map fun (k, v) => k ++ ": " ++ v) ++ "\x7d"

end TreeIndex.Text
