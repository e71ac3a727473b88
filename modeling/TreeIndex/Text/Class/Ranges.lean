/-!
# Ranges of code points

A class of characters is stored as the list of its ranges.

* `inRanges`: membership in ranges that ascend; it stops at the first range that lies above the code point;
  `inSomeRange`: membership in ranges in whatever order;
* `isBlank`: white space;
* `CharClass`, `rangesOfLine`: classes that have names, and whose ranges are written as text.
-/

namespace TreeIndex.Text

/-! ## 1. Membership -/

/-- The code point lies in **one of the ranges**, which stand in ascending order. -/
def inRanges : List (Nat × Nat) → Nat → Bool
  | [], _ => false
  | (lo, hi) :: rest, n => if n < lo then false else n ≤ hi || inRanges rest n

/-- The code point lies in one of the ranges. -/
def inSomeRange (rs : List (Nat × Nat)) (n : Nat) : Bool :=
  rs.any fun r => r.1 ≤ n && n ≤ r.2

/-! ## 2. Blanks -/

/-- The blanks: every character that Unicode counts as white space. -/
def blankRanges : List (Nat × Nat) :=
  [(0x9, 0xD), (0x20, 0x20), (0x85, 0x85), (0xA0, 0xA0), (0x1680, 0x1680), (0x2000, 0x200A),
    (0x2028, 0x2029), (0x202F, 0x202F), (0x205F, 0x205F), (0x3000, 0x3000)]

/-- A **blank**, in the Unicode sense. -/
def isBlank (c : Char) : Bool :=
  inRanges blankRanges c.toNat

/-! ## 3. Classes in writing -/

/-- A class of characters **under its names**: its own ranges, line by line, and the classes that it is made of. -/
structure CharClass where
  names : List String
  lines : List String := []
  parts : List String := []

/-- The parts of a text between its spaces. -/
def spacedParts (cs : List Char) : List (List Char) :=
  cs.foldr (fun c parts =>
    match parts with
    | part :: rest => if c = ' ' then [] :: part :: rest else (c :: part) :: rest
    | [] => [[c]]) [[]]

/-- The number that digits and capital letters say. -/
def numberOf (cs : List Char) : Nat :=
  cs.foldl (fun n c => 16 * n + (if c.isDigit then c.toNat - '0'.toNat else c.toNat - 'A'.toNat + 10)) 0

/-- The range that is written as one number, or with a dash as its first and its last one; with a colon these stand for
    **every second one** from the first to the last. -/
def rangesOf (cs : List Char) : List (Nat × Nat) :=
  let first := numberOf (cs.takeWhile Char.isAlphanum)
  match cs.dropWhile Char.isAlphanum with
  | '-' :: rest => [(first, numberOf rest)]
  | ':' :: rest => (List.range ((numberOf rest - first) / 2 + 1)).map fun k => (first + 2 * k, first + 2 * k)
  | _ => [(first, first)]

/-- **The ranges that a line says.** -/
def rangesOfLine (line : String) : List (Nat × Nat) :=
  (spacedParts line.toList).flatMap rangesOf

end TreeIndex.Text
