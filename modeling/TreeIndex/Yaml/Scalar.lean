import TreeIndex.Yaml.Spot
import TreeIndex.Yaml.Value

/-!
# Plain scalars

A plain scalar without a tag is null, a truth value, a number or a text, and its text alone decides which.

* `null?`, `bool?`, `int?`, `float?`: the readings of a text, each in a few spellings only;
* `looksLikeNumber`: digits with a zero in front are no number, though they look like one;
* `plainValue?`: the reading that is tried first wins, and a text is what remains. A whole number that does
  not fit into 64 bits but into 128 is refused; a still larger one is read as a number with a fraction.
-/

namespace TreeIndex.Yaml

/-! ## 1. Null and truth values -/

/-- The text says null. -/
def isNullText (s : String) : Bool :=
  ["null", "Null", "NULL", "~"].contains s

/-- The truth value that a text says. -/
def boolOf? (s : String) : Option Bool :=
  if ["true", "True", "TRUE"].contains s then some true
  else if ["false", "False", "FALSE"].contains s then some false
  else none

/-! ## 2. Whole numbers -/

/-- Drops a sign in front. -/
def dropSign : List Char → List Char
  | '-' :: cs => cs
  | '+' :: cs => cs
  | cs => cs

/-- Digits, with a zero in front of others, after a sign that may be missing: **a text**. -/
def isPaddedDigits (cs : List Char) : Bool :=
  match dropSign cs with
  | '0' :: c :: rest => (c :: rest).all Char.isDigit
  | _ => false

/-- The value of a digit in a base. -/
def digitIn? (base : Nat) (c : Char) : Option Nat :=
  (hexValue? c).filter (· < base)

/-- The number that digits in a base say; there must be some. -/
def digits? (base : Nat) (cs : List Char) : Option Nat :=
  if cs.isEmpty then none
  else cs.foldlM (fun n c => (digitIn? base c).map (base * n + ·)) 0

/-- The base that the start of a text names, with the rest. -/
def baseOf? : List Char → Option (Nat × List Char)
  | '0' :: 'x' :: cs => some (16, cs)
  | '0' :: 'o' :: cs => some (8, cs)
  | '0' :: 'b' :: cs => some (2, cs)
  | _ => none

/-- A whole number without a minus sign. -/
def natOf? (cs : List Char) : Option Nat :=
  let body :=
    match cs with
    | '+' :: rest => rest
    | _ => cs
  match baseOf? body with
  | some (base, rest) => digits? base rest
  | none => if isPaddedDigits cs then none else digits? 10 body

/-- The size of a whole number with a minus sign. -/
def negativeOf? : List Char → Option Nat
  | '-' :: body =>
    match baseOf? body with
    | some (base, rest) => digits? base rest
    | none => if isPaddedDigits body then none else digits? 10 body
  | _ => none

/-- What a text says as a whole number: a number in range, one that is out of range, or none. -/
inductive IntReading where
  | number (n : Int)
  | tooLarge
  | none
deriving DecidableEq

/-- A text **as a whole number**: from `-2 ^ 63` up to `2 ^ 64 - 1`, in base ten, sixteen, eight or two. -/
def intOf (s : String) : IntReading :=
  let cs := s.toList
  match natOf? cs with
  | some n => if n < Nat.pow 2 64 then .number n else if n < Nat.pow 2 128 then .tooLarge else .none
  | none =>
    match negativeOf? cs with
    | some n => if n ≤ Nat.pow 2 63 then .number (-n) else if n ≤ Nat.pow 2 127 then .tooLarge else .none
    | none => .none

/-! ## 3. Numbers with a fraction -/

/-- The digits in front of a text, and the rest. -/
def spanDigits (cs : List Char) : List Char × List Char :=
  (cs.takeWhile Char.isDigit, cs.dropWhile Char.isDigit)

/-- The exponent at the end of a number: none, or an `e` with a whole number. -/
def exponent? : List Char → Option Int
  | [] => some 0
  | c :: cs =>
    if c = 'e' ∨ c = 'E' then
      match cs with
      | '-' :: ds => (digits? 10 ds).map fun n => -(n : Int)
      | '+' :: ds => (digits? 10 ds).map fun n => (n : Int)
      | ds => (digits? 10 ds).map fun n => (n : Int)
    else none

/-- Digits with at most one point, at least one digit, and an exponent that may be missing. -/
def decimal? (negative : Bool) (cs : List Char) : Option Binary64 :=
  let (whole, rest) := spanDigits cs
  let (part, rest) :=
    match rest with
    | '.' :: rest => spanDigits rest
    | _ => ([], rest)
  if whole.isEmpty && part.isEmpty then none
  else do
    let digits ← digits? 10 (whole ++ part)
    let e ← exponent? rest
    some (Binary64.ofDecimal negative digits (e - part.length))

/-- A text **as a number with a fraction**. Digits never mean an infinity. -/
def floatOf? (s : String) : Option Binary64 :=
  if [".inf", ".Inf", ".INF", "+.inf", "+.Inf", "+.INF"].contains s then some (.infinite false)
  else if ["-.inf", "-.Inf", "-.INF"].contains s then some (.infinite true)
  else if [".nan", ".NaN", ".NAN"].contains s then some .nan
  else
    let found :=
      match s.toList with
      | '+' :: cs => decimal? false cs
      | '-' :: cs => decimal? true cs
      | cs => decimal? false cs
    found.filter Binary64.isFinite

/-! ## 4. Plain scalars -/

/-- **What a plain scalar says**; nothing if its number is too large. -/
def plainValue? (s : String) : Option Value :=
  if s.isEmpty || isNullText s then some .null
  else
    match boolOf? s with
    | some b => some (.bool b)
    | none =>
      match intOf s with
      | .number n => some (.int n)
      | .tooLarge => none
      | .none =>
        match if isPaddedDigits s.toList then none else floatOf? s with
        | some x => some (.float x)
        | none => some (.text s)

end TreeIndex.Yaml
