/-!
# Numbers with a binary fraction

A number with a fraction is stored in 64 bits: a whole `mantissa` below `2 ^ 53` and a power of two.

* `Binary64`: not a number, an infinity, or `± mantissa * 2 ^ exponent`;
* `nearest`: the stored number next to a fraction of whole numbers -- of two equally near ones, the one with
  the even mantissa; `ofDecimal`: the same for digits and a power of ten;
* `shortest`: the fewest decimal digits that are read back as the same number, of those the nearest;
* `same`: equality of numbers -- both zeros are one number, and here what is not a number equals itself;
* `text`: how a value is written, with an exponent from `10 ^ 16` on and below `10 ^ -5`;
  `positional`: how a message writes it, never with an exponent.
-/

namespace TreeIndex

/-! ## 1. The numbers -/

/-- A number of 64 bits. A finite one is `± mantissa * 2 ^ exponent`, where the exponent is the least one
    possible: the mantissa has 53 bits, or the exponent is `-1074`. -/
inductive Binary64 where
  | nan
  | infinite (negative : Bool)
  | finite (negative : Bool) (mantissa : Nat) (exponent : Int)
deriving DecidableEq

namespace Binary64

/-- The number is no infinity and is a number. -/
def isFinite : Binary64 → Bool
  | finite .. => true
  | _ => false

/-- The number with the other sign. -/
def negate : Binary64 → Binary64
  | nan => nan
  | infinite s => infinite !s
  | finite s m e => finite (!s) m e

/-- **Equality of numbers**: both zeros are one number, and what is not a number equals itself. -/
def same : Binary64 → Binary64 → Bool
  | finite _ 0 _, finite _ 0 _ => true
  | a, b => a == b

/-! ## 2. The nearest stored number -/

/-- The fraction `num / den` divided by `2 ^ e`, again as a fraction. -/
def scale (num den : Nat) (e : Int) : Nat × Nat :=
  if 0 ≤ e then (num, den * Nat.pow 2 e.toNat) else (num * Nat.pow 2 (-e).toNat, den)

/-- The quotient rounded to a whole number; a half goes to the **even** neighbour. -/
def divideToEven (num den : Nat) : Nat :=
  let q := num / den
  let r := num % den
  if 2 * r < den then q
  else if den < 2 * r then q + 1
  else if q % 2 = 0 then q else q + 1

/-- The exponent at which the fraction has a whole part of 53 bits, but no less than `-1074`. -/
def exponentFor (num den : Nat) : Int :=
  let e := (Nat.log2 num : Int) - Nat.log2 den - 53
  let (n, d) := scale num den e
  max (if n / d < Nat.pow 2 53 then e else e + 1) (-1074)

/-- The stored number **next to** `num / den`. -/
def nearest (negative : Bool) (num den : Nat) : Binary64 :=
  if num = 0 then finite negative 0 (-1074)
  else
    let e := exponentFor num den
    let (n, d) := scale num den e
    let m := divideToEven n d
    let (m, e) := if m < Nat.pow 2 53 then (m, e) else (Nat.pow 2 52, e + 1)
    if 971 < e then infinite negative else finite negative m e

/-- The stored number next to `digits * 10 ^ exponent`. Far outside the range nothing is computed. -/
def ofDecimal (negative : Bool) (digits : Nat) (exponent : Int) : Binary64 :=
  let size := (Nat.toDigits 10 digits).length + exponent
  if digits = 0 then finite negative 0 (-1074)
  else if 310 < size then infinite negative
  else if size < -326 then finite negative 0 (-1074)
  else if 0 ≤ exponent then nearest negative (digits * Nat.pow 10 exponent.toNat) 1
  else nearest negative digits (Nat.pow 10 (-exponent).toNat)

/-! ## 3. The fewest digits -/

/-- A decimal number `digits * 10 ^ exponent`. -/
structure Decimal where
  digits : Nat
  exponent : Int
deriving DecidableEq

/-- How many digits a number has. -/
def countDigits (n : Nat) : Nat :=
  (Nat.toDigits 10 n).length

/-- The power of ten of the first digit of `num / den`. -/
def magnitude (num den : Nat) : Int :=
  if den ≤ num then (countDigits (num / den) : Int) - 1
  else -(countDigits ((den + num - 1) / num - 1) : Int)

/-- The fraction `num / den` divided by `10 ^ e`. -/
def scaleTen (num den : Nat) (e : Int) : Nat × Nat :=
  if 0 ≤ e then (num, den * Nat.pow 10 e.toNat) else (num * Nat.pow 10 (-e).toNat, den)

/-- The reals that are read back as the number, in quarters of its last bit: a lower and an upper bound,
    which belong to them exactly if the mantissa is even. Below a power of two the numbers lie closer. -/
def bounds (mantissa : Nat) (exponent : Int) : Nat × Nat :=
  (if mantissa = Nat.pow 2 52 ∧ -1074 < exponent then 4 * mantissa - 1 else 4 * mantissa - 2, 4 * mantissa + 2)

/-- The decimal number on the grid of `places` digits that is read back as the number, if there is one:
    the nearer of the two neighbours, of two equally near ones the one with the even last digit. -/
def onGrid? (mantissa : Nat) (exponent : Int) (top : Int) (places : Nat) : Option Decimal :=
  let step := top + 1 - places
  let (low, high) := bounds mantissa exponent
  let (num, den) := scale (4 * mantissa) 1 (2 - exponent)
  let (num, den) := scaleTen num den step
  let (lowNum, lowDen) := scale low 1 (2 - exponent)
  let (lowNum, lowDen) := scaleTen lowNum lowDen step
  let (highNum, highDen) := scale high 1 (2 - exponent)
  let (highNum, highDen) := scaleTen highNum highDen step
  let inside (d : Nat) : Bool :=
    if mantissa % 2 = 0 then lowNum ≤ d * lowDen && d * highDen ≤ highNum
    else lowNum < d * lowDen && d * highDen < highNum
  let below := num / den
  let rest := num % den
  let nearerBelow := 2 * rest < den || (2 * rest == den && below % 2 == 0)
  match inside below, inside (below + 1) with
  | true, true => some ⟨if nearerBelow then below else below + 1, step⟩
  | true, false => some ⟨below, step⟩
  | false, true => some ⟨below + 1, step⟩
  | false, false => none

/-- The first of some grids with a point that is read back as the number. -/
def firstGrid (mantissa : Nat) (exponent : Int) (top : Int) : List Nat → Decimal
  | [] => ⟨mantissa, exponent⟩
  | places :: more =>
    match onGrid? mantissa exponent top places with
    | some d => d
    | none => firstGrid mantissa exponent top more

/-- The **fewest digits** that are read back as `mantissa * 2 ^ exponent`: seventeen always suffice. -/
def shortest (mantissa : Nat) (exponent : Int) : Decimal :=
  let (num, den) := scale mantissa 1 (-exponent)
  firstGrid mantissa exponent (magnitude num den) ((List.range 17).map (· + 1))

/-! ## 4. Texts -/

/-- The digits without the zeros at their end, and how many zeros these were. -/
def trimZeros (digits : List Char) : List Char × Nat :=
  let kept := (digits.reverse.dropWhile (· == '0')).reverse
  (kept, digits.length - kept.length)

/-- The digits of a decimal number without zeros at the end, and the power of ten of the last one. -/
def significant (d : Decimal) : List Char × Int :=
  let (kept, zeros) := trimZeros (Nat.toDigits 10 d.digits)
  (kept, d.exponent + zeros)

/-- A number of `n` zeros. -/
def zeros (n : Nat) : List Char :=
  List.replicate n '0'

/-- Digits with a point `exponent` places from their right end; a whole number has no point. -/
def pointed (digits : List Char) (exponent : Int) : List Char :=
  let whole := digits.length + exponent
  if 0 ≤ exponent then digits ++ zeros exponent.toNat
  else if 0 < whole then digits.take whole.toNat ++ '.' :: digits.drop whole.toNat
  else '0' :: '.' :: zeros (-whole).toNat ++ digits

/-- The sign in front. -/
def signed (negative : Bool) (shown : List Char) : String :=
  String.ofList (if negative then '-' :: shown else shown)

/-- Digits as a value is written: without an exponent if the point stands at most sixteen places to the
    right or five to the left of the first digit. -/
def valueText (digits : List Char) (exponent : Int) : List Char :=
  let whole := digits.length + exponent
  if 0 ≤ exponent ∧ whole ≤ 16 then pointed digits exponent ++ ['.', '0']
  else if -5 < whole ∧ whole ≤ 16 then pointed digits exponent
  else
    let power := (toString (whole - 1)).toList
    match digits with
    | [] => ['0']
    | [d] => d :: 'e' :: power
    | d :: rest => d :: '.' :: rest ++ 'e' :: power

/-- A number **as a value is written**. -/
def text : Binary64 → String
  | nan => ".nan"
  | infinite false => ".inf"
  | infinite true => "-.inf"
  | finite s 0 _ => signed s ['0', '.', '0']
  | finite s m e =>
    let (digits, exponent) := significant (shortest m e)
    signed s (valueText digits exponent)

/-- A number **as a message writes it**: without an exponent, and with a point in any case. -/
def positional : Binary64 → String
  | nan => "NaN.0"
  | infinite s => signed s "inf.0".toList
  | finite s 0 _ => signed s ['0', '.', '0']
  | finite s m e =>
    let (digits, exponent) := significant (shortest m e)
    let shown := pointed digits exponent
    signed s (if shown.contains '.' then shown else shown ++ ['.', '0'])

end Binary64

end TreeIndex
