import TreeIndex.Text.Class.Word
import TreeIndex.Text.Class.Digit
import TreeIndex.Text.Class.Case

/-!
# Sets of characters

A pattern asks of one character whether it lies in a set.

* `CharSet`, `CharSet.has`: sets and membership; a `caseless` set holds a character with every character that
  differs from it in case alone;
* `orbit`: those characters;
* `named?`: the sets of ASCII characters that have a name.
-/

namespace TreeIndex.Pattern

open TreeIndex.Text

/-! ## 1. Sets -/

/-- A set of characters. -/
inductive CharSet where
  | ranges (rs : List (Nat × Nat))
  | word
  | digit
  | blank
  | complement (s : CharSet)
  | union (s t : CharSet)
  | inter (s t : CharSet)
  | diff (s t : CharSet)
  | symmDiff (s t : CharSet)
  | caseless (s : CharSet)
deriving DecidableEq, Inhabited

/-- The characters that differ from one **in case alone**, itself among them. -/
def orbit (c : Char) : List Char :=
  let f := fold c
  let others := foldRuns.filterMap fun r =>
    let d := (f : Int) - r.shift
    if 0 ≤ d ∧ r.covers d.toNat then some d.toNat else none
  (f :: others).map Char.ofNat

namespace CharSet

/-- **Membership.** -/
def has : CharSet → Char → Bool
  | ranges rs, c => rs.any fun r => r.1 ≤ c.toNat && c.toNat ≤ r.2
  | word, c => isWord c
  | digit, c => isDigit c
  | blank, c => isBlank c
  | complement s, c => !s.has c
  | union s t, c => s.has c || t.has c
  | inter s t, c => s.has c && t.has c
  | diff s t, c => s.has c && !t.has c
  | symmDiff s t, c => s.has c != t.has c
  | caseless s, c => (orbit c).any s.has

/-- No character at all. -/
def nothing : CharSet := ranges []

/-- Every character. -/
def everything : CharSet := complement nothing

/-- One character. -/
def single (c : Char) : CharSet := ranges [(c.toNat, c.toNat)]

/-- The characters from one to another. -/
def between (c d : Char) : CharSet := ranges [(c.toNat, d.toNat)]

/-- The characters of ASCII. -/
def ascii : CharSet := ranges [(0, 0x7F)]

@[simp] theorem has_nothing (c : Char) : nothing.has c = false := by
  simp [nothing, has]

@[simp] theorem has_everything (c : Char) : everything.has c = true := by
  simp [everything, has]

@[simp] theorem has_complement (s : CharSet) (c : Char) : (complement s).has c = !s.has c := rfl

theorem has_single (c d : Char) : (single c).has d = (d == c) := by
  simp only [single, has, List.any_cons, List.any_nil, Bool.or_false]
  by_cases h : d = c
  · simp [h]
  · have hne : d.toNat ≠ c.toNat := fun he => h (Char.toNat_inj.1 he)
    have hf : (d == c) = false := by simpa using h
    rw [hf]
    by_cases h1 : c.toNat ≤ d.toNat
    · have h2 : ¬ d.toNat ≤ c.toNat := by omega
      simp [h2]
    · simp [h1]

end CharSet

/-! ## 2. Named sets -/

/-- Digits of ASCII. -/
def asciiDigits : List (Nat × Nat) := [(0x30, 0x39)]

/-- Letters of ASCII. -/
def asciiLetters : List (Nat × Nat) := [(0x41, 0x5A), (0x61, 0x7A)]

/-- Word characters of ASCII. -/
def asciiWord : List (Nat × Nat) := asciiDigits ++ asciiLetters ++ [(0x5F, 0x5F)]

/-- Blanks of ASCII. -/
def asciiBlanks : List (Nat × Nat) := [(0x9, 0xD), (0x20, 0x20)]

/-- The ASCII characters under a name. -/
def named? (name : String) : Option CharSet :=
  let found : Option (List (Nat × Nat)) :=
    match name with
    | "alnum" => some (asciiDigits ++ asciiLetters)
    | "alpha" => some asciiLetters
    | "ascii" => some [(0, 0x7F)]
    | "blank" => some [(0x9, 0x9), (0x20, 0x20)]
    | "cntrl" => some [(0, 0x1F), (0x7F, 0x7F)]
    | "digit" => some asciiDigits
    | "graph" => some [(0x21, 0x7E)]
    | "lower" => some [(0x61, 0x7A)]
    | "print" => some [(0x20, 0x7E)]
    | "punct" => some [(0x21, 0x2F), (0x3A, 0x40), (0x5B, 0x60), (0x7B, 0x7E)]
    | "space" => some asciiBlanks
    | "upper" => some [(0x41, 0x5A)]
    | "word" => some asciiWord
    | "xdigit" => some [(0x30, 0x39), (0x41, 0x46), (0x61, 0x66)]
    | _ => none
  found.map .ranges

end TreeIndex.Pattern
