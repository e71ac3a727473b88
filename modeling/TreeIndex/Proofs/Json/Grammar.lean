import TreeIndex.Json

/-!
# How values are spelled

A text is JSON if it follows the grammar. The grammar says which texts spell a value, **blanks and every escape
included**, whether a value is ever written that way or not.

* `SpellsChar`, `SpellsText`, `SpellsQuoted`: characters between quote marks stand for themselves or are escaped
  (`SpellsEscaped`) by a letter, by four hexadecimal digits or, if these are not enough, by two times four;
* `Listed`: members with commas between them; `SpellsField`: a name and a value with a colon between them;
* `Spells`: a text from the first to the last character of a value;
* `WellFormed`: a whole text, in which only blanks stand around the value;
* `Spells.begins`: a value does not begin as what may stand in front of it or close what it stands in.
-/

namespace TreeIndex.Json

/-! ## 1. Blanks -/

/-- A character that says nothing between the parts of a value. -/
def isBlank (c : Char) : Bool :=
  c == ' ' || c == '\t' || c == '\n' || c == '\r'

/-- Nothing but blanks. -/
def Blank (w : List Char) : Prop :=
  ∀ c ∈ w, isBlank c = true

theorem not_isDigit_of_isBlank {c : Char} (h : isBlank c = true) : c.isDigit = false := by
  simp only [isBlank, Bool.or_eq_true, beq_iff_eq, or_assoc] at h
  obtain rfl | rfl | rfl | rfl := h <;> decide

/-! ## 2. Texts -/

/-- The number that a hexadecimal digit stands for. -/
def hexDigit? (c : Char) : Option Nat :=
  if '0' ≤ c ∧ c ≤ '9' then some (c.toNat - '0'.toNat)
  else if 'a' ≤ c ∧ c ≤ 'f' then some (c.toNat - 'a'.toNat + 10)
  else if 'A' ≤ c ∧ c ≤ 'F' then some (c.toNat - 'A'.toNat + 10)
  else none

/-- The number that **four** hexadecimal digits stand for. -/
def unit? (ds : List Char) : Option Nat :=
  if ds.length = 4 then (ds.mapM hexDigit?).map (List.foldl (fun n d => 16 * n + d) 0) else none

/-- The first half of a character for which four digits are not enough. -/
def isHigh (n : Nat) : Bool :=
  0xd800 ≤ n && n < 0xdc00

/-- The second half of such a character. -/
def isLow (n : Nat) : Bool :=
  0xdc00 ≤ n && n < 0xe000

/-- The character **of two halves**. -/
def paired (high low : Nat) : Char :=
  Char.ofNat (0x10000 + 0x400 * (high - 0xd800) + (low - 0xdc00))

/-- The letters that stand for a character behind a backslash. -/
def letters : List (Char × Char) :=
  [('"', '"'), ('\\', '\\'), ('/', '/'), ('b', '\x08'), ('f', '\x0c'), ('n', '\n'), ('r', '\r'), ('t', '\t')]

/-- Four digits that stand for a character, or **two halves** with four digits each. -/
inductive SpellsPoint : Char → List Char → Prop where
  | unit {ds : List Char} {n : Nat} : unit? ds = some n → isHigh n = false → isLow n = false →
      SpellsPoint (Char.ofNat n) ds
  | pair {ds es : List Char} {high low : Nat} : unit? ds = some high → isHigh high = true → unit? es = some low →
      isLow low = true → SpellsPoint (paired high low) (ds ++ '\\' :: 'u' :: es)

/-- What stands **behind a backslash**. -/
inductive SpellsEscaped : Char → List Char → Prop where
  | letter {l c : Char} : letters.lookup l = some c → SpellsEscaped c [l]
  | point {c : Char} {ds : List Char} : SpellsPoint c ds → SpellsEscaped c ('u' :: ds)

/-- **A character between quote marks.** -/
inductive SpellsChar : Char → List Char → Prop where
  | itself {c : Char} : c ≠ '"' → c ≠ '\\' → 0x20 ≤ c.toNat → SpellsChar c [c]
  | escaped {c : Char} {cs : List Char} : SpellsEscaped c cs → SpellsChar c ('\\' :: cs)

/-- Characters between quote marks, one after the other. -/
inductive SpellsText : List Char → List Char → Prop where
  | nil : SpellsText [] []
  | cons {c : Char} {s cs ds : List Char} : SpellsChar c cs → SpellsText s ds → SpellsText (c :: s) (cs ++ ds)

/-- A text **with its quote marks**. -/
def SpellsQuoted (s : String) (cs : List Char) : Prop :=
  ∃ ds, SpellsText s.toList ds ∧ cs = '"' :: ds ++ ['"']

/-! ## 3. Values -/

/-- Members **with commas between them**, and blanks around each. -/
inductive Listed {α : Type} (One : α → List Char → Prop) : List α → List Char → Prop where
  | empty {w : List Char} : Blank w → Listed One [] w
  | last {x : α} {w cs w' : List Char} : Blank w → One x cs → Blank w' → Listed One [x] (w ++ cs ++ w')
  | more {x y : α} {ys : List α} {w cs w' ds : List Char} : Blank w → One x cs → Blank w' →
      Listed One (y :: ys) ds → Listed One (x :: y :: ys) (w ++ cs ++ w' ++ ',' :: ds)

/-- A name and a value **with a colon between them**. -/
inductive SpellsField (One : Json → List Char → Prop) : String × Json → List Char → Prop where
  | mk {k : String} {v : Json} {cs w w' ds : List Char} : SpellsQuoted k cs → Blank w → Blank w' → One v ds →
      SpellsField One (k, v) (cs ++ w ++ ':' :: w' ++ ds)

/-- **A text spells a value.** A number is spelled by its decimal digits, of which the first one is zero only if it
    is the only one. -/
inductive Spells : Json → List Char → Prop where
  | text {s : String} {cs : List Char} : SpellsQuoted s cs → Spells (.text s) cs
  | number (n : Nat) : Spells (.number n) (Nat.toDigits 10 n)
  | array {vs : List Json} {cs : List Char} : Listed Spells vs cs → Spells (.array vs) ('[' :: cs ++ [']'])
  | object {fs : List (String × Json)} {cs : List Char} : Listed (SpellsField Spells) fs cs →
      Spells (.object fs) ('\x7b' :: cs ++ ['\x7d'])

/-- **The whole text** spells the value. -/
def WellFormed (text : String) (v : Json) : Prop :=
  ∃ w cs w', text.toList = w ++ cs ++ w' ∧ Blank w ∧ Spells v cs ∧ Blank w'

/-! ## 4. How values begin -/

/-- Neither a blank nor a bracket that closes stands in front. -/
def Begins (cs : List Char) : Prop :=
  ∃ c rest, cs = c :: rest ∧ isBlank c = false ∧ c ∉ [']', '\x7d']

theorem SpellsQuoted.begins {s : String} {cs : List Char} (h : SpellsQuoted s cs) : Begins cs := by
  obtain ⟨ds, -, rfl⟩ := h
  exact ⟨'"', ds ++ ['"'], rfl, by decide, by decide⟩

theorem SpellsField.begins {One : Json → List Char → Prop} {f : String × Json} {cs : List Char}
    (h : SpellsField One f cs) : Begins cs := by
  cases h with
  | mk hk =>
    obtain ⟨c, rest, rfl, hc⟩ := hk.begins
    simp only [List.cons_append]
    exact ⟨c, _, rfl, hc⟩

theorem ne_of_isDigit {c d : Char} (hc : c.isDigit = true) (hd : d.isDigit = false) : c ≠ d := by
  intro heq
  simp [heq, hd] at hc

/-- A digit is neither a blank nor a bracket. -/
theorem begins_of_isDigit {c : Char} (rest : List Char) (hc : c.isDigit = true) : Begins (c :: rest) := by
  refine ⟨c, rest, rfl, ?_, ?_⟩
  · rw [Bool.eq_false_iff]
    intro hblank
    simp [not_isDigit_of_isBlank hblank] at hc
  · simp [ne_of_isDigit hc (rfl : ']'.isDigit = false), ne_of_isDigit hc (rfl : '\x7d'.isDigit = false)]

theorem exists_digit (n : Nat) : ∃ d ds, Nat.toDigits 10 n = d :: ds ∧ d.isDigit = true := by
  obtain ⟨d, ds, hds⟩ := List.exists_cons_of_ne_nil (Nat.toDigits_ne_nil : Nat.toDigits 10 n ≠ [])
  have hd : d ∈ Nat.toDigits 10 n := hds ▸ List.mem_cons_self
  exact ⟨d, ds, hds, Nat.isDigit_of_mem_toDigits (by decide) (by decide) hd⟩

/-- A value **does not begin** with what may stand in front of it or close what it stands in. -/
theorem Spells.begins {v : Json} {cs : List Char} (h : Spells v cs) : Begins cs := by
  cases h with
  | text hs => exact hs.begins
  | number n =>
    obtain ⟨d, ds, hds, hd⟩ := exists_digit n
    rw [hds]
    exact begins_of_isDigit ds hd
  | array => exact ⟨'[', _, rfl, by decide, by decide⟩
  | object => exact ⟨'\x7b', _, rfl, by decide, by decide⟩

end TreeIndex.Json
