import TreeIndex.Proofs.Json.Reader

/-!
# What is written is JSON

Values are written without blanks, and what is written follows the grammar; so it is read back.

* `spellsChar_escape`, `spellsQuoted_quoted`: every character is escaped as the grammar asks for, whatever a text holds;
* `listed_intercalate`: texts with commas between them are members of a list;
* `spells_compact`: along the value, its text spells it; `wellFormed_compact`, `ofText?_compact`: so the text, with
  blanks behind it, is well-formed, and **the value is read back** from it.
-/

namespace TreeIndex.Json

/-! ## 1. Texts -/

/-- A control character is **two hexadecimal digits** behind two zeros. -/
theorem unit?_control : ∀ n < 0x20, unit? ['0', '0', Nat.digitChar (n / 16), Nat.digitChar (n % 16)] = some n := by
  decide

theorem spellsPoint_control {c : Char} (h : c.toNat < 0x20) :
    SpellsPoint c ['0', '0', Nat.digitChar (c.toNat / 16), Nat.digitChar (c.toNat % 16)] := by
  have hhigh : isHigh c.toNat = false := by
    simp only [isHigh, Bool.and_eq_false_iff, decide_eq_false_iff_not]
    omega
  have hlow : isLow c.toNat = false := by
    simp only [isLow, Bool.and_eq_false_iff, decide_eq_false_iff_not]
    omega
  have hpoint := SpellsPoint.unit (unit?_control c.toNat h) hhigh hlow
  rwa [Char.ofNat_toNat] at hpoint

/-- **Every character is spelled** by what is written for it. -/
theorem spellsChar_escape (c : Char) : SpellsChar c (escape c) := by
  by_cases hletter : c ∈ ['"', '\\', '\n', '\r', '\t', '\x08', '\x0c']
  · simp only [List.mem_cons, List.not_mem_nil, or_false] at hletter
    obtain rfl | rfl | rfl | rfl | rfl | rfl | rfl := hletter <;> exact .escaped (.letter rfl)
  · simp only [List.mem_cons, List.not_mem_nil, or_false, not_or] at hletter
    obtain ⟨hquote, hslash, hplain⟩ := hletter
    by_cases hcontrol : c.toNat < 0x20
    · simpa [escape, hquote, hslash, hplain, hcontrol] using SpellsChar.escaped (.point (spellsPoint_control hcontrol))
    · simpa [escape, hquote, hslash, hplain, hcontrol] using SpellsChar.itself hquote hslash (by omega)

theorem spellsText_escape : ∀ s : List Char, SpellsText s (s.flatMap escape)
  | [] => .nil
  | c :: s => .cons (spellsChar_escape c) (spellsText_escape s)

theorem spellsQuoted_quoted (s : String) : SpellsQuoted s (quoted s).toList :=
  ⟨s.toList.flatMap escape, spellsText_escape s.toList, by simp [quoted]⟩

/-! ## 2. Values -/

theorem blank_nil : Blank [] := fun _ h => absurd h List.not_mem_nil

/-- Texts **with commas between them** are members of a list. -/
theorem listed_intercalate {α : Type} {One : α → List Char → Prop} {write : α → String} : ∀ {xs : List α},
    (∀ x ∈ xs, One x (write x).toList) → Listed One xs (",".intercalate (xs.map write)).toList
  | [], _ => .empty blank_nil
  | [x], h => by
    simpa using Listed.last blank_nil (h x List.mem_cons_self) blank_nil
  | x :: y :: ys, h => by
    obtain ⟨hx, hys⟩ := List.forall_mem_cons.1 h
    simpa [String.intercalate_cons_cons] using Listed.more blank_nil hx blank_nil (listed_intercalate hys)

theorem compactItems_eq_map : ∀ vs : List Json, compactItems vs = vs.map compact
  | [] => rfl
  | v :: vs => by rw [compactItems, compactItems_eq_map vs, List.map_cons]

/-- A field without blanks. -/
def compactField (f : String × Json) : String :=
  quoted f.1 ++ ":" ++ f.2.compact

theorem compactFields_eq_map : ∀ fs : List (String × Json), compactFields fs = fs.map compactField
  | [] => rfl
  | f :: fs => by
    rw [compactFields, compactFields_eq_map fs, List.map_cons]
    rfl

theorem spellsField_compactField {k : String} {v : Json} (h : Spells v v.compact.toList) :
    SpellsField Spells (k, v) (compactField (k, v)).toList := by
  simpa [compactField] using SpellsField.mk (spellsQuoted_quoted k) blank_nil blank_nil h

mutual

/-- **A value is spelled** by what is written for it. -/
theorem spells_compact : ∀ v : Json, Spells v v.compact.toList
  | text s => .text (spellsQuoted_quoted s)
  | number n => by
    have hdigits : (number n).compact.toList = Nat.toDigits 10 n := by
      rw [compact, Nat.toString_eq_repr, Nat.toList_repr]
    exact hdigits ▸ .number n
  | array vs => by
    have hlisted := listed_intercalate (spells_items vs)
    simpa [compact, compactItems_eq_map] using Spells.array hlisted
  | object fs => by
    have hlisted := listed_intercalate (spells_fields fs)
    simpa [compact, compactFields_eq_map] using Spells.object hlisted

theorem spells_items : ∀ vs : List Json, ∀ v ∈ vs, Spells v v.compact.toList
  | [] => fun _ h => absurd h List.not_mem_nil
  | v :: vs => List.forall_mem_cons.2 ⟨spells_compact v, spells_items vs⟩

theorem spells_fields : ∀ fs : List (String × Json), ∀ f ∈ fs, SpellsField Spells f (compactField f).toList
  | [] => fun _ h => absurd h List.not_mem_nil
  | (_, v) :: fs => List.forall_mem_cons.2 ⟨spellsField_compactField (spells_compact v), spells_fields fs⟩

end

/-! ## 3. Whole texts -/

/-- A value on a line of its own is **well-formed**. -/
theorem wellFormed_compact (v : Json) : WellFormed (v.compact ++ "\n") v :=
  ⟨[], v.compact.toList, ['\n'], by simp, blank_nil, spells_compact v, by simp [Blank, isBlank]⟩

/-- **A value is read back** from what is written for it. -/
theorem ofText?_compact (v : Json) : ofText? (v.compact ++ "\n") = some v :=
  ofText?_eq_some_iff.2 (wellFormed_compact v)

end TreeIndex.Json
