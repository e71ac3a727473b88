import TreeIndex.Template.Expansion
import TreeIndex.Proofs.Pattern.Closing
import TreeIndex.Proofs.Pattern.Literal

/-!
# Anchored patterns

An end pattern is put into a group that stands behind a caret, and only the whole is read as a pattern. Where the
pattern is one on its own, that comes to the same as asking for a match from the first character on.

* `anchoredTerm`, `term_anchored`: the term of an anchored pattern **holds the term of the pattern**, since a pattern
  is read the same in front of the bracket that closes its group;
* `node_anchored`: so it means the pattern behind the start of the text;
* `matches_textStart_iff`, `accepts_of_node`: which accepts a text exactly if **the pattern matches it from its first
  character on**, however the pattern branches.

Of a text that is no pattern on its own nothing is said: its brackets may close the group early.
-/

namespace TreeIndex.Template

open Pattern

/-! ## 1. The term -/

/-- The term of an anchored pattern: a line start, and a group that does nothing but hold the term together. -/
def anchoredTerm (t : Term) : Term :=
  .cat [.place .lineStart, .group (.flagged []) t]

theorem toList_anchored (text : String) :
    (anchored text).toList = '^' :: '(' :: '?' :: ':' :: bracketed text.toList := by
  rw [anchored, String.toList_append, String.toList_append]
  rfl

theorem groupHead?_colon (cs : List Char) : groupHead? ('?' :: ':' :: cs) = .ok (.flagged [], cs) := rfl

/-- In front of its closing bracket a pattern makes **the anchored term**; without the bracket it is no pattern. -/
theorem pattern?_anchored {fuel : Nat} {cs : List Char} {t : Term} {after : Cursor}
    (h : pattern? (fuel + 1) [] [] { rest := cs } = .ok (t, after)) :
    (after.rest = [')'] → pattern? (fuel + 3) [] [] { rest := '^' :: '(' :: '?' :: ':' :: cs } =
      .ok (anchoredTerm t, { after with rest := [], verbose := false })) ∧
    (after.rest = [] → pattern? (fuel + 3) [] [] { rest := '^' :: '(' :: '?' :: ':' :: cs } = .error .unclosed) := by
  have hverbose : verboseAfter [] false = false := rfl
  rw [pattern?]
  simp only [skipBlanks, Bool.false_eq_true, if_false]
  rw [pattern?]
  simp only [skipBlanks, Bool.false_eq_true, if_false, groupHead?_colon, Outcome.ok_bind, openGroup?, hverbose, h]
  constructor
  · intro hrest
    simp only [hrest, pattern?, skipBlanks, Bool.false_eq_true, if_false, anchoredTerm]
    rfl
  · intro hrest
    simp only [hrest]

/-- **The term of an anchored pattern**, where the pattern is one on its own. -/
theorem term_anchored {text : String} {t t' : Term} (h : Term.ofText? text = .ok t)
    (ha : Term.ofText? (anchored text) = .ok t') : t' = anchoredTerm t := by
  obtain ⟨⟨c, hread, hend⟩, -⟩ := Term.ofText?_eq_ok.1 h
  obtain ⟨⟨c', hread', -⟩, -⟩ := Term.ofText?_eq_ok.1 ha
  have hlen : text.toList.length + 1 ≤ text.toList.length + 3 + 1 := by omega
  obtain ⟨rest, htrails, hinner⟩ := pattern?_trails hlen (Or.inl rfl) hread
  obtain ⟨hclosed, hunclosed⟩ := pattern?_anchored hinner
  have hfuel : (anchored text).toList.length + 1 = text.toList.length + 3 + 3 := by
    rw [toList_anchored]
    simp [bracketed]
  rw [hfuel, toList_anchored] at hread'
  rw [hend] at htrails
  rcases htrails with rfl | ⟨-, rfl⟩
  · rw [hclosed rfl] at hread'
    cases hread'
    rfl
  · rw [hunclosed rfl] at hread'
    cases hread'

/-! ## 2. The node -/

theorem node?_anchoredTerm {t : Term} {n : Node} {f : Flags} (h : t.node? {} = .ok (n, f)) :
    (anchoredTerm t).node? {} = .ok (.cat (.place .textStart) n, {}) := by
  have hchange : ({} : Flags).change [] = {} := rfl
  simp only [anchoredTerm, Term.node?, Term.nodes?, hchange, h, Outcome.ok_bind]
  rfl

/-- **An anchored pattern** is the pattern itself behind the start of the text. -/
theorem node_anchored {text : String} {p q : Pattern} (hp : Pattern.ofText? (anchored text) = .ok p)
    (hq : Pattern.ofText? text = .ok q) : p.node = .cat (.place .textStart) q.node := by
  obtain ⟨t, f, ht, hn, -⟩ := Node.ofText?_eq_ok.1 (program_eq hq).1
  obtain ⟨t', f', ht', hn', -⟩ := Node.ofText?_eq_ok.1 (program_eq hp).1
  rw [term_anchored ht ht', node?_anchoredTerm hn] at hn'
  exact (Prod.mk.inj (Except.ok.inj hn')).1.symm

/-! ## 3. What it matches -/

/-- The start of a text is **its first position**. -/
theorem textStart_holds_iff {cs : List Char} {i : Nat} (hi : i ≤ cs.length) :
    Place.textStart.holds (spotAt cs i).before (spotAt cs i).after = true ↔ i = 0 := by
  by_cases hzero : i = 0
  · rw [hzero]
    exact iff_of_true rfl rfl
  · have hlt : i - 1 < cs.length := by omega
    simp [Place.holds, spotAt, hzero, List.getElem?_eq_getElem hlt]

/-- A pattern behind the start of a text matches **from the first character on**, or not at all. -/
theorem matches_textStart_iff {n : Node} {cs : List Char} {i j : Nat} (hi : i ≤ cs.length) :
    (Node.cat (.place .textStart) n).Matches cs i j ↔ i = 0 ∧ n.Matches cs 0 j := by
  simp only [cat_matches_iff, place_matches_iff, textStart_holds_iff hi]
  constructor
  · rintro ⟨_, ⟨rfl, rfl⟩, hmatch⟩
    exact ⟨rfl, hmatch⟩
  · rintro ⟨rfl, hmatch⟩
    exact ⟨0, ⟨rfl, rfl⟩, hmatch⟩

/-- **An anchored pattern accepts a text** exactly if the pattern matches it from the first character on. -/
theorem accepts_of_node {source : String} {p : Pattern} (h : Pattern.ofText? source = .ok p) {n : Node}
    (hn : p.node = .cat (.place .textStart) n) {cs : List Char} : p.accepts cs = true ↔ ∃ j, n.Matches cs 0 j := by
  rw [accepts_iff h, hn]
  constructor
  · rintro ⟨i, j, hi, hmatch⟩
    exact ⟨j, ((matches_textStart_iff hi).1 hmatch).2⟩
  · rintro ⟨j, hmatch⟩
    exact ⟨0, j, Nat.zero_le _, (matches_textStart_iff (Nat.zero_le _)).2 ⟨rfl, hmatch⟩⟩

/-! ## 4. Plain text -/

section Spelled

variable {cs text : List Char}

/-- In front of the bracket that closes the group, what spells a text is read as **the term of the text**. -/
theorem pattern?_bracketed_spells (h : Spells cs text) (fuel : Nat) :
    pattern? (text.length + (fuel + 1)) [] [] { rest := bracketed cs } = .ok (literalTerm text, { rest := [')'] }) := by
  rw [bracketed, pattern?_spells h, List.append_nil]
  rfl

/-- What spells a text is, anchored, **the anchored text**. -/
theorem term_anchored_spells (h : Spells cs text) :
    Term.ofText? (anchored (String.ofList cs)) = .ok (anchoredTerm (literalTerm text)) := by
  have hlength : text.length ≤ cs.length := h.length_le
  have hfuel : (anchored (String.ofList cs)).toList.length + 1 = text.length + (cs.length - text.length + 3) + 3 := by
    rw [toList_anchored, String.toList_ofList]
    simp [bracketed]
    omega
  refine Term.ofText?_eq_ok.2 ⟨?_, ?_⟩
  · have hinner := pattern?_bracketed_spells h (cs.length - text.length + 3)
    rw [hfuel, toList_anchored, String.toList_ofList]
    exact ⟨_, (pattern?_anchored hinner).1 rfl, rfl⟩
  · have hdepth := depth_literalTerm_le text
    rw [anchoredTerm, Term.depth]
    simp only [Term.depthOfTerms, Term.depth, List.isEmpty_cons, Bool.false_eq_true, if_false, deepest]
    omega

/-- It is a pattern **up to a size**. -/
theorem node_anchored_spells (h : Spells cs text) {n : Node} : Node.ofText? (anchored (String.ofList cs)) = .ok n ↔
    n = .cat (.place .textStart) (literal text) ∧ text.length < largest := by
  have hsize : (Node.cat (.place .textStart) (literal text)).size = 1 + text.length := by
    rw [Node.size, size_literal]
    rfl
  rw [Node.ofText?_eq_ok]
  constructor
  · rintro ⟨t, f, ht, hn, hle⟩
    rw [term_anchored_spells h] at ht
    obtain rfl := Except.ok.inj ht
    rw [node?_anchoredTerm (node?_literalTerm text)] at hn
    obtain rfl := (Prod.mk.inj (Except.ok.inj hn)).1
    refine ⟨rfl, ?_⟩
    omega
  · rintro ⟨rfl, hlt⟩
    refine ⟨_, _, term_anchored_spells h, node?_anchoredTerm (node?_literalTerm text), ?_⟩
    omega

theorem exists_anchored_spells (h : Spells cs text) (hlength : text.length < largest) :
    ∃ p, Pattern.ofText? (anchored (String.ofList cs)) = .ok p := by
  rw [Pattern.ofText?, (node_anchored_spells h).2 ⟨rfl, hlength⟩]
  exact ⟨_, rfl⟩

/-- **Anchored text accepts** what begins with it. -/
theorem accepts_anchored_spells (h : Spells cs text) {p : Pattern}
    (hp : Pattern.ofText? (anchored (String.ofList cs)) = .ok p) {line : List Char} :
    p.accepts line = true ↔ text <+: line := by
  have hnode := ((node_anchored_spells h).1 (program_eq hp).1).1
  rw [accepts_of_node hp hnode]
  simp only [literal_matches_iff, List.drop_zero, exists_eq_left]

end Spelled

end TreeIndex.Template
