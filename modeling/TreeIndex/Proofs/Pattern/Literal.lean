import TreeIndex.Proofs.Pattern.Found

/-!
# Patterns that are plain text

A text in which every character that a pattern uses has a backslash in front of it is a pattern that matches itself.

* `standsForItself`: a character that means nothing in a pattern;
* `Spells`: a pattern **spells a text** character by character, each as it is or behind a backslash; what stands for
  itself spells itself, and every text is spelled when it is escaped (`spells_self`, `spells_escape`);
* `pattern?_spells`: what spells a text is read as its characters, in front of any rest;
* `literal`, `literal_matches_iff`: **the node of the text**, which matches just where the text stands.
-/

namespace TreeIndex.Pattern

/-! ## 1. Spelling -/

/-- The character means **nothing but itself** in a pattern. -/
def standsForItself (c : Char) : Bool :=
  !(['\\', '.', '+', '*', '?', '(', ')', '|', '[', ']', '\x7b', '\x7d', '^', '$'].contains c)

/-- A pattern **spells a text**: every character stands for itself, or behind a backslash. -/
inductive Spells : List Char → List Char → Prop
  | nil : Spells [] []
  | char {c : Char} {cs text : List Char} (hc : standsForItself c = true) (h : Spells cs text) :
      Spells (c :: cs) (c :: text)
  | escaped {c : Char} {cs text : List Char} (hc : isMeta c = true) (h : Spells cs text) :
      Spells ('\\' :: c :: cs) (c :: text)

theorem Spells.append {cs ds text more : List Char} (h : Spells cs text) (h' : Spells ds more) :
    Spells (cs ++ ds) (text ++ more) := by
  induction h with
  | nil => exact h'
  | char hc _ ih => exact .char hc ih
  | escaped hc _ ih => exact .escaped hc ih

theorem Spells.flatMap {α : Type} {f g : α → List Char} : ∀ {xs : List α}, (∀ x ∈ xs, Spells (f x) (g x)) →
    Spells (xs.flatMap f) (xs.flatMap g)
  | [], _ => .nil
  | _ :: _, h => by
    obtain ⟨hx, hxs⟩ := List.forall_mem_cons.1 h
    rw [List.flatMap_cons, List.flatMap_cons]
    exact hx.append (Spells.flatMap hxs)

/-- A text is **no longer** than what spells it. -/
theorem Spells.length_le {cs text : List Char} (h : Spells cs text) : text.length ≤ cs.length := by
  induction h with
  | nil => exact Nat.le_refl 0
  | char _ _ ih => exact Nat.succ_le_succ ih
  | escaped _ _ ih => exact Nat.succ_le_succ (Nat.le_succ_of_le ih)

/-- What stands for itself **spells itself**. -/
theorem spells_self : ∀ {cs : List Char}, (∀ c ∈ cs, standsForItself c = true) → Spells cs cs
  | [], _ => .nil
  | _ :: _, h =>
    have h := List.forall_mem_cons.1 h
    .char h.1 (spells_self h.2)

theorem standsForItself_of_not_isMeta {c : Char} (h : isMeta c = false) : standsForItself c = true := by
  simp only [isMeta, standsForItself, List.contains_cons, List.contains_nil, Bool.or_false, Bool.or_eq_false_iff,
    Bool.not_eq_true'] at h ⊢
  simp only [h, and_self]

/-- Every text is spelled **when it is escaped**. -/
theorem spells_escape (text : String) : Spells (escape text).toList text.toList := by
  rw [escape, String.toList_ofList]
  induction text.toList with
  | nil => exact .nil
  | cons c cs ih =>
    rw [List.flatMap_cons, escapeChar]
    split
    · rename_i hc
      exact .escaped hc ih
    · rename_i hc
      exact .char (standsForItself_of_not_isMeta (by simpa using hc)) ih

/-! ## 2. What is spelled is read as plain characters -/

section Read

variable {fuel : Nat} {items : List Term} {c : Char} {more : List Char}

theorem pattern?_char (hc : standsForItself c = true) : pattern? (fuel + 1) [] items { rest := c :: more } =
    pattern? fuel [] (.char c :: items) { rest := more } := by
  simp only [standsForItself, List.contains_cons, List.contains_nil, Bool.or_false, Bool.not_eq_true',
    Bool.or_eq_false_iff, beq_eq_false_iff_ne, ne_eq] at hc
  rw [pattern?]
  simp only [skipBlanks, Bool.false_eq_true, if_false]
  split
  case h_14 heq =>
    cases heq
    rfl
  all_goals
    rename_i heq
    simp_all

theorem escape?_of_isMeta (hc : isMeta c = true) : escape? false (c :: more) = .ok (.char c, more) := by
  simp only [isMeta, List.contains_eq_mem, decide_eq_true_eq, List.mem_cons, List.not_mem_nil, or_false] at hc
  rcases hc with rfl | rfl | rfl | rfl | rfl | rfl | rfl | rfl | rfl | rfl | rfl | rfl | rfl | rfl | rfl | rfl | rfl | rfl
    <;> rfl

theorem pattern?_escaped (hc : isMeta c = true) : pattern? (fuel + 1) [] items { rest := '\\' :: c :: more } =
    pattern? fuel [] (.char c :: items) { rest := more } := by
  rw [pattern?]
  simp only [skipBlanks, Bool.false_eq_true, if_false, escape?_of_isMeta hc]
  rfl

/-- What spells a text is read as **the characters of the text**, whatever stands behind it. -/
theorem pattern?_spells {cs text : List Char} (h : Spells cs text) : ∀ (items : List Term),
    pattern? (text.length + fuel) [] items { rest := cs ++ more } =
      pattern? fuel [] ((text.map Term.char).reverse ++ items) { rest := more } := by
  induction h with
  | nil => intro items; rw [List.length_nil, Nat.zero_add]; rfl
  | char hc _ ih =>
    intro items
    rw [List.length_cons, Nat.add_right_comm, List.cons_append, pattern?_char hc, ih]
    simp
  | escaped hc _ ih =>
    intro items
    rw [List.length_cons, Nat.add_right_comm, List.cons_append, List.cons_append, pattern?_escaped hc, ih]
    simp

end Read

/-! ## 3. The node of a text -/

/-- A text as a term. -/
def literalTerm (text : List Char) : Term :=
  joinItems (text.map Term.char).reverse

/-- A text as a node: **its characters in a row**. -/
def literal (text : List Char) : Node :=
  Node.row (text.map fun c => .set (.single c))

theorem joinItems_reverse {ts : List Term} (h : ts.length ≠ 1) : joinItems ts.reverse = .cat ts := by
  unfold joinItems
  split
  · rename_i heq
    have hlength := congrArg List.length heq
    rw [List.length_reverse] at hlength
    exact absurd hlength h
  · rw [List.reverse_reverse]

theorem nodes?_chars : ∀ text : List Char, Term.nodes? {} (text.map Term.char) =
    .ok (text.map fun c => Node.set (.single c), {})
  | [] => rfl
  | c :: text => by
    have hc : (Term.char c).node? {} = .ok (.set (.single c), {}) := rfl
    simp only [List.map_cons, Term.nodes?, hc, Outcome.ok_bind, nodes?_chars text]

theorem node?_literalTerm (text : List Char) : (literalTerm text).node? {} = .ok (literal text, {}) := by
  by_cases hlength : text.length = 1
  · obtain ⟨c, rfl⟩ := List.length_eq_one_iff.1 hlength
    rfl
  · rw [literalTerm, joinItems_reverse (by rwa [List.length_map])]
    simp only [Term.node?, nodes?_chars, Outcome.ok_bind]
    rfl

theorem size_row_cons (n : Node) (ns : List Node) : (Node.row (n :: ns)).size = n.size + (Node.row ns).size := by
  cases ns <;> rfl

theorem size_literal : ∀ text : List Char, (literal text).size = text.length
  | [] => rfl
  | c :: text => by
    have hrest := size_literal text
    rw [literal] at hrest
    rw [literal, List.map_cons, size_row_cons, hrest, Node.size, List.length_cons, Nat.add_comm]

theorem depthOfTerms_chars : ∀ text : List Char, Term.depthOfTerms (text.map Term.char) = 0
  | [] => rfl
  | c :: text => by
    rw [List.map_cons, Term.depthOfTerms, depthOfTerms_chars text]
    rfl

theorem depth_literalTerm_le (text : List Char) : (literalTerm text).depth ≤ 1 := by
  by_cases hlength : text.length = 1
  · obtain ⟨c, rfl⟩ := List.length_eq_one_iff.1 hlength
    exact Nat.zero_le 1
  · rw [literalTerm, joinItems_reverse (by rwa [List.length_map]), Term.depth, depthOfTerms_chars]
    split <;> omega

section Matches

variable {cs : List Char}

theorem row_cons_matches_iff {n : Node} {ns : List Node} {i j : Nat} :
    (Node.row (n :: ns)).Matches cs i j ↔ ∃ k, n.Matches cs i k ∧ (Node.row ns).Matches cs k j := by
  cases ns with
  | nil => simp [Node.row, empty_matches_iff]
  | cons m ns => exact cat_matches_iff

/-- A text matches **just where it stands**. -/
theorem literal_matches_iff : ∀ {text : List Char} {i j : Nat},
    (literal text).Matches cs i j ↔ j = i + text.length ∧ text <+: cs.drop i
  | [], i, j => by simp [literal, Node.row, empty_matches_iff]
  | c :: text, i, j => by
    have hrest {k : Nat} : (literal text).Matches cs k j ↔ j = k + text.length ∧ text <+: cs.drop k :=
      literal_matches_iff
    rw [literal] at hrest
    rw [literal, List.map_cons, row_cons_matches_iff]
    simp only [set_matches_iff, hrest, CharSet.has_single, beq_iff_eq]
    have hlength : i + 1 + text.length = i + (c :: text).length := by
      rw [List.length_cons]
      omega
    constructor
    · rintro ⟨_, ⟨rfl, d, hd, rfl⟩, hj, hprefix⟩
      obtain ⟨hi, hd⟩ := List.getElem?_eq_some_iff.1 hd
      rw [List.drop_eq_getElem_cons hi, hd]
      exact ⟨hj.trans hlength, List.cons_prefix_cons.2 ⟨rfl, hprefix⟩⟩
    · rintro ⟨hj, hprefix⟩
      have hi : i < cs.length := by
        have := hprefix.length_le
        rw [List.length_cons, List.length_drop] at this
        omega
      rw [List.drop_eq_getElem_cons hi] at hprefix
      obtain ⟨hc, hprefix⟩ := List.cons_prefix_cons.1 hprefix
      exact ⟨i + 1, ⟨rfl, _, List.getElem?_eq_getElem hi, hc.symm⟩, hj.trans hlength.symm, hprefix⟩

end Matches

end TreeIndex.Pattern
