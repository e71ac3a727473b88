import TreeIndex.Proofs.Template.Placeholder

/-!
# Templates read part by part

The parts of a template are its one reading that loses nothing and leaves no placeholder unread.

* `written`: what some parts write back; `leadText`, `behindText`: the literal text in front of some parts, and the
  parts behind it;
* `Reads`: a text is read from left to right, **an escaped pair, a character or a placeholder at a time**;
  `reads_iff`: the parts of a text are what is read in such steps;
* `Reading`: a lossless and maximal reading; `Reads.reading`: what is read in steps is one, every property by
  induction on the steps;
* `Reading.reads`: and a reading **can be made in steps**, so a text has only one;
* `reading_iff`: the parts of a template are its reading.
-/

namespace TreeIndex.Template

/-! ## 1. Parts and what they write back -/

/-- What some parts **write back**. -/
def written (ps : List Part) : List Char :=
  ps.flatMap Part.chars

/-- The literal text **in front of** some parts; empty if there is none. -/
def leadText : List Part → List Char
  | .literal text :: _ => text
  | _ => []

/-- The parts **behind** the literal text. -/
def behindText : List Part → List Part
  | .literal _ :: ps => ps
  | ps => ps

section Parts

variable {text : List Char} {ps before after : List Part} {p : Part}

theorem written_cons (p : Part) (ps : List Part) : written (p :: ps) = p.chars ++ written ps :=
  List.flatMap_cons

theorem written_behindText (ps : List Part) : leadText ps ++ written (behindText ps) = written ps := by
  match ps with
  | [] => rfl
  | .literal text :: ps => exact (written_cons (.literal text) ps).symm
  | .placeholder _ _ :: _ => rfl

theorem eq_cons_of_leadText (h : leadText ps ≠ []) : ps = .literal (leadText ps) :: behindText ps := by
  match ps with
  | [] => exact absurd rfl h
  | .literal _ :: _ => rfl
  | .placeholder _ _ :: _ => exact absurd rfl h

/-- Pushed text **joins the literal text** that stands there. -/
theorem pushLiteral_eq (text : List Char) (ps : List Part) :
    pushLiteral text ps = .literal (text ++ leadText ps) :: behindText ps := by
  match ps with
  | [] => exact congrArg (fun t => [Part.literal t]) (List.append_nil text).symm
  | .literal _ :: _ => rfl
  | .placeholder _ _ :: _ => exact congrArg (fun t => Part.literal t :: _) (List.append_nil text).symm

theorem written_pushLiteral (text : List Char) (ps : List Part) : written (pushLiteral text ps) = text ++ written ps := by
  rw [pushLiteral_eq, written_cons, Part.chars, List.append_assoc, written_behindText]

/-- A part behind pushed text **stood there before**, or is the literal text that now begins with it. -/
theorem pushLiteral_eq_append (h : pushLiteral text ps = before ++ p :: after) :
    (before = [] ∧ p = .literal (text ++ leadText ps) ∧ after = behindText ps) ∨
      ∃ front, ps = front ++ p :: after ∧ written before = text ++ written front := by
  rw [pushLiteral_eq] at h
  cases before with
  | nil =>
    cases h
    exact Or.inl ⟨rfl, rfl, rfl⟩
  | cons b before =>
    obtain ⟨rfl, hbehind⟩ := List.cons.inj h
    refine Or.inr ?_
    rw [written_cons, Part.chars, List.append_assoc]
    rcases ps with _ | ⟨more | ⟨tag, form⟩, ps⟩
    · exact ⟨before, hbehind, rfl⟩
    · exact ⟨.literal more :: before, congrArg (_ :: ·) hbehind, by rw [written_cons]; rfl⟩
    · exact ⟨before, hbehind, rfl⟩

theorem mem_of_mem_pushLiteral (h : p ∈ pushLiteral text ps) : p = .literal (text ++ leadText ps) ∨ p ∈ ps := by
  obtain ⟨before, after, hsplit⟩ := List.append_of_mem h
  rcases pushLiteral_eq_append hsplit with ⟨-, hp, -⟩ | ⟨front, rfl, -⟩
  · exact Or.inl hp
  · exact Or.inr (List.mem_append_right front List.mem_cons_self)

/-- A single part is **split from nothing**. -/
theorem eq_of_singleton_eq_append {q : Part} (h : [q] = before ++ p :: after) : before = [] ∧ q = p := by
  cases before with
  | nil => exact ⟨rfl, (List.cons.inj h).1⟩
  | cons b before => simp at h

end Parts

/-! ## 2. Reading in steps -/

/-- A piece of literal text in front of a text: an **escaped pair**, or a character that neither escapes nor opens a
    placeholder. -/
inductive IsPiece : List Char → List Char → Prop
  | pair (c : Char) (cs : List Char) : IsPiece ['\\', c] cs
  | char {c : Char} {cs : List Char} (hc : c ≠ '\\') (hopens : c = '\x7b' → placeholder? cs = none) : IsPiece [c] cs

/-- A text is read **from left to right**. -/
inductive Reads : List Char → List Part → Prop
  | nil : Reads [] []
  /-- A backslash at the end escapes nothing. -/
  | lone : Reads ['\\'] [.literal ['\\']]
  | piece {text cs : List Char} {ps : List Part} (h : IsPiece text cs) (hrest : Reads cs ps) :
      Reads (text ++ cs) (pushLiteral text ps)
  | placeholder {tag : List Char} {form : Form} {cs : List Char} {ps : List Part}
      (h : (Part.placeholder tag form).Sound) (hrest : Reads cs ps) :
      Reads ((Part.placeholder tag form).chars ++ cs) (.placeholder tag form :: ps)

theorem IsPiece.escapes {text cs : List Char} (h : IsPiece text cs) : escapes text = false := by
  cases h with
  | pair c cs => exact escapes_pair c []
  | char hc _ => exact escapes_cons hc []

theorem IsPiece.ne_nil {text cs : List Char} (h : IsPiece text cs) : text ≠ [] := by
  cases h <;> exact List.cons_ne_nil _ _

theorem partsFrom_skip : ∀ (n : Nat) (cs : List Char), partsFrom n cs = partsFrom 0 (cs.drop n)
  | 0, _ => rfl
  | _ + 1, [] => rfl
  | n + 1, _ :: cs => partsFrom_skip n cs

/-- One step of the reader **over literal text**. -/
theorem partsFrom_piece {text cs : List Char} (h : IsPiece text cs) :
    partsFrom 0 (text ++ cs) = pushLiteral text (partsFrom 0 cs) := by
  cases h with
  | pair c cs => simp [partsFrom]
  | @char c _ hc hopens =>
    rw [List.singleton_append, partsFrom.eq_def]
    dsimp only
    rw [if_neg hc]
    split
    · rename_i hbrace
      rw [hopens hbrace]
    · rfl

/-- One step of the reader **over a placeholder**. -/
theorem partsFrom_placeholder {tag : List Char} {form : Form} (h : (Part.placeholder tag form).Sound)
    (cs : List Char) : partsFrom 0 ((Part.placeholder tag form).chars ++ cs) =
      .placeholder tag form :: partsFrom 0 cs := by
  have hread := placeholder?_eq_some_iff.2 ⟨tag, form, cs, rfl, h, rfl, rfl⟩
  rw [chars_placeholder, List.cons_append, partsFrom.eq_def]
  dsimp only
  rw [if_neg (by decide), if_pos rfl, hread]
  dsimp only
  rw [partsFrom_skip, List.drop_left]

theorem Reads.eq_partsFrom {cs : List Char} {ps : List Part} (h : Reads cs ps) : ps = partsFrom 0 cs := by
  induction h with
  | nil => rfl
  | lone => rfl
  | piece h _ ih => rw [partsFrom_piece h, ih]
  | placeholder h _ ih => rw [partsFrom_placeholder h, ih]

theorem reads_partsFrom (cs : List Char) : Reads cs (partsFrom 0 cs) := by
  match cs with
  | [] => exact .nil
  | c :: cs =>
    by_cases hescape : c = '\\'
    · subst hescape
      match cs with
      | [] => exact .lone
      | c :: cs =>
        have h := IsPiece.pair c cs
        have hrest := reads_partsFrom cs
        exact partsFrom_piece h ▸ Reads.piece h hrest
    by_cases hopens : c = '\x7b' ∧ ∃ p, placeholder? cs = some p
    · obtain ⟨rfl, ⟨p, n⟩, hp⟩ := hopens
      obtain ⟨tag, form, rest, rfl, hsound, rfl, -⟩ := placeholder?_eq_some_iff.1 hp
      have hrest := reads_partsFrom rest
      have hcs : '\x7b' :: (tag ++ form.chars ++ rest) = (Part.placeholder tag form).chars ++ rest := by
        rw [chars_placeholder]
        rfl
      rw [hcs, partsFrom_placeholder hsound]
      exact .placeholder hsound hrest
    · have h : IsPiece [c] cs := .char hescape fun hc => Option.eq_none_iff_forall_ne_some.2 fun p hp =>
        hopens ⟨hc, p, hp⟩
      have hrest := reads_partsFrom cs
      exact partsFrom_piece h ▸ Reads.piece h hrest
termination_by cs.length

/-- The parts of a text are **what is read in steps**. -/
theorem reads_iff {cs : List Char} {ps : List Part} : Reads cs ps ↔ ps = partsFrom 0 cs :=
  ⟨Reads.eq_partsFrom, fun h => h ▸ reads_partsFrom cs⟩

/-! ## 3. Readings -/

/-- **A lossless and maximal reading** of a text. -/
structure Reading (cs : List Char) (ps : List Part) : Prop where
  /-- The parts write back the text. -/
  lossless : written ps = cs
  /-- No literal text is empty, -/
  ne_nil : ∀ text, .literal text ∈ ps → text ≠ []
  /-- and no two of them stand side by side. -/
  apart : ∀ before after text more, ps ≠ before ++ .literal text :: .literal more :: after
  /-- Tags and other names are identifiers, and fragments are none and balanced. -/
  sound : ∀ p ∈ ps, p.Sound
  /-- No brace that is escaped opens a placeholder, -/
  opened : ∀ before tag form after, ps = before ++ .placeholder tag form :: after → escapes (written before) = false
  /-- and no brace of literal text that is not escaped could open one. -/
  maximal : ∀ before after front back, ps = before ++ .literal (front ++ '\x7b' :: back) :: after →
    escapes (written before ++ front) = false → placeholder? (back ++ written after) = none

namespace Reads

variable {cs : List Char} {ps : List Part}

theorem written_eq (h : Reads cs ps) : written ps = cs := by
  induction h with
  | nil => rfl
  | lone => rfl
  | piece _ _ ih => rw [written_pushLiteral, ih]
  | placeholder _ _ ih => rw [written_cons, ih]

theorem ne_nil (h : Reads cs ps) : ∀ text, .literal text ∈ ps → text ≠ [] := by
  induction h with
  | nil => simp
  | lone => simp
  | piece h _ ih =>
    intro text htext
    rcases mem_of_mem_pushLiteral htext with htext | htext
    · obtain rfl := Part.literal.inj htext
      exact List.append_ne_nil_of_left_ne_nil h.ne_nil _
    · exact ih text htext
  | placeholder _ _ ih =>
    intro text htext
    rcases List.mem_cons.1 htext with htext | htext
    · cases htext
    · exact ih text htext

theorem apart (h : Reads cs ps) :
    ∀ before after text more, ps ≠ before ++ .literal text :: .literal more :: after := by
  induction h with
  | nil => simp
  | lone =>
    intro before after text more hsplit
    cases before <;> simp at hsplit
  | @piece _ _ ps h _ ih =>
    intro before after text more hsplit
    rcases pushLiteral_eq_append hsplit with ⟨-, -, hbehind⟩ | ⟨front, rfl, -⟩
    · match ps with
      | [] => cases hbehind
      | .literal text :: ps => exact ih [] after text more (congrArg (_ :: ·) hbehind.symm)
      | .placeholder _ _ :: ps => cases hbehind
    · exact ih front after text more rfl
  | placeholder _ _ ih =>
    intro before after text more hsplit
    cases before with
    | nil => cases hsplit
    | cons b before => exact ih before after text more (List.cons.inj hsplit).2

theorem sound (h : Reads cs ps) : ∀ p ∈ ps, p.Sound := by
  induction h with
  | nil => simp
  | lone => simp [Part.Sound]
  | piece _ _ ih =>
    intro p hp
    rcases mem_of_mem_pushLiteral hp with rfl | hp
    · trivial
    · exact ih p hp
  | placeholder h _ ih => exact List.forall_mem_cons.2 ⟨h, ih⟩

theorem opened (h : Reads cs ps) : ∀ before tag form after, ps = before ++ .placeholder tag form :: after →
    escapes (written before) = false := by
  induction h with
  | nil => simp
  | lone =>
    intro before tag form after hsplit
    rw [(eq_of_singleton_eq_append hsplit).1]
    rfl
  | piece h _ ih =>
    intro before tag form after hsplit
    rcases pushLiteral_eq_append hsplit with ⟨-, hliteral, -⟩ | ⟨front, rfl, hwritten⟩
    · cases hliteral
    · rw [hwritten, escapes_append h.escapes]
      exact ih front tag form after rfl
  | placeholder h _ ih =>
    intro before tag form after hsplit
    cases before with
    | nil => rfl
    | cons b before =>
      obtain ⟨rfl, rfl⟩ := List.cons.inj hsplit
      rw [written_cons, escapes_append h.escapes]
      exact ih before tag form after rfl

theorem maximal (h : Reads cs ps) : ∀ before after front back,
    ps = before ++ .literal (front ++ '\x7b' :: back) :: after → escapes (written before ++ front) = false →
      placeholder? (back ++ written after) = none := by
  induction h with
  | nil => simp
  | lone =>
    intro before after front back hsplit hescapes
    obtain ⟨-, hliteral⟩ := eq_of_singleton_eq_append hsplit
    have hmem : '\x7b' ∈ ['\\'] := Part.literal.inj hliteral ▸ List.mem_append_right front List.mem_cons_self
    simp at hmem
  | @piece piece cs ps h hrest ih =>
    intro before after front back hsplit hescapes
    rcases pushLiteral_eq_append hsplit with ⟨rfl, hliteral, rfl⟩ | ⟨before, rfl, hwritten⟩
    · have htext := Part.literal.inj hliteral
      -- a brace that does not belong to the piece stood in the literal text before
      have hbehind (front : List Char) (hlead : front ++ '\x7b' :: back = leadText ps)
          (hescapes : escapes front = false) : placeholder? (back ++ written (behindText ps)) = none := by
        refine ih [] (behindText ps) front back ?_ hescapes
        rw [hlead, List.nil_append]
        exact eq_cons_of_leadText (hlead ▸ List.append_ne_nil_of_right_ne_nil _ (List.cons_ne_nil _ _))
      cases h with
      | pair c cs =>
        match front with
        | [] => cases htext
        | [d] =>
          cases htext
          cases hescapes
        | d :: e :: front =>
          obtain ⟨rfl, rfl, hlead⟩ : d = '\\' ∧ e = c ∧ front ++ '\x7b' :: back = leadText ps := by simpa using htext
          exact hbehind front hlead (escapes_pair e front ▸ hescapes)
      | @char c _ hc hopens =>
        match front with
        | [] =>
          obtain ⟨rfl, rfl⟩ : '\x7b' = c ∧ back = leadText ps := List.cons.inj htext
          rw [written_behindText, hrest.written_eq]
          exact hopens rfl
        | d :: front =>
          obtain ⟨rfl, hlead⟩ := List.cons.inj htext
          exact hbehind front hlead (escapes_cons hc front ▸ hescapes)
    · rw [hwritten, List.append_assoc, escapes_append h.escapes] at hescapes
      exact ih before after front back rfl hescapes
  | placeholder h _ ih =>
    intro before after front back hsplit hescapes
    cases before with
    | nil => cases hsplit
    | cons b before =>
      obtain ⟨rfl, rfl⟩ := List.cons.inj hsplit
      rw [written_cons, List.append_assoc, escapes_append h.escapes] at hescapes
      exact ih before after front back rfl hescapes

/-- What is read in steps **is a reading**. -/
theorem reading (h : Reads cs ps) : Reading cs ps :=
  ⟨h.written_eq, h.ne_nil, h.apart, h.sound, h.opened, h.maximal⟩

end Reads

/-! ## 4. One reading -/

namespace Reading

variable {cs : List Char} {ps : List Part} {p : Part}

/-- Behind a part that does not escape, **the rest is read as a text of its own**. -/
theorem tail (h : Reading cs (p :: ps)) (hp : escapes p.chars = false) : Reading (written ps) ps where
  lossless := rfl
  ne_nil text htext := h.ne_nil text (List.mem_cons_of_mem p htext)
  apart before after text more hsplit := h.apart (p :: before) after text more (congrArg (p :: ·) hsplit)
  sound q hq := h.sound q (List.mem_cons_of_mem p hq)
  opened before tag form after hsplit := by
    have hopened := h.opened (p :: before) tag form after (congrArg (p :: ·) hsplit)
    rwa [written_cons, escapes_append hp] at hopened
  maximal before after front back hsplit hescapes := by
    refine h.maximal (p :: before) after front back (congrArg (p :: ·) hsplit) ?_
    rwa [written_cons, List.append_assoc, escapes_append hp]

/-- Literal text may be read **in two pieces**, if the first one does not escape. -/
theorem behind {text more : List Char} (h : Reading cs (.literal (text ++ more) :: ps)) (htext : escapes text = false)
    (hmore : more ≠ []) : Reading (more ++ written ps) (.literal more :: ps) where
  lossless := written_cons _ _
  ne_nil t ht := by
    rcases List.mem_cons.1 ht with ht | ht
    · cases ht
      exact hmore
    · exact h.ne_nil t (List.mem_cons_of_mem _ ht)
  apart before after s t hsplit := by
    cases before with
    | nil =>
      cases hsplit
      exact h.apart [] after (text ++ more) t rfl
    | cons b before =>
      obtain ⟨-, rfl⟩ := List.cons.inj hsplit
      exact h.apart (_ :: before) after s t rfl
  sound q hq := by
    rcases List.mem_cons.1 hq with rfl | hq
    · trivial
    · exact h.sound q (List.mem_cons_of_mem _ hq)
  opened before tag form after hsplit := by
    cases before with
    | nil => cases hsplit
    | cons b before =>
      obtain ⟨rfl, rfl⟩ := List.cons.inj hsplit
      have hopened := h.opened (_ :: before) tag form after rfl
      rwa [written_cons, Part.chars, List.append_assoc, escapes_append htext] at hopened
  maximal before after front back hsplit hescapes := by
    cases before with
    | nil =>
      cases hsplit
      refine h.maximal [] ps (text ++ front) back (by rw [List.append_assoc]; rfl) ?_
      exact (escapes_append htext front).trans hescapes
    | cons b before =>
      obtain ⟨rfl, rfl⟩ := List.cons.inj hsplit
      refine h.maximal (_ :: before) after front back rfl ?_
      rwa [written_cons, Part.chars, List.append_assoc, List.append_assoc, escapes_append htext, ← List.append_assoc]

/-- Literal text that begins with a piece **is pushed there**. -/
theorem exists_pushLiteral {text more : List Char} (h : Reading cs (.literal (text ++ more) :: ps))
    (htext : escapes text = false) :
    ∃ qs, Reading (more ++ written ps) qs ∧ .literal (text ++ more) :: ps = pushLiteral text qs := by
  by_cases hmore : more = []
  · subst hmore
    refine ⟨ps, h.tail (by rwa [Part.chars, List.append_nil]), ?_⟩
    rcases ps with _ | ⟨t | ⟨tag, form⟩, ps⟩
    · rw [List.append_nil]
      rfl
    · exact absurd rfl (h.apart [] ps (text ++ []) t)
    · rw [List.append_nil]
      rfl
  · exact ⟨.literal more :: ps, h.behind htext hmore, rfl⟩

/-- Literal text begins with a piece, unless it is **a backslash at the end**. -/
theorem exists_piece {text : List Char} (h : Reading cs (.literal text :: ps)) : text = ['\\'] ∧ ps = [] ∨
    ∃ piece more, text = piece ++ more ∧ IsPiece piece (more ++ written ps) := by
  match text with
  | [] => exact absurd rfl (h.ne_nil [] List.mem_cons_self)
  | c :: more =>
    by_cases hc : c = '\\'
    · subst hc
      match more with
      | [] =>
        refine Or.inl ⟨rfl, ?_⟩
        match ps with
        | [] => rfl
        | .literal t :: ps => exact absurd rfl (h.apart [] ps ['\\'] t)
        | .placeholder tag form :: ps =>
          have hopened := h.opened [.literal ['\\']] tag form ps rfl
          cases hopened
      | d :: more => exact Or.inr ⟨['\\', d], more, rfl, .pair d _⟩
    · refine Or.inr ⟨[c], more, rfl, .char hc fun hbrace => ?_⟩
      exact h.maximal [] ps [] more (hbrace ▸ rfl) rfl

/-- A reading **can be made in steps**. -/
theorem reads {cs : List Char} {ps : List Part} (h : Reading cs ps) : Reads cs ps := by
  have hcs := h.lossless
  match ps with
  | [] => exact hcs ▸ .nil
  | .placeholder tag form :: ps =>
    have hsound := h.sound _ List.mem_cons_self
    rw [written_cons] at hcs
    have hshorter : (written ps).length < cs.length := by
      rw [← hcs, chars_placeholder]
      simp only [List.length_append, List.length_cons]
      omega
    exact hcs ▸ .placeholder hsound (h.tail hsound.escapes).reads
  | .literal text :: ps =>
    rw [written_cons, Part.chars] at hcs
    rcases h.exists_piece with ⟨rfl, rfl⟩ | ⟨piece, more, rfl, hpiece⟩
    · exact hcs ▸ .lone
    · obtain ⟨qs, hqs, hpush⟩ := h.exists_pushLiteral hpiece.escapes
      have hshorter : more.length + (written ps).length < cs.length := by
        have hpos := List.length_pos_iff.2 hpiece.ne_nil
        rw [← hcs, List.length_append, List.length_append]
        omega
      rw [hpush, ← hcs, List.append_assoc]
      exact .piece hpiece hqs.reads
termination_by cs.length

end Reading

/-- The parts of a template are **its reading, and the only one**. -/
theorem reading_iff (template : String) (ps : List Part) : Reading template.toList ps ↔ ps = parts template := by
  rw [parts, ← reads_iff]
  exact ⟨Reading.reads, Reads.reading⟩

/-- A quantifier and an escaped brace are literal text, and a placeholder that does not close is, too. -/
example : parts "x\x7b2,3\x7d \x7bid:[a-z]\x7b2\x7d\x7d\\\x7bw\x7d\x7bw" =
    [.literal "x\x7b2,3\x7d ".toList, .placeholder "id".toList (.fragment "[a-z]\x7b2\x7d".toList),
      .literal "\\\x7bw\x7d\x7bw".toList] := by
  decide +kernel

end TreeIndex.Template
