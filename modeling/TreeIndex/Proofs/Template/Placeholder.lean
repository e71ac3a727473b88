import Mathlib.Data.List.TakeWhile
import TreeIndex.Template.Part

/-!
# Placeholders as they are written

A brace opens a placeholder exactly if the placeholder stands there as it is written.

* `escapes`: what follows a text is **escaped**: a backslash that is not escaped itself stands at its end;
* `Balanced`: the braces of a text **pair up**, escaped ones apart;
* `untilClosing_eq_some_iff`: what is read up to the closing brace is the balanced text in front of one;
* `leadingIdentifier_append`, `leadingIdentifier_cases`: the identifier in front of a text;
* `Part.Sound`: tags and other names are identifiers; a fragment is none, and it is balanced;
* `placeholder?_eq_some_iff`: a brace in front of a text opens **just the sound placeholder that stands there**.
-/

namespace TreeIndex.Template

/-! ## 1. Escapes -/

/-- What follows the text is **escaped**. -/
def escapes (cs : List Char) : Bool :=
  cs.foldl (fun escaped c => !escaped && c == '\\') false

/-- Behind a text that does not escape, **everything is as at the beginning**. -/
theorem escapes_append {front : List Char} (h : escapes front = false) (cs : List Char) :
    escapes (front ++ cs) = escapes cs := by
  rw [escapes, List.foldl_append]
  exact congrArg (fun escaped => cs.foldl _ escaped) h

theorem escapes_cons {c : Char} (h : c ≠ '\\') (cs : List Char) : escapes (c :: cs) = escapes cs := by
  have hc : escapes [c] = false := by simp [escapes, h]
  exact escapes_append hc cs

theorem escapes_pair (c : Char) (cs : List Char) : escapes ('\\' :: c :: cs) = escapes cs := by
  have hc : escapes ['\\', c] = false := by simp [escapes]
  exact escapes_append hc cs

/-! ## 2. Balanced texts -/

/-- The braces of a text **pair up**, those apart that a backslash escapes. -/
inductive Balanced : List Char → Prop
  | nil : Balanced []
  | char {c : Char} {cs : List Char} (hescape : c ≠ '\\') (hopens : c ≠ '\x7b') (hcloses : c ≠ '\x7d')
      (h : Balanced cs) : Balanced (c :: cs)
  | escaped (c : Char) {cs : List Char} (h : Balanced cs) : Balanced ('\\' :: c :: cs)
  | braces {inner rest : List Char} (hinner : Balanced inner) (hrest : Balanced rest) :
      Balanced ('\x7b' :: (inner ++ '\x7d' :: rest))

/-- A balanced text does not escape what follows it. -/
theorem Balanced.escapes {cs : List Char} (h : Balanced cs) : escapes cs = false := by
  induction h with
  | nil => rfl
  | char hescape _ _ _ ih => rw [escapes_cons hescape, ih]
  | escaped c _ ih => rw [escapes_pair, ih]
  | braces _ _ ih ih' => rw [escapes_cons (by decide), escapes_append ih, escapes_cons (by decide), ih']

theorem Balanced.append {as bs : List Char} (h : Balanced as) (h' : Balanced bs) : Balanced (as ++ bs) := by
  induction h with
  | nil => exact h'
  | char hescape hopens hcloses _ ih => exact .char hescape hopens hcloses ih
  | escaped c _ ih => exact .escaped c ih
  | braces hinner _ _ ih => simpa using Balanced.braces hinner ih

/-- A text that **closes so many braces** which are open in front of it. -/
def Closes : Nat → List Char → Prop
  | 0, text => Balanced text
  | depth + 1, text => ∃ inner rest, text = inner ++ '\x7d' :: rest ∧ Balanced inner ∧ Closes depth rest

/-- What keeps balanced texts balanced in front of them **closes nothing**. -/
theorem Closes.prepend {depth : Nat} {text : List Char} (h : Closes depth text) (front : List Char)
    (hfront : ∀ cs, Balanced cs → Balanced (front ++ cs)) : Closes depth (front ++ text) := by
  cases depth with
  | zero => exact hfront text h
  | succ depth =>
    obtain ⟨inner, rest, rfl, hinner, hrest⟩ := h
    exact ⟨front ++ inner, rest, by rw [List.append_assoc], hfront inner hinner, hrest⟩

/-- One more brace is open behind an opening one. -/
theorem Closes.opened {depth : Nat} {text : List Char} (h : Closes (depth + 1) text) :
    Closes depth ('\x7b' :: text) := by
  obtain ⟨inner, rest, rfl, hinner, hrest⟩ := h
  have h := hrest.prepend ('\x7b' :: (inner ++ ['\x7d'])) fun cs hcs => by simpa using Balanced.braces hinner hcs
  simpa using h

theorem untilClosing_pair (depth : Nat) (c : Char) (cs : List Char) :
    untilClosing depth false ('\\' :: c :: cs) = (untilClosing depth false cs).map fun text => '\\' :: c :: text := by
  simp [untilClosing, Function.comp_def]

theorem untilClosing_opens (depth : Nat) (cs : List Char) :
    untilClosing depth false ('\x7b' :: cs) = (untilClosing (depth + 1) false cs).map ('\x7b' :: ·) := by
  simp [untilClosing]

theorem untilClosing_closes (depth : Nat) (cs : List Char) :
    untilClosing (depth + 1) false ('\x7d' :: cs) = (untilClosing depth false cs).map ('\x7d' :: ·) := by
  simp [untilClosing]

theorem untilClosing_last (cs : List Char) : untilClosing 0 false ('\x7d' :: cs) = some [] := by
  simp [untilClosing]

theorem untilClosing_char {c : Char} (hescape : c ≠ '\\') (hopens : c ≠ '\x7b') (hcloses : c ≠ '\x7d') (depth : Nat)
    (cs : List Char) : untilClosing depth false (c :: cs) = (untilClosing depth false cs).map (c :: ·) := by
  simp [untilClosing, hescape, hopens, hcloses]

/-- A balanced text is **passed over**, at every depth. -/
theorem untilClosing_append {text : List Char} (h : Balanced text) (depth : Nat) (cs : List Char) :
    untilClosing depth false (text ++ cs) = (untilClosing depth false cs).map (text ++ ·) := by
  induction h generalizing depth cs with
  | nil => simp
  | char hescape hopens hcloses _ ih =>
    rw [List.cons_append, untilClosing_char hescape hopens hcloses, ih, Option.map_map]
    rfl
  | escaped c _ ih =>
    rw [List.cons_append, List.cons_append, untilClosing_pair, ih, Option.map_map]
    rfl
  | braces _ _ ih ih' =>
    rw [List.cons_append, List.append_assoc, List.cons_append, untilClosing_opens, ih, untilClosing_closes, ih',
      Option.map_map, Option.map_map, Option.map_map]
    congr 1
    funext more
    simp

/-- What is read **closes the braces that are open**, and the closing brace stands behind it. -/
theorem closes_of_untilClosing {cs text : List Char} {depth : Nat} (h : untilClosing depth false cs = some text) :
    Closes depth text ∧ ∃ rest, cs = text ++ '\x7d' :: rest := by
  cases cs with
  | nil => cases h
  | cons c cs =>
    by_cases hescape : c = '\\'
    · subst hescape
      cases cs with
      | nil => cases h
      | cons c cs =>
        rw [untilClosing_pair] at h
        obtain ⟨more, hmore, rfl⟩ := Option.map_eq_some_iff.1 h
        obtain ⟨hcloses, rest, rfl⟩ := closes_of_untilClosing hmore
        exact ⟨hcloses.prepend ['\\', c] fun _ => .escaped c, rest, rfl⟩
    by_cases hopens : c = '\x7b'
    · subst hopens
      rw [untilClosing_opens] at h
      obtain ⟨more, hmore, rfl⟩ := Option.map_eq_some_iff.1 h
      obtain ⟨hcloses, rest, rfl⟩ := closes_of_untilClosing hmore
      exact ⟨hcloses.opened, rest, rfl⟩
    by_cases hcloses : c = '\x7d'
    · subst hcloses
      cases depth with
      | zero =>
        rw [untilClosing_last] at h
        cases h
        exact ⟨.nil, cs, rfl⟩
      | succ depth =>
        rw [untilClosing_closes] at h
        obtain ⟨more, hmore, rfl⟩ := Option.map_eq_some_iff.1 h
        obtain ⟨hcloses, rest, rfl⟩ := closes_of_untilClosing hmore
        exact ⟨⟨[], more, rfl, .nil, hcloses⟩, rest, rfl⟩
    · rw [untilClosing_char hescape hopens hcloses] at h
      obtain ⟨more, hmore, rfl⟩ := Option.map_eq_some_iff.1 h
      obtain ⟨hclosed, rest, rfl⟩ := closes_of_untilClosing hmore
      exact ⟨hclosed.prepend [c] fun _ => .char hescape hopens hcloses, rest, rfl⟩
termination_by cs.length

/-- What is read up to the closing brace is **the balanced text in front of one**. -/
theorem untilClosing_eq_some_iff {cs text : List Char} :
    untilClosing 0 false cs = some text ↔ Balanced text ∧ ∃ rest, cs = text ++ '\x7d' :: rest := by
  refine ⟨closes_of_untilClosing, ?_⟩
  rintro ⟨h, rest, rfl⟩
  rw [untilClosing_append h, untilClosing_last, Option.map_some, List.append_nil]

/-! ## 3. Identifiers -/

section Identifiers

variable {cs tag : List Char} {c : Char}

/-- What cannot go on an identifier **stands behind it**. -/
theorem leadingIdentifier_append (h : isIdentifier tag = true) (hc : continuesIdentifier c = false) (cs : List Char) :
    leadingIdentifier (tag ++ c :: cs) = tag := by
  cases tag with
  | nil => cases h
  | cons d tag =>
    rw [isIdentifier, Bool.and_eq_true] at h
    rw [List.cons_append, leadingIdentifier, if_pos h.1,
      List.takeWhile_append_of_pos fun e he => List.all_eq_true.1 h.2 e he,
      List.takeWhile_cons_of_neg (by rw [hc]; simp), List.append_nil]

/-- The identifier in front of a text, **if there is one**. -/
theorem leadingIdentifier_cases (cs : List Char) : leadingIdentifier cs = [] ∨
    isIdentifier (leadingIdentifier cs) = true ∧ leadingIdentifier cs <+: cs := by
  cases cs with
  | nil => exact Or.inl rfl
  | cons c cs =>
    rw [leadingIdentifier]
    split
    · rename_i hc
      refine Or.inr ⟨?_, (List.prefix_cons_inj c).2 (List.takeWhile_prefix _)⟩
      rw [isIdentifier, hc, Bool.true_and, List.all_eq_true]
      exact fun d hd => List.mem_takeWhile_imp hd
    · exact Or.inl rfl

theorem continuesIdentifier_of_mem (h : isIdentifier tag = true) (hc : c ∈ tag) : continuesIdentifier c = true := by
  cases tag with
  | nil => cases h
  | cons d tag =>
    rw [isIdentifier, Bool.and_eq_true, List.all_eq_true] at h
    rcases List.mem_cons.1 hc with rfl | hc
    · have hd := h.1
      rw [beginsIdentifier, Bool.or_eq_true] at hd
      rw [continuesIdentifier, Char.isAlphanum, Bool.or_assoc, Bool.or_left_comm, Bool.or_eq_true, Bool.or_eq_true]
      exact Or.inr hd
    · exact h.2 c hc

/-- An identifier has **no braces and no backslash**. -/
theorem balanced_of_isIdentifier (h : isIdentifier tag = true) : Balanced tag := by
  suffices hall : ∀ cs : List Char, (∀ c ∈ cs, continuesIdentifier c = true) → Balanced cs from
    hall tag fun c hc => continuesIdentifier_of_mem h hc
  intro cs hcs
  induction cs with
  | nil => exact .nil
  | cons c cs ih =>
    obtain ⟨hc, hcs⟩ := List.forall_mem_cons.1 hcs
    refine .char ?_ ?_ ?_ (ih hcs) <;> rintro rfl <;> revert hc <;> decide

end Identifiers

/-! ## 4. Placeholders -/

/-- What stands **behind the tag** of a placeholder. -/
def Form.chars : Form → List Char
  | .plain => ['\x7d']
  | .alias name => ':' :: (name ++ ['\x7d'])
  | .fragment text => ':' :: (text ++ ['\x7d'])

theorem chars_placeholder (tag : List Char) (form : Form) :
    (Part.placeholder tag form).chars = '\x7b' :: (tag ++ form.chars) := by
  cases form <;> simp [Part.chars, Form.chars]

/-- Another name is an identifier; a fragment **is none, and it is balanced**. -/
def Form.Sound : Form → Prop
  | .plain => True
  | .alias name => isIdentifier name = true
  | .fragment text => isIdentifier text = false ∧ Balanced text

/-- The tag of a placeholder **is an identifier**, and what follows it is sound. -/
def Part.Sound : Part → Prop
  | .literal _ => True
  | .placeholder tag form => isIdentifier tag = true ∧ form.Sound

theorem chars_formOf (text : List Char) : (formOf text).chars = ':' :: (text ++ ['\x7d']) := by
  unfold formOf
  split <;> rfl

theorem sound_formOf {text : List Char} (h : Balanced text) : (formOf text).Sound := by
  unfold formOf
  split
  · assumption
  · rename_i hnot
    exact ⟨Bool.eq_false_iff.2 hnot, h⟩

/-- A sound form is plain, or **what its text says it is**. -/
theorem Form.Sound.eq_formOf {form : Form} (h : form.Sound) :
    form = .plain ∨ ∃ text, Balanced text ∧ form = formOf text := by
  rcases form with _ | name | text
  · exact Or.inl rfl
  · refine Or.inr ⟨name, balanced_of_isIdentifier h, ?_⟩
    rw [Form.Sound] at h
    rw [formOf, if_pos h]
  · refine Or.inr ⟨text, h.2, ?_⟩
    rw [formOf, if_neg (by rw [h.1]; simp)]

/-- A placeholder is balanced **as it is written**. -/
theorem Part.Sound.balanced {tag : List Char} {form : Form} (h : (placeholder tag form).Sound) :
    Balanced (placeholder tag form).chars := by
  have htag := balanced_of_isIdentifier h.1
  rcases h.2.eq_formOf with rfl | ⟨text, htext, rfl⟩
  · exact .braces htag .nil
  · have hcolon : Balanced (':' :: text) := .char (by decide) (by decide) (by decide) htext
    rw [chars_placeholder, chars_formOf]
    simpa using Balanced.braces (htag.append hcolon) .nil

theorem Part.Sound.escapes {tag : List Char} {form : Form} (h : (placeholder tag form).Sound) :
    escapes (placeholder tag form).chars = false :=
  h.balanced.escapes

section

variable {cs tag : List Char}

theorem placeholder?_plain (h : isIdentifier tag = true) (cs : List Char) :
    placeholder? (tag ++ '\x7d' :: cs) = some (.placeholder tag .plain, tag.length + 1) := by
  unfold placeholder?
  rw [leadingIdentifier_append h (by decide)]
  cases tag with
  | nil => cases h
  | cons c tag => simp only [List.drop_left]

theorem placeholder?_colon (h : isIdentifier tag = true) (cs : List Char) :
    placeholder? (tag ++ ':' :: cs) = (untilClosing 0 false cs).map fun text =>
      (.placeholder tag (formOf text), tag.length + text.length + 2) := by
  unfold placeholder?
  rw [leadingIdentifier_append h (by decide)]
  cases tag with
  | nil => cases h
  | cons c tag => simp only [List.drop_left]

/-- A placeholder **has a tag, and a brace or a colon behind it**. -/
theorem exists_tag_of_placeholder? {p : Part × Nat} (h : placeholder? cs = some p) :
    ∃ tag rest, isIdentifier tag = true ∧ (cs = tag ++ '\x7d' :: rest ∨ cs = tag ++ ':' :: rest) := by
  unfold placeholder? at h
  rcases leadingIdentifier_cases cs with hnil | ⟨hid, hprefix⟩
  · rw [hnil] at h
    cases h
  · generalize leadingIdentifier cs = tag at h hid hprefix
    obtain ⟨rest, rfl⟩ := hprefix
    cases tag with
    | nil => cases hid
    | cons c tag =>
      simp only [List.drop_left] at h
      split at h
      · exact ⟨_, _, hid, Or.inl rfl⟩
      · exact ⟨_, _, hid, Or.inr rfl⟩
      · cases h

end

/-- A brace in front of a text opens **just the sound placeholder that stands there**. -/
theorem placeholder?_eq_some_iff {cs : List Char} {p : Part} {n : Nat} : placeholder? cs = some (p, n) ↔
    ∃ tag form rest, p = .placeholder tag form ∧ p.Sound ∧ cs = tag ++ form.chars ++ rest ∧
      n = (tag ++ form.chars).length := by
  constructor
  · intro h
    obtain ⟨tag, rest, htag, rfl | rfl⟩ := exists_tag_of_placeholder? h
    · rw [placeholder?_plain htag] at h
      cases h
      exact ⟨tag, .plain, rest, rfl, ⟨htag, trivial⟩, by simp [Form.chars], by simp [Form.chars]⟩
    · rw [placeholder?_colon htag] at h
      obtain ⟨text, htext, heq⟩ := Option.map_eq_some_iff.1 h
      cases heq
      obtain ⟨hbalanced, rest, rfl⟩ := untilClosing_eq_some_iff.1 htext
      refine ⟨tag, formOf text, rest, rfl, ⟨htag, sound_formOf hbalanced⟩, ?_, ?_⟩ <;> rw [chars_formOf] <;> simp
      omega
  · rintro ⟨tag, form, rest, rfl, ⟨htag, hform⟩, rfl, rfl⟩
    rcases hform.eq_formOf with rfl | ⟨text, hbalanced, rfl⟩
    · simpa [Form.chars] using placeholder?_plain htag rest
    · have h := placeholder?_colon htag (text ++ '\x7d' :: rest)
      rw [untilClosing_eq_some_iff.2 ⟨hbalanced, rest, rfl⟩] at h
      rw [chars_formOf]
      simpa [Nat.add_assoc] using h

end TreeIndex.Template
