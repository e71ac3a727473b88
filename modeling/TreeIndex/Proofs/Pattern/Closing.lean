import TreeIndex.Pattern.Compiled
import TreeIndex.Proofs.Outcome

/-!
# Patterns in front of a closing bracket

A pattern that is put into a group is read again, now with the closing bracket of the group behind it. What was a
pattern on its own is read as **the same term**, and the bracket is left -- unless the text ends in a comment, which
runs on over the bracket.

* `bracketed`, `Steady`: a text with the bracket behind it; a reader that reads the same and leaves the bracket;
* `Trails`: what is left with the bracket and without it, where a comment may have taken the bracket along;
* `escape?_bracketed`, `counted?_bracketed`, `groupHead?_bracketed`, `set?_bracketed`: the readers one by one. Each
  decides by characters that stand in front of the bracket, and none of them takes a closing bracket for its own
  (`bracketed_ne_append`);
* `pattern?_trails`: the whole pattern.
-/

namespace TreeIndex.Pattern

open TreeIndex.Text

/-! ## 1. Readers -/

/-- A text with **a closing bracket** behind it. -/
def bracketed (cs : List Char) : List Char :=
  cs ++ [')']

/-- The reader reads the same **in front of a closing bracket**, and leaves the bracket. -/
def Steady {α : Type} (read : List Char → Except Defect (α × List Char)) : Prop :=
  ∀ cs a rest, read cs = .ok (a, rest) → read (bracketed cs) = .ok (a, bracketed rest)

/-- The second text is the first with a closing bracket behind it, or **both texts are at their end**. -/
def Trails (cs ds : List Char) : Prop :=
  ds = bracketed cs ∨ cs = [] ∧ ds = []

@[simp] theorem bracketed_nil : bracketed [] = [')'] := rfl

@[simp] theorem bracketed_cons (c : Char) (cs : List Char) : bracketed (c :: cs) = c :: bracketed cs := rfl

/-- Where a character is left, **the bracket is still there**. -/
theorem Trails.of_cons {c : Char} {cs ds : List Char} (h : Trails (c :: cs) ds) : ds = c :: bracketed cs :=
  h.resolve_right fun hend => List.cons_ne_nil _ _ hend.1

/-- What a text does not begin with, it does not begin with **in front of the bracket** either. -/
theorem bracketed_ne_append {cs : List Char} (front : List Char) (hfront : ')' ∉ front)
    (h : ∀ tail, cs = front ++ tail → False) : ∀ tail, bracketed cs = front ++ tail → False := by
  induction front generalizing cs with
  | nil => exact absurd rfl (h cs)
  | cons d front ih =>
    intro tail heq
    cases cs with
    | nil => exact List.ne_of_not_mem_cons hfront (List.cons.inj heq).1
    | cons c cs =>
      obtain ⟨rfl, hrest⟩ := List.cons.inj heq
      exact ih (List.not_mem_of_not_mem_cons hfront) (fun tail ht => h tail (congrArg (c :: ·) ht)) tail hrest

theorem dropWhile_bracketed {p : Char → Bool} (h : p ')' = false) : ∀ cs : List Char,
    (bracketed cs).dropWhile p = bracketed (cs.dropWhile p)
  | [] => by simp [h]
  | c :: cs => by
    rw [bracketed_cons, List.dropWhile_cons, List.dropWhile_cons, dropWhile_bracketed h cs]
    split <;> rfl

theorem takeWhile_bracketed {p : Char → Bool} (h : p ')' = false) : ∀ cs : List Char,
    (bracketed cs).takeWhile p = cs.takeWhile p
  | [] => by simp [h]
  | c :: cs => by rw [bracketed_cons, List.takeWhile_cons, List.takeWhile_cons, takeWhile_bracketed h cs]

/-- What is looked for **stands in front of the bracket**. -/
theorem dropWhile_bracketed_of_cons {p : Char → Bool} {c : Char} {rest : List Char} : ∀ {cs : List Char},
    cs.dropWhile p = c :: rest →
      (bracketed cs).dropWhile p = c :: bracketed rest ∧ (bracketed cs).takeWhile p = cs.takeWhile p
  | [], h => by cases h
  | d :: cs, h => by
    rw [List.dropWhile_cons] at h
    rw [bracketed_cons, List.dropWhile_cons, List.takeWhile_cons, List.takeWhile_cons]
    split at h
    · rename_i hd
      obtain ⟨hdrop, htake⟩ := dropWhile_bracketed_of_cons h
      rw [if_pos hd, if_pos hd, if_pos hd, htake]
      exact ⟨hdrop, rfl⟩
    · rename_i hd
      cases h
      rw [if_neg hd, if_neg hd, if_neg hd]
      exact ⟨rfl, rfl⟩

/-- What is not found **is not found behind the bracket**, if the bracket is passed over. -/
theorem dropWhile_bracketed_of_nil {p : Char → Bool} (hp : p ')' = true) {cs : List Char}
    (h : cs.dropWhile p = []) : (bracketed cs).dropWhile p = [] := by
  rw [bracketed, List.dropWhile_append, h]
  simp [hp]

/-! ## 2. Blanks -/

theorem isBlank_bracket : isBlank ')' = false := by
  decide

/-- Where a comment runs up to the end of the text, **it takes the bracket along**. -/
theorem skipVerbose_bracketed : ∀ (comment : Bool) (cs : List Char),
    Trails (skipVerbose comment cs) (skipVerbose comment (bracketed cs))
  | true, [] => Or.inr ⟨rfl, rfl⟩
  | false, [] => Or.inl (by simp [skipVerbose, isBlank_bracket])
  | true, c :: cs => skipVerbose_bracketed (c ≠ '\n') cs
  | false, c :: cs => by
    rw [bracketed_cons, skipVerbose, skipVerbose]
    split
    · exact skipVerbose_bracketed false cs
    · split
      · exact skipVerbose_bracketed true cs
      · exact Or.inl rfl

theorem skipBlanks_bracketed (verbose : Bool) (cs : List Char) :
    Trails (skipBlanks verbose cs) (skipBlanks verbose (bracketed cs)) := by
  cases verbose with
  | true => exact skipVerbose_bracketed false cs
  | false => exact Or.inl rfl

/-- Blanks are passed over **up to the same character**, if there is one. -/
theorem skipBlanks_bracketed_of_cons {verbose : Bool} {cs rest : List Char} {c : Char}
    (h : skipBlanks verbose cs = c :: rest) : skipBlanks verbose (bracketed cs) = c :: bracketed rest := by
  have hskip := skipBlanks_bracketed verbose cs
  rw [h] at hskip
  exact hskip.of_cons

/-- A character that does not stand behind blanks does not stand there **in front of the bracket** either. -/
theorem skipBlanks_bracketed_ne_cons {verbose : Bool} {cs : List Char} (c : Char) (hc : c ≠ ')')
    (h : ∀ rest, skipBlanks verbose cs = c :: rest → False) :
    ∀ rest, skipBlanks verbose (bracketed cs) = c :: rest → False := by
  rcases skipBlanks_bracketed verbose cs with hskip | ⟨-, hnil⟩
  · rw [hskip]
    exact bracketed_ne_append [c] (by simpa using hc.symm) h
  · rw [hnil]
    exact nofun

/-! ## 3. Escapes -/

/-- What stands in braces is closed **in front of the bracket**. -/
theorem braced?_bracketed {verbose : Bool} {inner rest : List Char} : ∀ {comment : Bool} {cs : List Char},
    braced? verbose comment cs = some (inner, rest) →
      braced? verbose comment (bracketed cs) = some (inner, bracketed rest)
  | true, [], h => by cases h
  | false, [], h => by cases h
  | true, c :: cs, h => by
    rw [braced?] at h
    rw [bracketed_cons, braced?]
    exact braced?_bracketed h
  | false, c :: cs, h => by
    rw [braced?] at h
    rw [bracketed_cons, braced?]
    split at h
    · rename_i hblank
      rw [if_pos hblank]
      exact braced?_bracketed h
    rename_i hblank
    rw [if_neg hblank]
    split at h
    · rename_i hcomment
      rw [if_pos hcomment]
      exact braced?_bracketed h
    rename_i hcomment
    rw [if_neg hcomment]
    split at h
    · rename_i hclose
      cases h
      rw [if_pos hclose]
    · rename_i hclose
      obtain ⟨⟨more, behind⟩, hmore, hpair⟩ := Option.map_eq_some_iff.1 h
      cases hpair
      rw [if_neg hclose, braced?_bracketed hmore]
      rfl

theorem taken?_bracketed {verbose : Bool} : ∀ {count : Nat} {cs taken rest : List Char},
    taken? verbose count cs = some (taken, rest) → taken? verbose count (bracketed cs) = some (taken, bracketed rest)
  | 0, cs, taken, rest, h => by
    cases h
    rfl
  | count + 1, cs, taken, rest, h => by
    rw [taken?] at h
    split at h
    · cases h
    · rename_i c behind hskip
      obtain ⟨⟨more, last⟩, hmore, hpair⟩ := Option.map_eq_some_iff.1 h
      cases hpair
      rw [taken?, skipBlanks_bracketed_of_cons hskip]
      dsimp only
      rw [taken?_bracketed hmore]
      rfl

theorem numberedChar?_bracketed (verbose : Bool) (count : Nat) (short : Char → Escaped) :
    Steady (numberedChar? verbose count short) := by
  intro cs e rest h
  unfold numberedChar? at h
  split at h
  · rename_i hbrace
    split at h
    · rename_i digits behind hdigits
      obtain ⟨c, hc, hrest⟩ := Outcome.map_eq_ok h
      cases hrest
      simp only [numberedChar?, skipBlanks_bracketed_of_cons hbrace, braced?_bracketed hdigits, hc]
      rfl
    · cases h
  · rename_i hbrace
    split at h
    · rename_i digits behind hdigits
      obtain ⟨c, hc, hrest⟩ := Outcome.map_eq_ok h
      cases hrest
      unfold numberedChar?
      split
      · rename_i hbrace'
        exact (skipBlanks_bracketed_ne_cons _ (by decide) hbrace _ hbrace').elim
      · simp only [taken?_bracketed hdigits, hc]
        rfl
    · cases h

theorem property?_bracketed (verbose negated : Bool) : Steady (property? verbose negated) := by
  intro cs e rest h
  unfold property? at h
  split at h
  · cases h
  · rename_i hbrace
    split at h
    · rename_i name behind hname
      obtain ⟨found, hfound, hrest⟩ := Outcome.map_eq_ok h
      cases hrest
      simp only [property?, skipBlanks_bracketed_of_cons hbrace, braced?_bracketed hname, hfound]
      rfl
    · cases h
  · rename_i c behind hbrace hskip
    obtain ⟨found, hfound, hrest⟩ := Outcome.map_eq_ok h
    cases hrest
    simp only [property?, skipBlanks_bracketed_of_cons hskip, hfound]
    rfl

theorem wordEdge?_bracketed {verbose : Bool} {cs : List Char} {r : Option (WordEdge × List Char)}
    (h : wordEdge? verbose cs = .ok r) :
    wordEdge? verbose (bracketed cs) = .ok (r.map fun e => (e.1, bracketed e.2)) := by
  unfold wordEdge? at h
  dsimp only at h
  split at h
  · cases h
  · rename_i c cs hskip
    rw [wordEdge?, skipBlanks_bracketed_of_cons hskip]
    dsimp only
    split at h
    · rename_i hpart
      cases h
      rw [if_pos hpart]
      rfl
    · rename_i hpart
      rw [if_neg hpart]
      split at h
      · rename_i rest hbrace
        rw [← bracketed_cons, takeWhile_bracketed (by decide), dropWhile_bracketed (by decide),
          skipBlanks_bracketed_of_cons hbrace]
        split at h <;> cases h <;> rfl
      · cases h

theorem escape?_bracketed (verbose : Bool) : Steady (escape? verbose) := by
  intro cs e rest h
  unfold escape? at h
  split at h
  case h_1 => cases h
  case h_2 | h_3 | h_4 => exact numberedChar?_bracketed verbose _ _ _ _ _ h
  case h_5 | h_6 => exact property?_bracketed verbose _ _ _ _ h
  case h_24 cs =>
    obtain ⟨r, hr, h⟩ := Outcome.bind_eq_ok.1 h
    rw [bracketed_cons, bracketed_cons, escape?, wordEdge?_bracketed hr]
    cases r with
    | none => cases h; rfl
    | some edge => cases h; rfl
  case h_25 cs hbrace =>
    cases h
    rw [bracketed_cons, escape?]
    exact bracketed_ne_append ['\x7b'] (by decide) hbrace
  -- a character that stands for itself: what it is not, it is not in front of the bracket either
  case h_26 =>
    rw [bracketed_cons, escape?]
    any_goals assumption
    · split at h
      · rename_i hself
        cases h
        rw [if_pos hself]
      · cases h
    · intro more hb
      contradiction
  all_goals
    cases h
    rfl

/-! ## 4. Counts -/

theorem isDigit_bracket : ')'.isDigit = false := by
  decide

theorem countDigits_bracketed (verbose : Bool) : ∀ cs : List Char, countDigits verbose (bracketed cs) =
    ((countDigits verbose cs).1, bracketed (countDigits verbose cs).2)
  | [] => by simp [countDigits, isDigit_bracket, isBlank_bracket]
  | c :: cs => by
    rw [bracketed_cons, countDigits, countDigits, countDigits_bracketed verbose cs]
    split
    · rfl
    · split <;> rfl

theorem countNumber?_bracketed (verbose : Bool) : Steady (countNumber? verbose) := by
  intro cs n rest h
  unfold countNumber? at h ⊢
  dsimp only at h ⊢
  rw [dropWhile_bracketed isBlank_bracket, countDigits_bracketed, dropWhile_bracketed isBlank_bracket]
  split at h
  · rename_i hempty
    cases h
    rw [if_pos hempty]
  · rename_i hempty
    rw [if_neg hempty]
    split at h
    · rename_i hlt
      cases h
      rw [if_pos hlt]
    · cases h

/-- A number of a count is read the same behind blanks, **where anything of it is read**. -/
theorem countNumber?_skipBlanks {verbose : Bool} {cs rest : List Char} {n : Nat}
    (h : countNumber? verbose (skipBlanks verbose cs) = .ok (some n, rest)) :
    countNumber? verbose (skipBlanks verbose (bracketed cs)) = .ok (some n, bracketed rest) := by
  rcases skipBlanks_bracketed verbose cs with hskip | ⟨hskip, -⟩
  · rw [hskip]
    exact countNumber?_bracketed verbose _ _ _ h
  · rw [hskip] at h
    cases h

theorem counted?_bracketed (verbose : Bool) : Steady (counted? verbose) := by
  intro cs n rest h
  unfold counted? at h
  obtain ⟨⟨first, behind⟩, hfirst, h⟩ := Outcome.bind_eq_ok.1 h
  cases first with
  | none => cases h
  | some least =>
    have hfirst' := countNumber?_skipBlanks hfirst
    simp only [Outcome.ok_bind] at h
    split at h
    · cases h
      simp only [counted?, hfirst', Outcome.ok_bind, bracketed_cons]
    · rename_i more
      split at h
      · rename_i hbrace
        cases h
        simp only [counted?, hfirst', Outcome.ok_bind, bracketed_cons, skipBlanks_bracketed_of_cons hbrace]
      · rename_i hbrace
        obtain ⟨⟨last, behind⟩, hlast, h⟩ := Outcome.bind_eq_ok.1 h
        dsimp only at h
        split at h
        · rename_i most rest'
          have hlast' := countNumber?_skipBlanks hlast
          split at h
          · rename_i hle
            cases h
            simp only [counted?, hfirst', Outcome.ok_bind, bracketed_cons]
            split
            · rename_i hcons
              exact (skipBlanks_bracketed_ne_cons _ (by decide) hbrace _ hcons).elim
            · simp only [hlast', Outcome.ok_bind, bracketed_cons, if_pos hle]
          · cases h
        · cases h
    · cases h

theorem lazyMark_bracketed (cs : List Char) :
    lazyMark (bracketed cs) = ((lazyMark cs).1, bracketed (lazyMark cs).2) := by
  by_cases hmark : ∃ more, cs = '?' :: more
  · obtain ⟨more, rfl⟩ := hmark
    rfl
  · have hcs : ∀ more, cs = '?' :: more → False := fun more h => hmark ⟨more, h⟩
    rw [lazyMark, lazyMark]
    · exact hcs
    · exact bracketed_ne_append ['?'] (by decide) hcs

/-! ## 5. Groups -/

/-- Flags end at a colon or a bracket, which is left; they are read the same in front of a further bracket. -/
theorem flagChange?_bracketed {negated dangling : Bool} {change after : FlagChange} {cs rest : List Char}
    (h : flagChange? negated dangling change cs = .ok (after, rest)) :
    rest ≠ [] ∧ flagChange? negated dangling change (bracketed cs) = .ok (after, bracketed rest) := by
  induction cs generalizing negated dangling change with
  | nil => cases h
  | cons c cs ih =>
    rw [flagChange?] at h
    rw [bracketed_cons, flagChange?]
    split at h
    · rename_i hend
      rw [if_pos hend]
      split at h
      · cases h
      · rename_i hdangling
        cases h
        rw [if_neg hdangling]
        exact ⟨List.cons_ne_nil _ _, rfl⟩
    · rename_i hend
      rw [if_neg hend]
      split at h
      · rename_i hdash
        rw [if_pos hdash]
        split at h
        · cases h
        · rename_i hnegated
          rw [if_neg hnegated]
          exact ih h
      · rename_i hdash
        rw [if_neg hdash]
        split at h
        · split at h
          · cases h
          · rename_i htaken
            rw [if_neg htaken]
            exact ih h
        · cases h

theorem flagHead?_bracketed : Steady flagHead? := by
  intro cs head rest h
  unfold flagHead? at h
  obtain ⟨⟨change, behind⟩, hchange, h⟩ := Outcome.bind_eq_ok.1 h
  obtain ⟨hne, hchange'⟩ := flagChange?_bracketed hchange
  obtain ⟨d, more, rfl⟩ := List.exists_cons_of_ne_nil hne
  rw [flagHead?, hchange', Outcome.ok_bind, bracketed_cons]
  dsimp only at h ⊢
  split at h
  · rename_i hcons
    cases hcons
    split at h
    · cases h
    · rename_i hempty
      cases h
      simp only [if_neg hempty]
  · rename_i hcons
    cases h
    split
    · rename_i hcons'
      cases hcons'
      exact absurd rfl (hcons _)
    · rfl

theorem groupName?_bracketed : Steady groupName? := by
  intro cs name rest h
  unfold groupName? at h
  dsimp only at h
  split at h
  · rename_i hdrop htake
    obtain ⟨hdrop', htake'⟩ := dropWhile_bracketed_of_cons hdrop
    split at h
    · rename_i hname
      cases h
      rw [groupName?, hdrop', htake', htake]
      dsimp only
      rw [if_pos hname]
    · cases h
  · cases h

theorem groupHead?_bracketed : Steady groupHead? := by
  intro cs head rest h
  unfold groupHead? at h
  split at h
  · cases h
  · cases h
  · cases h
  · cases h
  · obtain ⟨⟨name, behind⟩, hname, h⟩ := Outcome.map_eq_ok h
    cases h
    simp only [bracketed_cons, groupHead?, groupName?_bracketed _ _ _ hname]
    rfl
  · rename_i more heq hne
    obtain ⟨⟨name, behind⟩, hname, h⟩ := Outcome.map_eq_ok h
    cases h
    rw [bracketed_cons, bracketed_cons, groupHead?, groupName?_bracketed _ _ _ hname]
    · rfl
    · exact bracketed_ne_append ['='] (by decide) heq
    · exact bracketed_ne_append ['!'] (by decide) hne
  · rename_i more hahead hnotAhead hbehind hnotBehind hlong hshort
    rw [bracketed_cons, groupHead?]
    · exact flagHead?_bracketed _ _ _ h
    · exact bracketed_ne_append ['='] (by decide) hahead
    · exact bracketed_ne_append ['!'] (by decide) hnotAhead
    · exact bracketed_ne_append ['<', '='] (by decide) hbehind
    · exact bracketed_ne_append ['<', '!'] (by decide) hnotBehind
    · exact bracketed_ne_append ['P', '<'] (by decide) hlong
    · exact bracketed_ne_append ['<'] (by decide) hshort
  · rename_i hplain
    cases h
    have hplain' := bracketed_ne_append ['?'] (by decide) hplain
    rw [groupHead?]
    all_goals exact fun _ => hplain' _

/-! ## 6. Bracketed sets -/

theorem caret_bracketed (cs : List Char) : caret (bracketed cs) = ((caret cs).1, bracketed (caret cs).2) := by
  by_cases hcaret : ∃ more, cs = '^' :: more
  · obtain ⟨more, rfl⟩ := hcaret
    rfl
  · have hcs : ∀ more, cs = '^' :: more → False := fun more h => hcaret ⟨more, h⟩
    rw [caret, caret]
    · exact hcs
    · exact bracketed_ne_append ['^'] (by decide) hcs

theorem namedSet?_bracketed (cs : List Char) :
    namedSet? (bracketed cs) = (namedSet? cs).map fun e => (e.1, bracketed e.2) := by
  by_cases hcolon : ∃ more, cs = ':' :: more
  · obtain ⟨more, rfl⟩ := hcolon
    rw [bracketed_cons, namedSet?, namedSet?, caret_bracketed]
    dsimp only
    cases hdrop : (caret more).2.dropWhile (· ≠ ':') with
    | nil =>
      simp only [dropWhile_bracketed_of_nil rfl hdrop]
      rfl
    | cons c tail =>
      obtain ⟨hdrop', htake⟩ := dropWhile_bracketed_of_cons hdrop
      simp only [hdrop', htake]
      by_cases hend : ∃ rest, c :: tail = ':' :: ']' :: rest
      · obtain ⟨rest, heq⟩ := hend
        cases heq
        simp only [bracketed_cons, Option.map_map]
        rfl
      · have hcs : ∀ rest, c :: tail = ':' :: ']' :: rest → False := fun rest h => hend ⟨rest, h⟩
        split
        · rename_i heq
          exact (bracketed_ne_append [':', ']'] (by decide) hcs _ heq).elim
        · rfl
  · have hcs : ∀ more, cs = ':' :: more → False := fun more h => hcolon ⟨more, h⟩
    rw [namedSet?, namedSet?]
    · rfl
    · exact hcs
    · exact bracketed_ne_append [':'] (by decide) hcs

theorem setPart?_bracketed (verbose : Bool) : Steady (setPart? verbose) := by
  intro cs e rest h
  unfold setPart? at h
  split at h
  · cases h
  · exact escape?_bracketed verbose _ _ _ h
  · rename_i hslash
    cases h
    rw [bracketed_cons, setPart?]
    exact hslash

theorem setRange?_bracketed (verbose : Bool) : Steady (setRange? verbose) := by
  intro cs t rest h
  unfold setRange? at h
  obtain ⟨⟨first, behind⟩, hfirst, h⟩ := Outcome.bind_eq_ok.1 h
  simp only [setRange?, setPart?_bracketed verbose _ _ _ hfirst, Outcome.ok_bind]
  cases hskip : skipBlanks verbose behind with
  | nil =>
    simp only [hskip] at h
    cases h
  | cons c more =>
    simp only [hskip] at h
    simp only [skipBlanks_bracketed_of_cons hskip]
    split at h
    · rename_i heq
      cases heq
    · rename_i more heq
      cases heq
      cases hmore : skipBlanks verbose more with
      | nil =>
        simp only [hmore] at h
        cases h
      | cons d more' =>
        simp only [hmore] at h
        simp only [skipBlanks_bracketed_of_cons hmore]
        split at h
        · rename_i heq
          cases heq
        · rename_i heq
          cases heq
          obtain ⟨t, ht, h⟩ := Outcome.map_eq_ok h
          cases h
          simp only [ht, bracketed_cons]
          rfl
        · rename_i heq
          cases heq
          obtain ⟨t, ht, h⟩ := Outcome.map_eq_ok h
          cases h
          simp only [ht, bracketed_cons]
          rfl
        · rename_i hclose hdash
          obtain ⟨⟨last, after⟩, hlast, h⟩ := Outcome.bind_eq_ok.1 h
          have hlast' := setPart?_bracketed verbose _ _ _ hlast
          rw [bracketed_cons] at hlast'
          split
          · rename_i heq
            cases heq
          · rename_i heq
            exact (bracketed_ne_append [']'] (by decide) hclose _ heq).elim
          · rename_i heq
            exact (bracketed_ne_append ['-'] (by decide) hdash _ heq).elim
          · simp only [hlast', Outcome.ok_bind]
            dsimp only at h
            split at h
            · split at h
              · rename_i hle
                cases h
                simp only [if_pos hle]
              · cases h
            · cases h
    · rename_i hdash
      obtain ⟨t, ht, h⟩ := Outcome.map_eq_ok h
      cases h
      split
      · rename_i heq
        cases heq
      · rename_i heq
        exact (bracketed_ne_append ['-'] (by decide) hdash _ heq).elim
      · simp only [ht]
        rfl

theorem leadingDashes_bracketed (verbose : Bool) : ∀ cs : List Char, leadingDashes verbose (bracketed cs) =
    ((leadingDashes verbose cs).1, bracketed (leadingDashes verbose cs).2)
  | [] => by simp [leadingDashes, isBlank_bracket]
  | c :: cs => by
    rw [bracketed_cons, leadingDashes, leadingDashes, leadingDashes_bracketed verbose cs]
    split
    · rfl
    · split <;> rfl

theorem Trails.skipBlanks {cs ds : List Char} (h : Trails cs ds) (verbose : Bool) :
    Trails (skipBlanks verbose cs) (skipBlanks verbose ds) := by
  rcases h with rfl | ⟨rfl, rfl⟩
  · exact skipBlanks_bracketed verbose cs
  · cases verbose <;> exact Or.inr ⟨rfl, rfl⟩

theorem Trails.caret {cs ds : List Char} (h : Trails cs ds) :
    (caret ds).1 = (caret cs).1 ∧ Trails (caret cs).2 (caret ds).2 := by
  rcases h with rfl | ⟨rfl, rfl⟩
  · rw [caret_bracketed]
    exact ⟨rfl, Or.inl rfl⟩
  · exact ⟨rfl, Or.inr ⟨rfl, rfl⟩⟩

theorem Trails.leadingDashes {cs ds : List Char} (h : Trails cs ds) (verbose : Bool) :
    (leadingDashes verbose ds).1 = (leadingDashes verbose cs).1 ∧
      Trails (leadingDashes verbose cs).2 (leadingDashes verbose ds).2 := by
  rcases h with rfl | ⟨rfl, rfl⟩
  · rw [leadingDashes_bracketed]
    exact ⟨rfl, Or.inl rfl⟩
  · exact ⟨rfl, Or.inr ⟨rfl, rfl⟩⟩

/-- A set begins the same; a comment at its beginning may take the bracket along. -/
theorem setStart_bracketed {verbose negated : Bool} {cs rest : List Char} {items : List SetTerm}
    (h : setStart verbose cs = (negated, items, rest)) :
    ∃ rest', Trails rest rest' ∧ setStart verbose (bracketed cs) = (negated, items, rest') := by
  obtain ⟨hcaret, hrest⟩ := (skipBlanks_bracketed verbose cs).caret
  obtain ⟨hdashes, hrest⟩ := (hrest.skipBlanks verbose).leadingDashes verbose
  unfold setStart at h ⊢
  dsimp only at h ⊢
  rw [hcaret]
  cases hread : leadingDashes verbose (skipBlanks verbose (caret (skipBlanks verbose cs)).2) with
  | mk dashes more =>
    cases hread' : leadingDashes verbose (skipBlanks verbose (caret (skipBlanks verbose (bracketed cs))).2) with
    | mk dashes' more' =>
      rw [hread, hread'] at hdashes hrest
      obtain rfl : dashes' = dashes := hdashes
      rw [hread] at h
      split at h
      · rename_i heq
        cases heq
        cases h
        obtain rfl := hrest.of_cons
        exact ⟨_, Or.inl rfl, rfl⟩
      · rename_i hne heq
        cases heq
        cases h
        refine ⟨more', hrest, ?_⟩
        split
        · rename_i heq
          cases heq
          rcases hrest with hrest | ⟨-, hend⟩
          · exact (bracketed_ne_append [']'] (by decide) (fun tail => hne tail rfl) _ hrest.symm).elim
          · cases hend
        · rename_i heq
          cases heq
          rfl

/-- A set ends at its own bracket, so **the closing bracket is still there** behind it. -/
theorem setParts?_bracketed {verbose : Bool} {fuel : Nat} : ∀ {fuel' : Nat}
    {left : Option (SetOperation × SetTerm)} {items : List SetTerm} {cs ds rest : List Char} {t : SetTerm},
    fuel ≤ fuel' → Trails cs ds → setParts? verbose fuel left items cs = .ok (t, rest) →
      setParts? verbose fuel' left items ds = .ok (t, bracketed rest) := by
  induction fuel with
  | zero =>
    intro fuel' left items cs ds rest t _ _ h
    cases h
  | succ fuel ih =>
    intro fuel' left items cs ds rest t hle htrails h
    obtain ⟨fuel', rfl⟩ := Nat.exists_eq_add_of_le' (Nat.le_trans (Nat.succ_le_succ (Nat.zero_le fuel)) hle)
    have hle' : fuel ≤ fuel' := Nat.le_of_succ_le_succ hle
    rw [setParts?] at h ⊢
    cases hskip : skipBlanks verbose cs with
    | nil =>
      simp only [hskip] at h
      cases h
    | cons c more =>
      have hskip' := htrails.skipBlanks verbose
      rw [hskip] at hskip'
      simp only [hskip] at h
      simp only [hskip'.of_cons]
      split at h
      · cases h
      · rename_i heq
        cases heq
        cases h
        rfl
      -- a named set, or a set within the set
      · rename_i heq
        cases heq
        simp only [namedSet?_bracketed]
        split at h
        · rename_i hnamed
          rw [hnamed]
          exact ih hle' (Or.inl rfl) h
        · rename_i hnamed
          rw [hnamed]
          cases hstart : setStart verbose more with
          | mk negated start =>
            obtain ⟨items', behind⟩ := start
            simp only [hstart] at h
            obtain ⟨⟨s, after⟩, hs, h⟩ := Outcome.bind_eq_ok.1 h
            obtain ⟨behind', htrails', hstart'⟩ := setStart_bracketed hstart
            simp only [Option.map_none, hstart', ih hle' htrails' hs, Outcome.ok_bind]
            exact ih hle' (Or.inl rfl) h
      -- the three operations
      · rename_i heq
        cases heq
        exact ih hle' (Or.inl rfl) h
      · rename_i heq
        cases heq
        exact ih hle' (Or.inl rfl) h
      · rename_i heq
        cases heq
        exact ih hle' (Or.inl rfl) h
      -- a character or a range: none of the openings above may come about through the bracket
      · rename_i hclose hopen hinter hdiff hsymm
        obtain ⟨⟨s, behind⟩, hs, h⟩ := Outcome.bind_eq_ok.1 h
        have hs' := setRange?_bracketed verbose _ _ _ hs
        rw [bracketed_cons] at hs'
        split
        · rename_i heq
          cases heq
        · rename_i heq
          exact (bracketed_ne_append [']'] (by decide) hclose _ heq).elim
        · rename_i heq
          exact (bracketed_ne_append ['['] (by decide) hopen _ heq).elim
        · rename_i heq
          exact (bracketed_ne_append ['&', '&'] (by decide) hinter _ heq).elim
        · rename_i heq
          exact (bracketed_ne_append ['-', '-'] (by decide) hdiff _ heq).elim
        · rename_i heq
          exact (bracketed_ne_append ['~', '~'] (by decide) hsymm _ heq).elim
        · rw [hs', Outcome.ok_bind]
          exact ih hle' (Or.inl rfl) h

theorem set?_bracketed (verbose : Bool) : Steady (set? verbose) := by
  intro cs t rest h
  unfold set? at h
  cases hstart : setStart verbose cs with
  | mk negated start =>
    obtain ⟨items, behind⟩ := start
    simp only [hstart] at h
    obtain ⟨⟨s, after⟩, hs, h⟩ := Outcome.bind_eq_ok.1 h
    cases h
    have hfuel : cs.length + 1 ≤ (bracketed cs).length + 1 := by
      rw [bracketed, List.length_append]
      omega
    obtain ⟨behind', htrails, hstart'⟩ := setStart_bracketed hstart
    simp only [set?, hstart', setParts?_bracketed hfuel htrails hs, Outcome.ok_bind]

/-! ## 7. Patterns -/

theorem Trails.lazyMark {cs ds : List Char} (h : Trails cs ds) :
    (lazyMark ds).1 = (lazyMark cs).1 ∧ Trails (lazyMark cs).2 (lazyMark ds).2 := by
  rcases h with rfl | ⟨rfl, rfl⟩
  · rw [lazyMark_bracketed]
    exact ⟨rfl, Or.inl rfl⟩
  · exact ⟨rfl, Or.inr ⟨rfl, rfl⟩⟩

theorem Trails.groupHead? {cs ds rest : List Char} {head : GroupHead} (h : Trails cs ds)
    (hread : groupHead? cs = .ok (head, rest)) :
    ∃ rest', Trails rest rest' ∧ groupHead? ds = .ok (head, rest') := by
  rcases h with rfl | ⟨rfl, rfl⟩
  · exact ⟨_, Or.inl rfl, groupHead?_bracketed _ _ _ hread⟩
  · cases hread
    exact ⟨[], Or.inr ⟨rfl, rfl⟩, rfl⟩

/-- A group is opened the same whatever stands behind its bracket, **which is left**. -/
theorem openGroup?_rest {head : GroupHead} {kind : GroupKind} {c inner : Cursor}
    (h : openGroup? head c = .ok (kind, inner)) (rest : List Char) :
    inner.rest = c.rest ∧ openGroup? head { c with rest := rest } = .ok (kind, { inner with rest := rest }) := by
  cases head with
  | flags change =>
    cases h
    exact ⟨rfl, rfl⟩
  | flagged change =>
    cases h
    exact ⟨rfl, rfl⟩
  | plain =>
    cases h
    exact ⟨rfl, rfl⟩
  | named name =>
    rw [openGroup?] at h ⊢
    split at h
    · cases h
    · rename_i hnew
      cases h
      rw [if_neg hnew]
      exact ⟨rfl, rfl⟩

/-- **A pattern is read as the same term in front of a closing bracket**, which it leaves; at a comment that takes
    the bracket along, nothing is left. -/
theorem pattern?_trails {fuel : Nat} : ∀ {fuel' : Nat} {branches items : List Term} {c c' : Cursor} {t : Term}
    {ds : List Char}, fuel ≤ fuel' → Trails c.rest ds → pattern? fuel branches items c = .ok (t, c') →
      ∃ rest, Trails c'.rest rest ∧
        pattern? fuel' branches items { c with rest := ds } = .ok (t, { c' with rest := rest }) := by
  induction fuel with
  | zero =>
    intro fuel' branches items c c' t ds _ _ h
    cases h
  | succ fuel ih =>
    intro fuel' branches items c c' t ds hle htrails h
    obtain ⟨fuel', rfl⟩ := Nat.exists_eq_add_of_le' (Nat.le_trans (Nat.succ_le_succ (Nat.zero_le fuel)) hle)
    have hle' : fuel ≤ fuel' := Nat.le_of_succ_le_succ hle
    have hskip := htrails.skipBlanks c.verbose
    rw [pattern?] at h ⊢
    cases hcs : skipBlanks c.verbose c.rest with
    | nil =>
      simp only [hcs] at h
      cases h
      rw [hcs] at hskip
      rcases hskip with hbracket | ⟨-, hnil⟩
      · simp only [hbracket]
        exact ⟨_, Or.inl rfl, rfl⟩
      · simp only [hnil]
        exact ⟨_, Or.inr ⟨rfl, rfl⟩, rfl⟩
    | cons x more =>
      rw [hcs] at hskip
      simp only [hcs] at h
      simp only [hskip.of_cons]
      split at h
      case h_1 heq => cases heq
      -- the end of a group, further branches, groups and flags
      case h_2 heq =>
        cases heq
        cases h
        exact ⟨_, Or.inl rfl, rfl⟩
      case h_3 heq =>
        cases heq
        exact ih (c := { c with rest := more }) hle' (Or.inl rfl) h
      case h_4 heq =>
        cases heq
        obtain ⟨⟨head, behind⟩, hhead, h⟩ := Outcome.bind_eq_ok.1 h
        obtain ⟨behind', hbehind, hhead'⟩ := (skipBlanks_bracketed c.verbose more).groupHead? hhead
        simp only [hhead', Outcome.ok_bind]
        dsimp only at h
        split at h
        · exact ih (c := { c with rest := behind, verbose := _ }) hle' hbehind h
        · obtain ⟨⟨kind, inner⟩, hopen, h⟩ := Outcome.bind_eq_ok.1 h
          obtain ⟨⟨s, after⟩, hs, h⟩ := Outcome.bind_eq_ok.1 h
          obtain ⟨hinner, hopen'⟩ := openGroup?_rest hopen behind'
          have hbehind' : Trails inner.rest behind' := by
            rw [hinner]
            exact hbehind
          obtain ⟨after', hafter, hs'⟩ := ih hle' hbehind' hs
          simp only [hopen', Outcome.ok_bind, hs']
          dsimp only at h
          split at h
          · rename_i rest hclose
            rw [hclose] at hafter
            simp only [hafter.of_cons]
            exact ih (c := { after with rest := rest, verbose := c.verbose }) hle' (Or.inl rfl) h
          · cases h
      case h_5 heq =>
        cases heq
        obtain ⟨⟨s, behind⟩, hs, h⟩ := Outcome.bind_eq_ok.1 h
        simp only [set?_bracketed _ _ _ _ hs, Outcome.ok_bind]
        exact ih (c := { c with rest := behind }) hle' (Or.inl rfl) h
      -- what is repeated stands in front
      case h_6 | h_7 | h_8 =>
        rename_i heq
        cases heq
        simp only [lazyMark_bracketed]
        obtain ⟨items, hitems, h⟩ := Outcome.bind_eq_ok.1 h
        rw [hitems, Outcome.ok_bind]
        exact ih (c := { c with rest := (lazyMark more).2 }) hle' (Or.inl rfl) h
      case h_9 heq =>
        cases heq
        obtain ⟨⟨⟨least, most⟩, behind⟩, hcount, h⟩ := Outcome.bind_eq_ok.1 h
        obtain ⟨hgreedy, hbehind⟩ := (skipBlanks_bracketed c.verbose behind).lazyMark
        obtain ⟨items, hitems, h⟩ := Outcome.bind_eq_ok.1 h
        simp only [counted?_bracketed _ _ _ _ hcount, Outcome.ok_bind, hgreedy, hitems]
        exact ih (c := { c with rest := (lazyMark (skipBlanks c.verbose behind)).2 }) hle' hbehind h
      -- what stands for a character or a place
      case h_10 heq =>
        cases heq
        obtain ⟨⟨e, behind⟩, he, h⟩ := Outcome.bind_eq_ok.1 h
        simp only [escape?_bracketed _ _ _ _ he, Outcome.ok_bind]
        exact ih (c := { c with rest := behind }) hle' (Or.inl rfl) h
      case h_11 | h_12 | h_13 =>
        rename_i heq
        cases heq
        exact ih (c := { c with rest := more }) hle' (Or.inl rfl) h
      case h_14 =>
        rename_i heq
        cases heq
        split
        case h_1 heq => cases heq
        case h_14 heq =>
          cases heq
          exact ih (c := { c with rest := more }) hle' (Or.inl rfl) h
        all_goals
          rename_i heq
          have hx := (List.cons.inj heq).1
          contradiction

end TreeIndex.Pattern
