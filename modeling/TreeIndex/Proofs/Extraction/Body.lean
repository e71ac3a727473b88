import TreeIndex.Proofs.Extraction.Bounds
import TreeIndex.Proofs.Text.Slices

/-!
# Bodies of items

An item knows the line on which its start match begins and the line that ends it, but not where the match ends. Its body
is cut out between these two lines, **be the match over on the first of them or not**.

* `between`: the text between the delimiters of an item -- its lines begin where the start match ends, or behind that,
  and lie in front of the line that ends the item;
* `begunWithin`: the lines that the start match itself begins;
* `lineBehind_eq`: a match begins as many lines as newlines stand in it, its last character apart;
* `Bodied`, `bodied_of_extract?`: the body of every item is what its match begins **and what stands between its
  delimiters**; so it is the latter alone exactly if the match begins no line;
* `ruled`, `not_between_of_extract?`: a start match of two lines leaves its second one **in the body**.
-/

namespace TreeIndex.ItemMatcher

open Pattern (Capture)

/-! ## 1. Lines between delimiters -/

/-- The text **between the delimiters** of an item that a line ends: of the lines below the one on which the start match
    begins, and above the one that ends the item, those that begin where the match ends, or behind that. -/
def between (text : List Char) (c : Capture) (stop : Nat) : List Char :=
  Text.chosen text fun k => lineOf text c < k ∧ k < stop ∧ c.stop ≤ Text.offset text (k - 1)

/-- The text of the lines that **begin within a match**, below the one on which it begins itself. -/
def begunWithin (text : List Char) (c : Capture) : List Char :=
  Text.chosen text fun k => lineOf text c < k ∧ Text.offset text (k - 1) < c.stop

section Lines

variable {text : List Char} {first : Nat} {c : Capture}

/-- A match begins as many lines **as newlines stand in it**, its last character apart. -/
theorem lineBehind_eq (hc : c.LiesIn text first) :
    lineBehind text c = lineOf text c + Text.newlines c.text.dropLast := by
  rw [lineBehind, lineOf, take_stop hc, Text.newlines_append]
  rcases List.eq_nil_or_concat c.text with hnil | ⟨front, last, hlast⟩
  · have hzero : Text.newlines [] = 0 := rfl
    have hlast : ([] : List Char).getLast? ≠ some '\n' := by
      simp
    rw [hnil, if_neg hlast, List.dropLast_nil, hzero]
    omega
  · have hnewlines : Text.newlines [last] = if last = '\n' then 1 else 0 := by
      rw [Text.newlines, List.count_singleton]
      by_cases hd : last = '\n' <;> simp [hd]
    rw [hlast, List.concat_eq_append, List.getLast?_concat, List.dropLast_concat, Text.newlines_append, hnewlines]
    by_cases hd : last = '\n'
    · rw [if_pos (by rw [hd]), if_pos hd]
      omega
    · rw [if_neg (by simpa using hd), if_neg hd]
      omega

theorem between_eq (hc : c.LiesIn text first) (stop : Nat) :
    between text c stop = Text.chosen text fun k => lineBehind text c + 1 ≤ k ∧ k < stop := by
  refine Text.chosen_congr fun k hk => ?_
  have hbehind := lineBehind_le_iff hc hk
  rw [Nat.add_sub_cancel, Nat.succ_le_succ_iff, hbehind]
  exact ⟨fun h => ⟨⟨h.1, h.2.2⟩, h.2.1⟩, fun h => ⟨h.1.1, h.2, h.1.2⟩⟩

theorem begunWithin_eq (hc : c.LiesIn text first) :
    begunWithin text c = Text.chosen text fun k => lineOf text c + 1 ≤ k ∧ k < lineBehind text c + 1 := by
  refine Text.chosen_congr fun k hk => ?_
  have hbehind := lineBehind_le_iff hc hk
  rw [Nat.add_sub_cancel]
  constructor
  · intro ⟨hline, hoffset⟩
    have hnot : ¬ lineBehind text c ≤ k := fun hle => absurd (hbehind.1 hle).2 (Nat.not_le.2 hoffset)
    omega
  · intro ⟨hline, hlt⟩
    have hnot : ¬ (lineOf text c < k + 1 ∧ c.stop ≤ Text.offset text k) := fun h => absurd (hbehind.2 h) (by omega)
    exact ⟨hline, Nat.not_le.1 fun hle => hnot ⟨hline, hle⟩⟩

/-- **What a line that can end an item leaves in front of it**: the lines begun within the match, and those between the
    delimiters. -/
theorem chosen_below (hc : c.LiesIn text first) {stop : Pattern} {n : Nat} (hn : CanEnd stop text c n) :
    Text.chosen text (fun k => lineOf text c + 1 ≤ k ∧ k < n) = begunWithin text c ++ between text c n := by
  obtain ⟨k, rfl⟩ : ∃ k, n = k + 1 := Nat.exists_eq_succ_of_ne_zero fun hzero => not_canEnd_zero (hzero ▸ hn)
  have hbehind := ((canEnd_succ_iff hc).1 hn).1
  have hle : lineOf text c ≤ lineBehind text c := by
    rw [lineBehind_eq hc]
    exact Nat.le_add_right _ _
  rw [begunWithin_eq hc, between_eq hc]
  exact (Text.chosen_append text (by omega) (by omega)).symm

/-- A match that some line can follow begins no line exactly if **no newline stands in it**, its last character apart. -/
theorem begunWithin_eq_nil_iff (hc : c.LiesIn text first) {stop : Pattern} {n : Nat} (hn : CanEnd stop text c n) :
    begunWithin text c = [] ↔ '\n' ∉ c.text.dropLast := by
  obtain ⟨k, rfl⟩ : ∃ k, n = k + 1 := Nat.exists_eq_succ_of_ne_zero fun hzero => not_canEnd_zero (hzero ▸ hn)
  have hbehind := ((canEnd_succ_iff hc).1 hn).1
  have hlength := hn.le_length
  have hcount : Text.newlines c.text.dropLast = 0 ↔ '\n' ∉ c.text.dropLast := List.count_eq_zero
  rw [begunWithin_eq hc, Text.chosen_eq_nil_iff (Nat.le_add_left 1 _) (by omega), lineBehind_eq hc, ← hcount]
  omega

end Lines

/-! ## 2. The body of an item -/

/-- **The body of the item** of a match, in terms of the match. -/
structure Bodied (f : SourceFile) (c : Capture) (i : Item) : Prop where
  /-- It is the lines begun within the match, and those between the delimiters. -/
  body_eq : i.body.toList = begunWithin f.content.toList c ++ between f.content.toList c i.lineEnd
  /-- It is those between the delimiters alone exactly if no newline stands in the match, its last character apart. -/
  between_iff : i.body.toList = between f.content.toList c i.lineEnd ↔ '\n' ∉ c.text.dropLast

theorem Yields.bodied {m : ItemMatcher} {f : SourceFile} {c : Capture} {i : Item} {first : Nat} (h : m.Yields f c i)
    (hc : c.LiesIn f.content.toList first) : Bodied f c i := by
  obtain ⟨stop, -, hend, -⟩ := h.lineEnd
  have hbody : i.body.toList = begunWithin f.content.toList c ++ between f.content.toList c i.lineEnd := by
    rw [Item.body, SourceFile.sliceLines, h.file, h.lineStart, Text.toList_sliceLines _ (Nat.le_add_left 1 _),
      chosen_below hc hend]
  refine ⟨hbody, ?_⟩
  rw [hbody, List.append_left_eq_self, begunWithin_eq_nil_iff hc hend]

/-- **What the bodies of items are**, match by match. -/
theorem bodied_of_extract? {d : Definition} {m : ItemMatcher} (hm : ofDefinition? d = .ok m) {f : SourceFile}
    {items : List Item} (h : m.extract? f = .ok items) :
    List.Forall₂ (Bodied f) (m.start.captures f.content.toList) items := by
  have hcompiled := compiled_of_ofDefinition? hm
  obtain ⟨source, hsource⟩ := hcompiled.start_ofText?
  refine (yields_of_extract? hcompiled h).imp fun c i hci => ?_
  obtain ⟨first, hc⟩ := (Pattern.successive_captures hsource f.content.toList).liesIn hci.1
  exact hci.2.bodied hc

/-! ## 3. A start match of two lines -/

/-- Sections that begin with a name **and a rule below it**, and end with a rule. -/
def ruled : Definition :=
  ⟨"section", itemKind, .template "#BEGIN {name:[a-z]+}\n---" (some "---"), ∅, [], ⟨"section.item.index"⟩⟩

/-- A file with such a section. -/
def ruledFile : SourceFile :=
  ⟨"notes", ⟨"notes.txt"⟩, default, "#BEGIN foo\n---\nbody\n---\n"⟩

/-- The rule that begins the section is **a part of its body**, since the match begins its line. -/
theorem bodied_ruled : ∃ m items, ofDefinition? ruled = .ok m ∧ m.extract? ruledFile = .ok items ∧
    List.Forall₂ (Bodied ruledFile) (m.start.captures ruledFile.content.toList) items ∧
    items.map Item.body = ["---\nbody\n"] := by
  have hrun : (ofDefinition? ruled >>= fun m => (m.extract? ruledFile).map (·.map Item.body)).toOption =
      some ["---\nbody\n"] := by
    decide +kernel
  obtain ⟨m, hm, hrun⟩ := Outcome.bind_eq_ok.1 (Outcome.toOption_eq_some.1 hrun)
  obtain ⟨items, hitems, hbodies⟩ := Outcome.map_eq_ok hrun
  exact ⟨m, items, hm, hitems, bodied_of_extract? hm hitems, hbodies⟩

/-- Where a start match takes more than one line, the body is **not the text between the delimiters** alone. -/
theorem not_between_of_extract? : ¬ ∀ (d : Definition) (m : ItemMatcher) (f : SourceFile) (items : List Item),
    ofDefinition? d = .ok m → m.extract? f = .ok items →
      List.Forall₂ (fun c i => i.body.toList = between f.content.toList c i.lineEnd)
        (m.start.captures f.content.toList) items := by
  intro h
  have hrun : ((ofDefinition? ruled).toOption.bind fun m => (m.extract? ruledFile).toOption.map fun items =>
      ((m.start.captures ruledFile.content.toList).zip items).all fun e =>
        e.2.body.toList == between ruledFile.content.toList e.1 e.2.lineEnd) = some false := by
    decide +kernel
  obtain ⟨m, hm, hrun⟩ := Option.bind_eq_some_iff.1 hrun
  obtain ⟨items, hitems, hrun⟩ := Option.map_eq_some_iff.1 hrun
  rw [Outcome.toOption_eq_some] at hm hitems
  have hzip := List.forall₂_iff_zip.1 (h ruled m ruledFile items hm hitems)
  rw [List.all_eq_true.2 fun e he => beq_iff_eq.2 (hzip.2 he)] at hrun
  cases hrun

end TreeIndex.ItemMatcher
