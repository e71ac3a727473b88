import TreeIndex.Proofs.Extraction.Items
import TreeIndex.Proofs.Template.Anchored

/-!
# Ending lines match from their start

An item ends at a line that its end pattern accepts. Where the text that is bound for a match is a pattern on its own,
the end pattern matches such a line **from its first character on**: it is never searched for within the line.

* `BindsPattern`: what a match binds is a pattern on its own;
* `FromStart`: a pattern that matches every text it accepts from the first character on;
* `fromStart_of_binds`, `fromStart_of_extract?`: all end patterns are of this kind, and so are the lines at which items
  end;
* `unbalanced`, `not_fromStart_of_extract?`: a text whose brackets do not match closes the anchored group itself, and
  what stands behind that **is searched for in the whole line**.
-/

namespace TreeIndex.ItemMatcher

open Pattern (Capture Node)

/-! ## 1. End patterns -/

/-- What the match binds is **a pattern on its own**, before it is anchored. -/
def BindsPattern (m : ItemMatcher) (c : Capture) : Prop :=
  ∃ text q, m.stop.bind? (properties c) = .ok text ∧ Pattern.ofText? text = .ok q

/-- The pattern matches every text it accepts **from the first character on**. -/
def FromStart (p : Pattern) : Prop :=
  ∀ cs, p.accepts cs = true → ∃ j, p.node.Matches cs 0 j

/-- An anchored pattern matches **from the first character on** what it accepts. -/
theorem fromStart_anchored {text : String} {p q : Pattern} (hp : Pattern.ofText? (Template.anchored text) = .ok p)
    (hq : Pattern.ofText? text = .ok q) : FromStart p := by
  intro cs hacc
  have hnode := Template.node_anchored hp hq
  obtain ⟨j, hj⟩ := (Template.accepts_of_node hp hnode).1 hacc
  exact ⟨j, hnode ▸ (Template.matches_textStart_iff (Nat.zero_le _)).2 ⟨rfl, hj⟩⟩

section Bound

variable {d : Definition} {m : ItemMatcher} {f : SourceFile} {c : Capture} {stop : Pattern}

theorem fromStart_of_binds (hc : c ∈ m.start.captures f.content.toList) (hown : m.BindsPattern c)
    (hstop : m.Binds c stop) : FromStart stop := by
  obtain ⟨text, hbind, hp⟩ := (binds_iff (captured_properties hc)).1 hstop
  obtain ⟨text', q, hbind', hq⟩ := hown
  obtain rfl := Except.ok.inj (hbind.symm.trans hbind')
  exact fromStart_anchored hp hq

/-- Where nothing is bound late, **one text decides** for all matches. -/
theorem bindsPattern_of_isStatic (hstatic : m.stop.isStatic = true) {q : Pattern}
    (hq : Pattern.ofText? (String.ofList (Template.patternText m.stop.segments)) = .ok q) : m.BindsPattern c :=
  ⟨_, q, bind?_of_isStatic hstatic _, hq⟩

end Bound

/-! ## 2. Ending lines -/

/-- The end pattern of a match **matches the ending line** of its item from the first character on. -/
def EndsFromStart (m : ItemMatcher) (f : SourceFile) (c : Capture) (i : Item) : Prop :=
  ∃ stop line j, m.endPattern? f i.lineStart (properties c) = .ok stop ∧
    (Text.pieces f.content.toList)[i.lineEnd - 1]? = some line ∧ stop.node.Matches (Text.chomp line) 0 j

/-- **Ending lines match from their start.** Of every match that binds a pattern on its own the end pattern matches
    what it accepts from the first character on, and so it does the line at which the item ends. -/
theorem fromStart_of_extract? {d : Definition} {m : ItemMatcher} (hm : ofDefinition? d = .ok m) (f : SourceFile) :
    (∀ c ∈ m.start.captures f.content.toList, m.BindsPattern c → ∀ line stop,
      m.endPattern? f line (properties c) = .ok stop → FromStart stop) ∧
    ∀ items, m.extract? f = .ok items → List.Forall₂ (fun c i => m.BindsPattern c → m.EndsFromStart f c i)
      (m.start.captures f.content.toList) items := by
  have hcompiled := compiled_of_ofDefinition? hm
  refine ⟨fun c hc hown line stop hstop => ?_, fun items h => ?_⟩
  · exact fromStart_of_binds hc hown ((endPattern?_eq_ok hcompiled (captured_properties hc)).1 hstop)
  · refine (yields_of_extract? hcompiled h).imp fun c i hci hown => ?_
    obtain ⟨hc, hi⟩ := hci
    obtain ⟨stop, hstop, ⟨-, -, line, hline, hacc⟩, -⟩ := hi.lineEnd
    obtain ⟨j, hj⟩ := fromStart_of_binds hc hown hstop _ hacc
    exact ⟨stop, line, j, (endPattern?_eq_ok hcompiled (captured_properties hc)).2 hstop, hline, hj⟩

/-! ## 3. Two branches -/

/-- Sections that end in one of two ways. -/
def branches : Definition :=
  ⟨"section", itemKind, .template "#BEGIN (?<name>[a-z]+)" (some "#END|#STOP"), ∅, [], ⟨"section.item.index"⟩⟩

/-- A file in which one of the two stands within a line. -/
def stopFile : SourceFile :=
  ⟨"notes", ⟨"notes.txt"⟩, default, "#BEGIN foo\nno #STOP here\n#END\n"⟩

/-- **A further branch within a line does not end a section**: both branches are anchored. -/
theorem fromStart_branches : ∃ m items, ofDefinition? branches = .ok m ∧ m.extract? stopFile = .ok items ∧
    items.map Item.lineEnd = [3] ∧
    List.Forall₂ (m.EndsFromStart stopFile) (m.start.captures stopFile.content.toList) items := by
  have hrun : ((ofDefinition? branches).toOption.bind fun m => (m.extract? stopFile).toOption.bind fun items =>
      (Pattern.ofText? (String.ofList (Template.patternText m.stop.segments))).toOption.map fun _ =>
        (m.stop.isStatic, items.map Item.lineEnd)) = some (true, [3]) := by
    decide +kernel
  obtain ⟨m, hm, hrun⟩ := Option.bind_eq_some_iff.1 hrun
  obtain ⟨items, hitems, hrun⟩ := Option.bind_eq_some_iff.1 hrun
  obtain ⟨q, hq, hrun⟩ := Option.map_eq_some_iff.1 hrun
  obtain ⟨hstatic, hlines⟩ := Prod.mk.inj hrun
  rw [Outcome.toOption_eq_some] at hm hitems hq
  refine ⟨m, items, hm, hitems, hlines, ((fromStart_of_extract? hm stopFile).2 items hitems).imp ?_⟩
  exact fun c i h => h (bindsPattern_of_isStatic hstatic hq)

/-! ## 4. Brackets that do not match -/

/-- Sections that end in one of two ways, **with brackets that do not match**. -/
def unbalanced : Definition :=
  ⟨"section", itemKind, .template "#BEGIN (?<name>[a-z]+)" (some "#END)|(?:#STOP"), ∅, [], ⟨"section.item.index"⟩⟩

/-- A text whose brackets do not match closes the anchored group itself, and **what stands behind that is searched
    for**: the section ends at a line that its end pattern does not match from the first character on. -/
theorem not_fromStart_of_extract? : ¬ ∀ (d : Definition) (m : ItemMatcher) (f : SourceFile) (items : List Item),
    ofDefinition? d = .ok m → m.extract? f = .ok items →
      List.Forall₂ (m.EndsFromStart f) (m.start.captures f.content.toList) items := by
  intro h
  have hrun : ((ofDefinition? unbalanced).toOption.bind fun m => (m.extract? stopFile).toOption.bind fun items =>
      m.staticStop.map fun stop => (items.map Item.lineEnd, (Pattern.findFrom?
        (Node.cat (.place .textStart) stop.node).program.toArray "no #STOP here".toList 0).isSome)) =
      some ([2], false) := by
    decide +kernel
  obtain ⟨m, hm, hrun⟩ := Option.bind_eq_some_iff.1 hrun
  obtain ⟨items, hitems, hrun⟩ := Option.bind_eq_some_iff.1 hrun
  obtain ⟨stop, hstop, hrun⟩ := Option.map_eq_some_iff.1 hrun
  obtain ⟨hlines, hfind⟩ := Prod.mk.inj hrun
  rw [Outcome.toOption_eq_some] at hm hitems
  obtain ⟨i, rfl, hline⟩ := List.map_eq_singleton_iff.1 hlines
  obtain ⟨c, _, ⟨stop', line, j, hstop', hpiece, hmatch⟩, -, -⟩ :=
    List.forall₂_cons_right_iff.1 (h unbalanced m stopFile [i] hm hitems)
  rw [endPattern?, hstop] at hstop'
  cases hstop'
  rw [hline] at hpiece
  have hpiece' : (Text.pieces stopFile.content.toList)[2 - 1]? = some "no #STOP here\n".toList := by
    decide +kernel
  obtain rfl := Option.some.inj (hpiece.symm.trans hpiece')
  have hchomp : Text.chomp "no #STOP here\n".toList = "no #STOP here".toList := by
    decide +kernel
  rw [hchomp] at hmatch
  have hfound := Pattern.isSome_findFrom?_iff.2
    ⟨0, j, Nat.zero_le _, (Template.matches_textStart_iff (Nat.zero_le _)).2 ⟨rfl, hmatch⟩⟩
  rw [hfind] at hfound
  cases hfound

end TreeIndex.ItemMatcher
