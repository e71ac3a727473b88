import TreeIndex.Proofs.Extraction.Items
import TreeIndex.Proofs.Template.Anchored
import TreeIndex.Proofs.Template.Expansion
import TreeIndex.Proofs.Template.Reading

/-!
# Ends that repeat what was captured

An end template of plain texts with late tags between them ends an item at the first line that **begins with these
texts and with what the tags captured**, character by character.

* `Echo`: such a template, as it is written and with values in place of its tags; `Echo.Late`: its texts mean nothing
  in a pattern, and the dictionary holds none of its tags;
* `bindSegments?_chars`: what the template binds, piece by piece in the order of the text;
* `spells_bound`: which spells the template with its values;
* `BeginsLine`, `Echoes`, `echoes_of_ofDefinition?`: so the lines that can end the item are those that begin with it.
-/

namespace TreeIndex.Template

open Pattern (standsForItself Spells)

/-! ## 1. Texts with tags between them -/

/-- A template of **texts with tags between them**: a first text, then tags, each with the text behind it. -/
structure Echo where
  lead : List Char
  tags : List (List Char × List Char)

namespace Echo

/-- The template **as it is written**. -/
def chars (e : Echo) : List Char :=
  e.lead ++ e.tags.flatMap fun t => (Part.placeholder t.1 .plain).chars ++ t.2

/-- The template with **a value in place of each tag**. -/
def filled (e : Echo) (value : List Char → List Char) : List Char :=
  e.lead ++ e.tags.flatMap fun t => value t.1 ++ t.2

/-- The template with each value **as a pattern that matches itself**. -/
def bound (e : Echo) (value : List Char → List Char) : List Char :=
  e.lead ++ e.tags.flatMap fun t => (Pattern.escape (String.ofList (value t.1))).toList ++ t.2

/-- The texts mean nothing in a pattern, and the tags are **unknown to the dictionary**. -/
structure Late (fragments : Dictionary String) (e : Echo) : Prop where
  lead : ∀ c ∈ e.lead, standsForItself c = true
  texts : ∀ t ∈ e.tags, ∀ c ∈ t.2, standsForItself c = true
  tags : ∀ t ∈ e.tags, isIdentifier t.1 = true
  unknown : ∀ t ∈ e.tags, fragments.get? (String.ofList t.1) = none

end Echo

/-! ## 2. What is bound -/

section Binds

variable {fragments captured : Dictionary String} {used : List (List Char)} {text rest cs : List Char} {ps : List Part}

/-- Literal text is bound **as it stands**, also where it joins other literal text. -/
theorem bindSegments?_pushLiteral
    (h : EndTemplate.bindSegments? captured (segmentsFrom fragments used ps) = .ok rest) :
    EndTemplate.bindSegments? captured (segmentsFrom fragments used (pushLiteral text ps)) = .ok (text ++ rest) := by
  rcases ps with _ | ⟨more | ⟨tag, form⟩, ps⟩
  · cases h
    rfl
  · obtain ⟨behind, hbehind, hrest⟩ := Outcome.bind_eq_ok.1 h
    obtain rfl := Except.ok.inj hrest
    rw [pushLiteral, segmentsFrom, EndTemplate.bindSegments?, hbehind, Outcome.ok_bind, List.append_assoc]
  · rw [pushLiteral, segmentsFrom, EndTemplate.bindSegments?, h]
    · rfl
    · intro _ _ h
      cases h

theorem bindSegments?_text (h : EndTemplate.bindSegments? captured (segmentsFrom fragments used (partsFrom 0 cs)) =
    .ok rest) : ∀ {text : List Char}, (∀ c ∈ text, standsForItself c = true) →
      EndTemplate.bindSegments? captured (segmentsFrom fragments used (partsFrom 0 (text ++ cs))) =
        .ok (text ++ rest)
  | [], _ => h
  | c :: text, htext => by
    obtain ⟨hc, htext⟩ := List.forall_mem_cons.1 htext
    have hpiece : IsPiece [c] (text ++ cs) := by
      refine .char ?_ ?_ <;> rintro rfl <;> cases hc
    rw [List.cons_append, ← List.singleton_append, partsFrom_piece hpiece]
    exact bindSegments?_pushLiteral (bindSegments?_text h htext)

/-- A late tag is bound to **what was captured for it, escaped**. -/
theorem bindSegments?_tag {tag : List Char} (htag : isIdentifier tag = true)
    (hunknown : fragments.get? (String.ofList tag) = none) {value : String}
    (hvalue : captured.get? (String.ofList tag) = some value)
    (h : EndTemplate.bindSegments? captured (segmentsFrom fragments used (partsFrom 0 cs)) = .ok rest) :
    EndTemplate.bindSegments? captured
      (segmentsFrom fragments used (partsFrom 0 ((Part.placeholder tag .plain).chars ++ cs))) =
        .ok ((Pattern.escape value).toList ++ rest) := by
  have hfragment : fragment? fragments tag .plain = none := by
    rw [fragment?, hunknown]
    · rfl
    · intro _ h
      cases h
  have hsound : (Part.placeholder tag .plain).Sound := ⟨htag, trivial⟩
  rw [partsFrom_placeholder hsound, segmentsFrom, hfragment]
  simp only [EndTemplate.bindSegments?, hvalue, h, Outcome.ok_bind]

theorem bindSegments?_tags {value : List Char → List Char} : ∀ {tags : List (List Char × List Char)},
    (∀ t ∈ tags, ∀ c ∈ t.2, standsForItself c = true) → (∀ t ∈ tags, isIdentifier t.1 = true) →
    (∀ t ∈ tags, fragments.get? (String.ofList t.1) = none) →
    (∀ t ∈ tags, captured.get? (String.ofList t.1) = some (String.ofList (value t.1))) →
      EndTemplate.bindSegments? captured (segmentsFrom fragments used
        (partsFrom 0 (tags.flatMap fun t => (Part.placeholder t.1 .plain).chars ++ t.2))) =
          .ok (tags.flatMap fun t => (Pattern.escape (String.ofList (value t.1))).toList ++ t.2)
  | [], _, _, _, _ => rfl
  | t :: tags, htexts, htags, hunknown, hvalue => by
    obtain ⟨htext, htexts⟩ := List.forall_mem_cons.1 htexts
    obtain ⟨htag, htags⟩ := List.forall_mem_cons.1 htags
    obtain ⟨hnew, hunknown⟩ := List.forall_mem_cons.1 hunknown
    obtain ⟨hget, hvalue⟩ := List.forall_mem_cons.1 hvalue
    have hbehind := bindSegments?_text (bindSegments?_tags htexts htags hunknown hvalue) htext
    rw [List.flatMap_cons, List.flatMap_cons, List.append_assoc, List.append_assoc]
    exact bindSegments?_tag htag hnew hget hbehind

end Binds

section Echo

variable {fragments captured : Dictionary String} {e : Echo} {value : List Char → List Char}

/-- The template is bound **piece by piece**. -/
theorem bind?_chars (he : e.Late fragments)
    (hvalue : ∀ t ∈ e.tags, captured.get? (String.ofList t.1) = some (String.ofList (value t.1))) {file : Path}
    {stop : EndTemplate} (h : EndTemplate.ofText? fragments file (String.ofList e.chars) = .ok stop) :
    stop.bind? captured = .ok (String.ofList (e.bound value)) := by
  rw [ofText?_eq_ok h, EndTemplate.bind?]
  dsimp only
  rw [segments, parts, String.toList_ofList, Echo.chars,
    bindSegments?_text (bindSegments?_tags he.texts he.tags he.unknown hvalue) he.lead]
  rfl

/-- What is bound **spells the template with its values**. -/
theorem spells_bound (he : e.Late fragments) : Spells (e.bound value) (e.filled value) := by
  refine (Pattern.spells_self he.lead).append (Spells.flatMap fun t ht => ?_)
  have hvalue := Pattern.spells_escape (String.ofList (value t.1))
  rw [String.toList_ofList] at hvalue
  exact hvalue.append (Pattern.spells_self (he.texts t ht))

end Echo

end TreeIndex.Template

namespace TreeIndex.ItemMatcher

open Template (Echo)
open Pattern (Capture)

/-! ## 3. Lines that begin with a text -/

/-- The line `n` is one that may end the item of a match, and **it begins with a text**. -/
def BeginsLine (text : List Char) (c : Capture) (front : List Char) (n : Nat) : Prop :=
  lineOf text c < n ∧ c.stop ≤ Text.offset text (n - 1) ∧
    ∃ line, (Text.pieces text)[n - 1]? = some line ∧ front <+: Text.chomp line

/-- The groups of a match captured **the values of the tags**. -/
def Takes (c : Capture) (e : Echo) (value : List Char → List Char) : Prop :=
  ∀ t ∈ e.tags, c.named? (String.ofList t.1) = some (String.ofList (value t.1))

/-- **The end of a match repeats a text.** -/
structure Echoes (m : ItemMatcher) (f : SourceFile) (c : Capture) (front : List Char) : Prop where
  /-- Its end pattern can be built, up to the size of patterns, -/
  built : front.length < Pattern.largest → ∀ line, ∃ stop, m.endPattern? f line (properties c) = .ok stop
  /-- and the lines that can end its item are those that begin with the text. -/
  ends : ∀ line stop, m.endPattern? f line (properties c) = .ok stop →
    ∀ n, CanEnd stop f.content.toList c n ↔ BeginsLine f.content.toList c front n

section Matcher

variable {d : Definition} {m : ItemMatcher} {f : SourceFile} {c : Capture} {e : Echo} {value : List Char → List Char}

/-- An anchored text accepts the lines **that begin with it**. -/
theorem canEnd_iff_of_spells {cs front : List Char} (h : Pattern.Spells cs front) {stop : Pattern}
    (hstop : Pattern.ofText? (Template.anchored (String.ofList cs)) = .ok stop) {text : List Char} {n : Nat} :
    CanEnd stop text c n ↔ BeginsLine text c front n := by
  simp only [CanEnd, BeginsLine, Template.accepts_anchored_spells h hstop]

theorem echoes_of_bind? (hm : Compiled d m) (hc : c ∈ m.start.captures f.content.toList) {cs front : List Char}
    (h : Pattern.Spells cs front) (hbind : m.stop.bind? (properties c) = .ok (String.ofList cs)) :
    m.Echoes f c front := by
  have hcaptured := captured_properties hc
  constructor
  · intro hlength line
    obtain ⟨stop, hstop⟩ := Template.exists_anchored_spells h hlength
    exact ⟨stop, (endPattern?_eq_ok hm hcaptured).2 ((binds_iff hcaptured).2 ⟨_, hbind, hstop⟩)⟩
  · intro line stop hstop n
    obtain ⟨text, htext, hstop⟩ := (binds_iff hcaptured).1 ((endPattern?_eq_ok hm hcaptured).1 hstop)
    obtain rfl := Except.ok.inj (hbind.symm.trans htext)
    exact canEnd_iff_of_spells h hstop

end Matcher

/-- **Late binding repeats what was captured, character by character.** -/
theorem echoes_of_ofDefinition? {d : Definition} {m : ItemMatcher} (hm : ofDefinition? d = .ok m) {start : String}
    {stop : Option String} (hid : d.identifier = .template start stop) {e : Echo} (he : e.Late d.fragments)
    (hstop : endTemplate? d stop = .ok (String.ofList e.chars)) (f : SourceFile) :
    (∀ c ∈ m.start.captures f.content.toList, ∀ value, Takes c e value → m.Echoes f c (e.filled value)) ∧
    ∀ items, m.extract? f = .ok items → List.Forall₂ (fun c i => ∀ value, Takes c e value →
      BeginsLine f.content.toList c (e.filled value) i.lineEnd ∧
        ∀ k < i.lineEnd, ¬ BeginsLine f.content.toList c (e.filled value) k)
      (m.start.captures f.content.toList) items := by
  have hcompiled := compiled_of_ofDefinition? hm
  obtain ⟨start', stop', text, hid', htext, hpair⟩ := hcompiled.templates
  obtain ⟨rfl, rfl⟩ := Identifier.template.inj (hid.symm.trans hid')
  obtain rfl := Except.ok.inj (hstop.symm.trans htext)
  have hechoes {c : Capture} (hc : c ∈ m.start.captures f.content.toList) {value : List Char → List Char}
      (hvalue : Takes c e value) : m.Echoes f c (e.filled value) :=
    echoes_of_bind? hcompiled hc (Template.spells_bound he)
      (Template.bind?_chars he (fun t ht => (captured_properties hc _).trans (hvalue t ht)) (pair?_eq_ok hpair).2.1)
  refine ⟨fun c hc value hvalue => hechoes hc hvalue, fun items h => ?_⟩
  refine (yields_of_extract? hcompiled h).imp fun c i hci value hvalue => ?_
  obtain ⟨hc, hi⟩ := hci
  obtain ⟨stop, hbinds, hfirst⟩ := hi.lineEnd
  have hends := (hechoes hc hvalue).ends 0 stop ((endPattern?_eq_ok hcompiled (captured_properties hc)).2 hbinds)
  exact ⟨(hends _).1 hfirst.1, fun k hk hbegins => hfirst.2 k hk ((hends k).2 hbegins)⟩

/-- Sections whose end repeats their title, whatever it is. -/
def titled : Definition :=
  ⟨"section", itemKind, .template "#BEGIN (?<title>[^#]*)#" (some "#END {title}"), ∅, [], ⟨"section.item.index"⟩⟩

/-- How these sections end. -/
def titledEnd : Echo :=
  ⟨"#END ".toList, [("title".toList, [])]⟩

/-- A file in which one title could be read as a pattern, and one is empty. -/
def titledFile : SourceFile :=
  ⟨"notes", ⟨"notes.txt"⟩, default, "#BEGIN a.*(b#\n#END axx(b\n#END a.*(b and more\n#BEGIN #\n#END \n"⟩

/-- A title with a star and an open bracket ends its section **only where it stands again**. -/
theorem echoes_titled : ∃ m items, ofDefinition? titled = .ok m ∧ m.extract? titledFile = .ok items ∧
    items.map (fun i => (i.lineStart, i.lineEnd)) = [(1, 3), (4, 5)] ∧
    ∃ c ∈ m.start.captures titledFile.content.toList, m.Echoes titledFile c "#END a.*(b".toList := by
  have hrun : ((ofDefinition? titled).toOption.bind fun m => (m.extract? titledFile).toOption.map fun items =>
      (items.map (fun i => (i.lineStart, i.lineEnd)),
        (m.start.captures titledFile.content.toList).map (·.named? "title"))) =
      some ([(1, 3), (4, 5)], [some "a.*(b", some ""]) := by
    decide +kernel
  obtain ⟨m, hm, hrun⟩ := Option.bind_eq_some_iff.1 hrun
  obtain ⟨items, hitems, hrun⟩ := Option.map_eq_some_iff.1 hrun
  obtain ⟨hlines, htitles⟩ := Prod.mk.inj hrun
  rw [Outcome.toOption_eq_some] at hm hitems
  have htitle : some "a.*(b" ∈ (m.start.captures titledFile.content.toList).map (·.named? "title") := by
    rw [htitles]
    exact List.mem_cons_self
  obtain ⟨c, hc, htitle⟩ := List.mem_map.1 htitle
  have hlead : titledEnd.lead.all Pattern.standsForItself = true := by
    decide +kernel
  have htags : titledEnd.tags.all (fun t => t.2.all Pattern.standsForItself && Template.isIdentifier t.1) = true := by
    decide +kernel
  have hlate : titledEnd.Late titled.fragments := by
    simp only [List.all_eq_true, Bool.and_eq_true] at hlead htags
    exact ⟨hlead, fun t ht => (htags t ht).1, fun t ht => (htags t ht).2, fun _ _ => rfl⟩
  have htakes : Takes c titledEnd fun _ => "a.*(b".toList := by
    intro t ht
    obtain rfl := List.mem_singleton.1 ht
    exact htitle
  exact ⟨m, items, hm, hitems, hlines, c, hc, (echoes_of_ofDefinition? hm rfl hlate rfl titledFile).1 c hc _ htakes⟩

end TreeIndex.ItemMatcher
