import TreeIndex.Proofs.Extraction.Items
import TreeIndex.Proofs.Template.Expansion

/-!
# What end templates are bound to

What an end template binds late is captured by the start pattern, so only a group that took no part in a match
leaves it unbound.

* `bindSegments?_eq_error`: the text of an end template is refused **for the first late tag without a value**;
* `Part.bound`, `binding`: what a part is bound to in its place, and what all parts are bound to, one after the other.
  A late tag takes no group name from the parts behind it, so these expand as if only the known parts stood in front
  of them (`bindSegments?_segmentsFrom`);
* `Bound`, `bound_of_pair?`: **how the end template of an accepted pair is bound**, from any captures, from those of
  a match, and in advance.
-/

namespace TreeIndex.Template

/-! ## 1. Late tags without a value -/

section Segments

variable {captured : Dictionary String}

/-- Binding fails for **the first late tag without a value**. -/
theorem bindSegments?_eq_error {tag : String} : ∀ {ss : List Segment},
    EndTemplate.bindSegments? captured ss = .error tag ↔
      (lateTags ss).find? (fun t => !captured.contains t) = some tag
  | [] => by
    rw [EndTemplate.bindSegments?]
    exact iff_of_false (fun h => by cases h) (fun h => by cases h)
  | .pattern text :: ss => by
    rw [EndTemplate.bindSegments?, Outcome.bind_eq_error, bindSegments?_eq_error]
    refine or_iff_left ?_
    rintro ⟨_, -, h⟩
    cases h
  | .late late :: ss => by
    have hlate : lateTags (.late late :: ss) = String.ofList late :: lateTags ss := rfl
    rw [EndTemplate.bindSegments?, hlate, List.find?_cons, Dictionary.contains]
    cases captured.get? (String.ofList late) with
    | none => simp
    | some value =>
      simp only [Outcome.bind_eq_error, bindSegments?_eq_error, Option.isSome_some, Bool.not_true]
      refine or_iff_left ?_
      rintro ⟨_, -, h⟩
      cases h

end Segments

/-! ## 2. Parts in their places -/

/-- The parts that are **no unknown tags**. -/
def known (fragments : Dictionary String) (ps : List Part) : List Part :=
  ps.filter fun p => (p.unknown? fragments).isNone

/-- What a part is **bound to** behind others: an unknown tag to what was captured for it, which matches itself, and
    any other part to what it expands to. An unknown tag takes no group name from the parts behind it. -/
def Part.bound (fragments captured : Dictionary String) (before : List Part) (p : Part) : List Char :=
  match p.unknown? fragments with
  | some tag => (Pattern.escape ((captured.get? tag).getD "")).toList
  | none => p.expanded fragments (known fragments before)

/-- What some parts are bound to, **one after the other**. -/
def binding (fragments captured : Dictionary String) (ps : List Part) : List Char :=
  (inPlace ps).flatMap fun e => e.2.bound fragments captured e.1

section Parts

variable {fragments captured : Dictionary String} {front : List Part} {p : Part}

theorem known_snoc_of_some {tag : String} (h : p.unknown? fragments = some tag) :
    known fragments (front ++ [p]) = known fragments front := by
  simp [known, h]

theorem known_snoc_of_none (h : p.unknown? fragments = none) :
    known fragments (front ++ [p]) = known fragments front ++ [p] := by
  simp [known, h]

/-- Where every late tag has a value, the parts are bound **each in its place**: the names that are used are those that
    the known parts in front ask for. -/
theorem bindSegments?_segmentsFrom : ∀ (front ps : List Part) (used : List (List Char)),
    (∀ name, name ∈ used ↔ name ∈ (known fragments front).filterMap Part.name?) →
    (∀ tag ∈ ps.filterMap (Part.unknown? fragments), captured.contains tag = true) →
      EndTemplate.bindSegments? captured (segmentsFrom fragments used ps) =
        .ok ((inPlaceBehind front ps).flatMap fun e => e.2.bound fragments captured e.1)
  | front, [], used, _, _ => rfl
  | front, .literal text :: ps, used, hused, hps => by
    have hused' (name : List Char) : name ∈ used ↔
        name ∈ (known fragments (front ++ [.literal text])).filterMap Part.name? := by
      rw [hused, known_snoc_of_none rfl, mem_names_snoc, Part.name?]
      simp
    have hrest := bindSegments?_segmentsFrom (front ++ [.literal text]) ps used hused' hps
    rw [segmentsFrom, EndTemplate.bindSegments?, hrest, inPlaceBehind_cons, List.flatMap_cons]
    rfl
  | front, .placeholder tag form :: ps, used, hused, hps => by
    rw [segmentsFrom, inPlaceBehind_cons, List.flatMap_cons, Part.bound]
    cases htext : fragment? fragments tag form with
    | none =>
      have hunknown : (Part.placeholder tag form).unknown? fragments = some (String.ofList tag) := by
        rw [unknown?_placeholder, htext]
        rfl
      rw [List.filterMap_cons_some hunknown] at hps
      obtain ⟨hvalue, hps⟩ := List.forall_mem_cons.1 hps
      obtain ⟨value, hvalue⟩ := Option.isSome_iff_exists.1 hvalue
      have hused' (name : List Char) : name ∈ used ↔
          name ∈ (known fragments (front ++ [.placeholder tag form])).filterMap Part.name? := by
        rw [hused, known_snoc_of_some hunknown]
      have hrest := bindSegments?_segmentsFrom (front ++ [.placeholder tag form]) ps used hused' hps
      simp only [EndTemplate.bindSegments?, hunknown, hvalue, hrest]
      rfl
    | some text =>
      have hunknown : (Part.placeholder tag form).unknown? fragments = none := by
        rw [unknown?_placeholder, htext]
        rfl
      rw [List.filterMap_cons_none hunknown] at hps
      have hused' (name : List Char) : name ∈ groupName tag form :: used ↔
          name ∈ (known fragments (front ++ [.placeholder tag form])).filterMap Part.name? := by
        rw [List.mem_cons, hused, known_snoc_of_none hunknown, mem_names_snoc, Part.name?, Option.some_inj, or_comm,
          eq_comm]
      have hrest := bindSegments?_segmentsFrom (front ++ [.placeholder tag form]) ps _ hused' hps
      simp only [EndTemplate.bindSegments?, hunknown, hrest, grouped_eq_expanded hused htext]
      rfl

end Parts

end TreeIndex.Template

namespace TreeIndex

open Template
open Pattern (Capture)

/-! ## 3. Pairs -/

/-- **How the end template of a pair is bound.** -/
structure Bound (fragments : Dictionary String) (stop : String) (p : Pattern) (e : EndTemplate) : Prop where
  /-- Bound late are the tags without a fragment, in the order of the template, -/
  late : e.lateTags = (parts stop).filterMap (Part.unknown? fragments)
  /-- and each of them is the name of a group of the start pattern. -/
  groups : ∀ tag ∈ e.lateTags, tag ∈ p.groupNames
  /-- Binding succeeds exactly if each of them has a value, with the text to which the parts are bound; -/
  bind_ok : ∀ captured text, e.bind? captured = .ok text ↔
    (∀ tag ∈ e.lateTags, captured.contains tag = true) ∧
      text = String.ofList (binding fragments captured (parts stop))
  /-- otherwise the first one without a value is named. -/
  bind_error : ∀ captured tag, e.bind? captured = .error tag ↔
    e.lateTags.find? (fun t => !captured.contains t) = some tag
  /-- What a match leaves unbound is a group that took no part in it. -/
  absent : ∀ cs, ∀ c ∈ p.captures cs, ∀ tag, e.bind? (ItemMatcher.properties c) = .error tag →
    tag ∈ p.groupNames ∧ c.named? tag = none
  /-- So nothing is left unbound where all groups took part. -/
  complete : ∀ cs, ∀ c ∈ p.captures cs, (∀ name ∈ p.groupNames, c.named? name ≠ none) →
    ∃ text, e.bind? (ItemMatcher.properties c) = .ok text
  /-- An extraction that reports an unbound tag found such a match, and reports what it captured. -/
  reported : ∀ d m, ItemMatcher.ofDefinition? d = .ok m → m.start = p → m.stop = e →
    ∀ f tag template path line captured,
      m.extract? f = .error (.unboundTag tag template path line captured) →
        tag ∈ p.groupNames ∧ ∃ c ∈ p.captures f.content.toList, c.named? tag = none ∧
          line = ItemMatcher.lineOf f.content.toList c ∧ captured = ItemMatcher.properties c
  /-- Where nothing is bound late, all captures bind one text, and it is this one that is built in advance: when the
      pair is read, -/
  static : e.isStatic = true → ∃ text q, (∀ captured, e.bind? captured = .ok text) ∧
    e.staticText = anchored text ∧ Pattern.ofText? (anchored text) = .ok q
  /-- and when a matcher is made of it. -/
  prebuilt : ∀ d m, ItemMatcher.ofDefinition? d = .ok m → m.stop = e → e.isStatic = true →
    ∃ text q, e.bind? ∅ = .ok text ∧ m.staticStop = some q ∧ Pattern.ofText? (anchored text) = .ok q

section Pairs

variable {fragments captured : Dictionary String} {file : Path} {template tag text : String} {e : EndTemplate}

theorem lateTags_of_ofText? (h : EndTemplate.ofText? fragments file template = .ok e) :
    e.lateTags = (parts template).filterMap (Part.unknown? fragments) := by
  obtain rfl := ofText?_eq_ok h
  exact lateTags_segmentsFrom fragments [] (parts template)

theorem bind?_eq_error : e.bind? captured = .error tag ↔
    e.lateTags.find? (fun t => !captured.contains t) = some tag := by
  rw [EndTemplate.bind?, EndTemplate.lateTags, ← bindSegments?_eq_error]
  cases EndTemplate.bindSegments? captured e.segments with
  | error late => simp [Except.map]
  | ok cs =>
    refine iff_of_false (fun h => by cases h) fun h => ?_
    cases h

/-- Binding **succeeds** exactly if every late tag has a value. -/
theorem bind?_eq_ok (h : EndTemplate.ofText? fragments file template = .ok e) : e.bind? captured = .ok text ↔
    (∀ tag ∈ e.lateTags, captured.contains tag = true) ∧
      text = String.ofList (binding fragments captured (parts template)) := by
  by_cases hall : ∀ tag ∈ e.lateTags, captured.contains tag = true
  · have hsegments : e.segments = segmentsFrom fragments [] (parts template) := by
      rw [ofText?_eq_ok h]
      rfl
    have hbind := bindSegments?_segmentsFrom [] (parts template) [] (fun _ => by simp [known])
      (lateTags_of_ofText? h ▸ hall)
    rw [inPlaceBehind_nil] at hbind
    rw [EndTemplate.bind?, hsegments, hbind, and_iff_right hall]
    exact ⟨fun h => (Except.ok.inj h).symm, fun h => h ▸ rfl⟩
  · refine ⟨fun hok => absurd hok ?_, fun h => absurd h.1 hall⟩
    push Not at hall
    obtain ⟨tag, htag, hvalue⟩ := hall
    have hfind : (e.lateTags.find? fun t => !captured.contains t).isSome = true :=
      List.find?_isSome.2 ⟨tag, htag, by simpa using hvalue⟩
    obtain ⟨first, hfirst⟩ := Option.isSome_iff_exists.1 hfind
    rw [bind?_eq_error.2 hfirst]
    intro h
    cases h

/-- An end template in which nothing is bound late **is a pattern**: it was built when it was read. -/
theorem exists_ofText?_staticText (h : EndTemplate.ofText? fragments file template = .ok e)
    (hs : e.isStatic = true) : ∃ q, Pattern.ofText? e.staticText = .ok q := by
  have he := ofText?_eq_ok h
  unfold EndTemplate.ofText? at h
  dsimp only at h
  rw [← he, if_pos hs] at h
  obtain ⟨q, hq, -⟩ := Outcome.bind_eq_ok.1 h
  exact ⟨q, build?_eq_ok.1 hq⟩

end Pairs

/-- **The end template of an accepted pair.** -/
theorem bound_of_pair? {fragments : Dictionary String} {file : Path} {start stop : String} {p : Pattern}
    {e : EndTemplate} (h : pair? fragments file start stop = .ok (p, e)) : Bound fragments stop p e := by
  obtain ⟨-, hend, hgroups⟩ := pair?_eq_ok h
  have habsent {cs : List Char} {c : Capture} (hc : c ∈ p.captures cs) {tag : String}
      (hbind : e.bind? (ItemMatcher.properties c) = .error tag) : tag ∈ p.groupNames ∧ c.named? tag = none := by
    have hfind := bind?_eq_error.1 hbind
    refine ⟨hgroups tag (List.mem_of_find?_eq_some hfind), ?_⟩
    rw [← ItemMatcher.captured_properties hc tag]
    simpa [Dictionary.contains] using List.find?_some hfind
  have hstatic (hs : e.isStatic = true) : ∃ text q, (∀ captured, e.bind? captured = .ok text) ∧
      e.staticText = anchored text ∧ Pattern.ofText? (anchored text) = .ok q := by
    obtain ⟨q, hq⟩ := exists_ofText?_staticText hend hs
    rw [staticText_of_isStatic hs] at hq
    exact ⟨_, q, bind?_of_isStatic hs, staticText_of_isStatic hs, hq⟩
  exact
    { late := lateTags_of_ofText? hend
      groups := hgroups
      bind_ok := fun _ _ => bind?_eq_ok hend
      bind_error := fun _ _ => bind?_eq_error
      absent := fun _ _ hc _ => habsent hc
      complete := by
        intro cs c hc hall
        cases hbind : e.bind? (ItemMatcher.properties c) with
        | ok text => exact ⟨text, rfl⟩
        | error tag =>
          obtain ⟨hgroup, hnone⟩ := habsent hc hbind
          exact absurd hnone (hall tag hgroup)
      reported := by
        rintro d m hm rfl rfl f tag template path line captured hfault
        obtain ⟨c, hc, hrefuses⟩ := ItemMatcher.exists_refuses (ItemMatcher.compiled_of_ofDefinition? hm) hfault
        cases hrefuses with
        | unbound hcaptured hbind =>
          obtain rfl := hcaptured.unique (ItemMatcher.captured_properties hc)
          obtain ⟨hgroup, hnone⟩ := habsent hc hbind
          exact ⟨hgroup, c, hc, hnone, rfl, rfl⟩
      static := hstatic
      prebuilt := by
        rintro d m hm rfl hs
        obtain ⟨text, q, hbind, htext, hq⟩ := hstatic hs
        have hbuild : build? d.source m.stop.staticText = .ok q := build?_eq_ok.2 (htext ▸ hq)
        exact ⟨text, q, hbind ∅, ((ItemMatcher.compiled_of_ofDefinition? hm).static q).2 ⟨hs, hbuild⟩, hq⟩ }

/-- A pair that binds a group late which need not take part, behind a fragment of the dictionary. -/
theorem bound_label : ∃ p e,
    pair? (Dictionary.ofList [("ws", "\\s*")]) ⟨"label.item.index"⟩ "#BEGIN( {label:[a-z]+})?" "{ws}#END {label}" =
      .ok (p, e) ∧ e.lateTags = ["label"] ∧
    Bound (Dictionary.ofList [("ws", "\\s*")]) "{ws}#END {label}" p e := by
  have hrun : (pair? (Dictionary.ofList [("ws", "\\s*")]) ⟨"label.item.index"⟩ "#BEGIN( {label:[a-z]+})?"
      "{ws}#END {label}").toOption.map (fun e => e.2.lateTags) = some ["label"] := by
    decide +kernel
  cases hpair : pair? (Dictionary.ofList [("ws", "\\s*")]) ⟨"label.item.index"⟩ "#BEGIN( {label:[a-z]+})?"
      "{ws}#END {label}" with
  | error fault =>
    rw [hpair] at hrun
    cases hrun
  | ok pair =>
    rw [hpair] at hrun
    exact ⟨pair.1, pair.2, rfl, Option.some.inj hrun, bound_of_pair? hpair⟩

end TreeIndex
