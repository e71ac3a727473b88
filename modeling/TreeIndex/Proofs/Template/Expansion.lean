import Mathlib.Data.List.Infix
import Mathlib.Data.List.Nodup
import TreeIndex.Proofs.Extraction.Matcher

/-!
# What templates expand to

A template is the same pattern as a start and as an end, once every tag is known.

* `Part.unknown?`, `lateTags_segmentsFrom`: a placeholder with no fragment, neither its own nor one of the dictionary,
  is late, whatever group names are used in front of it;
* `inPlace`: the parts of a template, each **with those in front of it**; `Part.introduces?`, `Part.expanded`: the
  group name that a part introduces there, and what it expands to;
* `patternText_segmentsFrom`: the names that are used are those that the parts in front ask for, so the parts expand
  one by one, each in its place;
* `nodup_introduced`: a name is introduced once;
* `Expansion`, `expansion_template`: when a start template is refused and for which tag, the pattern that it is
  otherwise, and that **the end template is bound to the same text**.
-/

namespace TreeIndex

theorem Pattern.text_of_ofText? {text : String} {p : Pattern} (h : Pattern.ofText? text = .ok p) : p.text = text := by
  obtain ⟨node, -, h⟩ := Outcome.bind_eq_ok.1 h
  cases h
  rfl

namespace Template

/-! ## 1. Unknown tags -/

/-- The tag of a placeholder that has **no fragment**: none of its own, and none in the dictionary. -/
def Part.unknown? (fragments : Dictionary String) : Part → Option String
  | .literal _ => none
  | .placeholder _ (.fragment _) => none
  | .placeholder tag _ => if fragments.contains (String.ofList tag) then none else some (String.ofList tag)

/-- The tag is that of **the first placeholder** without a fragment. -/
def FirstUnknown (fragments : Dictionary String) (ps : List Part) (tag : String) : Prop :=
  ∃ before p after, ps = before ++ p :: after ∧ p.unknown? fragments = some tag ∧
    ∀ q ∈ before, q.unknown? fragments = none

section Unknown

variable {fragments : Dictionary String} {tag : List Char} {form : Form}

theorem unknown?_placeholder : (Part.placeholder tag form).unknown? fragments =
    if (fragment? fragments tag form).isSome then none else some (String.ofList tag) := by
  rcases form with _ | name | text
  case fragment => rfl
  all_goals
    cases h : fragments.get? (String.ofList tag) <;> simp [Part.unknown?, fragment?, Dictionary.contains, h]

/-- The late tags are **the unknown ones**, whatever names are used. -/
theorem lateTags_segmentsFrom (fragments : Dictionary String) : ∀ (used : List (List Char)) (ps : List Part),
    lateTags (segmentsFrom fragments used ps) = ps.filterMap (Part.unknown? fragments)
  | _, [] => rfl
  | used, .literal _ :: ps => lateTags_segmentsFrom fragments used ps
  | used, .placeholder tag form :: ps => by
    rw [segmentsFrom, List.filterMap_cons, unknown?_placeholder]
    cases fragment? fragments tag form with
    | none => exact congrArg (String.ofList tag :: ·) (lateTags_segmentsFrom fragments used ps)
    | some text => exact lateTags_segmentsFrom fragments (groupName tag form :: used) ps

end Unknown

/-- The first late tag is **the first unknown one**. -/
theorem head?_lateTags {fragments : Dictionary String} {template tag : String} :
    (lateTags (segments fragments template)).head? = some tag ↔ FirstUnknown fragments (parts template) tag := by
  rw [segments, lateTags_segmentsFrom, List.head?_filterMap, List.findSome?_eq_some_iff]
  rfl

theorem exists_firstUnknown {fragments : Dictionary String} {ps : List Part} :
    (∃ tag, FirstUnknown fragments ps tag) ↔ ∃ p ∈ ps, p.unknown? fragments ≠ none := by
  simp only [FirstUnknown, ← List.findSome?_eq_some_iff, ← Option.isSome_iff_exists, Option.isSome_iff_ne_none,
    ne_eq, List.findSome?_eq_none_iff, not_forall, exists_prop]

/-! ## 2. Parts in their places -/

/-- The name that a placeholder **asks for**. -/
def Part.name? : Part → Option (List Char)
  | .literal _ => none
  | .placeholder tag form => some (groupName tag form)

/-- The name of the group that a part introduces behind others: the one it asks for, **if none of those does**. -/
def Part.introduces? (before : List Part) (p : Part) : Option (List Char) :=
  p.name?.filter fun name => name ∉ before.filterMap Part.name?

/-- What a part **expands to** behind others: text as it is, and a fragment in a group, with the name that the
    placeholder introduces there. -/
def Part.expanded (fragments : Dictionary String) (before : List Part) : Part → List Char
  | .literal text => text
  | .placeholder tag form =>
    let fragment := (fragment? fragments tag form).getD []
    match (Part.placeholder tag form).introduces? before with
    | some name => "(?P<".toList ++ name ++ ['>'] ++ fragment ++ [')']
    | none => "(?:".toList ++ fragment ++ [')']

/-- The parts of a template, each **with those in front of it**. -/
def inPlace (ps : List Part) : List (List Part × Part) :=
  ps.inits.zip ps

/-- What some parts expand to, **one after the other**. -/
def expansion (fragments : Dictionary String) (ps : List Part) : List Char :=
  (inPlace ps).flatMap fun e => e.2.expanded fragments e.1

/-- The names of the groups that some parts introduce, **in order**. -/
def introduced (ps : List Part) : List (List Char) :=
  (inPlace ps).filterMap fun e => e.2.introduces? e.1

/-- The parts of a template **behind some others**, each with those in front of it. -/
def inPlaceBehind (front ps : List Part) : List (List Part × Part) :=
  (ps.inits.map (front ++ ·)).zip ps

theorem inPlaceBehind_nil (ps : List Part) : inPlaceBehind [] ps = inPlace ps := by
  simp [inPlaceBehind, inPlace]

theorem inPlaceBehind_cons (front : List Part) (p : Part) (ps : List Part) :
    inPlaceBehind front (p :: ps) = (front, p) :: inPlaceBehind (front ++ [p]) ps := by
  rw [inPlaceBehind, List.inits_cons, List.map_cons, List.append_nil, List.zip_cons_cons, List.map_map]
  simp [inPlaceBehind, Function.comp_def]

theorem mem_names_snoc {front : List Part} {p : Part} {name : List Char} :
    name ∈ (front ++ [p]).filterMap Part.name? ↔ name ∈ front.filterMap Part.name? ∨ p.name? = some name := by
  rw [List.filterMap_append, List.mem_append, List.mem_filterMap (l := [p])]
  simp

/-! ## 3. Parts one by one -/

section Expansion

variable {fragments : Dictionary String}

/-- Where the names that are used are those that the parts in front ask for, a group is **what the placeholder
    expands to there**. -/
theorem grouped_eq_expanded {front : List Part} {used : List (List Char)} {tag text : List Char} {form : Form}
    (hused : ∀ name, name ∈ used ↔ name ∈ front.filterMap Part.name?)
    (htext : fragment? fragments tag form = some text) :
    grouped used (groupName tag form) text = (Part.placeholder tag form).expanded fragments front := by
  rw [grouped, Part.expanded, htext, Part.introduces?, Part.name?]
  by_cases h : groupName tag form ∈ used
  · rw [if_pos (List.contains_iff_mem.2 h), Option.filter_some_neg (by simpa using (hused _).1 h)]
    rfl
  · rw [if_neg (mt List.contains_iff_mem.1 h), Option.filter_some_pos (by simpa using mt (hused _).2 h)]
    simp

/-- Where every tag is known, the parts expand **each in its place**. -/
theorem patternText_segmentsFrom : ∀ (front ps : List Part) (used : List (List Char)),
    (∀ name, name ∈ used ↔ name ∈ front.filterMap Part.name?) → (∀ p ∈ ps, p.unknown? fragments = none) →
      patternText (segmentsFrom fragments used ps) =
        (inPlaceBehind front ps).flatMap fun e => e.2.expanded fragments e.1
  | front, [], used, _, _ => rfl
  | front, .literal text :: ps, used, hused, hps => by
    have hused' (name : List Char) : name ∈ used ↔ name ∈ (front ++ [Part.literal text]).filterMap Part.name? := by
      rw [hused, mem_names_snoc, Part.name?]
      simp
    have hrest := patternText_segmentsFrom (front ++ [.literal text]) ps used hused'
      fun p hp => hps p (List.mem_cons_of_mem _ hp)
    rw [inPlaceBehind_cons, List.flatMap_cons, ← hrest]
    rfl
  | front, .placeholder tag form :: ps, used, hused, hps => by
    have hknown := hps _ List.mem_cons_self
    rw [unknown?_placeholder] at hknown
    rw [segmentsFrom]
    cases htext : fragment? fragments tag form with
    | none =>
      rw [htext] at hknown
      cases hknown
    | some text =>
      have hused' (name : List Char) : name ∈ groupName tag form :: used ↔
          name ∈ (front ++ [Part.placeholder tag form]).filterMap Part.name? := by
        rw [List.mem_cons, hused, mem_names_snoc, Part.name?, Option.some_inj, or_comm, eq_comm]
      have hrest := patternText_segmentsFrom (front ++ [.placeholder tag form]) ps _ hused'
        fun p hp => hps p (List.mem_cons_of_mem _ hp)
      rw [inPlaceBehind_cons, List.flatMap_cons, ← hrest, ← grouped_eq_expanded hused htext]
      rfl

/-- A template in which every tag is known expands **part by part**. -/
theorem patternText_segments {template : String} (h : ∀ p ∈ parts template, p.unknown? fragments = none) :
    patternText (segments fragments template) = expansion fragments (parts template) := by
  rw [segments, patternText_segmentsFrom [] (parts template) [] (by simp) h, inPlaceBehind_nil, expansion]

end Expansion

/-- Behind some parts the names that are introduced differ from one another, **and from those that were asked for**. -/
theorem nodup_introduced_behind : ∀ (front ps : List Part),
    ((inPlaceBehind front ps).filterMap fun e => e.2.introduces? e.1).Nodup ∧
      ∀ name ∈ (inPlaceBehind front ps).filterMap fun e => e.2.introduces? e.1,
        name ∉ front.filterMap Part.name?
  | front, [] => by simp [inPlaceBehind]
  | front, p :: ps => by
    obtain ⟨hnodup, hnew⟩ := nodup_introduced_behind (front ++ [p]) ps
    rw [inPlaceBehind_cons, List.filterMap_cons]
    have hfront (name : List Char)
        (hname : name ∈ (inPlaceBehind (front ++ [p]) ps).filterMap fun e => e.2.introduces? e.1) :
        name ∉ front.filterMap Part.name? ∧ p.name? ≠ some name :=
      not_or.1 (mt mem_names_snoc.2 (hnew name hname))
    cases h : p.introduces? front with
    | none => exact ⟨hnodup, fun name hname => (hfront name hname).1⟩
    | some name =>
      obtain ⟨hasked, hfresh⟩ := Option.filter_eq_some_iff.1 h
      refine ⟨List.nodup_cons.2 ⟨fun hname => (hfront name hname).2 hasked, hnodup⟩, List.forall_mem_cons.2 ⟨?_, ?_⟩⟩
      · simpa using hfresh
      · exact fun name hname => (hfront name hname).1

/-- A template introduces each name **once**. -/
theorem nodup_introduced (ps : List Part) : (introduced ps).Nodup := by
  rw [introduced, ← inPlaceBehind_nil]
  exact (nodup_introduced_behind [] ps).1

/-! ## 4. Start and end -/

/-- **What a template expands to** under a dictionary, as a start template and as an end template. -/
structure Expansion (fragments : Dictionary String) (file : Path) (template : String) : Prop where
  /-- As a start it is refused for a tag exactly if a placeholder has no fragment, -/
  refused_iff : (∃ tag source path, start? fragments file template = .error (.unresolvedTag tag source path)) ↔
    ∃ p ∈ parts template, p.unknown? fragments ≠ none
  /-- and then for the first such tag. -/
  refused_for : ∀ tag source path, start? fragments file template = .error (.unresolvedTag tag source path) ↔
    FirstUnknown fragments (parts template) tag ∧ source = template ∧ path = file
  /-- Otherwise it is the pattern to which its parts expand, one after the other. -/
  built : (∀ p ∈ parts template, p.unknown? fragments = none) → start? fragments file template =
    build? file ("(?m)" ++ String.ofList (expansion fragments (parts template)))
  /-- No name of a group is introduced twice. -/
  once : (introduced (parts template)).Nodup
  /-- As an end, too, nothing is bound late then. -/
  static : (∀ p ∈ parts template, p.unknown? fragments = none) → ∀ e,
    EndTemplate.ofText? fragments file template = .ok e → e.isStatic = true
  /-- And what is bound as an end, whatever was captured, is the same text. -/
  agree : ∀ p e, start? fragments file template = .ok p → EndTemplate.ofText? fragments file template = .ok e →
    ∀ captures, ∃ text, e.bind? captures = .ok text ∧ p.text = "(?m)" ++ text

section Expands

variable {fragments : Dictionary String} {file : Path} {template : String}

theorem lateTags_eq_nil_iff : lateTags (segments fragments template) = [] ↔
    ∀ p ∈ parts template, p.unknown? fragments = none := by
  rw [segments, lateTags_segmentsFrom, List.filterMap_eq_nil_iff]

/-- A start template is refused **for its first unknown tag**. -/
theorem start?_eq_unresolvedTag {tag source : String} {path : Path} :
    start? fragments file template = .error (.unresolvedTag tag source path) ↔
      FirstUnknown fragments (parts template) tag ∧ source = template ∧ path = file := by
  rw [← head?_lateTags, start?]
  cases lateTags (segments fragments template) with
  | nil => simp [build?_eq_error]
  | cons first tags => simp [eq_comm]

/-- A start template in which every tag is known is **the pattern it expands to**. -/
theorem start?_eq_build? (h : ∀ p ∈ parts template, p.unknown? fragments = none) :
    start? fragments file template = build? file ("(?m)" ++ String.ofList (expansion fragments (parts template))) := by
  rw [start?, lateTags_eq_nil_iff.2 h, startText, patternText_segments h]

/-- An end template is **what it was read from**. -/
theorem ofText?_eq_ok {e : EndTemplate} (h : EndTemplate.ofText? fragments file template = .ok e) :
    e = ⟨template, segments fragments template⟩ := by
  unfold EndTemplate.ofText? at h
  dsimp only at h
  split at h
  · obtain ⟨_, -, h⟩ := Outcome.bind_eq_ok.1 h
    exact (Except.ok.inj h).symm
  · exact (Except.ok.inj h).symm

/-- **A template as a start and as an end.** -/
theorem expansion_template (fragments : Dictionary String) (file : Path) (template : String) :
    Expansion fragments file template where
  refused_iff := by
    simp only [start?_eq_unresolvedTag, exists_and_left, exists_eq, and_true, exists_firstUnknown]
  refused_for _ _ _ := start?_eq_unresolvedTag
  built := start?_eq_build?
  once := nodup_introduced (parts template)
  static h e he := by
    rw [ofText?_eq_ok he, EndTemplate.isStatic, EndTemplate.lateTags, lateTags_eq_nil_iff.2 h]
    rfl
  agree p e hp he captures := by
    obtain ⟨hlate, htext⟩ := start?_eq_ok hp
    obtain rfl := ofText?_eq_ok he
    have hstatic : (EndTemplate.mk template (segments fragments template)).isStatic = true :=
      List.isEmpty_iff.2 hlate
    exact ⟨_, bind?_of_isStatic hstatic captures, Pattern.text_of_ofText? htext⟩

/-- A name that is asked for again only groups, also where another tag asks for it. -/
example : expansion (Dictionary.ofList [("ws", "\\s"), ("name", "[a-z]+")])
      (parts "a\x7bws\x7db\x7bname:ws\x7d\x7bid:[0-9]\x7b2\x7d\x7d") =
    "a(?P<ws>\\s)b(?:[a-z]+)(?P<id>[0-9]\x7b2\x7d)".toList := by
  decide +kernel

end Expands

end Template

end TreeIndex
