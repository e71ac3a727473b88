import TreeIndex.Extraction
import TreeIndex.Proofs.Outcome

/-!
# Matchers of accepted definitions

* `build?_eq_ok`: a pattern that was built comes from its text;
* `bind?_of_isStatic`, `staticText_of_isStatic`: where nothing is bound late, every match binds **the same text**, and
  that text is built in advance;
* `Compiled`: everything that is known of the matcher of a definition (`compiled_of_ofDefinition?`): the
  definition is one of items, both templates are patterns, and the end pattern was built in advance exactly
  where nothing is bound late;
* `cause_of_template`: a definition of items with templates is refused only for its end, a tag, or a pattern;
* `Compiled.endPattern?_eq`: so **the pattern built in advance is the one that the match would bind**.
-/

namespace TreeIndex

open Template

/-! ## 1. Patterns and templates -/

theorem build?_eq_ok {file : Path} {text : String} {p : Pattern} :
    build? file text = .ok p ↔ Pattern.ofText? text = .ok p := by
  unfold build?
  cases h : Pattern.ofText? text with
  | error e => exact ⟨nofun, nofun⟩
  | ok q => simp only [Except.ok.injEq]

theorem build?_eq_error {file : Path} {text : String} {fault : Fault} :
    build? file text = .error fault ↔
      (∃ defect, Pattern.ofText? text = .error defect) ∧ fault = .invalidPattern text file := by
  unfold build?
  cases h : Pattern.ofText? text with
  | error e => simp only [Except.error.injEq, exists_eq', true_and, eq_comm]
  | ok q => simp

theorem start?_eq_ok {fragments : Dictionary String} {file : Path} {template : String} {p : Pattern}
    (h : start? fragments file template = .ok p) :
    lateTags (Template.segments fragments template) = [] ∧
      Pattern.ofText? (startText (Template.segments fragments template)) = .ok p := by
  unfold start? at h
  dsimp only at h
  cases htags : lateTags (Template.segments fragments template) with
  | nil =>
    rw [htags] at h
    exact ⟨rfl, build?_eq_ok.1 h⟩
  | cons tag tags =>
    rw [htags] at h
    cases h

/-- Both templates of an accepted pair are what they were read from. -/
theorem pair?_eq_ok {fragments : Dictionary String} {file : Path} {start stop : String} {p : Pattern}
    {e : EndTemplate} (h : pair? fragments file start stop = .ok (p, e)) :
    start? fragments file start = .ok p ∧ EndTemplate.ofText? fragments file stop = .ok e ∧
      ∀ tag ∈ e.lateTags, tag ∈ p.groupNames := by
  obtain ⟨q, hq, h⟩ := Outcome.bind_eq_ok.1 h
  obtain ⟨r, hr, h⟩ := Outcome.bind_eq_ok.1 h
  cases hfind : r.lateTags.find? fun tag => !q.groupNames.contains tag with
  | some tag =>
    rw [hfind] at h
    cases h
  | none =>
    rw [hfind] at h
    cases h
    refine ⟨hq, hr, fun tag htag => ?_⟩
    have hall := List.find?_eq_none.1 hfind tag htag
    simpa using hall

/-- A pair is refused because **a tag is not known**, or a text is no pattern. -/
theorem pair?_eq_error {fragments : Dictionary String} {file : Path} {start stop : String} {fault : Fault}
    (h : pair? fragments file start stop = .error fault) :
    (∃ tag template, fault = .unresolvedTag tag template file) ∨ ∃ text, fault = .invalidPattern text file := by
  rcases Outcome.bind_eq_error.1 h with h | ⟨p, -, h⟩
  · unfold start? at h
    dsimp only at h
    split at h
    · exact Or.inl ⟨_, _, (Except.error.inj h).symm⟩
    · exact Or.inr ⟨_, (build?_eq_error.1 h).2⟩
  rcases Outcome.bind_eq_error.1 h with h | ⟨e, -, h⟩
  · unfold EndTemplate.ofText? at h
    dsimp only at h
    split at h
    · rcases Outcome.bind_eq_error.1 h with h | ⟨_, -, h⟩
      · exact Or.inr ⟨_, (build?_eq_error.1 h).2⟩
      · cases h
    · cases h
  · split at h
    · exact Or.inl ⟨_, _, (Except.error.inj h).symm⟩
    · cases h

/-! ## 2. End templates without late tags -/

theorem bindSegments?_of_lateTags_nil (captures : Dictionary String) : ∀ {ss : List Segment},
    lateTags ss = [] → EndTemplate.bindSegments? captures ss = .ok (patternText ss)
  | [], _ => rfl
  | .pattern text :: ss, h => by
    have hss : lateTags ss = [] := h
    rw [EndTemplate.bindSegments?, bindSegments?_of_lateTags_nil captures hss]
    rfl
  | .late _ :: _, h => by cases h

/-- Where nothing is bound late, every match binds **the same text**. -/
theorem bind?_of_isStatic {e : EndTemplate} (h : e.isStatic = true) (captures : Dictionary String) :
    e.bind? captures = .ok (String.ofList (patternText e.segments)) := by
  have hnil : lateTags e.segments = [] := List.isEmpty_iff.1 h
  rw [EndTemplate.bind?, bindSegments?_of_lateTags_nil captures hnil]
  rfl

/-- So the text that is built in advance is **no fallback**. -/
theorem staticText_of_isStatic {e : EndTemplate} (h : e.isStatic = true) :
    e.staticText = anchored (String.ofList (patternText e.segments)) := by
  rw [EndTemplate.staticText, bind?_of_isStatic h]
  rfl

/-! ## 3. Matchers -/

namespace ItemMatcher

/-- What is known of **the matcher of a definition**. -/
structure Compiled (d : Definition) (m : ItemMatcher) : Prop where
  definition : m.definition = d
  kind : d.kind = itemKind
  templates : ∃ start stop text, d.identifier = .template start stop ∧
    endTemplate? d stop = .ok text ∧ pair? d.fragments d.source start text = .ok (m.start, m.stop)
  static : ∀ p, m.staticStop = some p ↔
    m.stop.isStatic = true ∧ build? d.source m.stop.staticText = .ok p

theorem compiled_of_ofDefinition? {d : Definition} {m : ItemMatcher} (h : ofDefinition? d = .ok m) :
    Compiled d m := by
  unfold ofDefinition? at h
  split at h
  · cases h
  · rename_i hkind
    rw [ne_eq, Decidable.not_not] at hkind
    split at h
    · rename_i start stop hid
      obtain ⟨text, htext, h⟩ := Outcome.bind_eq_ok.1 h
      obtain ⟨⟨p, e⟩, hpair, h⟩ := Outcome.bind_eq_ok.1 h
      have htemplates : ∃ start stop text, d.identifier = .template start stop ∧
          endTemplate? d stop = .ok text ∧ pair? d.fragments d.source start text = .ok (p, e) :=
        ⟨start, stop, text, hid, htext, hpair⟩
      dsimp only at h
      split at h
      · rename_i hstatic
        obtain ⟨q, hq, h⟩ := Outcome.bind_eq_ok.1 h
        cases h
        refine ⟨rfl, hkind, htemplates, fun r => ⟨fun hr => ?_, fun hr => ?_⟩⟩
        · cases hr
          exact ⟨hstatic, hq⟩
        · rw [hq] at hr
          cases hr.2
          rfl
      · rename_i hstatic
        cases h
        exact ⟨rfl, hkind, htemplates, fun r => ⟨nofun, fun hr => absurd hr.1 hstatic⟩⟩
    · cases h

section Templates

variable {d : Definition} {start : String} {stop : Option String} {file : Path} {cause : ConfigurationCause}
  (hkind : d.kind = itemKind) (hid : d.identifier = .template start stop)

include hkind hid

/-- Of a definition of items that has templates and an end, **no configuration is at fault**. -/
theorem ne_configuration_of_end {text : String} (hend : endTemplate? d stop = .ok text) :
    ofDefinition? d ≠ .error (.configuration file cause) := by
  intro h
  rw [ofDefinition?, if_neg (not_not_intro hkind), hid] at h
  dsimp only at h
  rw [hend, Outcome.ok_bind] at h
  rcases Outcome.bind_eq_error.1 h with h | ⟨⟨p, e⟩, -, h⟩
  · rcases pair?_eq_error h with ⟨_, _, hf⟩ | ⟨_, hf⟩ <;> cases hf
  · dsimp only at h
    split at h
    · rcases Outcome.bind_eq_error.1 h with h | ⟨q, -, h⟩
      · cases (build?_eq_error.1 h).2
      · cases h
    · cases h

/-- Without an end, **only that is its fault**. -/
theorem ofDefinition?_of_end_eq_error {fault : Fault} (hend : endTemplate? d stop = .error fault) :
    ofDefinition? d = .error fault := by
  rw [ofDefinition?, if_neg (not_not_intro hkind), hid]
  dsimp only
  rw [hend]
  rfl

/-- Of a definition of items that has templates, no configuration is at fault **except that it says no end**. -/
theorem cause_of_template (h : ofDefinition? d = .error (.configuration file cause)) : cause = .noEnd d.name := by
  cases hend : endTemplate? d stop with
  | ok text => exact absurd h (ne_configuration_of_end hkind hid hend)
  | error fault =>
    rw [ofDefinition?_of_end_eq_error hkind hid hend] at h
    obtain rfl := Except.error.inj h
    unfold endTemplate? at hend
    split at hend
    · cases hend
    · split at hend <;> cases hend
      rfl

end Templates

/-- The start pattern of a matcher was read from a text. -/
theorem Compiled.start_ofText? {d : Definition} {m : ItemMatcher} (h : Compiled d m) :
    ∃ source, Pattern.ofText? source = .ok m.start := by
  obtain ⟨start, _, text, _, _, hpair⟩ := h.templates
  exact ⟨_, (start?_eq_ok (pair?_eq_ok hpair).1).2⟩

/-- **The end pattern built in advance** is the one that the match would bind. -/
theorem Compiled.endPattern?_eq {d : Definition} {m : ItemMatcher} (h : Compiled d m) (f : SourceFile)
    (line : Nat) (captured : Dictionary String) :
    m.endPattern? f line captured =
      match m.stop.bind? captured with
      | .ok text => build? m.definition.source (anchored text)
      | .error tag => .error (.unboundTag tag m.stop.template f.path line captured) := by
  unfold endPattern?
  cases hs : m.staticStop with
  | none => rfl
  | some p =>
    obtain ⟨hstatic, hp⟩ := (h.static p).1 hs
    rw [staticText_of_isStatic hstatic] at hp
    rw [bind?_of_isStatic hstatic, h.definition]
    exact hp.symm

end ItemMatcher

end TreeIndex
