import TreeIndex.Proofs.Definitions.Tags

/-!
# Configurations that are refused

What a definition says of its tags and of what it recognises is read or refused, and a refusal tells **the first thing
that is wrong**.

* `IsTag`, `WellTagged`, `exists_parseTags?_iff`: tags that can be read; `TagsFlaw`, `parseTags?_eq_error_iff`: why
  others cannot;
* `IsEnding`, `IsTemplates`, `Recognises`, `exists_identifier?_iff`: what can be recognised; `IdentifierFlaw`,
  `identifier?_eq_error_iff`: why others cannot;
* `Draft.Inherits`, `exists_onto?_iff`: which drafts inherit from a root; `Draft.Flaw`, `onto?_eq_error_iff`: why others
  do not.
-/

namespace TreeIndex

open Yaml (Value Mapping mergeMappings)

namespace Definition

variable {name kind : String} {config m : Mapping} {v : Value} {e : Value × Value} {cause : ConfigurationCause}

/-! ## 1. Tags -/

/-- An entry is **a tag and its fragment**: a text and a scalar. -/
def IsTag (e : Value × Value) : Prop :=
  (∃ tag, e.1.asText? = some tag) ∧ ∃ fragment, e.2.scalarText? = some fragment

/-- What a configuration holds its tags in. -/
def tagsValue? (config : Mapping) : Option Value :=
  (Mapping.get? config "parseTags").or (Mapping.get? config "parse_tags")

/-- The **tags can be read**: there are none, or they are a mapping of tags to fragments. -/
def WellTagged (config : Mapping) : Prop :=
  ∀ v, tagsValue? config = some v → ∃ entries, v.asMapping? = some entries ∧ ∀ e ∈ entries, IsTag e

/-- **Why tags cannot be read**: they are no mapping, or some first entry is no tag. -/
inductive TagsFlaw (config : Mapping) : ConfigurationCause → Prop
  | shape {v : Value} (hv : tagsValue? config = some v) (hshape : v.asMapping? = none) : TagsFlaw config .tagsShape
  | entry {v : Value} {before after : Mapping} {e : Value × Value} (hv : tagsValue? config = some v)
      (hentries : v.asMapping? = some (before ++ e :: after)) (hbefore : ∀ b ∈ before, IsTag b) (he : ¬ IsTag e) :
      TagsFlaw config (.tagEntry e.1)

theorem exists_tagEntry?_iff : (∃ r, tagEntry? e = .ok r) ↔ IsTag e := by
  unfold tagEntry? IsTag
  cases e.1.asText? <;> cases e.2.scalarText? <;> simp

theorem tagEntry?_eq_error_iff : tagEntry? e = .error cause ↔ ¬ IsTag e ∧ cause = .tagEntry e.1 := by
  unfold tagEntry? IsTag
  cases e.1.asText? <;> cases e.2.scalarText? <;> simp [eq_comm]

theorem exists_tagsOf?_iff :
    (∃ tags, tagsOf? v = .ok tags) ↔ ∃ entries, v.asMapping? = some entries ∧ ∀ e ∈ entries, IsTag e := by
  constructor
  · intro ⟨tags, htags⟩
    obtain ⟨entries, rs, hentries, hrs, -⟩ := tagsOf?_eq_ok.1 htags
    exact ⟨entries, hentries, fun e he => exists_tagEntry?_iff.1 (exists_tag_of_mem hrs e he)⟩
  · intro ⟨entries, hentries, hall⟩
    obtain ⟨rs, hrs⟩ := Outcome.exists_mapM_eq_ok fun e he => exists_tagEntry?_iff.2 (hall e he)
    exact ⟨_, tagsOf?_eq_ok.2 ⟨entries, rs, hentries, hrs, rfl⟩⟩

theorem exists_parseTags?_iff : (∃ tags, parseTags? config = .ok tags) ↔ WellTagged config := by
  rw [WellTagged, tagsValue?, parseTags?_eq]
  cases (Mapping.get? config "parseTags").or (Mapping.get? config "parse_tags") with
  | none => simp
  | some v => simp [exists_tagsOf?_iff]

theorem parseTags?_of_value (hv : tagsValue? config = some v) : parseTags? config = tagsOf? v := by
  rw [tagsValue?] at hv
  rw [parseTags?_eq, hv]

/-- **Tags are refused** for their first flaw. -/
theorem parseTags?_eq_error_iff : parseTags? config = .error cause ↔ TagsFlaw config cause := by
  constructor
  · intro h
    rw [parseTags?_eq] at h
    split at h
    · cases h
    rename_i v hv
    unfold tagsOf? at h
    split at h
    · rename_i hshape
      obtain rfl := Except.error.inj h
      exact .shape hv hshape
    · rename_i entries hentries
      obtain ⟨before, e, after, rfl, hbefore, he⟩ := Outcome.mapM_eq_error_iff.1 (Outcome.map_eq_error.1 h)
      obtain ⟨hno, rfl⟩ := tagEntry?_eq_error_iff.1 he
      exact .entry hv hentries (fun b hb => exists_tagEntry?_iff.1 (hbefore b hb)) hno
  · intro h
    cases h with
    | shape hv hshape => rw [parseTags?_of_value hv, tagsOf?, hshape]
    | @entry v before after e hv hentries hbefore he =>
      have hfirst : (before ++ e :: after).mapM tagEntry? = .error (.tagEntry e.1) :=
        Outcome.mapM_eq_error_iff.2 ⟨before, e, after, rfl, fun b hb => exists_tagEntry?_iff.2 (hbefore b hb),
          tagEntry?_eq_error_iff.2 ⟨he, rfl⟩⟩
      rw [parseTags?_of_value hv, tagsOf?, hentries]
      exact Outcome.map_eq_error.2 hfirst

/-! ## 2. Identifiers -/

/-- A value is **an ending**: a text that is not empty. -/
def IsEnding (v : Value) : Prop :=
  ∃ text, text ≠ "" ∧ v = .text text

/-- A value is **a pair of templates**: the first one is a text, the second one is missing, null or a text. -/
def IsTemplates (v : Value) : Prop :=
  ∃ m start, v.asMapping? = some m ∧ Mapping.get? m "start" = some (.text start) ∧
    ∀ stop, Mapping.get? m "end" = some stop → stop = .null ∨ ∃ text, stop = .text text

/-- **What a configuration recognises can be read**: templates for items, an ending for everything else. -/
def Recognises (kind : String) (config : Mapping) : Prop :=
  ∃ v, Mapping.get? config "identifier" = some v ∧ (kind = itemKind → IsTemplates v) ∧ (kind ≠ itemKind → IsEnding v)

/-- **Why it cannot be read** what a configuration recognises. -/
inductive IdentifierFlaw (name kind : String) (config : Mapping) : ConfigurationCause → Prop
  | missing (hv : Mapping.get? config "identifier" = none) : IdentifierFlaw name kind config (.noIdentifier kind name)
  | ending {v : Value} (hv : Mapping.get? config "identifier" = some v) (hkind : kind ≠ itemKind)
      (hending : ¬ IsEnding v) : IdentifierFlaw name kind config (.suffixShape kind name v)
  | templates {v : Value} (hv : Mapping.get? config "identifier" = some v) (hkind : kind = itemKind)
      (hshape : v.asMapping? = none) : IdentifierFlaw name kind config (.templateShape name)
  | start {v : Value} {m : Mapping} (hv : Mapping.get? config "identifier" = some v) (hkind : kind = itemKind)
      (hm : v.asMapping? = some m) (hstart : ∀ text, Mapping.get? m "start" ≠ some (.text text)) :
      IdentifierFlaw name kind config (.startShape name (Mapping.get? m "start"))
  | stop {v stop : Value} {m : Mapping} {text : String} (hv : Mapping.get? config "identifier" = some v)
      (hkind : kind = itemKind) (hm : v.asMapping? = some m) (hstart : Mapping.get? m "start" = some (.text text))
      (hstop : Mapping.get? m "end" = some stop) (hnull : stop ≠ .null) (htext : ∀ text, stop ≠ .text text) :
      IdentifierFlaw name kind config (.endShape name stop)

theorem exists_suffixOf?_iff : (∃ i, suffixOf? name kind v = .ok i) ↔ IsEnding v := by
  unfold suffixOf? IsEnding
  cases v with
  | text text => by_cases h : text = "" <;> simp [h]
  | _ => simp

theorem suffixOf?_eq_error_iff :
    suffixOf? name kind v = .error cause ↔ ¬ IsEnding v ∧ cause = .suffixShape kind name v := by
  unfold suffixOf? IsEnding
  cases v with
  | text text => by_cases h : text = "" <;> simp [h, eq_comm (a := cause)]
  | _ => simp [eq_comm (a := cause)]

theorem startOf?_eq_ok_iff {start : String} :
    startOf? name m = .ok start ↔ Mapping.get? m "start" = some (.text start) := by
  unfold startOf?
  cases Mapping.get? m "start" with
  | none => simp
  | some v => cases v <;> simp

theorem startOf?_eq_error_iff : startOf? name m = .error cause ↔
    (∀ text, Mapping.get? m "start" ≠ some (.text text)) ∧ cause = .startShape name (Mapping.get? m "start") := by
  unfold startOf?
  cases Mapping.get? m "start" with
  | none => simp [eq_comm]
  | some v => cases v <;> simp [eq_comm]

theorem exists_stopOf?_iff (name : String) : (∃ stop, stopOf? name m = .ok stop) ↔
    ∀ stop, Mapping.get? m "end" = some stop → stop = .null ∨ ∃ text, stop = .text text := by
  unfold stopOf?
  cases Mapping.get? m "end" with
  | none => simp
  | some v =>
    cases v with
    | text text => by_cases h : text = "" <;> simp [h]
    | _ => simp

theorem stopOf?_eq_error_iff (name : String) : stopOf? name m = .error cause ↔
    ∃ stop, Mapping.get? m "end" = some stop ∧ stop ≠ .null ∧ (∀ text, stop ≠ .text text) ∧
      cause = .endShape name stop := by
  unfold stopOf?
  cases Mapping.get? m "end" with
  | none => simp
  | some v =>
    cases v with
    | text text => by_cases h : text = "" <;> simp [h]
    | _ => simp [eq_comm]

theorem exists_templateOf?_iff : (∃ i, templateOf? name v = .ok i) ↔ IsTemplates v := by
  unfold templateOf? IsTemplates
  cases v.asMapping? with
  | none => simp
  | some m =>
    constructor
    · intro ⟨i, hi⟩
      obtain ⟨start, hstart, hi⟩ := Outcome.bind_eq_ok.1 hi
      obtain ⟨stop, hstop, -⟩ := Outcome.bind_eq_ok.1 hi
      exact ⟨m, start, rfl, startOf?_eq_ok_iff.1 hstart, (exists_stopOf?_iff name).1 ⟨stop, hstop⟩⟩
    · intro ⟨_, start, hm, hstart, hstop⟩
      obtain rfl := Option.some.inj hm
      obtain ⟨stop, hstop⟩ := (exists_stopOf?_iff name).2 hstop
      exact ⟨_, Outcome.bind_eq_ok.2 ⟨start, startOf?_eq_ok_iff.2 hstart, Outcome.bind_eq_ok.2 ⟨stop, hstop, rfl⟩⟩⟩

theorem identifier?_of_item (hv : Mapping.get? config "identifier" = some v) (hkind : kind = itemKind) :
    identifier? name kind config = templateOf? name v := by
  rw [identifier?, hv]
  exact if_pos hkind

theorem identifier?_of_ne (hv : Mapping.get? config "identifier" = some v) (hkind : kind ≠ itemKind) :
    identifier? name kind config = suffixOf? name kind v := by
  rw [identifier?, hv]
  exact if_neg hkind

theorem exists_identifier?_iff (name : String) :
    (∃ i, identifier? name kind config = .ok i) ↔ Recognises kind config := by
  unfold identifier? Recognises
  cases Mapping.get? config "identifier" with
  | none => simp
  | some v =>
    by_cases hkind : kind = itemKind
    · simp [hkind, exists_templateOf?_iff]
    · simp [hkind, exists_suffixOf?_iff]

/-- **An identifier is refused** for its first flaw. -/
theorem identifier?_eq_error_iff :
    identifier? name kind config = .error cause ↔ IdentifierFlaw name kind config cause := by
  constructor
  · intro h
    unfold identifier? at h
    split at h
    · rename_i hv
      obtain rfl := Except.error.inj h
      exact .missing hv
    rename_i v hv
    split at h
    · rename_i hkind
      unfold templateOf? at h
      split at h
      · rename_i hshape
        obtain rfl := Except.error.inj h
        exact .templates hv hkind hshape
      · rename_i m hm
        rcases Outcome.bind_eq_error.1 h with h | ⟨start, hstart, h⟩
        · obtain ⟨hstart, rfl⟩ := startOf?_eq_error_iff.1 h
          exact .start hv hkind hm hstart
        · rcases Outcome.bind_eq_error.1 h with h | ⟨_, _, h⟩
          · obtain ⟨stop, hstop, hnull, htext, rfl⟩ := (stopOf?_eq_error_iff name).1 h
            exact .stop hv hkind hm (startOf?_eq_ok_iff.1 hstart) hstop hnull htext
          · cases h
    · rename_i hkind
      obtain ⟨hending, rfl⟩ := suffixOf?_eq_error_iff.1 h
      exact .ending hv hkind hending
  · intro h
    cases h with
    | missing hv => rw [identifier?, hv]
    | ending hv hkind hending =>
      rw [identifier?_of_ne hv hkind]
      exact suffixOf?_eq_error_iff.2 ⟨hending, rfl⟩
    | templates hv hkind hshape => rw [identifier?_of_item hv hkind, templateOf?, hshape]
    | start hv hkind hm hstart =>
      rw [identifier?_of_item hv hkind, templateOf?, hm]
      exact Outcome.bind_eq_error.2 (Or.inl (startOf?_eq_error_iff.2 ⟨hstart, rfl⟩))
    | stop hv hkind hm hstart hstop hnull htext =>
      have hrefused := (stopOf?_eq_error_iff name).2 ⟨_, hstop, hnull, htext, rfl⟩
      rw [identifier?_of_item hv hkind, templateOf?, hm]
      exact Outcome.bind_eq_error.2 (Or.inr ⟨_, startOf?_eq_ok_iff.2 hstart, Outcome.bind_eq_error.2 (Or.inl hrefused)⟩)

/-! ## 3. Definitions -/

theorem inFile_eq_error_iff {β : Type} {source : Path} {r : Except ConfigurationCause β} {fault : Fault} :
    inFile source r = .error fault ↔ ∃ cause, r = .error cause ∧ fault = .configuration source cause := by
  cases r <;> simp [inFile, eq_comm]

theorem exists_root?_iff (kind : String) (source : Path) :
    (∃ d, root? kind config source = .ok d) ↔ WellTagged config := by
  rw [← exists_parseTags?_iff]
  constructor
  · intro ⟨d, hd⟩
    obtain ⟨tags, htags, -⟩ := root?_eq_ok.1 hd
    exact ⟨tags, htags⟩
  · intro ⟨tags, htags⟩
    exact ⟨_, root?_eq_ok.2 ⟨tags, htags, rfl⟩⟩

theorem root?_eq_error_iff {source : Path} {fault : Fault} : root? kind config source = .error fault ↔
    ∃ cause, TagsFlaw config cause ∧ fault = .configuration source cause := by
  rw [root?, inFile_eq_error_iff]
  simp only [Outcome.bind_eq_error, parseTags?_eq_error_iff, reduceCtorEq, and_false, exists_false, or_false]

end Definition

namespace Draft

open Definition (Recognises WellTagged IdentifierFlaw TagsFlaw)

variable {draft : Draft} {root : Definition}

/-- A draft **inherits** from a configuration: it says itself what it recognises, and together with what it inherits it
    can be read. -/
structure Inherits (R : Mapping) (draft : Draft) : Prop where
  own : Mapping.get? draft.config "identifier" ≠ none
  recognises : Recognises draft.kind (mergeMappings R draft.config)
  tagged : WellTagged (mergeMappings R draft.config)

/-- **Why a draft does not inherit** from a configuration. -/
inductive Flaw (R : Mapping) (draft : Draft) : ConfigurationCause → Prop
  | silent (h : Mapping.get? draft.config "identifier" = none) : Flaw R draft (.noIdentifier draft.kind draft.name)
  | identifier {cause : ConfigurationCause} (hown : Mapping.get? draft.config "identifier" ≠ none)
      (h : IdentifierFlaw draft.name draft.kind (mergeMappings R draft.config) cause) : Flaw R draft cause
  | tags {cause : ConfigurationCause} (hown : Mapping.get? draft.config "identifier" ≠ none)
      (hrecognises : Recognises draft.kind (mergeMappings R draft.config))
      (h : TagsFlaw (mergeMappings R draft.config) cause) : Flaw R draft cause

theorem hasIdentifier_iff : draft.hasIdentifier = true ↔ Mapping.get? draft.config "identifier" ≠ none := by
  rw [hasIdentifier, Mapping.contains, Option.isSome_iff_ne_none, Mapping.get?]

theorem exists_onto?_iff : (∃ d, draft.onto? root = .ok d) ↔ draft.Inherits root.config := by
  constructor
  · intro ⟨d, hd⟩
    obtain ⟨hown, i, tags, hi, htags, -⟩ := onto?_eq_ok.1 hd
    exact ⟨hasIdentifier_iff.1 hown, (Definition.exists_identifier?_iff draft.name).1 ⟨i, hi⟩,
      Definition.exists_parseTags?_iff.1 ⟨tags, htags⟩⟩
  · intro ⟨hown, hrecognises, htagged⟩
    obtain ⟨i, hi⟩ := (Definition.exists_identifier?_iff draft.name).2 hrecognises
    obtain ⟨tags, htags⟩ := Definition.exists_parseTags?_iff.2 htagged
    exact ⟨_, onto?_eq_ok.2 ⟨hasIdentifier_iff.2 hown, i, tags, hi, htags, rfl⟩⟩

/-- **A draft is refused** for its first flaw. -/
theorem onto?_eq_error_iff {fault : Fault} : draft.onto? root = .error fault ↔
    ∃ cause, draft.Flaw root.config cause ∧ fault = .configuration draft.path cause := by
  rw [onto?]
  split
  · rename_i hhas
    have hown := hasIdentifier_iff.1 hhas
    rw [Definition.effective?, Definition.inFile_eq_error_iff]
    refine exists_congr fun cause => and_congr_left fun _ => ?_
    rw [Outcome.bind_eq_error, Definition.identifier?_eq_error_iff]
    constructor
    · rintro (h | ⟨i, hi, h⟩)
      · exact .identifier hown h
      · rcases Outcome.bind_eq_error.1 h with h | ⟨_, _, h⟩
        · exact .tags hown ((Definition.exists_identifier?_iff draft.name).1 ⟨i, hi⟩)
            (Definition.parseTags?_eq_error_iff.1 h)
        · cases h
    · intro h
      cases h with
      | silent h => exact absurd h hown
      | identifier _ h => exact Or.inl h
      | tags _ hrecognises h =>
        obtain ⟨i, hi⟩ := (Definition.exists_identifier?_iff draft.name).2 hrecognises
        exact Or.inr ⟨i, hi, Outcome.bind_eq_error.2 (Or.inl (Definition.parseTags?_eq_error_iff.2 h))⟩
  · rename_i hhas
    have hsilent := Decidable.not_not.1 fun hown => hhas (hasIdentifier_iff.2 hown)
    constructor
    · intro h
      exact ⟨_, .silent hsilent, (Except.error.inj h).symm⟩
    · intro h
      obtain ⟨cause, hflaw, hfault⟩ := h
      cases hflaw with
      | silent h => rw [hfault]
      | identifier hown h => exact absurd hsilent hown
      | tags hown _ h => exact absurd hsilent hown

end Draft

end TreeIndex
