import TreeIndex.Proofs.Definitions.Refused
import TreeIndex.Proofs.Definitions.Tags
import TreeIndex.Proofs.Template.Expansion

/-!
# Ends by default

A definition of items may leave out the template of its end. Then its tags say it, or a scalar of its configuration.

* `Says`, `SaysLast`, `FirstSays`: whether a scalar is said under some spellings, which one is said last, and which one
  the first of some places says; `exists_firstSays_iff`: there is one **if any place says one**;
* `get?_scalars_iff`, `get?_parseTags_iff`: what the scalars of a configuration and its tags hold **is said last**;
* `DefaultEnd`: what is found among the tags that are read, under both spellings, and then at the top of the
  configuration, **under one spelling only**; `get?_fragments_iff_defaultEnd`: this is what the fragments hold;
* `DeclaredEnd`: what is declared under both keys of the tags and at the top, under both spellings;
* `EndsByDefault`, `endsByDefault_of_effective?`: what a definition without an end does, and that it finds all that is
  declared **where nothing is hidden**;
* `not_default_by_second_spelling`: a default that is declared at the top under the second spelling **is not found**.
-/

namespace TreeIndex.Definition

open Yaml (Value Mapping)

/-! ## 1. What is said last -/

/-- The entry stands **under one of some spellings**. -/
def SpelledAs (spellings : List String) (e : Value × Value) : Prop :=
  ∃ key ∈ spellings, e.1.asText? = some key

/-- The **last scalar** that some entries say under one of some spellings. -/
def SaysLast (spellings : List String) (entries : Mapping) (text : String) : Prop :=
  ∃ before e after, entries = before ++ e :: after ∧ SpelledAs spellings e ∧ e.2.scalarText? = some text ∧
    ∀ x ∈ after, SpelledAs spellings x → x.2.scalarText? = none

/-- Some entry **says a scalar** under one of some spellings. -/
def Says (spellings : List String) (entries : Mapping) : Prop :=
  ∃ e ∈ entries, SpelledAs spellings e ∧ e.2.scalarText? ≠ none

/-- The first of some places, each with its spellings, **that says a scalar**. -/
def FirstSays : List (List String × Mapping) → String → Prop
  | [], _ => False
  | place :: rest, text => SaysLast place.1 place.2 text ∨ ¬ Says place.1 place.2 ∧ FirstSays rest text

section Says

variable {spellings : List String} {entries config : Mapping} {text key : String}

theorem not_says_nil (spellings : List String) : ¬ Says spellings [] := by
  rintro ⟨e, he, -⟩
  cases he

theorem SaysLast.cons {e : Value × Value} (h : SaysLast spellings entries text) :
    SaysLast spellings (e :: entries) text := by
  obtain ⟨before, last, after, rfl, hlast⟩ := h
  exact ⟨e :: before, last, after, rfl, hlast⟩

/-- What is said at all **is said last** somewhere. -/
theorem exists_saysLast_iff : (∃ text, SaysLast spellings entries text) ↔ Says spellings entries := by
  constructor
  · rintro ⟨text, before, e, after, rfl, hspelled, htext, -⟩
    exact ⟨e, List.mem_append_right before List.mem_cons_self, hspelled, Option.ne_none_iff_exists'.2 ⟨text, htext⟩⟩
  · induction entries with
    | nil => exact fun h => absurd h (not_says_nil spellings)
    | cons e rest ih =>
      intro h
      by_cases hrest : Says spellings rest
      · obtain ⟨text, htext⟩ := ih hrest
        exact ⟨text, htext.cons⟩
      · -- no later entry says anything, so it is the first one
        obtain ⟨x, hx, hspelled, hsome⟩ := h
        rcases List.mem_cons.1 hx with rfl | hx
        · obtain ⟨text, htext⟩ := Option.ne_none_iff_exists'.1 hsome
          refine ⟨text, [], x, rest, rfl, hspelled, htext, fun y hy hkey => ?_⟩
          exact by_contra fun hne => hrest ⟨y, hy, hkey, hne⟩
        · exact absurd ⟨x, hx, hspelled, hsome⟩ hrest

/-- The first place that says something **is there if any place says something**. -/
theorem exists_firstSays_iff {places : List (List String × Mapping)} :
    (∃ text, FirstSays places text) ↔ ∃ place ∈ places, Says place.1 place.2 := by
  induction places with
  | nil => simp [FirstSays]
  | cons place rest ih =>
    simp only [FirstSays, exists_or, exists_and_left, ih, exists_saysLast_iff, List.exists_mem_cons_iff]
    by_cases hsaid : Says place.1 place.2 <;> simp [hsaid]

theorem forall_not_firstSays_iff {places : List (List String × Mapping)} :
    (∀ text, ¬ FirstSays places text) ↔ ∀ place ∈ places, ¬ Says place.1 place.2 := by
  rw [← not_exists, exists_firstSays_iff]
  simp only [not_exists, not_and]

theorem firstSays_singleton : FirstSays [(spellings, entries)] text ↔ SaysLast spellings entries text := by
  rw [FirstSays, FirstSays, and_false, or_false]

/-- A place that says nothing **is passed by**. -/
theorem firstSays_cons_of_silent {rest : List (List String × Mapping)} (h : ¬ Says spellings entries) :
    FirstSays ((spellings, entries) :: rest) text ↔ FirstSays rest text :=
  ⟨fun hfirst => hfirst.elim (fun hsaid => absurd (exists_saysLast_iff.1 ⟨text, hsaid⟩) h) And.right,
    fun hrest => Or.inr ⟨h, hrest⟩⟩

/-- A place that says something **hides all later ones**. -/
theorem firstSays_cons_of_spoken {rest : List (List String × Mapping)} (h : Says spellings entries) :
    FirstSays ((spellings, entries) :: rest) text ↔ SaysLast spellings entries text :=
  ⟨fun hfirst => hfirst.elim id fun hrest => absurd h hrest.1, Or.inl⟩

theorem firstSays_cons_congr {place : List String × Mapping} {rest others : List (List String × Mapping)}
    (h : FirstSays rest text ↔ FirstSays others text) :
    FirstSays (place :: rest) text ↔ FirstSays (place :: others) text :=
  or_congr_right (and_congr_right fun _ => h)

/-- What a dictionary of entries holds **is said last**, if it is made of the entries under the spellings. -/
theorem get?_ofList_iff_saysLast {f : Value × Value → Option (String × String)}
    (hf : ∀ e ∈ entries, ∀ t, f e = some (key, t) ↔ SpelledAs spellings e ∧ e.2.scalarText? = some t) :
    (Dictionary.ofList (entries.filterMap f)).get? key = some text ↔ SaysLast spellings entries text := by
  rw [Dictionary.get?_ofList_filterMap, SaysLast]
  refine exists_congr fun before => exists_congr fun e => exists_congr fun after => and_congr_right fun hentries => ?_
  have he : e ∈ entries := hentries ▸ List.mem_append_right before List.mem_cons_self
  rw [hf e he, and_assoc]
  refine and_congr_right fun _ => and_congr_right fun _ => forall₂_congr fun x hx => ?_
  have hmem : x ∈ entries := hentries ▸ List.mem_append_right before (List.mem_cons_of_mem e hx)
  simp only [ne_eq, hf x hmem, not_and, Option.eq_none_iff_forall_ne_some]
  exact forall_comm

/-- The scalars of a configuration hold **what it says last** under a text. -/
theorem get?_scalars_iff : (scalars config).get? key = some text ↔ SaysLast [key] config text := by
  refine get?_ofList_iff_saysLast fun e _ t => ?_
  simp only [SpelledAs, List.mem_singleton, exists_eq_left]
  cases e.1.asText? <;> cases e.2.scalarText? <;> simp

/-! ## 2. What the tags say -/

/-- The two spellings of the tag that stands in for a missing end. -/
def endSpellings : List String := [endDefaultTag, "endDefault"]

/-- The entries of the mapping **under a key** of a configuration. -/
def entriesUnder (config : Mapping) (key : String) : Mapping :=
  ((Mapping.get? config key).bind Value.asMapping?).getD []

/-- The entries of the tags **that are read**: under the first key that is there. -/
def readTags (config : Mapping) : Mapping :=
  ((Mapping.firstOf? config tagKeys).bind Value.asMapping?).getD []

theorem tagName_eq_endDefaultTag_iff : tagName key = endDefaultTag ↔ key ∈ endSpellings := by
  unfold tagName endSpellings
  split
  · rename_i hkey
    simp [hkey]
  · rename_i hkey
    simp [hkey]

theorem tagEntry?_endDefaultTag_iff {e : Value × Value} :
    tagEntry? e = .ok (endDefaultTag, text) ↔ SpelledAs endSpellings e ∧ e.2.scalarText? = some text := by
  rw [tagEntry?_eq_ok, tagOf?, Option.map_eq_some_iff, SpelledAs]
  simp only [tagName_eq_endDefaultTag_iff, and_comm]

/-- The tags of a configuration hold the default **that is said last**, under either spelling. -/
theorem get?_parseTags_iff {tags : Dictionary String} (h : parseTags? config = .ok tags) :
    tags.get? endDefaultTag = some text ↔ SaysLast endSpellings (readTags config) text := by
  rw [parseTags?_eq, ← firstOf?_tagKeys] at h
  unfold readTags
  cases hvalue : Mapping.firstOf? config tagKeys with
  | none =>
    rw [hvalue] at h
    obtain rfl := Except.ok.inj h
    refine ⟨fun hget => ?_, fun hsaid => absurd (exists_saysLast_iff.1 ⟨text, hsaid⟩) (not_says_nil endSpellings)⟩
    cases hget
  | some value =>
    rw [hvalue] at h
    obtain ⟨entries, rs, hentries, hrs, rfl⟩ := tagsOf?_eq_ok.1 h
    rw [Option.bind_some, hentries, Option.getD_some, Outcome.eq_filterMap_of_mapM hrs]
    exact get?_ofList_iff_saysLast fun e _ t => Outcome.toOption_eq_some.trans tagEntry?_endDefaultTag_iff

/-! ## 3. Where the default is looked for, and where it is declared -/

/-- Where the default **is looked for**: among the tags that are read, and then at the top of the configuration, where
    only the first spelling counts. -/
def foundPlaces (config : Mapping) : List (List String × Mapping) :=
  [(endSpellings, readTags config), ([endDefaultTag], config)]

/-- Where the default **can be declared**: as a tag, under either key of the tags, and at the top of the configuration,
    in either spelling. -/
def declaredPlaces (config : Mapping) : List (List String × Mapping) :=
  [(endSpellings, entriesUnder config "parseTags"), (endSpellings, entriesUnder config "parse_tags"),
    (endSpellings, config)]

/-- **The default that is found.** -/
def DefaultEnd (config : Mapping) : String → Prop :=
  FirstSays (foundPlaces config)

/-- **The default that is declared.** -/
def DeclaredEnd (config : Mapping) : String → Prop :=
  FirstSays (declaredPlaces config)

/-- The fragments of a definition hold **the default that is found**. -/
theorem get?_fragments_iff_defaultEnd {d : Definition} (h : parseTags? d.config = .ok d.parseTags) :
    d.fragments.get? endDefaultTag = some text ↔ DefaultEnd d.config text := by
  have hsilent : d.parseTags.get? endDefaultTag = none ↔ ¬ Says endSpellings (readTags d.config) := by
    rw [← exists_saysLast_iff, not_exists, Option.eq_none_iff_forall_ne_some]
    simp only [ne_eq, get?_parseTags_iff h]
  rw [get?_fragments, Option.or_eq_some_iff, hsilent, get?_parseTags_iff h, get?_scalars_iff, DefaultEnd, foundPlaces,
    FirstSays, firstSays_singleton]

/-- **Nothing is hidden**: the tags stand under one key at most, and the top of the configuration says nothing under
    the second spelling, unless the tags say a default anyway. -/
def NothingHidden (config : Mapping) : Prop :=
  OneSpelling config ∧ (Says ["endDefault"] config → Says endSpellings (readTags config))

/-- At a top that says nothing under the second spelling, **the first one is enough**. -/
theorem saysLast_endDefaultTag_iff (h : ¬ Says ["endDefault"] config) :
    SaysLast [endDefaultTag] config text ↔ SaysLast endSpellings config text := by
  rw [← get?_scalars_iff]
  refine get?_ofList_iff_saysLast fun e he t => ?_
  cases hkey : e.1.asText? with
  | none => simp [SpelledAs, hkey]
  | some key =>
    cases htext : e.2.scalarText? with
    | none => simp
    | some text =>
      have hne : key ≠ "endDefault" := by
        rintro rfl
        exact h ⟨e, he, ⟨"endDefault", List.mem_cons_self, hkey⟩, Option.ne_none_iff_exists'.2 ⟨text, htext⟩⟩
      simp [SpelledAs, hkey, endSpellings, hne]

/-- Where nothing is hidden, **what is found is what is declared**. -/
theorem defaultEnd_iff_declaredEnd (h : NothingHidden config) : DefaultEnd config text ↔ DeclaredEnd config text := by
  obtain ⟨hone, htop⟩ := h
  have hfound : DefaultEnd config text ↔ FirstSays [(endSpellings, readTags config), (endSpellings, config)] text := by
    rw [DefaultEnd, foundPlaces]
    by_cases htags : Says endSpellings (readTags config)
    · rw [firstSays_cons_of_spoken htags, firstSays_cons_of_spoken htags]
    · refine firstSays_cons_congr ?_
      rw [firstSays_singleton, firstSays_singleton, saysLast_endDefaultTag_iff (mt htop htags)]
  have hnothing {key : String} (hkey : Mapping.get? config key = none) :
      ¬ Says endSpellings (entriesUnder config key) := by
    rw [entriesUnder, hkey]
    exact not_says_nil endSpellings
  rw [hfound, DeclaredEnd, declaredPlaces]
  rcases hone with hfirst | hsecond
  · have hread : readTags config = entriesUnder config "parse_tags" := by
      rw [readTags, firstOf?_tagKeys, hfirst, Option.none_or]
      rfl
    rw [firstSays_cons_of_silent (hnothing hfirst), hread]
  · have hread : readTags config = entriesUnder config "parseTags" := by
      rw [readTags, firstOf?_tagKeys, hsecond, Option.or_none]
      rfl
    rw [hread]
    exact firstSays_cons_congr (firstSays_cons_of_silent (hnothing hsecond)).symm

end Says

/-! ## 4. Definitions without an end -/

/-- The identifier of a configuration has a start template and **no end**: none is there, or it is null or empty. -/
def SaysNoEnd (config : Mapping) (start : String) : Prop :=
  ∃ value m, Mapping.get? config "identifier" = some value ∧ value.asMapping? = some m ∧
    Mapping.get? m "start" = some (.text start) ∧
      (Mapping.get? m "end" = none ∨ Mapping.get? m "end" = some .null ∨ Mapping.get? m "end" = some (.text ""))

theorem identifier?_of_saysNoEnd {config : Mapping} {start : String} (name : String) (h : SaysNoEnd config start) :
    identifier? name itemKind config = .ok (.template start none) := by
  obtain ⟨value, m, hvalue, hm, hstart, hstop⟩ := h
  have hnone : stopOf? name m = .ok none := by
    unfold stopOf?
    rcases hstop with hstop | hstop | hstop <;> rw [hstop]
    rfl
  rw [identifier?_of_item hvalue rfl, templateOf?, hm]
  refine Outcome.bind_eq_ok.2 ⟨start, startOf?_eq_ok_iff.2 hstart, Outcome.bind_eq_ok.2 ⟨none, hnone, rfl⟩⟩

/-- The same definition, **with an end of its own**. -/
def endingWith (d : Definition) (start stop : String) : Definition :=
  { d with identifier := .template start (some stop) }

/-- What a definition of items **without an end** does. -/
structure EndsByDefault (config : Mapping) (start : String) (d : Definition) : Prop where
  identifier : d.identifier = .template start none
  /-- With the default that is found it does what it would do if it said this end itself. -/
  used : ∀ stop, DefaultEnd config stop → ItemMatcher.ofDefinition? d =
    (ItemMatcher.ofDefinition? (d.endingWith start stop)).map fun m => { m with definition := d }
  /-- The end of its matcher is nothing else, -/
  template : ∀ m, ItemMatcher.ofDefinition? d = .ok m → DefaultEnd config m.stop.template
  /-- and that it has none is its fault exactly if no place that is looked at says one. -/
  missing : ItemMatcher.ofDefinition? d = .error (.configuration d.source (.noEnd d.name)) ↔
    ∀ place ∈ foundPlaces config, ¬ Says place.1 place.2
  /-- Where nothing is hidden, what is found is what is declared, -/
  agrees : NothingHidden config → ∀ stop, DefaultEnd config stop ↔ DeclaredEnd config stop
  /-- and then the end is missing exactly if it is declared nowhere. -/
  undeclared : NothingHidden config →
    (ItemMatcher.ofDefinition? d = .error (.configuration d.source (.noEnd d.name)) ↔
      ∀ place ∈ declaredPlaces config, ¬ Says place.1 place.2)

section Matchers

variable {d : Definition} {start stop : String} (hkind : d.kind = itemKind) (hid : d.identifier = .template start none)

include hid

/-- The end template of an accepted definition without an end **is among its fragments**. -/
theorem get?_fragments_of_ofDefinition? {m : ItemMatcher} (hm : ItemMatcher.ofDefinition? d = .ok m) :
    d.fragments.get? endDefaultTag = some m.stop.template := by
  obtain ⟨_, stop, text, htemplates, hend, hpair⟩ := (ItemMatcher.compiled_of_ofDefinition? hm).templates
  rw [hid] at htemplates
  cases htemplates
  have htemplate : m.stop.template = text := by
    rw [Template.ofText?_eq_ok (pair?_eq_ok hpair).2.1]
  rw [htemplate]
  unfold ItemMatcher.endTemplate? at hend
  cases hstop : d.fragments.get? endDefaultTag with
  | none =>
    rw [hstop] at hend
    cases hend
  | some stop =>
    rw [hstop] at hend
    exact congrArg some (Except.ok.inj hend)

include hkind

/-- With the default among its fragments, a definition **does what it would do with that end**. -/
theorem ofDefinition?_eq_endingWith (hstop : d.fragments.get? endDefaultTag = some stop) :
    ItemMatcher.ofDefinition? d =
      (ItemMatcher.ofDefinition? (d.endingWith start stop)).map fun m => { m with definition := d } := by
  have hend : ItemMatcher.endTemplate? d none = .ok stop := by
    rw [ItemMatcher.endTemplate?, hstop]
  have hown : ItemMatcher.endTemplate? (d.endingWith start stop) (some stop) = .ok stop := rfl
  have hownKind : (d.endingWith start stop).kind = itemKind := hkind
  have hownId : (d.endingWith start stop).identifier = .template start (some stop) := rfl
  have hfragments : (d.endingWith start stop).fragments = d.fragments := rfl
  have hsource : (d.endingWith start stop).source = d.source := rfl
  rw [ItemMatcher.ofDefinition?, ItemMatcher.ofDefinition?, if_neg (not_not_intro hkind),
    if_neg (not_not_intro hownKind), hid, hownId]
  dsimp only
  rw [hend, hown, hfragments, hsource, Outcome.ok_bind, Outcome.ok_bind]
  cases Template.pair? d.fragments d.source start stop with
  | error fault => rfl
  | ok pair =>
    obtain ⟨p, e⟩ := pair
    rw [Outcome.ok_bind, Outcome.ok_bind]
    by_cases hstatic : e.isStatic = true
    · rw [if_pos hstatic, if_pos hstatic]
      cases Template.build? d.source e.staticText <;> rfl
    · rw [if_neg hstatic, if_neg hstatic]
      rfl

/-- A definition says that its end is missing **exactly without a default** among its fragments. -/
theorem ofDefinition?_eq_noEnd_iff :
    ItemMatcher.ofDefinition? d = .error (.configuration d.source (.noEnd d.name)) ↔
      d.fragments.get? endDefaultTag = none := by
  cases hstop : d.fragments.get? endDefaultTag with
  | none =>
    have hend : ItemMatcher.endTemplate? d none = .error (.configuration d.source (.noEnd d.name)) := by
      rw [ItemMatcher.endTemplate?, hstop]
    exact iff_of_true (ItemMatcher.ofDefinition?_of_end_eq_error hkind hid hend) rfl
  | some stop =>
    have hend : ItemMatcher.endTemplate? d none = .ok stop := by
      rw [ItemMatcher.endTemplate?, hstop]
    exact iff_of_false (ItemMatcher.ne_configuration_of_end hkind hid hend) (Option.some_ne_none stop)

end Matchers

/-- **A definition of items without an end.** -/
theorem endsByDefault_of_effective? {name start : String} {config : Mapping} {source : Path} {d : Definition}
    (h : effective? name itemKind config source = .ok d) (hstart : SaysNoEnd config start) :
    EndsByDefault config start d := by
  have hparts : d.kind = itemKind ∧ d.identifier = .template start none ∧ d.config = config ∧
      parseTags? d.config = .ok d.parseTags := by
    obtain ⟨i, tags, hi, htags, rfl⟩ := effective?_eq_ok.1 h
    exact ⟨rfl, Except.ok.inj (hi.symm.trans (identifier?_of_saysNoEnd name hstart)), rfl, htags⟩
  obtain ⟨hkind, hid, rfl, htags⟩ := hparts
  have hfound {stop : String} : d.fragments.get? endDefaultTag = some stop ↔ DefaultEnd d.config stop :=
    get?_fragments_iff_defaultEnd htags
  have hmissing : ItemMatcher.ofDefinition? d = .error (.configuration d.source (.noEnd d.name)) ↔
      ∀ stop, ¬ DefaultEnd d.config stop := by
    rw [ofDefinition?_eq_noEnd_iff hkind hid, Option.eq_none_iff_forall_ne_some]
    simp only [ne_eq, hfound]
  exact
    { identifier := hid
      used := fun stop hstop => ofDefinition?_eq_endingWith hkind hid (hfound.2 hstop)
      template := fun m hm => hfound.1 (get?_fragments_of_ofDefinition? hid hm)
      missing := hmissing.trans forall_not_firstSays_iff
      agrees := fun hhidden stop => defaultEnd_iff_declaredEnd hhidden
      undeclared := fun hhidden => (hmissing.trans (forall_congr' fun stop =>
        not_congr (defaultEnd_iff_declaredEnd hhidden))).trans forall_not_firstSays_iff }

/-- A section **without an end**, and more that its configuration says. -/
def endlessConfig (more : Mapping) : Mapping :=
  (.text "identifier", .mapping [(.text "start", .text "#BEGIN"), (.text "end", .null)]) :: more

theorem saysNoEnd_endlessConfig (more : Mapping) : SaysNoEnd (endlessConfig more) "#BEGIN" :=
  ⟨_, _, rfl, rfl, rfl, Or.inr (Or.inl rfl)⟩

/-- The end of a section that says none, **if it has a matcher**. -/
def endlessTemplate (more : Mapping) : Option String :=
  (effective? "section" itemKind (endlessConfig more) ⟨"/section"⟩).toOption.bind fun d =>
    (ItemMatcher.ofDefinition? d).toOption.map fun m => m.stop.template

/-- Tags and the top say different ends, each under one spelling: **the tags win**. -/
theorem endsByDefault_of_effective?_tagged : ∃ d m,
    effective? "section" itemKind (endlessConfig [(.text "end_default", .text "#STOP"),
        (.text "parse_tags", .mapping [(.text "endDefault", .text "#END")])]) ⟨"/section"⟩ = .ok d ∧
      EndsByDefault (endlessConfig [(.text "end_default", .text "#STOP"),
        (.text "parse_tags", .mapping [(.text "endDefault", .text "#END")])]) "#BEGIN" d ∧
      ItemMatcher.ofDefinition? d = .ok m ∧ m.stop.template = "#END" := by
  have hrun : endlessTemplate [(.text "end_default", .text "#STOP"),
      (.text "parse_tags", .mapping [(.text "endDefault", .text "#END")])] = some "#END" := by
    decide +kernel
  obtain ⟨d, hd, hrun⟩ := Option.bind_eq_some_iff.1 hrun
  obtain ⟨m, hm, htemplate⟩ := Option.map_eq_some_iff.1 hrun
  rw [Outcome.toOption_eq_some] at hd hm
  exact ⟨d, m, hd, endsByDefault_of_effective? hd (saysNoEnd_endlessConfig _), hm, htemplate⟩

/-- A default at the top **under the second spelling** is declared, and the end is missing still. -/
theorem not_default_by_second_spelling : ¬ ∀ (name : String) (config : Mapping) (source : Path) (d : Definition)
    (start : String), effective? name itemKind config source = .ok d → SaysNoEnd config start →
      (ItemMatcher.ofDefinition? d = .error (.configuration d.source (.noEnd d.name)) ↔
        ∀ place ∈ declaredPlaces config, ¬ Says place.1 place.2) := by
  intro h
  have hrun : (effective? "section" itemKind (endlessConfig [(.text "endDefault", .text "#END")])
      ⟨"/section"⟩).toOption.map (fun d => d.fragments.get? endDefaultTag) = some none := by
    decide +kernel
  obtain ⟨d, hd, hnone⟩ := Option.map_eq_some_iff.1 hrun
  rw [Outcome.toOption_eq_some] at hd
  have hnoEnd := saysNoEnd_endlessConfig [(.text "endDefault", .text "#END")]
  obtain ⟨i, tags, hi, htags, rfl⟩ := effective?_eq_ok.1 hd
  obtain rfl := Except.ok.inj (hi.symm.trans (identifier?_of_saysNoEnd "section" hnoEnd))
  have hmissing := (ofDefinition?_eq_noEnd_iff rfl rfl).2 hnone
  have htop : Says endSpellings (endlessConfig [(.text "endDefault", .text "#END")]) :=
    ⟨_, List.mem_cons_of_mem _ List.mem_cons_self, ⟨"endDefault", List.mem_cons_of_mem _ List.mem_cons_self, rfl⟩,
      Option.some_ne_none "#END"⟩
  have hplace : (endSpellings, endlessConfig [(.text "endDefault", .text "#END")]) ∈
      declaredPlaces (endlessConfig [(.text "endDefault", .text "#END")]) :=
    List.mem_cons_of_mem _ (List.mem_cons_of_mem _ List.mem_cons_self)
  exact (h "section" _ ⟨"/section"⟩ _ "#BEGIN" hd hnoEnd).1 hmissing _ hplace htop

end TreeIndex.Definition
