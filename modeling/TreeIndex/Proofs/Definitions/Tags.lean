import Mathlib.Data.List.Nodup
import TreeIndex.Proofs.Definitions.Inheritance
import TreeIndex.Proofs.Dictionary
import TreeIndex.Proofs.Yaml.Merge

/-!
# The tags of a definition that inherited

A definition inherits the tags of its root one by one and overrides those that it says itself, **if both files
spell the key of the tags in the same way**. Otherwise only one of the two files counts.

* `tagOf?`, `tagEntry?_eq_ok`: the tag that an entry says;
* `get?_ofList_iff`: among entries that say every tag once, what an entry says is what is found;
* `get?_tags_merge`: tags that lie over others **replace those of the same name**, also across the two spellings
  of the end template's default, and leave the others;
* `SaysTags`: a configuration says its tags under one key, and every tag once;
* `TagsInherit`, `tagsInherit_of_onto?`: the fragments of a definition that inherited;
* `not_inherits_across_spellings`: a definition with its tags under one key **does not override** those that its
  root has under the other.
-/

namespace TreeIndex.Definition

open Yaml (Value Mapping mergeMappings overlay onlyAbove under)

/-! ## 1. What an entry says -/

/-- The tag that an entry says, if its key is a text. -/
def tagOf? (e : Value × Value) : Option String :=
  e.1.asText?.map tagName

theorem tagEntry?_eq_ok {e : Value × Value} {t f : String} :
    tagEntry? e = .ok (t, f) ↔ tagOf? e = some t ∧ e.2.scalarText? = some f := by
  unfold tagEntry? tagOf?
  cases e.1.asText? <;> cases e.2.scalarText? <;> simp

variable {es below above : Mapping} {rs bs as : List (String × String)} {t f : String}

/-- Among entries that say every tag once, **what an entry says is what is found**. -/
theorem get?_ofList_iff (h : es.mapM tagEntry? = .ok rs) (hes : (es.map tagOf?).Nodup) :
    (Dictionary.ofList rs).get? t = some f ↔ ∃ e ∈ es, tagEntry? e = .ok (t, f) := by
  have hkeys : es.map tagOf? = rs.map fun r => some r.1 := by
    have hall := Outcome.mapM_eq_ok.1 h
    clear h hes
    induction hall with
    | nil => rfl
    | @cons e r es rs hr _ ih => rw [List.map_cons, List.map_cons, ih, (tagEntry?_eq_ok.1 hr).1]
  constructor
  · intro hget
    exact Outcome.exists_of_mem_mapM h (Dictionary.mem_of_get?_ofList hget)
  · rintro ⟨e, he, hef⟩
    obtain ⟨r, hr, her⟩ := Outcome.exists_mem_of_mapM h he
    obtain rfl := Except.ok.inj (her.symm.trans hef)
    rw [hkeys] at hes
    exact Dictionary.get?_ofList_of_mem (List.Nodup.of_map some (by rwa [List.map_map])) hr

/-! ## 2. Tags over others -/

section Merge

variable (hbelow : ∀ e ∈ below, ∃ r, tagEntry? e = .ok r) (hunique : (above.map tagOf?).Nodup)

include hunique in
theorem find?_eq_of_mem {k w : Value} {s : String} (hk : k.asText? = some s) (h : (k, w) ∈ above) :
    Mapping.find? above k = some w := by
  obtain ⟨w', hw'⟩ := Option.isSome_iff_exists.1 (Mapping.contains_of_mem h)
  have heq := List.inj_on_of_nodup_map hunique (Mapping.mem_of_find? hk hw') h rfl
  rw [hw', (Prod.mk.inj heq).2]

include hbelow in
/-- A tag under another mapping **stays as it is, or is replaced**. -/
theorem mem_of_mem_overlay {e : Value × Value} (h : e ∈ overlay below above) :
    Mapping.contains below e.1 = true ∧
      (e ∈ above ∨ e ∈ below ∧ Mapping.contains above e.1 = false) := by
  rw [Yaml.overlay_eq_map] at h
  obtain ⟨⟨k, v⟩, hmem, rfl⟩ := List.mem_map.1 h
  obtain ⟨⟨t, f⟩, htag⟩ := hbelow _ hmem
  obtain ⟨hk, hv⟩ := tagEntry?_eq_ok.1 htag
  obtain ⟨s, hs, -⟩ := Option.map_eq_some_iff.1 hk
  refine ⟨Mapping.contains_of_mem hmem, ?_⟩
  dsimp only at hv ⊢
  cases hfind : Mapping.find? above k with
  | none =>
    rw [Mapping.contains, hfind]
    exact Or.inr ⟨hmem, rfl⟩
  | some w =>
    have hunder : under v (some w) = w := Yaml.merge_of_scalarText? hv
    rw [hunder]
    exact Or.inl (Mapping.mem_of_find? hs hfind)

include hbelow hunique in
/-- A tag over another mapping **stands in the merged one**. -/
theorem mem_overlay_or_mem_onlyAbove {e : Value × Value} (h : e ∈ above) :
    e ∈ overlay below above ∨ e ∈ onlyAbove below above := by
  obtain ⟨k, w⟩ := e
  cases hcontains : Mapping.contains below k with
  | false => exact Or.inr (Yaml.mem_onlyAbove_iff.2 ⟨h, hcontains⟩)
  | true =>
    obtain ⟨k', v, hmem, hsame⟩ := Mapping.exists_mem_of_contains hcontains
    obtain ⟨⟨t, f⟩, htag⟩ := hbelow _ hmem
    obtain ⟨hk, hv⟩ := tagEntry?_eq_ok.1 htag
    obtain ⟨s, hs, -⟩ := Option.map_eq_some_iff.1 hk
    obtain rfl := Value.eq_of_same hs hsame
    have hunder : under v (some w) = w := Yaml.merge_of_scalarText? hv
    refine Or.inl ?_
    rw [Yaml.overlay_eq_map]
    exact List.mem_map.2 ⟨(k', v), hmem, by rw [find?_eq_of_mem hunique hs h, hunder]⟩

end Merge

section Over

variable {os ns : List (String × String)} (hb : below.mapM tagEntry? = .ok bs)
  (ho : (overlay below above).mapM tagEntry? = .ok os) (hn : (onlyAbove below above).mapM tagEntry? = .ok ns)
  (hbunique : (below.map tagOf?).Nodup) (haunique : (above.map tagOf?).Nodup)

include hb in
/-- Where tags are read, **every entry says one**. -/
theorem exists_tag_of_mem : ∀ e ∈ below, ∃ r, tagEntry? e = .ok r := by
  intro e he
  obtain ⟨r, -, hr⟩ := Outcome.exists_mem_of_mapM hb he
  exact ⟨r, hr⟩

include ho hbunique in
theorem get?_overlay_iff :
    (Dictionary.ofList os).get? t = some f ↔ ∃ e ∈ overlay below above, tagEntry? e = .ok (t, f) := by
  refine get?_ofList_iff ho ?_
  rw [Yaml.overlay_eq_map, List.map_map]
  exact hbunique

include hn haunique in
theorem get?_onlyAbove_iff :
    (Dictionary.ofList ns).get? t = some f ↔ ∃ e ∈ onlyAbove below above, tagEntry? e = .ok (t, f) :=
  get?_ofList_iff hn (haunique.sublist (List.filter_sublist.map _))

include hb ho hn hbunique haunique in
/-- A tag over others **is what is found**. -/
theorem get?_of_mem_above {e : Value × Value} (he : e ∈ above) (hef : tagEntry? e = .ok (t, f)) :
    ((Dictionary.ofList ns).get? t).or ((Dictionary.ofList os).get? t) = some f := by
  rcases mem_overlay_or_mem_onlyAbove (exists_tag_of_mem hb) haunique he with hmem | hmem
  · -- the entry lies over one of the same key, so nothing else says this tag
    have hnone : (Dictionary.ofList ns).get? t = none := by
      rw [Option.eq_none_iff_forall_ne_some]
      intro f' hf'
      obtain ⟨e', he', hef'⟩ := (get?_onlyAbove_iff hn haunique).1 hf'
      obtain ⟨habove, hcontains⟩ := Yaml.mem_onlyAbove_iff.1 he'
      have htags := (tagEntry?_eq_ok.1 hef').1.trans (tagEntry?_eq_ok.1 hef).1.symm
      obtain rfl := List.inj_on_of_nodup_map haunique habove he htags
      rw [(mem_of_mem_overlay (exists_tag_of_mem hb) hmem).1] at hcontains
      cases hcontains
    rw [hnone, Option.none_or]
    exact (get?_overlay_iff ho hbunique).2 ⟨e, hmem, hef⟩
  · rw [(get?_onlyAbove_iff hn haunique).2 ⟨e, hmem, hef⟩, Option.some_or]

include hb ho hn hbunique haunique in
/-- A tag that nothing over it says **stays**. -/
theorem get?_of_silent (hsilent : ∀ e ∈ above, tagOf? e ≠ some t) :
    ((Dictionary.ofList ns).get? t).or ((Dictionary.ofList os).get? t) = (Dictionary.ofList bs).get? t := by
  have hnone : (Dictionary.ofList ns).get? t = none := by
    rw [Option.eq_none_iff_forall_ne_some]
    intro f hf
    obtain ⟨e, he, hef⟩ := (get?_onlyAbove_iff hn haunique).1 hf
    exact hsilent e (Yaml.mem_onlyAbove_iff.1 he).1 (tagEntry?_eq_ok.1 hef).1
  rw [hnone, Option.none_or]
  refine Option.ext fun f => ?_
  rw [get?_overlay_iff ho hbunique, get?_ofList_iff hb hbunique]
  constructor
  · rintro ⟨e, he, hef⟩
    rcases (mem_of_mem_overlay (exists_tag_of_mem hb) he).2 with habove | ⟨hmem, -⟩
    · exact absurd (tagEntry?_eq_ok.1 hef).1 (hsilent e habove)
    · exact ⟨e, hmem, hef⟩
  · rintro ⟨⟨k, v⟩, he, hef⟩
    obtain ⟨hk, -⟩ := tagEntry?_eq_ok.1 hef
    obtain ⟨s, hs, -⟩ := Option.map_eq_some_iff.1 hk
    have hfind : Mapping.find? above k = none := by
      rw [Option.eq_none_iff_forall_ne_some]
      intro w hw
      exact hsilent (k, w) (Mapping.mem_of_find? hs hw) hk
    refine ⟨(k, v), ?_, hef⟩
    rw [Yaml.overlay_eq_map]
    exact List.mem_map.2 ⟨(k, v), he, by rw [hfind]; rfl⟩

end Over

/-- **Tags over others**: those of the same name are replaced, the others stay. -/
theorem get?_tags_merge {ms : List (String × String)} (hb : below.mapM tagEntry? = .ok bs)
    (hm : (mergeMappings below above).mapM tagEntry? = .ok ms) (hbunique : (below.map tagOf?).Nodup)
    (haunique : (above.map tagOf?).Nodup) :
    ∃ as, above.mapM tagEntry? = .ok as ∧ ∀ t, (Dictionary.ofList ms).get? t =
      ((Dictionary.ofList as).get? t).or ((Dictionary.ofList bs).get? t) := by
  have hmerged := exists_tag_of_mem hm
  obtain ⟨as, ha⟩ := Outcome.exists_mapM_eq_ok fun e he => hmerged e
    (List.mem_append.2 (mem_overlay_or_mem_onlyAbove (exists_tag_of_mem hb) haunique he))
  obtain ⟨os, ho⟩ := Outcome.exists_mapM_eq_ok fun e he => hmerged e (List.mem_append_left _ he)
  obtain ⟨ns, hn⟩ := Outcome.exists_mapM_eq_ok fun e he => hmerged e (List.mem_append_right _ he)
  have hms : ms = os ++ ns := by
    rw [mergeMappings, List.mapM_append, ho, hn] at hm
    exact (Except.ok.inj hm).symm
  refine ⟨as, ha, fun t => ?_⟩
  rw [hms, Dictionary.get?_ofList_append]
  cases hget : (Dictionary.ofList as).get? t with
  | some f =>
    obtain ⟨e, he, hef⟩ := (get?_ofList_iff ha haunique).1 hget
    rw [Option.some_or, get?_of_mem_above hb ho hn hbunique haunique he hef]
  | none =>
    have hsilent : ∀ e ∈ above, tagOf? e ≠ some t := by
      intro e he htag
      obtain ⟨⟨t', f⟩, hef⟩ := exists_tag_of_mem ha e he
      obtain rfl := Option.some.inj ((tagEntry?_eq_ok.1 hef).1.symm.trans htag)
      rw [(get?_ofList_iff ha haunique).2 ⟨e, he, hef⟩] at hget
      cases hget
    rw [Option.none_or, get?_of_silent hb ho hn hbunique haunique hsilent]

/-! ## 3. Tags of a configuration -/

/-- The two keys under which a configuration may hold its tags. -/
def tagKeys : List String := ["parseTags", "parse_tags"]

/-- A configuration holds its tags, if it has any, **under one key, and every tag once**. -/
structure SaysTags (config : Mapping) (key : String) : Prop where
  only : ∀ other ∈ tagKeys, other ≠ key → Mapping.get? config other = none
  once : ∀ value entries, Mapping.get? config key = some value → value.asMapping? = some entries →
    (entries.map tagOf?).Nodup

/-- The tags that a value says. -/
def tagsOf? (value : Value) : Except ConfigurationCause (Dictionary String) :=
  match value.asMapping? with
  | none => .error .tagsShape
  | some entries => (entries.mapM tagEntry?).map Dictionary.ofList

theorem tagsOf?_eq_ok {value : Value} {tags : Dictionary String} : tagsOf? value = .ok tags ↔
    ∃ entries rs, value.asMapping? = some entries ∧ entries.mapM tagEntry? = .ok rs ∧
      tags = Dictionary.ofList rs := by
  unfold tagsOf?
  cases value.asMapping? with
  | none => simp
  | some entries => cases hrs : entries.mapM tagEntry? <;> simp [Except.map, eq_comm, hrs]

section Keys

variable {config : Mapping} {key : String}

theorem firstOf?_tagKeys (config : Mapping) : Mapping.firstOf? config tagKeys =
    (Mapping.get? config "parseTags").or (Mapping.get? config "parse_tags") := by
  rw [Mapping.firstOf?, tagKeys, List.findSome?_cons, List.findSome?_singleton]
  cases Mapping.get? config "parseTags" <;> rfl

theorem parseTags?_eq (config : Mapping) : parseTags? config =
    match (Mapping.get? config "parseTags").or (Mapping.get? config "parse_tags") with
    | none => .ok ∅
    | some value => tagsOf? value := by
  rw [← firstOf?_tagKeys]
  rfl

/-- Where only one key is there, **the tags are what stands under it**. -/
theorem parseTags?_of_only (hkey : key ∈ tagKeys)
    (h : ∀ other ∈ tagKeys, other ≠ key → Mapping.get? config other = none) :
    parseTags? config = match Mapping.get? config key with
      | none => .ok ∅
      | some value => tagsOf? value := by
  rw [parseTags?_eq]
  rcases List.mem_pair.1 hkey with rfl | rfl
  · rw [h "parse_tags" (by decide) (by decide), Option.or_none]
  · rw [h "parseTags" (by decide) (by decide), Option.none_or]

end Keys

/-- The fragments of a definition: **its tags**, and else the scalars of its configuration. -/
theorem get?_fragments (d : Definition) (t : String) :
    d.fragments.get? t = (d.parseTags.get? t).or ((scalars d.config).get? t) :=
  Dictionary.get?_overlay _ _ t

/-! ## 4. What is inherited -/

/-- **The tags of a merged configuration**: where both configurations say theirs under the same key, those of the
    upper one over those of the lower one. -/
theorem parseTags?_merge {R C : Mapping} {key : String} {rt tags : Dictionary String} (hkey : key ∈ tagKeys)
    (hR : SaysTags R key) (hC : SaysTags C key)
    (htags : ∀ v w, Mapping.get? R key = some v → Mapping.get? C key = some w → v.tags = w.tags)
    (hrt : parseTags? R = .ok rt) (hm : parseTags? (mergeMappings R C) = .ok tags) :
    ∃ ct, parseTags? C = .ok ct ∧ ∀ t, tags.get? t = (ct.get? t).or (rt.get? t) := by
  have honly : ∀ other ∈ tagKeys, other ≠ key → Mapping.get? (mergeMappings R C) other = none := by
    intro other hother hne
    rw [Yaml.get?_mergeMappings, hR.only other hother hne, hC.only other hother hne]
  rw [parseTags?_of_only hkey honly, Yaml.get?_mergeMappings] at hm
  rw [parseTags?_of_only hkey hR.only] at hrt
  rw [parseTags?_of_only hkey hC.only]
  cases hv : Mapping.get? R key with
  | none =>
    rw [hv] at hm hrt
    obtain rfl := Except.ok.inj hrt
    exact ⟨tags, hm, fun t => Option.or_none.symm⟩
  | some v =>
    rw [hv] at hm hrt
    obtain ⟨below, bs, hbelow, hbs, rfl⟩ := tagsOf?_eq_ok.1 hrt
    cases hw : Mapping.get? C key with
    | none =>
      rw [hw] at hm
      obtain rfl := Except.ok.inj (hrt.symm.trans hm)
      exact ⟨∅, rfl, fun t => Option.none_or.symm⟩
    | some w =>
      rw [hw] at hm
      obtain ⟨merged, ms, hmerged, hms, rfl⟩ := tagsOf?_eq_ok.1 hm
      have hunder : (under v (some w)).asMapping? = w.asMapping?.map (mergeMappings below) :=
        Yaml.asMapping?_merge (htags v w hv hw) hbelow
      rw [hunder] at hmerged
      obtain ⟨above, habove, rfl⟩ := Option.map_eq_some_iff.1 hmerged
      obtain ⟨as, has, hget⟩ :=
        get?_tags_merge hbs hms (hR.once v below hv hbelow) (hC.once w above hw habove)
      exact ⟨Dictionary.ofList as, tagsOf?_eq_ok.2 ⟨above, as, habove, has, rfl⟩, hget⟩

/-- **The tags that a definition inherits** from a root with some configuration, by its own one. -/
structure TagsInherit (R C : Mapping) (eff : Definition) : Prop where
  /-- Where both hold their tags under one key, those of the definition itself come first, then those of the root,
      then the scalars of both. -/
  together : ∀ key ∈ tagKeys, SaysTags R key → SaysTags C key →
    (∀ v w, Mapping.get? R key = some v → Mapping.get? C key = some w → v.tags = w.tags) →
    ∃ rt ct, parseTags? R = .ok rt ∧ parseTags? C = .ok ct ∧ ∀ t, eff.fragments.get? t =
      (ct.get? t).or ((rt.get? t).or ((scalars (mergeMappings R C)).get? t))
  /-- Where only the root has the first key, the tags of the definition itself do not count. -/
  root_only : Mapping.get? R "parseTags" ≠ none → Mapping.get? C "parseTags" = none →
    ∃ rt, parseTags? R = .ok rt ∧ ∀ t, eff.fragments.get? t =
      (rt.get? t).or ((scalars (mergeMappings R C)).get? t)
  /-- Where only the definition itself has the first key, the tags of the root do not count. -/
  own_only : Mapping.get? R "parseTags" = none → Mapping.get? C "parseTags" ≠ none →
    ∃ ct, parseTags? C = .ok ct ∧ ∀ t, eff.fragments.get? t =
      (ct.get? t).or ((scalars (mergeMappings R C)).get? t)

/-- **What a definition inherits from its root.** -/
theorem tagsInherit_of_onto? {kind : String} {R : Mapping} {source : Path} {root eff : Definition} {draft : Draft}
    (hroot : root? kind R source = .ok root) (honto : draft.onto? root = .ok eff) :
    TagsInherit R draft.config eff := by
  obtain ⟨rt, hrt, rfl⟩ := root?_eq_ok.1 hroot
  obtain ⟨-, i, tags, -, htags, rfl⟩ := Draft.onto?_eq_ok.1 honto
  dsimp only at htags
  refine ⟨fun key hkey hR hC hsame => ?_, fun hR hC => ⟨rt, hrt, fun t => ?_⟩, fun hR hC => ⟨tags, ?_, fun t => ?_⟩⟩
  · obtain ⟨ct, hct, hget⟩ := parseTags?_merge hkey hR hC hsame hrt htags
    refine ⟨rt, ct, hrt, hct, fun t => ?_⟩
    rw [get?_fragments, hget, Option.or_assoc]
  · obtain ⟨v, hv⟩ := Option.ne_none_iff_exists'.1 hR
    rw [parseTags?_eq, Yaml.get?_mergeMappings, hv, hC] at htags
    rw [parseTags?_eq, hv] at hrt
    obtain rfl : rt = tags := Except.ok.inj (hrt.symm.trans htags)
    rw [get?_fragments]
  · obtain ⟨w, hw⟩ := Option.ne_none_iff_exists'.1 hC
    rw [parseTags?_eq, Yaml.get?_mergeMappings, hR, hw] at htags
    rw [parseTags?_eq, hw]
    exact htags
  · rw [get?_fragments]

/-! ## 5. A section and its root -/

/-- Tags under some key: a word, and what ends a section. -/
def rootTags (key : String) : Mapping :=
  [(.text key, .mapping [(.text "word", .text "[0-9]+"), (.text "end_default", .text "#END")])]

/-- A section of its own, with another word under some key. -/
def sectionTags (key : String) : Mapping :=
  [(.text "identifier", .mapping [(.text "start", .text "#BEGIN {word}")]),
   (.text key, .mapping [(.text "word", .text "[a-z]+")])]

/-- What a section inherits, and the fragments for its word and its end. -/
def sectionFragments (key key' : String) : Option (Option String × Option String) :=
  (root? itemKind (rootTags key) ⟨"/root"⟩).toOption.bind fun root =>
    (Draft.onto? root ⟨"section", itemKind, sectionTags key', ⟨"/section"⟩⟩).toOption.map fun eff =>
      (eff.fragments.get? "word", eff.fragments.get? endDefaultTag)

/-- With one key in both files, **the word is the section's and the end is the root's**. -/
theorem tagsInherit_of_onto?_section : ∃ root eff, root? itemKind (rootTags "parse_tags") ⟨"/root"⟩ = .ok root ∧
    Draft.onto? root ⟨"section", itemKind, sectionTags "parse_tags", ⟨"/section"⟩⟩ = .ok eff ∧
    TagsInherit (rootTags "parse_tags") (sectionTags "parse_tags") eff ∧
    eff.fragments.get? "word" = some "[a-z]+" ∧ eff.fragments.get? endDefaultTag = some "#END" := by
  have hrun : sectionFragments "parse_tags" "parse_tags" = some (some "[a-z]+", some "#END") := by
    decide +kernel
  obtain ⟨root, hroot, hrun⟩ := Option.bind_eq_some_iff.1 hrun
  obtain ⟨eff, heff, hfragments⟩ := Option.map_eq_some_iff.1 hrun
  rw [Outcome.toOption_eq_some] at hroot heff
  obtain ⟨hword, hend⟩ := Prod.mk.inj hfragments
  exact ⟨root, eff, hroot, heff, tagsInherit_of_onto? hroot heff, hword, hend⟩

/-- A configuration holds its tags **under one key at most**. -/
def OneSpelling (config : Mapping) : Prop :=
  Mapping.get? config "parseTags" = none ∨ Mapping.get? config "parse_tags" = none

/-- A definition with its tags under one key **does not override** those that its root has under the other. -/
theorem not_inherits_across_spellings : ¬ ∀ (R : Mapping) (source : Path) (root eff : Definition) (draft : Draft)
    (ct : Dictionary String) (t f : String), OneSpelling R → OneSpelling draft.config →
      root? draft.kind R source = .ok root → draft.onto? root = .ok eff →
        parseTags? draft.config = .ok ct → ct.get? t = some f → eff.fragments.get? t = some f := by
  intro h
  have hrun : sectionFragments "parseTags" "parse_tags" = some (some "[0-9]+", some "#END") := by
    decide +kernel
  have hown : ((parseTags? (sectionTags "parse_tags")).toOption.bind fun ct => ct.get? "word") = some "[a-z]+" := by
    decide +kernel
  obtain ⟨root, hroot, hrun⟩ := Option.bind_eq_some_iff.1 hrun
  obtain ⟨eff, heff, hfragments⟩ := Option.map_eq_some_iff.1 hrun
  obtain ⟨ct, hct, hget⟩ := Option.bind_eq_some_iff.1 hown
  rw [Outcome.toOption_eq_some] at hroot heff hct
  have hword := h _ _ root eff _ ct "word" "[a-z]+" (Or.inr rfl) (Or.inl rfl) hroot heff hct hget
  rw [(Prod.mk.inj hfragments).1] at hword
  exact absurd hword (by decide)

end TreeIndex.Definition
