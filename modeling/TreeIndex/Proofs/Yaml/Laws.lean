import TreeIndex.Proofs.Yaml.Layers

/-!
# Laws of layers

Layers of a configuration may be put over one another again, and in either grouping.

* `Value.inward`: induction on a value as merging goes into it: through the values of mappings and below tags;
* `Value.MergesWith.trans`, `merge_mergesWith_iff`: values that merge are of one shape, and **a merged value has the
  shape of its upper layer**;
* `mergeMappings_eq_below`: a mapping that says nothing new leaves what lies below as it is; so does a value over
  itself (`merge_self`), and a layer that lies there already (`merge_merge_self`);
* `Value.Bridges`: the layer in the middle **cuts nothing off** that the outer two would merge;
* `merge_assoc_of_bridges`: then the layers may be grouped in either way, with the same order of keys;
* `LayerLaws`, `layerLaws_of_proper`: all of this.
-/

namespace TreeIndex.Yaml

/-! ## 1. Induction and shapes -/

namespace Value

mutual

/-- Induction on a value **as merging goes into it**. -/
@[elab_as_elim]
theorem inward {P : Value → Prop} (leaf : ∀ v : Value, v.IsLeaf → P v)
    (mapping : ∀ es : Mapping, (∀ e ∈ es, P e.2) → P (.mapping es)) (tagged : ∀ t v, P v → P (.tagged t v)) :
    ∀ v : Value, P v
  | .mapping es => mapping es (inward_entries leaf mapping tagged es)
  | .tagged t v => tagged t v (inward leaf mapping tagged v)
  | .null | .bool _ | .int _ | .float _ | .text _ | .sequence _ => leaf _ (by simp [IsLeaf])

theorem inward_entries {P : Value → Prop} (leaf : ∀ v : Value, v.IsLeaf → P v)
    (mapping : ∀ es : Mapping, (∀ e ∈ es, P e.2) → P (.mapping es)) (tagged : ∀ t v, P v → P (.tagged t v)) :
    ∀ (es : List (Value × Value)), ∀ e ∈ es, P e.2
  | [], _, he => absurd he List.not_mem_nil
  | (_, v) :: es, e, he => by
    rcases List.mem_cons.1 he with rfl | he
    · exact inward leaf mapping tagged v
    · exact inward_entries leaf mapping tagged es e he

end

variable {a b c : Value}

theorem mapping_mergesWith_iff {es : Mapping} : (mapping es).MergesWith a ↔ ∃ fs, a = mapping fs := by
  simp [MergesWith]

theorem tagged_mergesWith_iff {t : String} : (tagged t a).MergesWith b ↔ ∃ x, b = tagged t x := by
  constructor
  · rintro (⟨_, _, h, -⟩ | ⟨_, _, x, h, rfl⟩) <;> cases h
    exact ⟨x, rfl⟩
  · rintro ⟨x, rfl⟩
    exact Or.inr ⟨t, a, x, rfl, rfl⟩

theorem MergesWith.symm (h : a.MergesWith b) : b.MergesWith a := by
  rcases h with ⟨es, fs, rfl, rfl⟩ | ⟨t, x, y, rfl, rfl⟩
  · exact mapping_mergesWith_iff.2 ⟨es, rfl⟩
  · exact tagged_mergesWith_iff.2 ⟨x, rfl⟩

theorem MergesWith.trans (h : a.MergesWith b) (h' : b.MergesWith c) : a.MergesWith c := by
  rcases h with ⟨es, fs, rfl, rfl⟩ | ⟨t, x, y, rfl, rfl⟩
  · exact mapping_mergesWith_iff.2 (mapping_mergesWith_iff.1 h')
  · exact tagged_mergesWith_iff.2 (tagged_mergesWith_iff.1 h')

theorem IsLeaf.not_merges (h : a.IsLeaf) : ¬ a.MergesWith b :=
  fun hab => h.not_mergesWith hab.symm

/-- A merged value has the shape **of its upper layer**. -/
theorem MergesWith.merge (h : a.MergesWith b) : (Yaml.merge a b).MergesWith b := by
  rcases h with ⟨es, fs, rfl, rfl⟩ | ⟨t, x, y, rfl, rfl⟩
  · rw [merge_mapping]
    exact mapping_mergesWith_iff.2 ⟨fs, rfl⟩
  · rw [merge_tagged]
    exact tagged_mergesWith_iff.2 ⟨y, rfl⟩

/-- So it merges **with whatever that merges with**. -/
theorem merge_mergesWith_iff : (Yaml.merge a b).MergesWith c ↔ b.MergesWith c := by
  by_cases h : a.MergesWith b
  · exact ⟨h.merge.symm.trans, h.merge.trans⟩
  · rw [merge_of_not_mergesWith h]

end Value

/-! ## 2. Layers that say nothing new -/

section Same

variable {below above : Mapping}

/-- What is found in a proper mapping is proper. -/
theorem proper_of_find? {es : Mapping} {key v : Value} (h : (Value.mapping es).Proper)
    (hv : Mapping.find? es key = some v) : v.Proper := by
  obtain ⟨k, hk, -⟩ := Mapping.exists_mem_of_find? hv
  exact ((proper_mapping_iff.1 h).2 _ hk).2

theorem keys_proper {es : Mapping} (h : (Value.mapping es).Proper) : ∀ e ∈ es, e.1.Proper :=
  fun e he => ((proper_mapping_iff.1 h).2 e he).1

theorem contains_mergeMappings (h : ∀ e ∈ below, e.1.Proper) (key : Value) :
    Mapping.contains (mergeMappings below above) key =
      (Mapping.contains below key || Mapping.contains above key) := by
  rw [Mapping.contains, find?_mergeMappings h, Mapping.contains, Mapping.contains, Option.isSome_or, Option.isSome_map]

/-- A mapping that says nothing new **leaves what lies below as it is**. -/
theorem mergeMappings_eq_below (hunder : ∀ e ∈ below, under e.2 (Mapping.find? above e.1) = e.2)
    (hkeys : ∀ e ∈ above, Mapping.contains below e.1 = true) : mergeMappings below above = below := by
  have hover : overlay below above = below := by
    rw [overlay_eq_map]
    refine (List.map_congr_left fun e he => ?_).trans (List.map_id below)
    rw [hunder e he]
    rfl
  have honly : onlyAbove below above = [] :=
    List.filter_eq_nil_iff.2 fun e he => by rw [hkeys e he]; simp
  rw [mergeMappings, hover, honly, List.append_nil]

theorem mergeMappings_nil_above (below : Mapping) : mergeMappings below [] = below :=
  mergeMappings_eq_below (fun _ _ => rfl) fun _ he => absurd he List.not_mem_nil

theorem mergeMappings_nil_below (above : Mapping) : mergeMappings [] above = above := by
  rw [mergeMappings, overlay, List.nil_append, onlyAbove]
  exact List.filter_eq_self.2 fun _ _ => rfl

end Same

/-- A value **over itself** is the value. -/
theorem merge_self {v : Value} (h : v.Proper) : merge v v = v := by
  induction v using Value.inward with
  | leaf v hleaf => exact merge_of_not_mergesWith hleaf.not_merges
  | mapping es ih =>
    obtain ⟨hdistinct, hproper⟩ := proper_mapping_iff.1 h
    rw [merge_mapping, mergeMappings_eq_below (fun e he => ?_) fun e he => Mapping.contains_of_mem he]
    rw [Mapping.find?_eq_of_mem hdistinct he]
    exact ih e he (hproper e he).2
  | tagged t v ih =>
    rw [Value.Proper] at h
    rw [merge_tagged, ih h]

/-- A mapping that lies there already **says nothing new**. -/
theorem mergeMappings_mergeMappings_self {es fs : Mapping} (hes : ∀ e ∈ es, e.1.Proper)
    (hfs : (Value.mapping fs).Proper)
    (h : ∀ e ∈ es, ∀ w, Mapping.find? fs e.1 = some w → merge (merge e.2 w) w = merge e.2 w) :
    mergeMappings (mergeMappings es fs) fs = mergeMappings es fs := by
  obtain ⟨hdistinct, hproper⟩ := proper_mapping_iff.1 hfs
  refine mergeMappings_eq_below (fun e he => ?_) fun e he => ?_
  · rcases List.mem_append.1 he with he | he
    · rw [overlay_eq_map] at he
      obtain ⟨d, hd, rfl⟩ := List.mem_map.1 he
      dsimp only
      cases hw : Mapping.find? fs d.1 with
      | none => rfl
      | some w => exact h d hd w hw
    · obtain ⟨he, -⟩ := mem_onlyAbove_iff.1 he
      rw [Mapping.find?_eq_of_mem hdistinct he]
      exact merge_self (hproper e he).2
  · rw [contains_mergeMappings hes, Mapping.contains_of_mem he, Bool.or_true]

/-- A layer that lies there already **changes nothing**. -/
theorem merge_merge_self {p c : Value} (hp : p.Proper) (hc : c.Proper) : merge (merge p c) c = merge p c := by
  have hreplaced {p c : Value} (hc : c.Proper) (h : ¬ p.MergesWith c) : merge (merge p c) c = merge p c := by
    rw [merge_of_not_mergesWith h, merge_self hc]
  induction p using Value.inward generalizing c with
  | leaf p hleaf => exact hreplaced hc hleaf.not_merges
  | mapping es ih =>
    by_cases h : (Value.mapping es).MergesWith c
    · obtain ⟨fs, rfl⟩ := Value.mapping_mergesWith_iff.1 h
      obtain ⟨-, hes⟩ := proper_mapping_iff.1 hp
      rw [merge_mapping, merge_mapping,
        mergeMappings_mergeMappings_self (fun e he => (hes e he).1) hc fun e he w hw => ?_]
      exact ih e he (hes e he).2 (proper_of_find? hc hw)
    · exact hreplaced hc h
  | tagged t p ih =>
    by_cases h : (Value.tagged t p).MergesWith c
    · obtain ⟨c, rfl⟩ := Value.tagged_mergesWith_iff.1 h
      rw [Value.Proper] at hp hc
      rw [merge_tagged, merge_tagged, ih hp hc]
    · exact hreplaced hc h

/-! ## 3. Layers in either grouping -/

/-- The layer in the middle **cuts nothing off**: wherever a way leads into all three, and the outer two hold two
    mappings there or two values under one tag, it holds such a one, too. -/
def Value.Bridges (a b c : Value) : Prop :=
  ∀ way x y z, a.at? way = some x → b.at? way = some y → c.at? way = some z → x.MergesWith z → x.MergesWith y

namespace Value.Bridges

variable {a b c : Value}

theorem mergesWith (h : a.Bridges b c) (hac : a.MergesWith c) : a.MergesWith b :=
  h [] a b c (at?_nil a) (at?_nil b) (at?_nil c) hac

theorem at_key {as bs cs : Mapping} (h : (mapping as).Bridges (mapping bs) (mapping cs)) {key : Value}
    (ha : Mapping.find? as key = some a) (hb : Mapping.find? bs key = some b) (hc : Mapping.find? cs key = some c) :
    a.Bridges b c := by
  intro way x y z hx hy hz
  refine h (.key key :: way) x y z ?_ ?_ ?_
  · exact at?_key_eq_some.2 ⟨as, a, rfl, ha, hx⟩
  · exact at?_key_eq_some.2 ⟨bs, b, rfl, hb, hy⟩
  · exact at?_key_eq_some.2 ⟨cs, c, rfl, hc, hz⟩

theorem below_tag {t : String} (h : (tagged t a).Bridges (tagged t b) (tagged t c)) : a.Bridges b c := by
  intro way x y z hx hy hz
  refine h (.tag t :: way) x y z ?_ ?_ ?_
  · exact at?_tag_eq_some.2 ⟨a, rfl, hx⟩
  · exact at?_tag_eq_some.2 ⟨b, rfl, hy⟩
  · exact at?_tag_eq_some.2 ⟨c, rfl, hz⟩

/-- Values that the outer layers do not merge **lie open to any middle one**: no way leads into all three. -/
theorem of_not_mergesWith (h : ¬ a.MergesWith c) : a.Bridges b c := by
  intro way x y z hx _ hz hxz
  cases way with
  | nil =>
    rw [at?_nil] at hx hz
    cases hx
    cases hz
    exact absurd hxz h
  | cons step way =>
    cases step with
    | key key =>
      obtain ⟨as, _, rfl, -, -⟩ := at?_key_eq_some.1 hx
      obtain ⟨cs, _, rfl, -, -⟩ := at?_key_eq_some.1 hz
      exact absurd (mapping_mergesWith_iff.2 ⟨cs, rfl⟩) h
    | tag t =>
      obtain ⟨a, rfl, -⟩ := at?_tag_eq_some.1 hx
      obtain ⟨c, rfl, -⟩ := at?_tag_eq_some.1 hz
      exact absurd (tagged_mergesWith_iff.2 ⟨c, rfl⟩) h

/-- Among mappings it is enough to look **at the entries of the lowest one**. -/
theorem of_entries {as bs cs : Mapping} (has : ∀ e ∈ as, e.1.Proper) (h : ∀ e ∈ as, ∀ y z,
    Mapping.find? bs e.1 = some y → Mapping.find? cs e.1 = some z → e.2.Bridges y z) :
    (mapping as).Bridges (mapping bs) (mapping cs) := by
  intro way x y z hx hy hz hxz
  cases way with
  | nil =>
    rw [at?_nil] at hx hy
    cases hx
    cases hy
    exact mapping_mergesWith_iff.2 ⟨bs, rfl⟩
  | cons step way =>
    cases step with
    | key key =>
      obtain ⟨_, a, hmap, ha, hx⟩ := at?_key_eq_some.1 hx
      cases hmap
      obtain ⟨_, b, hmap, hb, hy⟩ := at?_key_eq_some.1 hy
      cases hmap
      obtain ⟨_, c, hmap, hc, hz⟩ := at?_key_eq_some.1 hz
      cases hmap
      obtain ⟨k, hk, hsame⟩ := Mapping.exists_mem_of_find? ha
      rw [← Mapping.find?_eq_of_same (has _ hk) hsame] at hb hc
      exact h _ hk b c hb hc way x y z hx hy hz hxz
    | tag t =>
      obtain ⟨_, htagged, -⟩ := at?_tag_eq_some.1 hx
      cases htagged

/-- Under one tag it is enough to look **below it**. -/
theorem of_content {t : String} (h : a.Bridges b c) : (tagged t a).Bridges (tagged t b) (tagged t c) := by
  intro way x y z hx hy hz hxz
  cases way with
  | nil =>
    rw [at?_nil] at hx hy
    cases hx
    cases hy
    exact tagged_mergesWith_iff.2 ⟨b, rfl⟩
  | cons step way =>
    cases step with
    | key key =>
      obtain ⟨_, _, hmap, -, -⟩ := at?_key_eq_some.1 hx
      cases hmap
    | tag s =>
      obtain ⟨_, htagged, hx⟩ := at?_tag_eq_some.1 hx
      cases htagged
      obtain ⟨_, htagged, hy⟩ := at?_tag_eq_some.1 hy
      cases htagged
      obtain ⟨_, htagged, hz⟩ := at?_tag_eq_some.1 hz
      cases htagged
      exact h way x y z hx hy hz hxz

end Value.Bridges

/-- Where the outer layers do not merge, the upper one **replaces the lower one in either grouping**. -/
theorem merge_assoc_of_not_mergesWith {a b c : Value} (h : ¬ a.MergesWith c) :
    merge (merge a b) c = merge a (merge b c) := by
  by_cases hbc : b.MergesWith c
  · have hab : ¬ a.MergesWith b := fun hab => h (hab.trans hbc)
    have habc : ¬ a.MergesWith (merge b c) := fun habc => h (habc.trans hbc.merge)
    rw [merge_of_not_mergesWith hab, merge_of_not_mergesWith habc]
  · rw [merge_of_not_mergesWith (mt Value.merge_mergesWith_iff.1 hbc), merge_of_not_mergesWith hbc,
      merge_of_not_mergesWith h]

section Grouping

variable {as bs cs : Mapping}

theorem overlay_append (cs : Mapping) : overlay (as ++ bs) cs = overlay as cs ++ overlay bs cs := by
  rw [overlay_eq_map, overlay_eq_map, overlay_eq_map, List.map_append]

/-- The entries of the lowest layer, **in either grouping**. -/
theorem overlay_overlay (hbs : ∀ e ∈ bs, e.1.Proper) (h : ∀ e ∈ as, ∀ y z, Mapping.find? bs e.1 = some y →
    Mapping.find? cs e.1 = some z → merge (merge e.2 y) z = merge e.2 (merge y z)) :
    overlay (overlay as bs) cs = overlay as (mergeMappings bs cs) := by
  rw [overlay_eq_map as, overlay_eq_map, overlay_eq_map, List.map_map]
  refine List.map_congr_left fun e he => Prod.ext rfl ?_
  dsimp only [Function.comp_apply]
  rw [find?_mergeMappings hbs]
  cases hy : Mapping.find? bs e.1 with
  | none => rfl
  | some y =>
    cases hz : Mapping.find? cs e.1 with
    | none => rfl
    | some z => exact h e he y z hy hz

/-- The entries that only the layers above have, **in either grouping**. -/
theorem onlyAbove_mergeMappings (has : ∀ e ∈ as, e.1.Proper) : onlyAbove as (mergeMappings bs cs) =
    overlay (onlyAbove as bs) cs ++ onlyAbove (mergeMappings as bs) cs := by
  rw [mergeMappings, onlyAbove, List.filter_append]
  congr 1
  · rw [overlay_eq_map, overlay_eq_map, List.filter_map, onlyAbove]
    rfl
  · rw [onlyAbove, onlyAbove, List.filter_filter]
    refine List.filter_congr fun e _ => ?_
    rw [contains_mergeMappings has, Bool.not_or]

theorem mergeMappings_assoc (has : ∀ e ∈ as, e.1.Proper) (hbs : ∀ e ∈ bs, e.1.Proper)
    (h : ∀ e ∈ as, ∀ y z, Mapping.find? bs e.1 = some y → Mapping.find? cs e.1 = some z →
      merge (merge e.2 y) z = merge e.2 (merge y z)) :
    mergeMappings (mergeMappings as bs) cs = mergeMappings as (mergeMappings bs cs) :=
  calc mergeMappings (mergeMappings as bs) cs
      = overlay (overlay as bs ++ onlyAbove as bs) cs ++ onlyAbove (mergeMappings as bs) cs := rfl
    _ = overlay (overlay as bs) cs ++ (overlay (onlyAbove as bs) cs ++ onlyAbove (mergeMappings as bs) cs) := by
        rw [overlay_append, List.append_assoc]
    _ = overlay as (mergeMappings bs cs) ++ onlyAbove as (mergeMappings bs cs) := by
        rw [overlay_overlay hbs h, onlyAbove_mergeMappings has]

end Grouping

/-- Layers may be grouped **in either way**, if the one in the middle cuts nothing off. -/
theorem merge_assoc_of_bridges {a b c : Value} (ha : a.Proper) (hb : b.Proper) (hc : c.Proper) (h : a.Bridges b c) :
    merge (merge a b) c = merge a (merge b c) := by
  induction a using Value.inward generalizing b c with
  | leaf a hleaf => exact merge_assoc_of_not_mergesWith hleaf.not_merges
  | mapping as ih =>
    by_cases hac : (Value.mapping as).MergesWith c
    · obtain ⟨bs, rfl⟩ := Value.mapping_mergesWith_iff.1 (h.mergesWith hac)
      obtain ⟨cs, rfl⟩ := Value.mapping_mergesWith_iff.1 hac
      obtain ⟨hdistinct, has⟩ := proper_mapping_iff.1 ha
      obtain ⟨-, hbs⟩ := proper_mapping_iff.1 hb
      rw [merge_mapping, merge_mapping, merge_mapping, merge_mapping,
        mergeMappings_assoc (fun e he => (has e he).1) fun e he => (hbs e he).1]
      intro e he y z hy hz
      exact ih e he (has e he).2 (proper_of_find? hb hy) (proper_of_find? hc hz)
        (h.at_key (Mapping.find?_eq_of_mem hdistinct he) hy hz)
    · exact merge_assoc_of_not_mergesWith hac
  | tagged t a ih =>
    by_cases hac : (Value.tagged t a).MergesWith c
    · obtain ⟨b, rfl⟩ := Value.tagged_mergesWith_iff.1 (h.mergesWith hac)
      obtain ⟨c, rfl⟩ := Value.tagged_mergesWith_iff.1 hac
      rw [Value.Proper] at ha hb hc
      rw [merge_tagged, merge_tagged, merge_tagged, merge_tagged, ih ha hb hc h.below_tag]
    · exact merge_assoc_of_not_mergesWith hac

/-- A scalar in the middle **does cut off** what lies below it: only in one grouping it is still there. -/
theorem merge_over_leaf {b : Value} (hb : b.IsLeaf) (a c : Value) :
    merge (merge a b) c = c ∧ merge a (merge b c) = merge a c := by
  rw [merge_of_not_mergesWith hb.not_mergesWith, merge_of_not_mergesWith hb.not_merges]
  exact ⟨rfl, rfl⟩

/-! ## 4. The laws -/

/-- **The laws of layers**: the order of keys is the same on both sides. -/
structure LayerLaws (a b c : Value) : Prop where
  /-- A value over itself is the value. -/
  self : merge a a = a
  /-- A mapping stays what it is under an empty one and over an empty one. -/
  empty : ∀ es : Mapping, a = .mapping es → merge a (.mapping []) = a ∧ merge (.mapping []) a = a
  /-- A layer that is applied again changes nothing. -/
  again : merge (merge a b) b = merge a b
  /-- The layers may be grouped in either way, if the one in the middle cuts nothing off. -/
  regroup : a.Bridges b c → merge (merge a b) c = merge a (merge b c)

/-- **Layers may be folded** in either grouping, and again. -/
theorem layerLaws_of_proper {a b c : Value} (ha : a.Proper) (hb : b.Proper) (hc : c.Proper) : LayerLaws a b c where
  self := merge_self ha
  empty := by
    rintro es rfl
    rw [merge_mapping, merge_mapping, mergeMappings_nil_above, mergeMappings_nil_below]
    exact ⟨rfl, rfl⟩
  again := merge_merge_self ha hb
  regroup := merge_assoc_of_bridges ha hb hc

/-- The lowest of three layers. -/
def baseLayer : Value :=
  .mapping [(.text "n", .int 1), (.text "i", .mapping [(.text "s", .text "a"), (.text "e", .text "b")]),
    (.text "t", .tagged "m" (.mapping [(.text "u", .int 1)]))]

/-- The layer in the middle: it goes on wherever the outer two merge, and it replaces a number that the upper layer
    replaces again. -/
def rootLayer : Value :=
  .mapping [(.text "t", .tagged "m" (.mapping [(.text "v", .int 2)])), (.text "n", .mapping []),
    (.text "i", .mapping [(.text "p", .null)])]

/-- The highest of three layers. -/
def childLayer : Value :=
  .mapping [(.text "i", .mapping [(.text "e", .text "c")]), (.text "o", .null),
    (.text "t", .tagged "m" (.mapping [(.text "u", .int 3)])), (.text "n", .sequence [])]

theorem bridges_childLayer : baseLayer.Bridges rootLayer childLayer := by
  refine .of_entries (by simp [Value.Proper]) (List.forall_mem_cons.2 ⟨?_, List.forall_mem_cons.2 ⟨?_,
    List.forall_mem_singleton.2 ?_⟩⟩) <;> rintro y z hy hz <;> cases hy <;> cases hz
  · exact .of_not_mergesWith (by simp [Value.MergesWith])
  · refine .of_entries (by simp [Value.Proper]) (List.forall_mem_cons.2 ⟨?_, List.forall_mem_singleton.2 ?_⟩) <;>
      rintro y z hy hz <;> cases hy
  · refine .of_content (.of_entries (by simp [Value.Proper]) (List.forall_mem_singleton.2 ?_))
    rintro y z hy hz
    cases hy

/-- Both groupings make **the same value of three layers**, in which the keys have kept their order. -/
theorem layerLaws_childLayer : baseLayer.Proper ∧ rootLayer.Proper ∧ childLayer.Proper ∧
    LayerLaws baseLayer rootLayer childLayer ∧ baseLayer.Bridges rootLayer childLayer ∧
    merge (merge baseLayer rootLayer) childLayer = merge baseLayer (merge rootLayer childLayer) ∧
    merge baseLayer (merge rootLayer childLayer) =
      .mapping [(.text "n", .sequence []),
        (.text "i", .mapping [(.text "s", .text "a"), (.text "e", .text "c"), (.text "p", .null)]),
        (.text "t", .tagged "m" (.mapping [(.text "u", .int 3), (.text "v", .int 2)])), (.text "o", .null)] := by
  have hbase : baseLayer.Proper := by
    simp [baseLayer, Value.Proper, ProperEntries, Mapping.Distinct, Value.same]
  have hroot : rootLayer.Proper := by
    simp [rootLayer, Value.Proper, ProperEntries, Mapping.Distinct, Value.same]
  have hchild : childLayer.Proper := by
    simp [childLayer, Value.Proper, ProperEntries, ProperItems, Mapping.Distinct, Value.same]
  have hlaws := layerLaws_of_proper hbase hroot hchild
  exact ⟨hbase, hroot, hchild, hlaws, bridges_childLayer, hlaws.regroup bridges_childLayer, rfl⟩

end TreeIndex.Yaml
