import TreeIndex.Proofs.Yaml.Equality
import TreeIndex.Proofs.Yaml.Merge

/-!
# What layers make of a value, place by place

A value that lies over another one is told by what stands in the two at every place. A way leads to a place through
keys of mappings and below tags.

* `Into`, `Value.at?`: one step of a way, and what stands at its end;
* `Value.MergesWith`: two values that merge -- two mappings, or two values under one tag; any other value
  **replaces** what lies below (`merge_of_not_mergesWith`);
* `find?_mergeMappings`: what stands under a key of a merged mapping;
* `at?_merge_of_some`, `at?_merge_of_none`: at a place where the upper value says something it is merged over what
  stands there below, and where it **leaves everything open** the lower value stays;
* `proper_merge`: a merged value holds each key once;
* `Layered`, `layered_merge`: all of this, rule by rule.
-/

namespace TreeIndex.Yaml

/-! ## 1. Places in a value -/

/-- One step **into a value**. -/
inductive Into where
  /-- To what stands under a key of a mapping. -/
  | key (k : Value)
  /-- Below a tag. -/
  | tag (name : String)

namespace Value

/-- What stands at the end of a way. A value without tags is entered **through keys only**. -/
def at? : Value → List Into → Option Value
  | v, [] => some v
  | mapping es, .key k :: way => (Mapping.find? es k).bind fun v => v.at? way
  | tagged t v, .tag s :: way => if t = s then v.at? way else none
  | _, _ :: _ => none

/-- The value can be entered by that step: a mapping through keys, and a tagged value below its tag. -/
def Admits : Value → Into → Prop
  | mapping _, .key _ => True
  | tagged t _, .tag s => t = s
  | _, _ => False

/-- The value is a scalar, a sequence or null: **no mapping, and without a tag**. -/
def IsLeaf (v : Value) : Prop :=
  (∀ es, v ≠ mapping es) ∧ ∀ t w, v ≠ tagged t w

/-- Both are mappings, or both stand under **the same tag**. -/
def MergesWith (v w : Value) : Prop :=
  (∃ es fs, v = mapping es ∧ w = mapping fs) ∨ ∃ t x y, v = tagged t x ∧ w = tagged t y

theorem IsLeaf.not_mergesWith {v w : Value} (h : w.IsLeaf) : ¬ v.MergesWith w := by
  rintro (⟨_, fs, -, hw⟩ | ⟨t, _, y, -, hw⟩)
  · exact h.1 fs hw
  · exact h.2 t y hw

@[simp]
theorem at?_nil (v : Value) : v.at? [] = some v := by
  cases v <;> rfl

/-- Keys lead into **mappings only**. -/
theorem at?_key_eq_some {v w : Value} {k : Value} {way : List Into} : v.at? (.key k :: way) = some w ↔
    ∃ es x, v = mapping es ∧ Mapping.find? es k = some x ∧ x.at? way = some w := by
  cases v <;> simp [at?, Option.bind_eq_some_iff]

/-- A tag leads below **itself only**. -/
theorem at?_tag_eq_some {v w : Value} {t : String} {way : List Into} : v.at? (.tag t :: way) = some w ↔
    ∃ x, v = tagged t x ∧ x.at? way = some w := by
  cases v with
  | tagged s x =>
    simp only [at?, tagged.injEq]
    split
    · rename_i hst
      simp [hst]
    · rename_i hst
      simp [hst]
  | _ => simp [at?]

/-- What stands in a proper value is proper. -/
theorem Proper.at? : ∀ {way : List Into} {v w : Value}, v.Proper → v.at? way = some w → w.Proper
  | [], v, w, h, hw => by
    rw [at?_nil] at hw
    exact Option.some.inj hw ▸ h
  | .key k :: way, v, w, h, hw => by
    obtain ⟨es, x, rfl, hx, hw⟩ := at?_key_eq_some.1 hw
    obtain ⟨l, hl, -⟩ := Mapping.exists_mem_of_find? hx
    exact Proper.at? ((proper_mapping_iff.1 h).2 _ hl).2 hw
  | .tag t :: way, v, w, h, hw => by
    obtain ⟨x, rfl, hx⟩ := at?_tag_eq_some.1 hw
    rw [Proper] at h
    exact Proper.at? h hx

end Value

/-! ## 2. Values that merge -/

section Merge

variable {below above v w : Value}

/-- Any value that does not merge with what lies below **replaces it**. -/
theorem merge_of_not_mergesWith (h : ¬ below.MergesWith above) : merge below above = above := by
  cases below with
  | mapping bs =>
    cases above with
    | mapping es => exact absurd (Or.inl ⟨bs, es, rfl, rfl⟩) h
    | _ => simp [merge]
  | tagged s x =>
    cases above with
    | tagged t y =>
      have hne : s ≠ t := by
        rintro rfl
        exact h (Or.inr ⟨s, x, y, rfl, rfl⟩)
      rw [merge, if_neg hne]
    | _ => simp [merge]
  | _ => simp [merge]

theorem merge_mapping (bs es : Mapping) : merge (.mapping bs) (.mapping es) = .mapping (mergeMappings bs es) := by
  rw [merge, mergeMappings]

theorem merge_tagged (t : String) (v w : Value) : merge (.tagged t v) (.tagged t w) = .tagged t (merge v w) := by
  rw [merge, if_pos rfl]

end Merge

section Mappings

variable {below above : Mapping} {key : Value}

/-- **What stands under a key of a merged mapping**: the upper value over the lower one, or the only one. -/
theorem find?_mergeMappings (h : ∀ e ∈ below, e.1.Proper) :
    Mapping.find? (mergeMappings below above) key =
      ((Mapping.find? below key).map fun v => under v (Mapping.find? above key)).or (Mapping.find? above key) :=
  find?_mergeMappings_of_same fun e he => Mapping.find?_eq_of_same (h e he)

/-- The keys of a merged mapping: **the lower ones, then those that only the upper one has**. -/
theorem keys_mergeMappings (below above : Mapping) : (mergeMappings below above).map (·.1) =
    below.map (·.1) ++ (above.map (·.1)).filter fun k => !Mapping.contains below k := by
  rw [mergeMappings, List.map_append, overlay_eq_map, List.map_map, onlyAbove, List.filter_map]
  rfl

/-- So **each key stands once**. -/
theorem distinct_mergeMappings (hbelow : below.Distinct) (habove : above.Distinct) :
    (mergeMappings below above).Distinct := by
  rw [Mapping.Distinct, mergeMappings, List.pairwise_append]
  refine ⟨?_, habove.filter _, fun e he f hf => ?_⟩
  · rw [overlay_eq_map]
    exact List.pairwise_map.2 hbelow
  · rw [overlay_eq_map] at he
    obtain ⟨e', he', rfl⟩ := List.mem_map.1 he
    have hnone : Mapping.find? below f.1 = none := by
      have hcontains := (mem_onlyAbove_iff.1 hf).2
      rwa [Mapping.contains, Option.isSome_eq_false_iff, Option.isNone_iff_eq_none] at hcontains
    exact Mapping.find?_eq_none_iff.1 hnone e' he'

end Mappings

/-! ## 3. Merged values are proper -/

mutual

/-- A merged value is proper, **if both layers are**. -/
theorem proper_merge : ∀ {below above : Value}, below.Proper → above.Proper → (merge below above).Proper
  | .mapping bs, above, h, h' => by
    cases above with
    | mapping es =>
      rw [Value.Proper] at h h'
      rw [merge_mapping, Value.Proper]
      refine ⟨distinct_mergeMappings h.1 h'.1, properEntries_iff.2 fun e he => ?_⟩
      rcases List.mem_append.1 he with he | he
      · exact properEntries_iff.1 (properEntries_overlay h.2 h'.2) e he
      · exact properEntries_iff.1 h'.2 e (mem_onlyAbove_iff.1 he).1
    | _ =>
      rw [merge_of_not_mergesWith (by simp [Value.MergesWith])]
      exact h'
  | .tagged s x, above, h, h' => by
    cases above with
    | tagged t y =>
      rw [Value.Proper] at h h'
      rw [merge]
      split <;> rw [Value.Proper]
      · exact proper_merge h h'
      · exact h'
    | _ =>
      rw [merge_of_not_mergesWith (by simp [Value.MergesWith])]
      exact h'
  | .null, _, _, h' | .bool _, _, _, h' | .int _, _, _, h' | .float _, _, _, h' | .text _, _, _, h'
  | .sequence _, _, _, h' => by
    rw [merge_of_not_mergesWith (by simp [Value.MergesWith])]
    exact h'

theorem properEntries_overlay : ∀ {bs es : List (Value × Value)}, ProperEntries bs → ProperEntries es →
    ProperEntries (overlay bs es)
  | [], _, _, _ => by
    rw [overlay]
    trivial
  | (k, v) :: bs, es, h, h' => by
    rw [ProperEntries] at h
    rw [overlay]
    split
    · rename_i w hw
      obtain ⟨l, hl, -⟩ := Mapping.exists_mem_of_find? hw
      rw [ProperEntries]
      exact ⟨h.1, proper_merge h.2.1 (properEntries_iff.1 h' _ hl).2, properEntries_overlay h.2.2 h'⟩
    · rw [ProperEntries]
      exact ⟨h.1, h.2.1, properEntries_overlay h.2.2 h'⟩

end

/-! ## 4. What stands at a place -/

/-- A value **over what may stand below it**. -/
def laidOver (below : Option Value) (w : Value) : Value :=
  (below.map fun v => merge v w).getD w

/-- Where the upper value says something, **that is merged over what stands there below**. -/
theorem at?_merge_of_some : ∀ {way : List Into} {below above w : Value}, below.Proper → above.at? way = some w →
    (merge below above).at? way = some (laidOver (below.at? way) w)
  | [], below, above, w, _, hw => by
    rw [Value.at?_nil] at hw
    obtain rfl := Option.some.inj hw
    rw [Value.at?_nil, Value.at?_nil]
    rfl
  | .key k :: way, below, above, w, h, hw => by
    obtain ⟨es, y, rfl, hy, hyw⟩ := Value.at?_key_eq_some.1 hw
    cases below with
    | mapping bs =>
      obtain ⟨-, hbs⟩ := proper_mapping_iff.1 h
      rw [merge_mapping, Value.at?, Value.at?, find?_mergeMappings fun e he => (hbs e he).1, hy]
      cases hx : Mapping.find? bs k with
      | none => exact hyw
      | some x =>
        obtain ⟨l, hl, -⟩ := Mapping.exists_mem_of_find? hx
        exact at?_merge_of_some (hbs _ hl).2 hyw
    | _ =>
      rw [merge_of_not_mergesWith (by simp [Value.MergesWith])]
      exact hw
  | .tag t :: way, below, above, w, h, hw => by
    obtain ⟨y, rfl, hyw⟩ := Value.at?_tag_eq_some.1 hw
    cases below with
    | tagged s x =>
      rw [Value.Proper] at h
      by_cases hst : s = t
      · subst hst
        rw [merge_tagged, Value.at?, Value.at?, if_pos rfl, if_pos rfl]
        exact at?_merge_of_some h hyw
      · rw [merge_of_not_mergesWith (by simp [Value.MergesWith, Ne.symm hst]), hw, Value.at?, if_neg hst]
        rfl
    | _ =>
      rw [merge_of_not_mergesWith (by simp [Value.MergesWith])]
      exact hw

/-- Where the upper value says nothing, and can be entered as far as it goes, **the lower value stays**: also where
    that says nothing. -/
theorem at?_merge_of_none : ∀ {way : List Into} {below above : Value}, below.Proper → above.at? way = none →
    (∀ front step rest, way = front ++ step :: rest → ∀ v, above.at? front = some v → v.Admits step) →
      (merge below above).at? way = below.at? way
  | [], _, above, _, hnone, _ => by
    rw [Value.at?_nil] at hnone
    cases hnone
  | step :: way, below, above, h, hnone, hadmits => by
    have hfirst := hadmits [] step way rfl above (Value.at?_nil above)
    -- what can be entered by a step can be entered as far as it goes behind that step, too
    have hrest {v : Value} (hv : ∀ front, above.at? (step :: front) = v.at? front) :
        ∀ front next rest, way = front ++ next :: rest → ∀ w, v.at? front = some w → w.Admits next := by
      rintro front next rest rfl w hw
      exact hadmits (step :: front) next rest rfl w ((hv front).trans hw)
    cases step with
    | key k =>
      cases above with
      | mapping es =>
        cases below with
        | mapping bs =>
          obtain ⟨-, hbs⟩ := proper_mapping_iff.1 h
          rw [merge_mapping, Value.at?, Value.at?, find?_mergeMappings fun e he => (hbs e he).1]
          rw [Value.at?] at hnone
          cases hy : Mapping.find? es k with
          | none => cases Mapping.find? bs k <;> rfl
          | some y =>
            rw [hy] at hnone
            cases hx : Mapping.find? bs k with
            | none => exact hnone
            | some x =>
              obtain ⟨l, hl, -⟩ := Mapping.exists_mem_of_find? hx
              refine at?_merge_of_none (hbs _ hl).2 hnone (hrest fun front => ?_)
              rw [Value.at?, hy]
              rfl
        | _ =>
          rw [merge_of_not_mergesWith (by simp [Value.MergesWith]), hnone]
          rfl
      | _ => exact hfirst.elim
    | tag t =>
      cases above with
      | tagged s y =>
        obtain rfl : s = t := hfirst
        cases below with
        | tagged r x =>
          rw [Value.Proper] at h
          by_cases hrs : r = s
          · subst hrs
            rw [Value.at?, if_pos rfl] at hnone
            rw [merge_tagged, Value.at?, Value.at?, if_pos rfl, if_pos rfl]
            refine at?_merge_of_none h hnone (hrest fun front => ?_)
            rw [Value.at?, if_pos rfl]
          · rw [merge_of_not_mergesWith (by simp [Value.MergesWith, Ne.symm hrs]), hnone, Value.at?, if_neg hrs]
        | _ =>
          rw [merge_of_not_mergesWith (by simp [Value.MergesWith]), hnone]
          rfl
      | _ => exact hfirst.elim

/-! ## 5. The rules -/

/-- **What layers make of a value.** In a value without tags all ways lead through keys. -/
structure Layered (below above merged : Value) : Prop where
  /-- Where the upper value holds a scalar, a sequence or null, that stands there. -/
  leaf : ∀ way w, above.at? way = some w → w.IsLeaf → merged.at? way = some w
  /-- Where it holds nothing, and nothing on the way that cannot be entered, there is what the lower value holds,
      or nothing. -/
  open_below : ∀ way, above.at? way = none →
    (∀ front step rest, way = front ++ step :: rest → ∀ v, above.at? front = some v → v.Admits step) →
      merged.at? way = below.at? way
  /-- Where both hold a mapping there is one with each key once: the lower keys, then those that only the upper
      mapping has. -/
  keys : ∀ way bs es, below.at? way = some (.mapping bs) → above.at? way = some (.mapping es) →
    ∃ ms : Mapping, merged.at? way = some (.mapping ms) ∧ ms.Distinct ∧
      ms.map (·.1) = bs.map (·.1) ++ (es.map (·.1)).filter fun k => !Mapping.contains bs k
  /-- Where only the upper value holds a mapping, that stands there, with each key once. -/
  keys_above : ∀ way es, above.at? way = some (.mapping es) → (∀ bs, below.at? way ≠ some (.mapping bs)) →
    merged.at? way = some (.mapping es) ∧ Mapping.Distinct es
  /-- Under the same tag the contents merge by the same rules, -/
  tagged : ∀ way t v w, below.at? way = some (.tagged t v) → above.at? way = some (.tagged t w) →
    merged.at? way = some (.tagged t (merge v w))
  /-- and whatever does not merge with what stands there below replaces it. -/
  replaced : ∀ way w, above.at? way = some w → (∀ v, below.at? way = some v → ¬ v.MergesWith w) →
    merged.at? way = some w

/-- **A value over another one**, by keys and tags, whatever the two hold. -/
theorem layered_merge {below above : Value} (hbelow : below.Proper) (habove : above.Proper) :
    Layered below above (merge below above) := by
  have hreplaced : ∀ way w, above.at? way = some w → (∀ v, below.at? way = some v → ¬ v.MergesWith w) →
      (merge below above).at? way = some w := by
    intro way w hw hapart
    rw [at?_merge_of_some hbelow hw]
    cases hv : below.at? way with
    | none => rfl
    | some v => exact congrArg some (merge_of_not_mergesWith (hapart v hv))
  refine ⟨fun way w hw hleaf => ?_, fun way => at?_merge_of_none hbelow, fun way bs es hbs hes => ?_,
    fun way es hes hbs => ⟨?_, ?_⟩, fun way t v w hv hw => ?_, hreplaced⟩
  · exact hreplaced way w hw fun v _ => hleaf.not_mergesWith
  · refine ⟨mergeMappings bs es, ?_, ?_, keys_mergeMappings bs es⟩
    · rw [at?_merge_of_some hbelow hes, hbs]
      exact congrArg some (merge_mapping bs es)
    · exact distinct_mergeMappings (proper_mapping_iff.1 (hbelow.at? hbs)).1
        (proper_mapping_iff.1 (habove.at? hes)).1
  · refine hreplaced way _ hes fun v hv => ?_
    rintro (⟨bs, _, rfl, -⟩ | ⟨_, _, _, -, hes⟩)
    · exact hbs bs hv
    · cases hes
  · exact (proper_mapping_iff.1 (habove.at? hes)).1
  · rw [at?_merge_of_some hbelow hw, hv]
    exact congrArg some (merge_tagged t v w)

/-- A layer with a mapping and a tagged value in it. -/
def lowerLayer : Value :=
  .mapping [(.text "a", .mapping [(.text "x", .int 1), (.text "y", .int 2)]),
    (.text "t", .tagged "s" (.mapping [(.text "u", .int 1)]))]

/-- A layer that says something about both, and leaves some of it open. -/
def upperLayer : Value :=
  .mapping [(.text "t", .tagged "s" (.mapping [(.text "v", .null)])),
    (.text "a", .mapping [(.text "z", .int 4), (.text "y", .int 3)])]

/-- The layers merge at every depth, **also below the tag**. -/
theorem layered_merge_upperLayer : lowerLayer.Proper ∧ upperLayer.Proper ∧
    Layered lowerLayer upperLayer (merge lowerLayer upperLayer) ∧
    merge lowerLayer upperLayer =
      .mapping [(.text "a", .mapping [(.text "x", .int 1), (.text "y", .int 3), (.text "z", .int 4)]),
        (.text "t", .tagged "s" (.mapping [(.text "u", .int 1), (.text "v", .null)]))] := by
  have hlower : lowerLayer.Proper := by
    simp [lowerLayer, Value.Proper, ProperEntries, Mapping.Distinct, Value.same]
  have hupper : upperLayer.Proper := by
    simp [upperLayer, Value.Proper, ProperEntries, Mapping.Distinct, Value.same]
  exact ⟨hlower, hupper, layered_merge hlower hupper, rfl⟩

end TreeIndex.Yaml
