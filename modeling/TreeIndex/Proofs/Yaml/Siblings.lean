import TreeIndex.Proofs.Yaml.Laws

/-!
# Siblings over one value

Two layers that nowhere conflict may be put over a value in either order.

* `Value.Agrees`: values that **nowhere conflict**: under every key of both there are mappings, or values under one
  tag, that nowhere conflict either;
* `Value.Rearranged`: the same value **up to the order of keys**, at every depth; proper values of which this holds
  are equal (`Rearranged.same`);
* `exists_mapping_below`, `exists_content_below`: what lies below siblings and does not merge with them **is worth an
  empty value of their shape**, so its shape need not be looked at;
* `siblings_commute`: the order of siblings makes no difference but that of keys, whatever lies below.
-/

namespace TreeIndex.Yaml

namespace Value

/-! ## 1. Values that nowhere conflict -/

/-- Two values that **nowhere conflict**. -/
inductive Agrees : Value → Value → Prop
  /-- Under every key that both mappings have, nothing conflicts. -/
  | mapping {es fs : Mapping} (h : ∀ key v w, Mapping.find? es key = some v → Mapping.find? fs key = some w →
      Agrees v w) : Agrees (mapping es) (mapping fs)
  /-- Below the same tag nothing conflicts. -/
  | tagged (t : String) {v w : Value} (h : Agrees v w) : Agrees (tagged t v) (tagged t w)

/-! ## 2. Values up to the order of keys -/

/-- The same value **up to the order of keys**, at every depth. -/
inductive Rearranged : Value → Value → Prop
  | refl (v : Value) : Rearranged v v
  /-- Both mappings have the same keys, and under each of them the same value up to the order of keys. -/
  | mapping {es fs : Mapping} (hkeys : ∀ key, Mapping.contains es key = Mapping.contains fs key)
      (h : ∀ key v w, Mapping.find? es key = some v → Mapping.find? fs key = some w → Rearranged v w) :
      Rearranged (mapping es) (mapping fs)
  | tagged (t : String) {v w : Value} (h : Rearranged v w) : Rearranged (tagged t v) (tagged t w)

/-- Among mappings it is enough to look **at the entries of one**. -/
theorem Agrees.of_entries {es fs : Mapping} (hes : ∀ e ∈ es, e.1.Proper)
    (h : ∀ e ∈ es, ∀ w, Mapping.find? fs e.1 = some w → e.2.Agrees w) : (Value.mapping es).Agrees (.mapping fs) := by
  refine .mapping fun key v w hv hw => ?_
  obtain ⟨k, hk, hsame⟩ := Mapping.exists_mem_of_find? hv
  rw [← Mapping.find?_eq_of_same (hes _ hk) hsame] at hw
  exact h _ hk w hw

end Value

/-- Where a mapping has all keys of another one, it has **at least as many entries**. -/
theorem length_le_of_contains {es fs : Mapping} (hes : es.Distinct) (hfs : ∀ f ∈ fs, f.1.Proper)
    (h : ∀ e ∈ es, Mapping.contains fs e.1 = true) : es.length ≤ fs.length := by
  refine length_le_of_match (R := fun e f : Value × Value => f ∈ fs ∧ f.1.same e.1 = true) (fun e he => ?_) ?_
  · obtain ⟨k, w, hk, hsame⟩ := Mapping.exists_mem_of_contains (h e he)
    exact ⟨(k, w), hk, hk, hsame⟩
  · refine hes.imp fun {e e'} hne f hf hf' => ?_
    have hee' : e.1.same e'.1 = true := Value.same_trans (Value.same_symm (hfs f hf.1) hf.2) hf'.2
    rw [hne] at hee'
    cases hee'

/-- Proper values that are the same up to the order of keys **are equal**. -/
theorem Value.Rearranged.same {v w : Value} (h : v.Rearranged w) (hv : v.Proper) (hw : w.Proper) :
    v.same w = true := by
  induction h with
  | refl v => exact same_refl v
  | @mapping es fs hkeys _ ih =>
    obtain ⟨hdistinct, hes⟩ := proper_mapping_iff.1 hv
    obtain ⟨hdistinct', hfs⟩ := proper_mapping_iff.1 hw
    have hlen : es.length = fs.length := by
      refine Nat.le_antisymm (length_le_of_contains hdistinct (fun f hf => (hfs f hf).1) fun e he => ?_)
        (length_le_of_contains hdistinct' (fun e he => (hes e he).1) fun f hf => ?_)
      · rw [← hkeys, Mapping.contains_of_mem he]
      · rw [hkeys, Mapping.contains_of_mem hf]
    refine mapping_same_iff.2 ⟨fs, rfl, hlen, sameEntries_iff.2 fun e he => ?_⟩
    have hcontains : Mapping.contains fs e.1 = true := by rw [← hkeys, Mapping.contains_of_mem he]
    obtain ⟨y, hy⟩ := Option.isSome_iff_exists.1 hcontains
    obtain ⟨k, hk, hsame⟩ := Mapping.exists_mem_of_find? hy
    refine ⟨(k, y), hk, same_symm (hfs _ hk).1 hsame, ?_⟩
    exact ih e.1 e.2 y (Mapping.find?_eq_of_mem hdistinct he) hy (hes e he).2 (hfs _ hk).2
  | tagged t _ ih =>
    rw [Proper] at hv hw
    exact tagged_same_iff.2 ⟨_, rfl, ih hv hw⟩

/-! ## 3. What siblings find below -/

theorem merge_null (v : Value) : merge .null v = v :=
  merge_of_not_mergesWith (by simp [Value.MergesWith])

/-- Mappings find **a mapping** below: what does not merge with them is worth an empty one. -/
theorem exists_mapping_below {p : Value} (hp : p.Proper) :
    ∃ ps : Mapping, (Value.mapping ps).Proper ∧ ∀ es, merge p (.mapping es) = .mapping (mergeMappings ps es) := by
  by_cases h : p.MergesWith (.mapping [])
  · obtain ⟨ps, rfl⟩ := Value.mapping_mergesWith_iff.1 h.symm
    exact ⟨ps, hp, merge_mapping ps⟩
  · refine ⟨[], proper_mapping_iff.2 ⟨List.Pairwise.nil, by simp⟩, fun es => ?_⟩
    have hes : ¬ p.MergesWith (.mapping es) := fun hes => h (hes.trans (Value.mapping_mergesWith_iff.2 ⟨[], rfl⟩))
    rw [merge_of_not_mergesWith hes, mergeMappings_nil_below]

/-- Values under a tag find **a value under that tag** below: what does not merge with them is worth null. -/
theorem exists_content_below {p : Value} (t : String) (hp : p.Proper) :
    ∃ q : Value, q.Proper ∧ ∀ v, merge p (.tagged t v) = .tagged t (merge q v) := by
  by_cases h : p.MergesWith (.tagged t .null)
  · obtain ⟨q, rfl⟩ := Value.tagged_mergesWith_iff.1 h.symm
    rw [Value.Proper] at hp
    exact ⟨q, hp, merge_tagged t q⟩
  · refine ⟨.null, trivial, fun v => ?_⟩
    have hv : ¬ p.MergesWith (.tagged t v) := fun hv => h (hv.trans (Value.tagged_mergesWith_iff.2 ⟨.null, rfl⟩))
    rw [merge_of_not_mergesWith hv, merge_null]

/-! ## 4. Siblings in either order -/

/-- What stands under a key of a merged mapping, **if anything stands there**: the only value, or both merged. -/
theorem find?_mergeMappings_eq_merge {below above : Mapping} (h : ∀ e ∈ below, e.1.Proper) (key : Value) :
    Mapping.find? (mergeMappings below above) key =
      (Mapping.find? below key).merge merge (Mapping.find? above key) := by
  rw [find?_mergeMappings h]
  cases Mapping.find? below key <;> cases Mapping.find? above key <;> rfl

/-- Mappings **over a third one**, in either order, if that makes no difference under the keys of both. -/
theorem rearranged_mappings {ps ls rs : Mapping} (hp : (Value.mapping ps).Proper) (hl : (Value.mapping ls).Proper)
    (hr : (Value.mapping rs).Proper) (h : ∀ key v w, Mapping.find? ls key = some v → Mapping.find? rs key = some w →
      ∀ u : Value, u.Proper → (merge (merge u v) w).Rearranged (merge (merge u w) v)) :
    (Value.mapping (mergeMappings (mergeMappings ps ls) rs)).Rearranged
      (.mapping (mergeMappings (mergeMappings ps rs) ls)) := by
  have hps := keys_proper hp
  have hpls := keys_proper (merge_mapping ps ls ▸ proper_merge hp hl)
  have hprs := keys_proper (merge_mapping ps rs ▸ proper_merge hp hr)
  refine .mapping (fun key => ?_) fun key v w hv hw => ?_
  · rw [contains_mergeMappings hpls, contains_mergeMappings hprs, contains_mergeMappings hps,
      contains_mergeMappings hps, Bool.or_right_comm]
  · rw [find?_mergeMappings_eq_merge hpls, find?_mergeMappings_eq_merge hps] at hv
    rw [find?_mergeMappings_eq_merge hprs, find?_mergeMappings_eq_merge hps] at hw
    have hproper (u : Value) (hu : Mapping.find? ps key = some u) : u.Proper := proper_of_find? hp hu
    have hboth := h key
    generalize Mapping.find? ps key = p at hv hw hproper
    generalize Mapping.find? ls key = l at hv hw hboth
    generalize Mapping.find? rs key = r at hv hw hboth
    -- only where both siblings have the key does their order matter
    cases l with
    | none =>
      rw [Option.merge_none_right] at hv hw
      cases hv.symm.trans hw
      exact .refl v
    | some x =>
      cases r with
      | none =>
        rw [Option.merge_none_right] at hv hw
        cases hv.symm.trans hw
        exact .refl v
      | some y =>
        cases p with
        | none =>
          cases hv
          cases hw
          simpa only [merge_null] using hboth x y rfl rfl .null trivial
        | some u =>
          cases hv
          cases hw
          exact hboth x y rfl rfl u (hproper u rfl)

/-- Siblings that nowhere conflict, **over a value below both**. -/
theorem rearranged_merge {p l r : Value} (h : l.Agrees r) (hp : p.Proper) (hl : l.Proper) (hr : r.Proper) :
    (merge (merge p l) r).Rearranged (merge (merge p r) l) := by
  induction h generalizing p with
  | @mapping ls rs _ ih =>
    obtain ⟨ps, hps, hbelow⟩ := exists_mapping_below hp
    rw [hbelow, hbelow, merge_mapping, merge_mapping]
    exact rearranged_mappings hps hl hr fun key v w hv hw u hu =>
      ih key v w hv hw hu (proper_of_find? hl hv) (proper_of_find? hr hw)
  | @tagged t l r _ ih =>
    obtain ⟨q, hq, hbelow⟩ := exists_content_below t hp
    rw [Value.Proper] at hl hr
    rw [hbelow, hbelow, merge_tagged, merge_tagged]
    exact .tagged t (ih hq hl hr)

/-- **Siblings in either order** give the same value up to the order of keys, and so equal ones. -/
theorem siblings_commute {p l r : Value} (hp : p.Proper) (hl : l.Proper) (hr : r.Proper) (h : l.Agrees r) :
    (merge (merge p l) r).Rearranged (merge (merge p r) l) ∧
      (merge (merge p l) r).same (merge (merge p r) l) = true := by
  have hrearranged := rearranged_merge h hp hl hr
  exact ⟨hrearranged, hrearranged.same (proper_merge (proper_merge hp hl) hr) (proper_merge (proper_merge hp hr) hl)⟩

/-- A value below two siblings: at their common keys it holds a scalar, a value under another tag, and a mapping. -/
def parentLayer : Value :=
  .mapping [(.text "i", .text "x"), (.text "t", .tagged "n" (.int 1)), (.text "m", .mapping [(.text "b", .int 0)])]

/-- The left sibling. -/
def leftLayer : Value :=
  .mapping [(.text "i", .mapping [(.text "s", .text "a")]), (.text "t", .tagged "m" (.mapping [(.text "u", .int 1)])),
    (.text "m", .mapping [(.text "l", .null)]), (.text "l", .int 1)]

/-- The right sibling. -/
def rightLayer : Value :=
  .mapping [(.text "r", .int 2), (.text "m", .mapping [(.text "r", .null)]),
    (.text "t", .tagged "m" (.mapping [(.text "v", .int 2)])), (.text "i", .mapping [(.text "e", .text "b")])]

theorem agrees_rightLayer : leftLayer.Agrees rightLayer := by
  refine .of_entries (by simp [Value.Proper]) (List.forall_mem_cons.2 ⟨?_, List.forall_mem_cons.2 ⟨?_,
    List.forall_mem_cons.2 ⟨?_, List.forall_mem_singleton.2 ?_⟩⟩⟩) <;> rintro w hw <;> cases hw
  · exact .of_entries (by simp [Value.Proper]) (List.forall_mem_singleton.2 fun w hw => by cases hw)
  · exact .tagged "m" (.of_entries (by simp [Value.Proper]) (List.forall_mem_singleton.2 fun w hw => by cases hw))
  · exact .of_entries (by simp [Value.Proper]) (List.forall_mem_singleton.2 fun w hw => by cases hw)

/-- The order of the siblings **shows in the order of keys only**, also at the keys that both extend. -/
theorem siblings_commute_layers : parentLayer.Proper ∧ leftLayer.Proper ∧ rightLayer.Proper ∧
    leftLayer.Agrees rightLayer ∧
    (merge (merge parentLayer leftLayer) rightLayer).Rearranged (merge (merge parentLayer rightLayer) leftLayer) ∧
    merge (merge parentLayer leftLayer) rightLayer =
      .mapping [(.text "i", .mapping [(.text "s", .text "a"), (.text "e", .text "b")]),
        (.text "t", .tagged "m" (.mapping [(.text "u", .int 1), (.text "v", .int 2)])),
        (.text "m", .mapping [(.text "b", .int 0), (.text "l", .null), (.text "r", .null)]),
        (.text "l", .int 1), (.text "r", .int 2)] := by
  have hparent : parentLayer.Proper := by
    simp [parentLayer, Value.Proper, ProperEntries, Mapping.Distinct, Value.same]
  have hleft : leftLayer.Proper := by
    simp [leftLayer, Value.Proper, ProperEntries, Mapping.Distinct, Value.same]
  have hright : rightLayer.Proper := by
    simp [rightLayer, Value.Proper, ProperEntries, Mapping.Distinct, Value.same]
  exact ⟨hparent, hleft, hright, agrees_rightLayer,
    (siblings_commute hparent hleft hright agrees_rightLayer).1, rfl⟩

end TreeIndex.Yaml
