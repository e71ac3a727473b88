import Mathlib.Data.List.Nodup
import Mathlib.Data.List.Perm.Subperm
import TreeIndex.Definitions.Section
import TreeIndex.Proofs.Dictionary

/-!
# Types and their endings

The types that a root configuration declares match their endings one to one, though the two are never compared as sets:
types are counted once repetitions are gone, and each is looked up among the endings.

* `nodup_distinct`, `mem_distinct_iff`: each type stands once, where it came first;
* `mem_iff_of_length`: two lists without repetitions have the same elements **if they are equally long** and one of
  them is found in the other;
* `pairwise_of_sharedAmong`, `sharedAmong_eq_none`: no two types share an ending exactly if **all endings differ**;
* `OneToOne`, `flaw?_eq_none_iff`: so nothing is wrong exactly if types and endings match;
* `Types.Matched`: the same of types that are read; `matched_of_ofConfig?`: it holds wherever types are read;
* `Types.Matched.byEnding_iff`: the type of an ending is the one that declares it.
-/

namespace TreeIndex

namespace Types

/-! ## 1. Each once -/

theorem mem_distinct_iff {t : String} : ∀ {ts : List String}, t ∈ distinct ts ↔ t ∈ ts
  | [] => Iff.rfl
  | u :: ts => by
    rw [distinct, List.mem_cons, List.mem_cons, List.mem_filter, mem_distinct_iff, bne_iff_ne]
    by_cases h : t = u <;> simp [h]

theorem nodup_distinct : ∀ ts : List String, (distinct ts).Nodup
  | [] => List.Pairwise.nil
  | u :: ts => by
    refine List.nodup_cons.2 ⟨fun h => ?_, (nodup_distinct ts).filter _⟩
    have hne := (List.mem_filter.1 h).2
    simp at hne

/-- Two lists without repetitions have the same elements **if they are equally long** and one of them is found in the
    other. -/
theorem mem_iff_of_length {xs ys : List String} (hxs : xs.Nodup) (hys : ys.Nodup) :
    (xs.length = ys.length ∧ ∀ x ∈ xs, x ∈ ys) ↔ ∀ x, x ∈ xs ↔ x ∈ ys := by
  constructor
  · intro ⟨hlength, hfound⟩ x
    exact ((hxs.subperm hfound).perm_of_length_le (Nat.le_of_eq hlength.symm)).mem_iff
  · intro h
    exact ⟨((List.perm_ext_iff_of_nodup hxs hys).2 h).length_eq, fun x hx => (h x).1 hx⟩

/-! ## 2. Endings that differ -/

/-- Where nothing is shared, all values differ, **from each other and from earlier ones**. -/
theorem pairwise_of_sharedAmong : ∀ {earlier es : List (String × String)}, sharedAmong earlier es = none →
    es.Pairwise (fun a b => a.2 ≠ b.2) ∧ ∀ a ∈ earlier, ∀ b ∈ es, a.2 ≠ b.2
  | _, [], _ => ⟨List.Pairwise.nil, fun _ _ _ hb => absurd hb List.not_mem_nil⟩
  | earlier, (key, text) :: es, h => by
    rw [sharedAmong] at h
    split at h
    · cases h
    · rename_i hfind
      obtain ⟨hes, hearlier⟩ := pairwise_of_sharedAmong h
      have hnew : ∀ a ∈ earlier, a.2 ≠ text := by
        intro a ha heq
        have hnone := List.find?_eq_none.1 hfind a ha
        exact hnone (beq_iff_eq.2 heq)
      refine ⟨List.pairwise_cons.2 ⟨fun b hb => ?_, hes⟩, fun a ha b hb => ?_⟩
      · exact hearlier (key, text) (List.mem_append_right _ List.mem_cons_self) b hb
      · rcases List.mem_cons.1 hb with rfl | hb
        · exact hnew a ha
        · exact hearlier a (List.mem_append_left _ ha) b hb

/-- Where all values differ, from each other and from earlier ones, **nothing is shared**. -/
theorem sharedAmong_eq_none : ∀ {earlier es : List (String × String)}, es.Pairwise (fun a b => a.2 ≠ b.2) →
    (∀ a ∈ earlier, ∀ b ∈ es, a.2 ≠ b.2) → sharedAmong earlier es = none
  | _, [], _, _ => rfl
  | earlier, (key, text) :: es, hpairwise, hearlier => by
    obtain ⟨hfirst, hpairwise⟩ := List.pairwise_cons.1 hpairwise
    have hnone : earlier.find? (fun e => e.2 == text) = none := by
      refine List.find?_eq_none.2 fun a ha heq => ?_
      exact hearlier a ha (key, text) List.mem_cons_self (beq_iff_eq.1 heq)
    rw [sharedAmong, hnone]
    refine sharedAmong_eq_none hpairwise fun a ha b hb => ?_
    rcases List.mem_append.1 ha with ha | ha
    · exact hearlier a ha b (List.mem_cons_of_mem _ hb)
    · obtain rfl := List.mem_singleton.1 ha
      exact hfirst b hb

/-! ## 3. Types that match their endings -/

/-- Types that are declared and their endings **match one to one**: the same types are declared and have endings, no
    ending is empty, and no two types share one. -/
structure OneToOne (declared : List String) (identifiers : Dictionary String) : Prop where
  mem_iff : ∀ name, name ∈ declared ↔ name ∈ identifiers.keys
  ne_empty : ∀ e ∈ identifiers.entries, e.2 ≠ ""
  unshared : identifiers.entries.Pairwise fun a b => a.2 ≠ b.2

/-- Repetitions **do not matter**. -/
theorem oneToOne_distinct_iff {declared : List String} {identifiers : Dictionary String} :
    OneToOne (distinct declared) identifiers ↔ OneToOne declared identifiers := by
  constructor
  · intro ⟨hmem, hne, hunshared⟩
    exact ⟨fun name => mem_distinct_iff.symm.trans (hmem name), hne, hunshared⟩
  · intro ⟨hmem, hne, hunshared⟩
    exact ⟨fun name => mem_distinct_iff.trans (hmem name), hne, hunshared⟩

/-- **Nothing is wrong** with types and endings exactly if they match: as many types as endings, each with one, leave
    no other ending. -/
theorem flaw?_eq_none_iff {names : List String} {identifiers : Dictionary String} (hnodup : names.Nodup) :
    flaw? names identifiers = none ↔ OneToOne names identifiers := by
  have hmem : (names.length = identifiers.keys.length ∧ ∀ name ∈ names, name ∈ identifiers.keys) ↔
      ∀ name, name ∈ names ↔ name ∈ identifiers.keys :=
    mem_iff_of_length hnodup identifiers.nodup_keys
  have hcount : identifiers.keys.length = identifiers.size := by
    rw [Dictionary.keys, List.length_map, Dictionary.size]
  constructor
  · intro h
    unfold flaw? at h
    split at h
    · cases h
    rename_i hlength
    split at h
    · cases h
    rename_i hcontained
    split at h
    · cases h
    rename_i hempty
    have hsize : names.length = identifiers.keys.length := by
      rw [hcount]
      exact Decidable.not_not.1 hlength
    have hkeys : ∀ name ∈ names, name ∈ identifiers.keys := by
      intro name hname
      have hcontains := List.find?_eq_none.1 hcontained name hname
      rw [Bool.not_eq_true', Bool.not_eq_false] at hcontains
      exact Dictionary.contains_iff.1 hcontains
    refine ⟨hmem.1 ⟨hsize, hkeys⟩, fun e he hnil => ?_, (pairwise_of_sharedAmong (Option.map_eq_none_iff.1 h)).1⟩
    have hsome := List.find?_eq_none.1 hempty e he
    rw [hnil] at hsome
    exact hsome rfl
  · intro h
    obtain ⟨hsize, hkeys⟩ := hmem.2 h.mem_iff
    have hcontained : names.find? (fun t => !identifiers.contains t) = none := by
      refine List.find?_eq_none.2 fun name hname => ?_
      rw [Dictionary.contains_iff.2 (hkeys name hname)]
      exact Bool.false_ne_true
    have hempty : identifiers.entries.find? (fun e => e.2.isEmpty) = none := by
      refine List.find?_eq_none.2 fun e he hnil => ?_
      exact h.ne_empty e he (String.isEmpty_iff.1 hnil)
    rw [flaw?, if_neg (Decidable.not_not.2 (hsize.trans hcount)), hcontained, hempty]
    exact Option.map_eq_none_iff.2 (sharedAmong_eq_none h.unshared fun _ ha => absurd ha List.not_mem_nil)

/-- **Types and endings match one to one**, and no ending is empty. -/
structure Matched (t : Types) : Prop where
  nodup : t.names.Nodup
  mem_iff : ∀ name, name ∈ t.names ↔ ∃ ending, t.identifiers.get? name = some ending
  ne_empty : ∀ name ending, t.identifiers.get? name = some ending → ending ≠ ""
  injective : ∀ name name' ending, t.identifiers.get? name = some ending →
    t.identifiers.get? name' = some ending → name = name'

/-- Types **read without repetitions** match their endings as those that are declared do. -/
theorem OneToOne.matched {names : List String} {identifiers : Dictionary String} (hnodup : names.Nodup)
    (h : OneToOne names identifiers) : Matched ⟨names, identifiers⟩ := by
  refine ⟨hnodup, fun name => (h.mem_iff name).trans Dictionary.mem_keys_iff, ?_, ?_⟩
  · intro name ending hending
    exact h.ne_empty (name, ending) (Dictionary.mem_entries_iff.2 hending)
  · intro name name' ending hname hname'
    have hvalues : (identifiers.entries.map (·.2)).Nodup := List.pairwise_map.2 h.unshared
    have heq := List.inj_on_of_nodup_map hvalues (Dictionary.mem_entries_iff.2 hname)
      (Dictionary.mem_entries_iff.2 hname') rfl
    exact congrArg Prod.fst heq

/-- **Wherever types are read**, they match their endings. -/
theorem matched_of_ofConfig? {config : Yaml.Mapping} {t : Types} (h : ofConfig? config = .ok t) : t.Matched := by
  unfold ofConfig? at h
  split at h
  · cases h
  split at h
  · unfold ofRecord? at h
    split at h
    · dsimp only at h
      split at h
      · cases h
      · rename_i hflaw
        obtain rfl := Except.ok.inj h
        exact ((flaw?_eq_none_iff (nodup_distinct _)).1 hflaw).matched (nodup_distinct _)
    · cases h
  · cases h

namespace Matched

variable {t : Types}

/-- **The type of an ending** is the one that declares it. -/
theorem byEnding_iff (h : t.Matched) {ending name : String} :
    t.byEnding.get? ending = some name ↔ t.identifiers.get? name = some ending := by
  have hvalues : ((t.identifiers.entries.map fun e => (e.2, e.1)).map (·.1)).Nodup := by
    rw [List.map_map]
    refine List.Nodup.map_on (fun a ha b hb hab => ?_) t.identifiers.nodup_entries
    obtain ⟨name, ending⟩ := a
    obtain ⟨name', ending'⟩ := b
    obtain rfl : ending = ending' := hab
    rw [h.injective name name' ending (Dictionary.mem_entries_iff.1 ha) (Dictionary.mem_entries_iff.1 hb)]
  rw [← Dictionary.mem_entries_iff (d := t.identifiers)]
  constructor
  · intro hget
    obtain ⟨_, he, heq⟩ := List.mem_map.1 (Dictionary.mem_of_get?_ofList hget)
    cases heq
    exact he
  · intro he
    exact Dictionary.get?_ofList_of_mem hvalues (List.mem_map.2 ⟨_, he, rfl⟩)

end Matched

end Types

end TreeIndex
