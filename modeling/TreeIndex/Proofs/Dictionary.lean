import TreeIndex.Dictionary

/-!
# Looking up in dictionaries

A dictionary is known by what stands under its keys.

* `mem_entries_iff`, `eq_of_get?`: an entry is what a look-up finds, and two dictionaries in which every
  look-up finds the same **are the same**; `mem_keys_iff`, `contains_iff`: the keys are those that it finds something
  under;
* `get?_ofList`, `get?_ofList_eq_some_iff`: in a list the last entry of a key counts; `get?_ofList_of_mem`: if no key
  stands twice, every entry does; `get?_ofList_filterMap`: the same of a list that is made of other things;
  `ofList_entries`: the entries of a dictionary make it again;
* `get?_overlay`: in a dictionary over another one its own values win;
* `get?_erase`: what remains when a key is removed;
* `lookup_filterMap`, `get?_ofList_map`: a look-up among entries that were made from their keys.
-/

namespace TreeIndex.Dictionary

variable {α : Type}

/-! ## 1. Entries -/

instance (es : List (String × α)) : Decidable (Ascending es) :=
  inferInstanceAs (Decidable (es.Pairwise fun a b => a.1 < b.1))

theorem lookup_of_mem {key : String} {value : α} : ∀ {es : List (String × α)}, Ascending es →
    (key, value) ∈ es → es.lookup key = some value
  | (k, v) :: es, hes, h => by
    rw [lookup_cons_eq]
    rcases List.mem_cons.1 h with h | h
    · cases h
      exact if_pos rfl
    · have hlt : k < key := (List.pairwise_cons.1 hes).1 _ h
      have hne : key ≠ k := fun e => String.lt_irrefl k (e ▸ hlt)
      rw [if_neg hne]
      exact lookup_of_mem (List.pairwise_cons.1 hes).2 h

theorem mem_entries_iff {d : Dictionary α} {key : String} {value : α} :
    (key, value) ∈ d.entries ↔ d.get? key = some value := by
  refine ⟨lookup_of_mem d.ascending, fun h => ?_⟩
  obtain ⟨before, after, heq, -⟩ := List.lookup_eq_some_iff.1 h
  rw [heq]
  exact List.mem_append_right _ List.mem_cons_self

theorem mem_keys_iff {d : Dictionary α} {key : String} : key ∈ d.keys ↔ ∃ value, d.get? key = some value := by
  rw [keys, List.mem_map]
  constructor
  · intro ⟨e, he, hkey⟩
    exact ⟨e.2, hkey ▸ mem_entries_iff.1 he⟩
  · intro ⟨value, hvalue⟩
    exact ⟨(key, value), mem_entries_iff.2 hvalue, rfl⟩

theorem contains_iff {d : Dictionary α} {key : String} : d.contains key = true ↔ key ∈ d.keys := by
  rw [contains, Option.isSome_iff_exists, mem_keys_iff]

theorem nodup_keys (d : Dictionary α) : (d.entries.map (·.1)).Nodup := by
  refine List.pairwise_map.2 (List.Pairwise.imp ?_ d.ascending)
  intro a b hlt heq
  rw [heq] at hlt
  exact String.lt_irrefl b.1 hlt

theorem nodup_entries (d : Dictionary α) : d.entries.Nodup :=
  (List.pairwise_map.1 d.nodup_keys).imp fun hne heq => hne (congrArg Prod.fst heq)

/-- **What stands under its keys makes a dictionary.** -/
theorem eq_of_get? {d e : Dictionary α} (h : ∀ key, d.get? key = e.get? key) : d = e := by
  have hperm : d.entries.Perm e.entries := by
    refine (List.perm_ext_iff_of_nodup d.nodup_entries e.nodup_entries).2 fun x => ?_
    rw [mem_entries_iff (d := d), mem_entries_iff (d := e), h]
  refine ext_entries (hperm.eq_of_pairwise ?_ d.ascending e.ascending)
  exact fun a b _ _ hab hba => absurd hba (String.lt_asymm hab)

/-! ## 2. Dictionaries from lists -/

theorem get?_foldl_insert (key : String) : ∀ (es : List (String × α)) (d : Dictionary α),
    (es.foldl (fun d e => d.insert e.1 e.2) d).get? key = (es.reverse.lookup key).or (d.get? key)
  | [], _ => rfl
  | (k, v) :: es, d => by
    rw [List.foldl_cons, get?_foldl_insert key es, get?_insert, List.reverse_cons, List.lookup_append,
      lookup_cons_eq, Option.or_assoc]
    by_cases h : key = k <;> simp [h]

/-- The **last** entry of a key counts. -/
theorem get?_ofList (es : List (String × α)) (key : String) :
    (ofList es).get? key = es.reverse.lookup key := by
  rw [ofList, get?_foldl_insert, get?_empty, Option.or_none]

/-- A list gives **what it says last** of a key. -/
theorem get?_ofList_eq_some_iff {es : List (String × α)} {key : String} {value : α} :
    (ofList es).get? key = some value ↔
      ∃ before after, es = before ++ (key, value) :: after ∧ ∀ e ∈ after, e.1 ≠ key := by
  rw [get?_ofList, List.lookup_eq_some_iff]
  constructor
  · rintro ⟨after, before, heq, hafter⟩
    refine ⟨before.reverse, after.reverse, ?_, fun e he => ?_⟩
    · rw [← List.reverse_reverse es, heq, List.reverse_append, List.reverse_cons, List.append_assoc]
      rfl
    · exact (bne_iff_ne.1 (hafter e (List.mem_reverse.1 he))).symm
  · rintro ⟨before, after, rfl, hafter⟩
    refine ⟨after.reverse, before.reverse, ?_, fun e he => ?_⟩
    · rw [List.reverse_append, List.reverse_cons, List.append_assoc]
      rfl
    · exact bne_iff_ne.2 (hafter e (List.mem_reverse.1 he)).symm

/-- The same of a list that is made **of other things**, some of which say nothing. -/
theorem get?_ofList_filterMap {β : Type} {f : β → Option (String × α)} {xs : List β} {key : String} {value : α} :
    (ofList (xs.filterMap f)).get? key = some value ↔ ∃ before x after, xs = before ++ x :: after ∧
      f x = some (key, value) ∧ ∀ y ∈ after, ∀ other, f y ≠ some (key, other) := by
  rw [get?_ofList_eq_some_iff]
  constructor
  · rintro ⟨front, back, heq, hback⟩
    obtain ⟨before, rest, rfl, rfl, hrest⟩ := List.filterMap_eq_append_iff.1 heq
    obtain ⟨silent, x, after, rfl, -, hx, rfl⟩ := List.filterMap_eq_cons_iff.1 hrest
    refine ⟨before ++ silent, x, after, by rw [List.append_assoc], hx, fun y hy other hother => ?_⟩
    exact hback _ (List.mem_filterMap.2 ⟨y, hy, hother⟩) rfl
  · rintro ⟨before, x, after, rfl, hx, hafter⟩
    refine ⟨before.filterMap f, after.filterMap f, ?_, fun e he hkey => ?_⟩
    · rw [List.filterMap_append, List.filterMap_cons, hx]
    · obtain ⟨y, hy, hye⟩ := List.mem_filterMap.1 he
      exact hafter y hy e.2 (hkey ▸ hye)

/-- In a list that says no key twice, **every entry counts**. -/
theorem get?_ofList_of_mem {es : List (String × α)} {key : String} {value : α} (hes : (es.map (·.1)).Nodup)
    (h : (key, value) ∈ es) : (ofList es).get? key = some value := by
  obtain ⟨before, after, heq⟩ := List.append_of_mem h
  refine get?_ofList_eq_some_iff.2 ⟨before, after, heq, fun e he => ?_⟩
  rw [heq, List.map_append, List.map_cons, List.nodup_append, List.nodup_cons] at hes
  have hmem : e.1 ∈ after.map (·.1) := List.mem_map_of_mem he
  exact fun hkey => hes.2.1.1 (hkey ▸ hmem)

/-- Whatever a list gives **stands in it**. -/
theorem mem_of_get?_ofList {es : List (String × α)} {key : String} {value : α}
    (h : (ofList es).get? key = some value) : (key, value) ∈ es := by
  obtain ⟨before, after, rfl, -⟩ := get?_ofList_eq_some_iff.1 h
  exact List.mem_append_right before List.mem_cons_self

/-- The entries of a dictionary **make it again**. -/
theorem ofList_entries (d : Dictionary α) : ofList d.entries = d := by
  refine eq_of_get? fun key => Option.ext fun value => ⟨fun h => ?_, fun h => ?_⟩
  · exact mem_entries_iff.1 (mem_of_get?_ofList h)
  · exact get?_ofList_of_mem d.nodup_keys (mem_entries_iff.2 h)

/-- Of two lists, one after the other, **the second one counts first**. -/
theorem get?_ofList_append (es fs : List (String × α)) (key : String) :
    (ofList (es ++ fs)).get? key = ((ofList fs).get? key).or ((ofList es).get? key) := by
  rw [get?_ofList, get?_ofList, get?_ofList, List.reverse_append, List.lookup_append]

/-- A dictionary over another one: **its own values win**. -/
theorem get?_overlay (base upper : Dictionary α) (key : String) :
    (base.overlay upper).get? key = (upper.get? key).or (base.get? key) := by
  have hupper : upper.entries.reverse.lookup key = upper.get? key := by
    rw [← get?_ofList, ofList_entries]
  rw [overlay, get?_foldl_insert, hupper]

theorem lookup_filterMap (g : String → Option α) (key : String) : ∀ names : List String,
    (names.filterMap fun name => (g name).map fun v => (name, v)).lookup key =
      if key ∈ names then g key else none
  | [] => rfl
  | name :: names => by
    have ih := lookup_filterMap g key names
    cases hg : g name with
    | none =>
      rw [List.filterMap_cons_none (by rw [hg]; rfl), ih]
      by_cases h : key = name
      · subst h
        simp [hg]
      · simp [h]
    | some v =>
      rw [List.filterMap_cons_some (b := (name, v)) (by rw [hg]; rfl), lookup_cons_eq, ih]
      by_cases h : key = name
      · subst h
        simp [hg]
      · simp [h]

/-- Values made from their keys: **each key has its own**. -/
theorem get?_ofList_map (g : String → α) (key : String) (names : List String) :
    (ofList (names.map fun name => (name, g name))).get? key = if key ∈ names then some (g key) else none := by
  have hsame : names.reverse.map (fun name => (name, g name)) =
      names.reverse.filterMap fun name => (some (g name)).map fun v => (name, v) :=
    (congrFun List.filterMap_eq_map names.reverse).symm
  rw [get?_ofList, ← List.map_reverse, hsame, lookup_filterMap]
  simp only [List.mem_reverse]

/-! ## 3. Removed keys -/

theorem lookup_filter_ne (key key' : String) : ∀ es : List (String × α),
    (es.filter fun e => !(e.1 == key)).lookup key' = if key' = key then none else es.lookup key'
  | [] => by simp
  | (k, v) :: es => by
    have ih := lookup_filter_ne key key' es
    by_cases h : k = key
    · subst h
      rw [List.filter_cons_of_neg (by simp), ih, lookup_cons_eq]
      by_cases h' : key' = k <;> simp [h']
    · rw [List.filter_cons_of_pos (by simp [h]), lookup_cons_eq, lookup_cons_eq, ih]
      by_cases h' : key' = k
      · subst h'
        simp [h]
      · simp [h']

theorem get?_erase (d : Dictionary α) (key key' : String) :
    (d.erase key).get? key' = if key' = key then none else d.get? key' :=
  lookup_filter_ne key key' d.entries

end TreeIndex.Dictionary
