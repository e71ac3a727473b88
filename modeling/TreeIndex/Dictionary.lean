/-!
# Dictionaries

Tags, suffixes, captures and properties are dictionaries: values under distinct texts, listed in the order
of the texts. Two dictionaries with the same content are therefore equal.

* `Dictionary`: the entries, with the proof that their keys ascend;
* `get?`: the value under a key; `contains`: whether there is one;
* `insert`: adds a value or replaces the one under the same key (`get?_insert`);
* `ofList`: the entries of a list, where a later value replaces an earlier one;
* `overlay`: a dictionary over another one.
-/

namespace TreeIndex

/-! ## 1. Entries in order -/

/-- Adds an entry to ascending entries, or replaces the one with its key. -/
def insertEntry {α : Type} (key : String) (value : α) : List (String × α) → List (String × α)
  | [] => [(key, value)]
  | (k, v) :: rest =>
    if key < k then (key, value) :: (k, v) :: rest
    else if key = k then (key, value) :: rest
    else (k, v) :: insertEntry key value rest

theorem mem_insertEntry {α : Type} {key : String} {value : α} {e : String × α} :
    ∀ {es : List (String × α)}, e ∈ insertEntry key value es → e = (key, value) ∨ e ∈ es
  | [], h => by
    simp only [insertEntry, List.mem_singleton] at h
    exact Or.inl h
  | (k, v) :: rest, h => by
    unfold insertEntry at h
    split at h
    · rcases List.mem_cons.1 h with h | h
      · exact Or.inl h
      · exact Or.inr h
    · split at h
      · rcases List.mem_cons.1 h with h | h
        · exact Or.inl h
        · exact Or.inr (List.mem_cons_of_mem _ h)
      · rcases List.mem_cons.1 h with h | h
        · exact Or.inr (h ▸ List.mem_cons_self)
        · rcases mem_insertEntry h with h | h
          · exact Or.inl h
          · exact Or.inr (List.mem_cons_of_mem _ h)

/-- The keys of the entries **ascend strictly**. -/
def Ascending {α : Type} (es : List (String × α)) : Prop :=
  es.Pairwise fun a b => a.1 < b.1

theorem ascending_insertEntry {α : Type} (key : String) (value : α) :
    ∀ {es : List (String × α)}, Ascending es → Ascending (insertEntry key value es)
  | [], _ => List.pairwise_singleton _ _
  | (k, v) :: rest, h => by
    have hk := List.pairwise_cons.1 h
    unfold insertEntry
    split
    · rename_i hlt
      refine List.pairwise_cons.2 ⟨fun e he => ?_, h⟩
      rcases List.mem_cons.1 he with rfl | he
      · exact hlt
      · exact String.lt_trans hlt (hk.1 e he)
    · rename_i hnlt
      split
      · rename_i heq
        subst heq
        exact List.pairwise_cons.2 ⟨hk.1, hk.2⟩
      · rename_i hne
        refine List.pairwise_cons.2 ⟨fun e he => ?_, ascending_insertEntry key value hk.2⟩
        rcases mem_insertEntry he with rfl | he
        · refine Decidable.byContradiction fun hge => hne ?_
          exact String.le_antisymm (String.not_lt.1 hge) (String.not_lt.1 hnlt)
        · exact hk.1 e he

/-! ## 2. Dictionaries -/

/-- Values under distinct texts, **in the order of the texts**. -/
structure Dictionary (α : Type) where
  entries : List (String × α)
  ascending : Ascending entries

namespace Dictionary

variable {α : Type}

theorem ext_entries {d e : Dictionary α} (h : d.entries = e.entries) : d = e := by
  cases d
  cases e
  cases h
  rfl

instance [DecidableEq α] : DecidableEq (Dictionary α) := fun d e =>
  if h : d.entries = e.entries then isTrue (ext_entries h)
  else isFalse fun he => h (he ▸ rfl)

/-- No entries at all. -/
def empty : Dictionary α := ⟨[], List.Pairwise.nil⟩

instance : EmptyCollection (Dictionary α) := ⟨empty⟩

instance : Inhabited (Dictionary α) := ⟨empty⟩

/-- The value under a key. -/
def get? (d : Dictionary α) (key : String) : Option α :=
  d.entries.lookup key

/-- Some value stands under the key. -/
def contains (d : Dictionary α) (key : String) : Bool :=
  (d.get? key).isSome

/-- How many entries there are. -/
def size (d : Dictionary α) : Nat :=
  d.entries.length

/-- There are no entries. -/
def isEmpty (d : Dictionary α) : Bool :=
  d.entries.isEmpty

/-- The keys, ascending. -/
def keys (d : Dictionary α) : List String :=
  d.entries.map (·.1)

/-- Adds a value, or **replaces** the one under the same key. -/
def insert (d : Dictionary α) (key : String) (value : α) : Dictionary α :=
  ⟨insertEntry key value d.entries, ascending_insertEntry key value d.ascending⟩

/-- Removes what stands under a key. -/
def erase (d : Dictionary α) (key : String) : Dictionary α :=
  ⟨d.entries.filter fun e => !(e.1 == key), d.ascending.filter _⟩

/-- The entries of a list; a later value replaces an earlier one. -/
def ofList (es : List (String × α)) : Dictionary α :=
  es.foldl (fun d e => d.insert e.1 e.2) empty

/-- A dictionary **over** another one: its own values win. -/
def overlay (base upper : Dictionary α) : Dictionary α :=
  upper.entries.foldl (fun d e => d.insert e.1 e.2) base

@[simp] theorem get?_empty (key : String) : (empty : Dictionary α).get? key = none := rfl

theorem lookup_cons_eq (key k : String) (v : α) (es : List (String × α)) :
    ((k, v) :: es).lookup key = if key = k then some v else es.lookup key := by
  rw [List.lookup_cons]
  by_cases h : key = k
  · rw [if_pos h, beq_iff_eq.2 h]
  · rw [if_neg h, beq_eq_false_iff_ne.2 h]

theorem lookup_insertEntry (key key' : String) (value : α) : ∀ es : List (String × α),
    (insertEntry key value es).lookup key' = if key' = key then some value else es.lookup key'
  | [] => by
    rw [insertEntry, lookup_cons_eq]
  | (k, v) :: rest => by
    have ih := lookup_insertEntry key key' value rest
    unfold insertEntry
    split
    · rw [lookup_cons_eq]
    · split
      · rename_i heq
        subst heq
        rw [lookup_cons_eq, lookup_cons_eq]
        by_cases h : key' = key <;> simp [h]
      · rename_i hne
        rw [lookup_cons_eq, lookup_cons_eq, ih]
        by_cases h : key' = k
        · subst h
          simp [Ne.symm hne]
        · simp [h]

/-- **A look-up after an insertion** sees the new value under its key and the old ones elsewhere. -/
theorem get?_insert (d : Dictionary α) (key key' : String) (value : α) :
    (d.insert key value).get? key' = if key' = key then some value else d.get? key' :=
  lookup_insertEntry key key' value d.entries

end Dictionary

end TreeIndex
