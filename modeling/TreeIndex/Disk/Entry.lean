import TreeIndex.Dictionary
import TreeIndex.Path

/-!
# Entries of a disk

What a folder holds has a name and is a file, a folder or a link.

* `Entry`: a file with its bytes, a folder with its entries, or a link with the text that it leads to;
* `isEntryName`: what an entry can be called;
* `Entry.Tidy`: in every folder the names ascend, so that a name stands once;
* `Entry.at?`: what lies at a location; `Entry.put`, `Entry.remove`: changes, which keep an entry tidy
  (`Entry.Tidy.put`, `Entry.Tidy.remove`);
* `Entry.at?_put_self`: what was put is there;
* `Entry.fileCount`, `Entry.folderCount`: how many files and folders there are.

NOT here: files with several names, since every name has bytes of its own; permissions; names that are no text; and how
long a whole path may be. A disk is what the program can see of one: what is closed to it is not there. Where a file is
**written**, its other names and what else may get in the way are `TreeIndex.Disk.Circumstances`, beside the entries.
-/

namespace TreeIndex.Disk

/-! ## 1. Entries -/

/-- What a folder **holds under a name**. -/
inductive Entry where
  | file (bytes : ByteArray)
  | folder (entries : List (String × Entry))
  | link (target : String)
deriving Inhabited

/-- The names that lead from the root to an entry. -/
abbrev Location := List String

/-- A name that an entry can have: neither empty nor a step of its own, and without a slash. -/
def isEntryName (name : String) : Bool :=
  !name.isEmpty && name != "." && name != ".." && !name.toList.contains '/'

/-! ## 2. Tidy entries -/

mutual

/-- In every folder the names **ascend**, and they are names of entries. -/
def Entry.Tidy : Entry → Prop
  | .file _ => True
  | .link _ => True
  | .folder es => Ascending es ∧ TidyEntries es

/-- All entries are tidy and have names of entries. -/
def TidyEntries : List (String × Entry) → Prop
  | [] => True
  | (name, e) :: es => isEntryName name = true ∧ e.Tidy ∧ TidyEntries es

end

theorem tidyEntries_iff {es : List (String × Entry)} :
    TidyEntries es ↔ ∀ x ∈ es, isEntryName x.1 = true ∧ x.2.Tidy := by
  induction es with
  | nil => simp [TidyEntries]
  | cons x es ih =>
    obtain ⟨name, e⟩ := x
    simp only [TidyEntries, ih, List.mem_cons, forall_eq_or_imp, and_assoc]

theorem tidy_folder_iff {es : List (String × Entry)} :
    (Entry.folder es).Tidy ↔ Ascending es ∧ ∀ x ∈ es, isEntryName x.1 = true ∧ x.2.Tidy := by
  rw [Entry.Tidy, tidyEntries_iff]

theorem tidy_empty : (Entry.folder []).Tidy :=
  tidy_folder_iff.2 ⟨List.Pairwise.nil, fun _ h => absurd h List.not_mem_nil⟩

theorem mem_of_lookup {name : String} {e : Entry} :
    ∀ {es : List (String × Entry)}, es.lookup name = some e → (name, e) ∈ es
  | [], h => by simp at h
  | (k, v) :: es, h => by
    rw [Dictionary.lookup_cons_eq] at h
    split at h
    · rename_i hk
      cases h
      exact hk ▸ List.mem_cons_self
    · exact List.mem_cons_of_mem _ (mem_of_lookup h)

theorem Entry.Tidy.insert {es : List (String × Entry)} {name : String} {e : Entry}
    (h : (Entry.folder es).Tidy) (hn : isEntryName name = true) (he : e.Tidy) :
    (Entry.folder (insertEntry name e es)).Tidy := by
  rw [tidy_folder_iff] at h ⊢
  refine ⟨ascending_insertEntry name e h.1, fun x hx => ?_⟩
  rcases mem_insertEntry hx with rfl | hx
  · exact ⟨hn, he⟩
  · exact h.2 x hx

/-! ## 3. Locations -/

/-- What lies **at a location** beneath an entry. -/
def Entry.at? : Entry → Location → Option Entry
  | e, [] => some e
  | .folder es, name :: rest => (es.lookup name).bind fun e => e.at? rest
  | _, _ :: _ => none

theorem Entry.Tidy.at? : ∀ {e f : Entry} {loc : Location}, e.Tidy → e.at? loc = some f → f.Tidy
  | e, f, [], h, hf => by
    simp only [Entry.at?, Option.some.injEq] at hf
    exact hf ▸ h
  | .folder es, f, name :: rest, h, hf => by
    simp only [Entry.at?, Option.bind_eq_some_iff] at hf
    obtain ⟨e, he, hf⟩ := hf
    exact Entry.Tidy.at? ((tidy_folder_iff.1 h).2 _ (mem_of_lookup he)).2 hf
  | .file _, _, _ :: _, _, hf => by simp [Entry.at?] at hf
  | .link _, _, _ :: _, _, hf => by simp [Entry.at?] at hf

/-! ## 4. Changes -/

/-- Puts something at a location, in place of what lies there. Without **the folder above it** nothing
    changes, nor if the location ends with what is no name. -/
def Entry.put (new : Entry) : Entry → Location → Entry
  | _, [] => new
  | .folder es, name :: rest =>
    match es.lookup name with
    | some e => .folder (insertEntry name (put new e rest) es)
    | none =>
      if rest.isEmpty && isEntryName name then .folder (insertEntry name new es) else .folder es
  | e, _ :: _ => e

theorem Entry.Tidy.put {new : Entry} (hnew : new.Tidy) :
    ∀ {e : Entry} {loc : Location}, e.Tidy → (Entry.put new e loc).Tidy
  | e, [], _ => by
    rw [Entry.put]
    exact hnew
  | .folder es, name :: rest, h => by
    unfold Entry.put
    split
    · rename_i e he
      have hx := (tidy_folder_iff.1 h).2 _ (mem_of_lookup he)
      exact h.insert hx.1 (Entry.Tidy.put hnew hx.2)
    · split
      · rename_i hn
        rw [Bool.and_eq_true] at hn
        exact h.insert hn.2 hnew
      · exact h
  | .file _, _ :: _, h => by simpa [Entry.put] using h
  | .link _, _ :: _, h => by simpa [Entry.put] using h

/-- **What was put is there**, if its folder is there and its name is one. -/
theorem Entry.at?_put_self (new : Entry) {name : String} (hn : isEntryName name = true) :
    ∀ {e : Entry} {loc : Location} {es : List (String × Entry)},
      e.at? loc = some (.folder es) → (Entry.put new e (loc ++ [name])).at? (loc ++ [name]) = some new
  | e, [], es, h => by
    simp only [Entry.at?, Option.some.injEq] at h
    subst h
    cases hl : es.lookup name with
    | none => simp [Entry.put, Entry.at?, hl, hn, Dictionary.lookup_insertEntry]
    | some e => simp [Entry.put, Entry.at?, hl, Dictionary.lookup_insertEntry]
  | .folder fs, step :: loc, es, h => by
    simp only [Entry.at?, Option.bind_eq_some_iff] at h
    obtain ⟨e, he, h⟩ := h
    have ih := Entry.at?_put_self new hn h
    simp [Entry.put, Entry.at?, he, Dictionary.lookup_insertEntry, ih]
  | .file _, _ :: _, _, h => by simp [Entry.at?] at h
  | .link _, _ :: _, _, h => by simp [Entry.at?] at h

/-- Removes what lies at a location, with everything in it. -/
def Entry.remove : Entry → Location → Entry
  | .folder es, [name] => .folder (es.filter fun x => !(x.1 == name))
  | .folder es, name :: rest =>
    match es.lookup name with
    | some e => .folder (insertEntry name (e.remove rest) es)
    | none => .folder es
  | e, _ => e

theorem Entry.Tidy.filter {es : List (String × Entry)} (keep : String × Entry → Bool)
    (h : (Entry.folder es).Tidy) : (Entry.folder (es.filter keep)).Tidy := by
  rw [tidy_folder_iff] at h ⊢
  exact ⟨h.1.filter keep, fun x hx => h.2 x (List.mem_filter.1 hx).1⟩

theorem Entry.Tidy.remove : ∀ {e : Entry} {loc : Location}, e.Tidy → (e.remove loc).Tidy
  | .folder es, [name], h => by
    rw [Entry.remove]
    exact h.filter _
  | .folder es, name :: next :: rest, h => by
    unfold Entry.remove
    split
    · rename_i e he
      have hx := (tidy_folder_iff.1 h).2 _ (mem_of_lookup he)
      exact h.insert hx.1 (Entry.Tidy.remove hx.2)
    · exact h
  | .folder es, [], h => by simpa [Entry.remove] using h
  | .file _, _, h => by simpa [Entry.remove] using h
  | .link _, _, h => by simpa [Entry.remove] using h

/-! ## 5. Numbers of entries -/

mutual

/-- How many files there are. -/
def Entry.fileCount : Entry → Nat
  | .file _ => 1
  | .link _ => 0
  | .folder es => fileCountIn es

/-- How many files some entries hold. -/
def fileCountIn : List (String × Entry) → Nat
  | [] => 0
  | (_, e) :: es => e.fileCount + fileCountIn es

end

mutual

/-- How many folders there are. -/
def Entry.folderCount : Entry → Nat
  | .file _ => 0
  | .link _ => 0
  | .folder es => folderCountIn es + 1

/-- How many folders some entries hold. -/
def folderCountIn : List (String × Entry) → Nat
  | [] => 0
  | (_, e) :: es => e.folderCount + folderCountIn es

end

end TreeIndex.Disk
