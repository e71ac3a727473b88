import TreeIndex.Disk.Change
import TreeIndex.Proofs.Disk.Canonical

/-!
# What is put on a disk

A change at one location leaves every file elsewhere what it is.

* `Entry.bare_put`: beside a change there is the same before and after, but that folders may hold more; so **files are
  the same** (`Entry.file_put_iff`), and folders are folders (`Entry.folder_put_iff`);
* `Entry.LinkFree.put`: where no link is put, no link comes in;
* `InFolder`: a location that something can be put at; `at?_put`, `file_put_iff`: **what was put is there**, and files
  that lie neither there nor beneath are the same;
* `KeepsFiles`: two disks with the same files **but for some locations**, where files are still files, one change after
  the other (`KeepsFiles.trans`); `keepsFiles_putFile`, `keepsFiles_putFolder`: a file changes its own location, a folder none;
* `Grows`: two disks of which the second one **has more folders**, and nothing else more or less.
-/

namespace TreeIndex.Disk

/-! ## 1. Entries -/

/-- What an entry is, **without what a folder holds**. -/
def Entry.bare : Entry → Entry
  | .folder _ => .folder []
  | e => e

@[simp] theorem Entry.bare_eq_file_iff {e : Entry} {bytes : ByteArray} : e.bare = .file bytes ↔ e = .file bytes := by
  cases e <;> simp [Entry.bare]

@[simp] theorem Entry.bare_eq_folder_iff {e : Entry} : e.bare = .folder [] ↔ ∃ es, e = .folder es := by
  cases e <;> simp [Entry.bare]

/-- Elsewhere **there is the same** before and after something is put; only folders may hold more. -/
theorem Entry.bare_put (new : Entry) : ∀ {e : Entry} {loc other : Location}, ¬ loc <+: other →
    ((Entry.put new e loc).at? other).map Entry.bare = (e.at? other).map Entry.bare
  | _, [], other, hne => absurd List.nil_prefix hne
  | .folder es, name :: rest, [], _ => by
    unfold Entry.put
    split
    · rfl
    · split <;> rfl
  | .folder es, name :: rest, next :: others, hne => by
    unfold Entry.put
    cases hl : es.lookup name with
    | some e =>
      by_cases hk : next = name
      · subst hk
        have hrest : ¬ rest <+: others := fun hp => hne (List.cons_prefix_cons.2 ⟨rfl, hp⟩)
        have ih := Entry.bare_put new (e := e) hrest
        simpa [Entry.at?, Dictionary.lookup_insertEntry, hl] using ih
      · simp [Entry.at?, Dictionary.lookup_insertEntry, hk]
    | none =>
      dsimp only
      split
      · rename_i hnew
        have hk : next ≠ name := by
          rintro rfl
          have hrest : rest = [] := List.isEmpty_iff.1 (Bool.and_eq_true_iff.1 hnew).1
          exact hne (hrest ▸ List.cons_prefix_cons.2 ⟨rfl, List.nil_prefix⟩)
        simp [Entry.at?, Dictionary.lookup_insertEntry, hk]
      · rfl
  | .file _, _ :: _, _, _ => by simp [Entry.put]
  | .link _, _ :: _, _, _ => by simp [Entry.put]

/-- **Files are the same** before and after something is put elsewhere. -/
theorem Entry.file_put_iff (new : Entry) {e : Entry} {loc other : Location} (h : ¬ loc <+: other) (bytes : ByteArray) :
    (Entry.put new e loc).at? other = some (.file bytes) ↔ e.at? other = some (.file bytes) := by
  have hbare (x : Option Entry) : x = some (.file bytes) ↔ x.map Entry.bare = some (.file bytes) := by
    simp [Option.map_eq_some_iff]
  rw [hbare, Entry.bare_put new h, ← hbare]

/-- **Folders are folders** before and after something is put elsewhere. -/
theorem Entry.folder_put_iff (new : Entry) {e : Entry} {loc other : Location} (h : ¬ loc <+: other) :
    (∃ es, (Entry.put new e loc).at? other = some (.folder es)) ↔ ∃ es, e.at? other = some (.folder es) := by
  have hbare (x : Option Entry) : (∃ es, x = some (.folder es)) ↔ x.map Entry.bare = some (.folder []) := by
    cases x <;> simp
  rw [hbare, hbare, Entry.bare_put new h]

theorem Entry.LinkFree.insert {es : List (String × Entry)} {e : Entry} (name : String) (h : (Entry.folder es).LinkFree)
    (he : e.LinkFree) : (Entry.folder (insertEntry name e es)).LinkFree := by
  rw [Entry.LinkFree, linkFreeEntries_iff] at h ⊢
  intro x hx
  rcases mem_insertEntry hx with rfl | hx
  · exact he
  · exact h x hx

/-- Where no link is put, **no link comes in**. -/
theorem Entry.LinkFree.put {new : Entry} (hnew : new.LinkFree) : ∀ {e : Entry} {loc : Location}, e.LinkFree →
    (Entry.put new e loc).LinkFree
  | _, [], _ => by
    rw [Entry.put]
    exact hnew
  | .folder es, name :: rest, h => by
    unfold Entry.put
    split
    · rename_i e he
      have hes := h
      rw [Entry.LinkFree, linkFreeEntries_iff] at hes
      exact h.insert name (Entry.LinkFree.put hnew (hes _ (mem_of_lookup he)))
    · split
      · exact h.insert name hnew
      · exact h
  | .file _, _ :: _, h => by simpa [Entry.put] using h
  | .link _, _ :: _, h => by simpa [Entry.put] using h

/-! ## 2. Disks -/

section Put

variable (d : Disk) {loc : Location} {new : Entry} (tidy : new.Tidy)

theorem here_put : (d.put loc new tidy).here = d.here := by
  unfold put
  split <;> rfl

/-- What is put **in some folder** leaves the root a folder. -/
theorem entries_put (hne : loc ≠ []) :
    Entry.folder (d.put loc new tidy).entries = Entry.put new (.folder d.entries) loc := by
  obtain ⟨name, rest, rfl⟩ := List.exists_cons_of_ne_nil hne
  have hfolder : ∃ es, Entry.put new (.folder d.entries) (name :: rest) = .folder es := by
    unfold Entry.put
    split
    · exact ⟨_, rfl⟩
    · split <;> exact ⟨_, rfl⟩
  obtain ⟨es, hes⟩ := hfolder
  unfold put
  split
  · rename_i hput
    exact hput.symm
  · rename_i hput
    exact absurd hes (hput es)

theorem LinkFree.put (hd : d.LinkFree) (hnew : new.LinkFree) (hne : loc ≠ []) : (d.put loc new tidy).LinkFree := by
  have hroot : (Entry.folder d.entries).LinkFree := hd
  have hput : (Entry.put new (.folder d.entries) loc).LinkFree := Entry.LinkFree.put hnew hroot
  rwa [← entries_put d tidy hne] at hput

/-- A location **in a folder**, under a name of an entry. -/
def InFolder (loc : Location) : Prop :=
  ∃ above name es, loc = above ++ [name] ∧ d.at? above = some (.folder es) ∧ isEntryName name = true

variable {d}

theorem inFolder_of_at? {e : Entry} (hat : d.at? loc = some e) (hne : loc ≠ []) : d.InFolder loc := by
  obtain ⟨above, name, rfl⟩ := (List.eq_nil_or_concat loc).resolve_left hne
  rw [List.concat_eq_append] at hat ⊢
  obtain ⟨es, -, hes, -⟩ := exists_folder_of_at? hat
  exact ⟨above, name, es, rfl, hes, d.tidy.isEntryName hat name (List.mem_append_right _ List.mem_cons_self)⟩

theorem InFolder.ne_nil (h : d.InFolder loc) : loc ≠ [] := by
  obtain ⟨above, name, es, rfl, -⟩ := h
  exact List.append_ne_nil_of_right_ne_nil above (List.cons_ne_nil name [])

/-- **What was put is there.** -/
theorem at?_put (h : d.InFolder loc) : (d.put loc new tidy).at? loc = some new := by
  rw [at?, entries_put d tidy h.ne_nil]
  obtain ⟨above, name, es, rfl, habove, hname⟩ := h
  exact Entry.at?_put_self new hname habove

/-- **Files are the same**, unless they lie there or beneath. -/
theorem file_put_iff (h : d.InFolder loc) {other : Location} (hother : ¬ loc <+: other) (bytes : ByteArray) :
    (d.put loc new tidy).at? other = some (.file bytes) ↔ d.at? other = some (.file bytes) := by
  rw [at?, entries_put d tidy h.ne_nil]
  exact Entry.file_put_iff new hother bytes

/-- **Folders stay folders**, unless they lie there or beneath. -/
theorem folder_put_iff (h : d.InFolder loc) {other : Location} (hother : ¬ loc <+: other) :
    (∃ es, (d.put loc new tidy).at? other = some (.folder es)) ↔ ∃ es, d.at? other = some (.folder es) := by
  rw [at?, entries_put d tidy h.ne_nil]
  exact Entry.folder_put_iff new hother

end Put

/-! ## 3. Files that are kept -/

/-- There is a file **at a location**. -/
def FileAt (d : Disk) (loc : Location) : Prop :=
  ∃ bytes, d.at? loc = some (.file bytes)

/-- Two disks with the same files **but for some locations**, and there files are still files; no link comes in, and
    paths start where they did. -/
structure KeepsFiles (d d' : Disk) (changed : List Location) : Prop where
  here_eq : d'.here = d.here
  linkFree : d.LinkFree → d'.LinkFree
  file_iff : ∀ loc ∉ changed, ∀ bytes, d'.at? loc = some (.file bytes) ↔ d.at? loc = some (.file bytes)
  fileAt : ∀ loc, d.FileAt loc → d'.FileAt loc

section Kept

variable {d d' d'' : Disk} {xs ys : List Location} {loc : Location}

theorem KeepsFiles.refl (d : Disk) : d.KeepsFiles d [] :=
  ⟨rfl, id, fun _ _ _ => Iff.rfl, fun _ h => h⟩

/-- One change after the other keeps **what both of them keep**. -/
theorem KeepsFiles.trans (h : d.KeepsFiles d' xs) (h' : d'.KeepsFiles d'' ys) : d.KeepsFiles d'' (xs ++ ys) where
  here_eq := h'.here_eq.trans h.here_eq
  linkFree := fun hd => h'.linkFree (h.linkFree hd)
  file_iff := fun loc hloc bytes => by
    rw [List.mem_append, not_or] at hloc
    rw [h'.file_iff loc hloc.2, h.file_iff loc hloc.1]
  fileAt := fun loc hfile => h'.fileAt loc (h.fileAt loc hfile)

/-- Files that are the same but for some locations **stay files**, if there is still one at each of these. -/
theorem fileAt_of_file_iff
    (hsame : ∀ loc ∉ xs, ∀ bytes, d'.at? loc = some (.file bytes) ↔ d.at? loc = some (.file bytes))
    (hchanged : ∀ loc ∈ xs, d'.FileAt loc) (loc : Location) (hfile : d.FileAt loc) : d'.FileAt loc := by
  by_cases hloc : loc ∈ xs
  · exact hchanged loc hloc
  · obtain ⟨bytes, hat⟩ := hfile
    exact ⟨bytes, (hsame loc hloc bytes).2 hat⟩

/-- **Nothing lies beneath** what is no folder. -/
theorem at?_beneath {e : Entry} (he : ∀ name rest, e.at? (name :: rest) = none) (hat : d.at? loc = some e)
    {more : Location} (hmore : more ≠ []) : d.at? (loc ++ more) = none := by
  obtain ⟨name, rest, rfl⟩ := List.exists_cons_of_ne_nil hmore
  rw [at?_append, hat, Option.bind_some, he]

/-- A location that **takes a file**: it is in a folder, and nothing lies there, or a file. -/
def Takes (d : Disk) (loc : Location) : Prop :=
  d.InFolder loc ∧ ∀ e, d.at? loc = some e → ∃ old, e = .file old

theorem takes_of_file {old : ByteArray} (h : d.at? loc = some (.file old)) : d.Takes loc := by
  have hne : loc ≠ [] := by
    rintro rfl
    cases h
  exact ⟨inFolder_of_at? h hne, fun e he => ⟨old, Option.some.inj (he.symm.trans h)⟩⟩

/-- **The new file** lies where it was put. -/
theorem at?_putFile (h : d.InFolder loc) (bytes : ByteArray) : (d.putFile loc bytes).at? loc = some (.file bytes) :=
  at?_put _ h

/-- A file that is put where one can be **changes no file elsewhere**. -/
theorem file_putFile_iff (h : d.Takes loc) (bytes : ByteArray) {other : Location} (hother : other ∉ [loc])
    (content : ByteArray) :
    (d.putFile loc bytes).at? other = some (.file content) ↔ d.at? other = some (.file content) := by
  by_cases hprefix : loc <+: other
  · -- beneath a file, or where nothing is, there is nothing
    obtain ⟨more, rfl⟩ := hprefix
    have hmore : more ≠ [] := fun hnil => hother (by rw [hnil, List.append_nil]; exact List.mem_singleton_self loc)
    have hafter : (d.putFile loc bytes).at? (loc ++ more) = none :=
      at?_beneath (fun _ _ => rfl) (at?_putFile h.1 bytes) hmore
    have hbefore : d.at? (loc ++ more) = none := by
      cases hat : d.at? loc with
      | none => rw [at?_append, hat, Option.bind_none]
      | some e =>
        obtain ⟨old, rfl⟩ := h.2 e hat
        exact at?_beneath (fun _ _ => rfl) hat hmore
    rw [hafter, hbefore]
  · exact file_put_iff _ h.1 hprefix content

theorem keepsFiles_putFile (h : d.Takes loc) (bytes : ByteArray) : d.KeepsFiles (d.putFile loc bytes) [loc] where
  here_eq := here_put d _
  linkFree := fun hd => hd.put d _ trivial h.1.ne_nil
  file_iff := fun _ hother content => file_putFile_iff h bytes hother content
  fileAt := fileAt_of_file_iff (fun _ hother content => file_putFile_iff h bytes hother content) fun other hother => by
    obtain rfl := List.mem_singleton.1 hother
    exact ⟨bytes, at?_putFile h.1 bytes⟩

theorem file_putFolder_iff (h : d.InFolder loc) (hnone : d.at? loc = none) (other : Location) (content : ByteArray) :
    (d.putFolder loc).at? other = some (.file content) ↔ d.at? other = some (.file content) := by
  by_cases hprefix : loc <+: other
  · obtain ⟨more, rfl⟩ := hprefix
    have hbefore : d.at? (loc ++ more) = none := by
      rw [at?_append, hnone, Option.bind_none]
    have hafter : (d.putFolder loc).at? (loc ++ more) ≠ some (.file content) := by
      rw [at?_append, putFolder, at?_put _ h, Option.bind_some]
      cases more <;> simp [Entry.at?]
    rw [hbefore]
    exact iff_of_false hafter fun hsome => Option.some_ne_none _ hsome.symm
  · exact file_put_iff _ h hprefix content

/-- A new folder **changes no file**. -/
theorem keepsFiles_putFolder (h : d.InFolder loc) (hnone : d.at? loc = none) : d.KeepsFiles (d.putFolder loc) [] where
  here_eq := here_put d _
  linkFree := fun hd => hd.put d _ trivial h.ne_nil
  file_iff := fun other _ content => file_putFolder_iff h hnone other content
  fileAt := fileAt_of_file_iff (fun other _ content => file_putFolder_iff h hnone other content) fun _ hmem =>
    absurd hmem List.not_mem_nil

/-- Nothing lies **at a location beneath** one where nothing lies. -/
theorem not_prefix_of_at?_eq_none (hnone : d.at? loc = none) {other : Location} {e : Entry}
    (hother : d.at? other = some e) : ¬ loc <+: other := by
  intro hprefix
  obtain ⟨more, rfl⟩ := hprefix
  rw [at?_append, hnone] at hother
  cases hother

/-! ## 4. Folders that come in -/

/-- A disk on which **only folders came in**: files are the same, and folders are still folders. -/
structure Grows (d d' : Disk) : Prop extends d.KeepsFiles d' [] where
  folder : ∀ loc es, d.at? loc = some (.folder es) → ∃ fs, d'.at? loc = some (.folder fs)

theorem Grows.refl (d : Disk) : d.Grows d :=
  ⟨.refl d, fun _ es h => ⟨es, h⟩⟩

theorem Grows.trans (h : d.Grows d') (h' : d'.Grows d'') : d.Grows d'' where
  toKeepsFiles := h.toKeepsFiles.trans h'.toKeepsFiles
  folder := fun loc es hes => by
    obtain ⟨fs, hfs⟩ := h.folder loc es hes
    exact h'.folder loc fs hfs

/-- A new folder **is all that comes in**. -/
theorem grows_putFolder (h : d.InFolder loc) (hnone : d.at? loc = none) : d.Grows (d.putFolder loc) where
  toKeepsFiles := keepsFiles_putFolder h hnone
  folder := fun _ es hes =>
    (folder_put_iff _ h (not_prefix_of_at?_eq_none hnone hes)).2 ⟨es, hes⟩

end Kept

end TreeIndex.Disk
