import TreeIndex.Disk.Walk
import TreeIndex.Proofs.Dictionary
import TreeIndex.Proofs.Disk.Put

/-!
# What files hold

Where paths lead, and what walks find, does not depend on what the files of a disk hold.

* `Entry.emptied`, `Disk.emptied`: an entry, or a disk, **without what its files hold**;
* `place?_emptied`, `entry?_emptied`: a path leads to the same place there, so it is a file, a folder or nothing
  there as well, and has the same canonical path (`isFile_emptied`, `isFolder_emptied`, `canonical_emptied`);
* `filesBeneath_emptied`: and a walk finds the same files;
* `Misses`: a path that does not lead to a location;
* `DiffersAt`: two disks that are the same but for **what one file holds**: what lies at paths is the same kind of
  thing on both (`DiffersAt.isFile_eq` and so on), and every other file is the same (`DiffersAt.content?_eq`);
* `differsAt_putFile`, `differsAt_of_write?`: **writing a text to a file** gives such a disk, and the text is read
  from it.
-/

namespace TreeIndex.Disk

/-! ## 1. Entries -/

mutual

/-- An entry **without what its files hold**. -/
def Entry.emptied : Entry → Entry
  | .file _ => .file ByteArray.empty
  | .link target => .link target
  | .folder es => .folder (emptiedEntries es)

/-- Some entries without what their files hold. -/
def emptiedEntries : List (String × Entry) → List (String × Entry)
  | [] => []
  | (name, e) :: es => (name, e.emptied) :: emptiedEntries es

end

theorem emptiedEntries_eq (es : List (String × Entry)) :
    emptiedEntries es = es.map fun x => (x.1, x.2.emptied) := by
  induction es with
  | nil => rfl
  | cons x es ih =>
    rw [emptiedEntries, ih]
    rfl

theorem ascending_emptiedEntries {es : List (String × Entry)} (h : Ascending es) :
    Ascending (emptiedEntries es) := by
  rw [emptiedEntries_eq]
  exact List.pairwise_map.2 h

theorem lookup_emptiedEntries (name : String) (es : List (String × Entry)) :
    (emptiedEntries es).lookup name = (es.lookup name).map Entry.emptied := by
  induction es with
  | nil => rfl
  | cons x es ih =>
    rw [emptiedEntries, Dictionary.lookup_cons_eq, Dictionary.lookup_cons_eq, ih]
    split <;> rfl

mutual

theorem Entry.Tidy.emptied : ∀ e : Entry, e.Tidy → e.emptied.Tidy
  | .file _, _ => trivial
  | .link _, _ => trivial
  | .folder es, h => by
    rw [Entry.Tidy] at h
    rw [Entry.emptied, Entry.Tidy]
    exact ⟨ascending_emptiedEntries h.1, tidyEntries_emptied es h.2⟩

theorem tidyEntries_emptied : ∀ es : List (String × Entry), TidyEntries es → TidyEntries (emptiedEntries es)
  | [], _ => trivial
  | (_, e) :: es, h => by
    rw [TidyEntries] at h
    rw [emptiedEntries, TidyEntries]
    exact ⟨h.1, Entry.Tidy.emptied e h.2.1, tidyEntries_emptied es h.2.2⟩

end

/-- Entries that are the same but for what files hold are **of one kind**. -/
theorem Entry.emptied_eq_cases {e f : Entry} (h : e.emptied = f.emptied) :
    (∃ bytes bytes', e = .file bytes ∧ f = .file bytes') ∨ (∃ target, e = .link target ∧ f = .link target) ∨
      ∃ es fs, e = .folder es ∧ f = .folder fs := by
  cases e <;> cases f <;> simp_all [Entry.emptied]

theorem Entry.at?_emptied : ∀ (e : Entry) (loc : Location), e.emptied.at? loc = (e.at? loc).map Entry.emptied
  | _, [] => by rw [Entry.at?, Entry.at?]; rfl
  | .folder es, name :: rest => by
    rw [Entry.emptied, Entry.at?, Entry.at?, lookup_emptiedEntries]
    cases es.lookup name with
    | none => rfl
    | some e => exact Entry.at?_emptied e rest
  | .file _, _ :: _ => rfl
  | .link _, _ :: _ => rfl

mutual

theorem Entry.folderCount_emptied : ∀ e : Entry, e.emptied.folderCount = e.folderCount
  | .file _ => rfl
  | .link _ => rfl
  | .folder es => by
    rw [Entry.emptied, Entry.folderCount, Entry.folderCount, folderCountIn_emptied es]

theorem folderCountIn_emptied : ∀ es : List (String × Entry),
    folderCountIn (emptiedEntries es) = folderCountIn es
  | [] => rfl
  | (_, e) :: es => by
    rw [emptiedEntries, folderCountIn, folderCountIn, Entry.folderCount_emptied e, folderCountIn_emptied es]

end

/-! ## 2. Disks -/

/-- A disk **without what its files hold**. -/
def emptied (d : Disk) : Disk :=
  ⟨emptiedEntries d.entries, d.here, by
    have htidy := Entry.Tidy.emptied _ d.tidy
    rw [Entry.emptied] at htidy
    exact htidy⟩

/-- A place without what the files there hold. -/
def Place.emptied : Place → Place
  | .found loc e => .found loc e.emptied
  | .vacant folder name => .vacant folder name

variable {d : Disk}

theorem at?_emptied (d : Disk) (loc : Location) : d.emptied.at? loc = (d.at? loc).map Entry.emptied := by
  have hroot : Entry.folder d.emptied.entries = (Entry.folder d.entries).emptied := by
    rw [Entry.emptied]
    rfl
  rw [at?, hroot, Entry.at?_emptied]
  rfl

/-- A walk along some pieces **does not look into files**. -/
theorem walkPieces_emptied {last : Bool} {through other : Location → List Char → List String → Except Failure Place}
    (hthrough : ∀ loc text rest, other loc text rest = (through loc text rest).map Place.emptied) :
    ∀ (ps : List String) (loc : Location),
      walkPieces d.emptied last other loc ps = (walkPieces d last through loc ps).map Place.emptied
  | [], loc => by
    rw [walkPieces, walkPieces, at?_emptied]
    cases d.at? loc <;> rfl
  | piece :: rest, loc => by
    rw [walkPieces, walkPieces, at?_emptied]
    cases d.at? loc with
    | none => rfl
    | some e =>
      cases e with
      | file bytes => rfl
      | link target => rfl
      | folder es =>
        rw [Option.map_some, Entry.emptied]
        dsimp only
        by_cases hdot : piece = "."
        · rw [if_pos hdot, if_pos hdot]
          exact walkPieces_emptied hthrough rest loc
        rw [if_neg hdot, if_neg hdot]
        by_cases hup : piece = ".."
        · rw [if_pos hup, if_pos hup]
          exact walkPieces_emptied hthrough rest loc.dropLast
        rw [if_neg hup, if_neg hup]
        by_cases hlong : isTooLong piece = true
        · rw [if_pos hlong, if_pos hlong]
          rfl
        rw [if_neg hlong, if_neg hlong, lookup_emptiedEntries]
        cases es.lookup piece with
        | none => cases rest <;> rfl
        | some f =>
          rw [Option.map_some]
          cases f with
          | file bytes => exact walkPieces_emptied hthrough rest _
          | folder fs =>
            rw [Entry.emptied]
            exact walkPieces_emptied hthrough rest _
          | link target =>
            rw [Entry.emptied]
            dsimp only
            split
            · rfl
            · exact hthrough loc target.toList rest

theorem walkText_emptied {last : Bool} : ∀ (spare : Nat) (folder : Location) (text : List Char)
    (rest : List String),
      walkText d.emptied last spare folder text rest = (walkText d last spare folder text rest).map Place.emptied
  | 0, _, _, _ => rfl
  | spare + 1, folder, text, rest => by
    rw [walkText, walkText]
    split
    · rfl
    · exact walkPieces_emptied (walkText_emptied spare) _ _

/-- **A path leads to the same place**, whatever files hold. -/
theorem place?_emptied (d : Disk) (last : Bool) (p : Path) :
    d.emptied.place? last p = (d.place? last p).map Place.emptied := by
  unfold place?
  dsimp only
  split
  · rfl
  · exact walkText_emptied _ _ _ _

theorem entry?_emptied (d : Disk) (p : Path) :
    d.emptied.entry? p = (d.entry? p).map fun found => (found.1, found.2.emptied) := by
  unfold entry?
  rw [place?_emptied]
  cases d.place? true p with
  | error failure => rfl
  | ok place => cases place <;> rfl

theorem isFile_emptied (d : Disk) (p : Path) : d.emptied.isFile p = d.isFile p := by
  rw [isFile, isFile, entry?_emptied]
  cases d.entry? p with
  | error failure => rfl
  | ok found =>
    obtain ⟨loc, e⟩ := found
    cases e <;> rfl

theorem isFolder_emptied (d : Disk) (p : Path) : d.emptied.isFolder p = d.isFolder p := by
  rw [isFolder, isFolder, entry?_emptied]
  cases d.entry? p with
  | error failure => rfl
  | ok found =>
    obtain ⟨loc, e⟩ := found
    cases e <;> rfl

theorem canonical_emptied (d : Disk) (p : Path) : d.emptied.canonical p = d.canonical p := by
  rw [canonical, canonical, entry?_emptied]
  cases d.entry? p <;> rfl

/-! ## 3. Walks -/

section Walks

variable {through : List Location → Path → List Path} {prunes : String → Bool}

mutual

theorem walkEntry_emptied : ∀ (e : Entry) (above : List Location) (loc : Location) (p : Path),
    walkEntry through prunes above loc p e.emptied = walkEntry through prunes above loc p e
  | .file _, _, _, _ => rfl
  | .link _, _, _, _ => rfl
  | .folder es, above, loc, p => by
    rw [Entry.emptied, walkEntry, walkEntry, walkEntries_emptied es]

theorem walkEntries_emptied : ∀ (es : List (String × Entry)) (above : List Location) (loc : Location) (p : Path),
    walkEntries through prunes above loc p (emptiedEntries es) = walkEntries through prunes above loc p es
  | [], _, _, _ => rfl
  | (name, e) :: es, above, loc, p => by
    rw [emptiedEntries, walkEntries, walkEntries, walkEntry_emptied e, walkEntries_emptied es]

end

end Walks

theorem filesBehind_emptied (d : Disk) (prunes : String → Bool) : ∀ spare : Nat,
    filesBehind d.emptied prunes spare = filesBehind d prunes spare
  | 0 => rfl
  | spare + 1 => by
    funext above p
    rw [filesBehind, filesBehind, entry?_emptied, filesBehind_emptied d prunes spare]
    cases d.entry? p with
    | error failure => rfl
    | ok found =>
      obtain ⟨loc, e⟩ := found
      rw [Except.map]
      dsimp only
      rw [walkEntry_emptied]

/-- **A walk finds the same files**, whatever they hold. -/
theorem filesBeneath_emptied (d : Disk) (o : WalkOptions) (p : Path) :
    d.emptied.filesBeneath o p = d.filesBeneath o p := by
  have hcount : (Entry.folder d.emptied.entries).folderCount = (Entry.folder d.entries).folderCount := by
    rw [Entry.folderCount, Entry.folderCount]
    exact congrArg (· + 1) (folderCountIn_emptied d.entries)
  have hthrough : d.emptied.filesThrough o = d.filesThrough o := by
    rw [filesThrough, filesThrough, hcount, filesBehind_emptied]
  rw [filesBeneath, filesBeneath, place?_emptied, entry?_emptied, hthrough]
  cases d.place? false p with
  | error failure => rfl
  | ok place =>
    cases place with
    | vacant folder name => rfl
    | found loc e =>
      cases e with
      | file bytes => rfl
      | folder es => exact walkEntry_emptied (.folder es) [] loc p
      | link target =>
        rw [Except.map, Place.emptied, Entry.emptied]
        dsimp only
        split
        · rfl
        · cases d.entry? p with
          | error failure => rfl
          | ok found =>
            obtain ⟨loc, f⟩ := found
            cases f with
            | file bytes => rfl
            | link target => rfl
            | folder es =>
              rw [Except.map, Entry.emptied]
              exact walkEntries_emptied es [loc] loc p

/-! ## 4. Disks that differ in one file -/

/-- A path **does not lead to a location**. -/
def Misses (d : Disk) (loc : Location) (p : Path) : Prop :=
  ∀ e, d.entry? p ≠ .ok (loc, e)

variable {loc : Location} {p : Path}

/-- What does not lead to a location does not lead there **by its canonical path** either. -/
theorem Misses.canonical (h : d.Misses loc p) : d.Misses loc (d.canonical p) :=
  fun e he => h e (entry?_of_canonical he)

/-- A path whose canonical path is another one **does not lead there**. -/
theorem misses_of_apart (h : (d.canonical p).same (pathTo loc) = false) : d.Misses loc p := by
  intro e he
  rw [canonical_eq_pathTo he, Path.same_refl] at h
  cases h

/-- Two disks are the same but for **what the file at one location holds**. -/
structure DiffersAt (d d' : Disk) (loc : Location) : Prop where
  emptied_eq : d'.emptied = d.emptied
  elsewhere : ∀ other bytes, other ≠ loc → d.at? other = some (.file bytes) →
    d'.at? other = some (.file bytes)

namespace DiffersAt

variable {d' : Disk} (h : d.DiffersAt d' loc)

include h

theorem isFile_eq (p : Path) : d'.isFile p = d.isFile p := by
  rw [← isFile_emptied, h.emptied_eq, isFile_emptied]

theorem isFolder_eq (p : Path) : d'.isFolder p = d.isFolder p := by
  rw [← isFolder_emptied, h.emptied_eq, isFolder_emptied]

theorem canonical_eq (p : Path) : d'.canonical p = d.canonical p := by
  rw [← canonical_emptied, h.emptied_eq, canonical_emptied]

theorem filesBeneath_eq (o : WalkOptions) (p : Path) : d'.filesBeneath o p = d.filesBeneath o p := by
  rw [← filesBeneath_emptied, h.emptied_eq, filesBeneath_emptied]

/-- A path leads to **the same location** on both disks, and to the same kind of entry; or it leads nowhere. -/
theorem entry?_cases (p : Path) :
    (∃ failure, d.entry? p = .error failure ∧ d'.entry? p = .error failure) ∨
      ∃ found e e', d.entry? p = .ok (found, e) ∧ d'.entry? p = .ok (found, e') ∧ e'.emptied = e.emptied := by
  have hboth : (d'.entry? p).map (fun found => (found.1, found.2.emptied)) =
      (d.entry? p).map fun found => (found.1, found.2.emptied) := by
    rw [← entry?_emptied, h.emptied_eq, entry?_emptied]
  cases hd : d.entry? p with
  | error failure =>
    cases hd' : d'.entry? p with
    | error other =>
      rw [hd, hd'] at hboth
      cases hboth
      exact Or.inl ⟨failure, rfl, rfl⟩
    | ok there =>
      rw [hd, hd'] at hboth
      cases hboth
  | ok there =>
    obtain ⟨found, e⟩ := there
    cases hd' : d'.entry? p with
    | error other =>
      rw [hd, hd'] at hboth
      cases hboth
    | ok there' =>
      obtain ⟨found', e'⟩ := there'
      rw [hd, hd'] at hboth
      obtain ⟨rfl, hkind⟩ := Prod.mk.inj (Except.ok.inj hboth)
      exact Or.inr ⟨found', e, e', rfl, rfl, hkind⟩

/-- **All other files hold the same.** -/
theorem content?_eq (hp : d.Misses loc p) : d'.content? p = d.content? p := by
  have hbytes : d'.bytes? p = d.bytes? p := by
    unfold bytes?
    rcases h.entry?_cases p with ⟨failure, hd, hd'⟩ | ⟨found, e, e', hd, hd', hkind⟩
    · rw [hd, hd']
    · rw [hd, hd']
      rcases Entry.emptied_eq_cases hkind with ⟨bytes', bytes, rfl, rfl⟩ | ⟨target, rfl, rfl⟩ | ⟨es', es, rfl, rfl⟩
      · have hne : found ≠ loc := fun heq => hp _ (heq ▸ hd)
        have hsame := h.elsewhere found bytes hne (entry?_lands hd).1
        cases (entry?_lands hd').1.symm.trans hsame
        rfl
      · rfl
      · rfl
  rw [content?, content?, text?, text?, hbytes]

/-- The documents in all other files are the same. -/
theorem value?_eq (hp : d.Misses loc p) : d'.value? p = d.value? p := by
  rw [value?, value?, h.content?_eq hp]

theorem mapping?_eq (hp : d.Misses loc p) : d'.mapping? p = d.mapping? p := by
  rw [mapping?, mapping?, h.value?_eq hp]

end DiffersAt

/-! ## 5. Files that are written -/

/-- A file in place of another one **leaves everything as it is**, but for what it holds. -/
theorem Entry.emptied_put {old : ByteArray} (new : ByteArray) : ∀ {e : Entry} {loc : Location}, e.Tidy →
    e.at? loc = some (.file old) → (Entry.put (.file new) e loc).emptied = e.emptied
  | e, [], _, h => by
    rw [Entry.at?] at h
    rw [Option.some.inj h, Entry.put, Entry.emptied, Entry.emptied]
  | .folder es, name :: rest, htidy, h => by
    obtain ⟨hascending, hes⟩ := tidy_folder_iff.1 htidy
    obtain ⟨f, hf, h⟩ := Option.bind_eq_some_iff.1 h
    have ih := Entry.emptied_put new (hes _ (mem_of_lookup hf)).2 h
    have hput : Entry.put (.file new) (.folder es) (name :: rest) =
        .folder (insertEntry name (Entry.put (.file new) f rest) es) := by
      rw [Entry.put, hf]
    -- the entries are the same under every name
    have hlookups : (⟨_, ascending_emptiedEntries (ascending_insertEntry name
        (Entry.put (.file new) f rest) hascending)⟩ : Dictionary Entry) =
        ⟨_, ascending_emptiedEntries hascending⟩ := by
      refine Dictionary.eq_of_get? fun key => ?_
      rw [Dictionary.get?, Dictionary.get?, lookup_emptiedEntries, lookup_emptiedEntries,
        Dictionary.lookup_insertEntry]
      by_cases hkey : key = name
      · rw [if_pos hkey, hkey, hf, Option.map_some, Option.map_some, ih]
      · rw [if_neg hkey]
    rw [hput, Entry.emptied, Entry.emptied]
    exact congrArg (fun entries : Dictionary Entry => Entry.folder entries.entries) hlookups
  | .file _, _ :: _, _, h => by simp [Entry.at?] at h
  | .link _, _ :: _, _, h => by simp [Entry.at?] at h

/-- Putting a file in place of another one **changes nothing else**. -/
theorem differsAt_putFile {old : ByteArray} (h : d.at? loc = some (.file old)) (new : ByteArray) :
    d.DiffersAt (d.putFile loc new) loc := by
  have htakes := takes_of_file h
  have hkeeps := keepsFiles_putFile htakes new
  have hentries : Entry.folder (d.putFile loc new).entries = Entry.put (.file new) (.folder d.entries) loc :=
    entries_put d _ htakes.1.ne_nil
  have hemptied := Entry.emptied_put new d.tidy h
  rw [← hentries, Entry.emptied, Entry.emptied] at hemptied
  constructor
  · unfold emptied
    simp only [Entry.folder.inj hemptied, hkeeps.here_eq]
  · intro other bytes hne hother
    have hnotMem : other ∉ [loc] := fun hmem => hne (List.mem_singleton.1 hmem)
    exact (hkeeps.file_iff other hnotMem bytes).2 hother

/-- **Writing to a path at which a file lies** puts another one in its place. -/
theorem write?_eq_ok {d' : Disk} {old new : ByteArray} (hp : d.entry? p = .ok (loc, .file old))
    (h : d.write? p new = .ok d') : d' = d.putFile loc new := by
  obtain ⟨found, hfound, h⟩ := Outcome.bind_eq_ok.1 h
  have hplace : d.place? true p = .ok (.found loc (.file old)) := by
    unfold entry? at hp
    split at hp
    · rename_i hplace
      cases hp
      exact hplace
    · cases hp
    · cases hp
  have hloc : found = loc := by
    unfold target? at hfound
    split at hfound
    · cases hfound
    split at hfound
    · split at hfound <;> cases hfound
    · rw [hplace] at hfound
      exact (Except.ok.inj hfound).symm
  rw [← hloc]
  exact (Except.ok.inj h).symm

/-- Writing a text to a path at which a file lies **changes nothing but what that file holds**: the text. -/
theorem differsAt_of_write? {d' : Disk} {old : ByteArray} {text : String}
    (hp : d.entry? p = .ok (loc, .file old)) (h : d.write? p text.toUTF8 = .ok d') :
    d.DiffersAt d' loc ∧ d'.content? p = .ok text := by
  obtain rfl := write?_eq_ok hp h
  have hat := (entry?_lands hp).1
  have hdiffers := differsAt_putFile hat text.toUTF8
  refine ⟨hdiffers, ?_⟩
  have hentry : entry? (d.putFile loc text.toUTF8) p = .ok (loc, .file text.toUTF8) := by
    rcases hdiffers.entry?_cases p with ⟨failure, hd, -⟩ | ⟨found, e, e', hd, hd', -⟩
    · cases hp.symm.trans hd
    · cases hp.symm.trans hd
      cases (entry?_lands hd').1.symm.trans (at?_putFile (takes_of_file hat).1 text.toUTF8)
      exact hd'
  exact content?_of_file hentry

end TreeIndex.Disk
