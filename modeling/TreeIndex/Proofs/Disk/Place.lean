import TreeIndex.Disk.Place
import TreeIndex.Proofs.Path

/-!
# Places on a disk without links

Where no link stands anywhere, a path leads where its names lead.

* `LinkFree`: no link stands at any depth; `LinkFree.at?`: so it is of everything beneath;
* `Entry.Tidy.isEntryName`: whatever lies at a location, **its names are names of entries**;
* `steps_pathTo`: the path to a location says its names;
* `names`: the names in a text; `names_child`, `pieces_descend`: what is added when names follow a path;
* `walkPieces_congr`, `place?_congr`: without links **nothing is gone through**, so a path leads to the same place,
  be a link gone through at its end or not.
-/

namespace TreeIndex.Disk

/-! ## 1. Entries without links -/

mutual

/-- No link stands **at any depth**. -/
def Entry.LinkFree : Entry → Prop
  | .file _ => True
  | .link _ => False
  | .folder es => LinkFreeEntries es

/-- No link stands among some entries or beneath them. -/
def LinkFreeEntries : List (String × Entry) → Prop
  | [] => True
  | (_, e) :: es => e.LinkFree ∧ LinkFreeEntries es

end

/-- There is **no link on the disk**. -/
def LinkFree (d : Disk) : Prop :=
  LinkFreeEntries d.entries

theorem linkFreeEntries_iff {es : List (String × Entry)} :
    LinkFreeEntries es ↔ ∀ x ∈ es, x.2.LinkFree := by
  induction es with
  | nil => simp [LinkFreeEntries]
  | cons x es ih =>
    obtain ⟨name, e⟩ := x
    simp only [LinkFreeEntries, ih, List.mem_cons, forall_eq_or_imp]

theorem Entry.LinkFree.at? : ∀ {e f : Entry} {loc : Location}, e.LinkFree → e.at? loc = some f → f.LinkFree
  | e, f, [], h, hf => by
    simp only [Entry.at?, Option.some.injEq] at hf
    exact hf ▸ h
  | .folder es, f, name :: rest, h, hf => by
    simp only [Entry.at?, Option.bind_eq_some_iff] at hf
    obtain ⟨e, he, hf⟩ := hf
    exact Entry.LinkFree.at? (linkFreeEntries_iff.1 h _ (mem_of_lookup he)) hf
  | .file _, _, _ :: _, _, hf => by simp [Entry.at?] at hf
  | .link _, _, _ :: _, _, hf => by simp [Entry.at?] at hf

/-- Whatever lies at a location: **its names are names of entries**. -/
theorem Entry.Tidy.isEntryName : ∀ {e f : Entry} {loc : Location}, e.Tidy → e.at? loc = some f →
    ∀ name ∈ loc, isEntryName name = true
  | _, _, [], _, _, _, hn => absurd hn List.not_mem_nil
  | .folder es, f, step :: rest, h, hf, name, hn => by
    simp only [Entry.at?, Option.bind_eq_some_iff] at hf
    obtain ⟨e, he, hf⟩ := hf
    have hx := (tidy_folder_iff.1 h).2 _ (mem_of_lookup he)
    rcases List.mem_cons.1 hn with rfl | hn
    · exact hx.1
    · exact Entry.Tidy.isEntryName hx.2 hf name hn
  | .file _, _, _ :: _, _, hf, _, _ => by simp [Entry.at?] at hf
  | .link _, _, _ :: _, _, hf, _, _ => by simp [Entry.at?] at hf

instance : ∀ e : Entry, Decidable (∃ bytes, e = .file bytes)
  | .file bytes => .isTrue ⟨bytes, rfl⟩
  | .folder _ => .isFalse nofun
  | .link _ => .isFalse nofun

/-- Where there are only files, **no link stands**. -/
theorem linkFree_of_files {es : List (String × Entry)} (h : ∀ x ∈ es, ∃ bytes, x.2 = .file bytes) :
    LinkFreeEntries es := by
  refine linkFreeEntries_iff.2 fun x hx => ?_
  obtain ⟨bytes, hbytes⟩ := h x hx
  rw [hbytes]
  trivial

/-- Where there are only files, entries are tidy **if their names are**. -/
theorem tidy_of_files {es : List (String × Entry)} (h : ∀ x ∈ es, ∃ bytes, x.2 = .file bytes)
    (hascending : Ascending es) (hnames : ∀ x ∈ es, isEntryName x.1 = true) : (Entry.folder es).Tidy := by
  refine tidy_folder_iff.2 ⟨hascending, fun x hx => ⟨hnames x hx, ?_⟩⟩
  obtain ⟨bytes, hbytes⟩ := h x hx
  rw [hbytes]
  trivial

/-! ## 2. Names of entries -/

/-- What a name of an entry is not. -/
theorem isEntryName_iff {name : String} : isEntryName name = true ↔
    name ≠ "" ∧ name ≠ "." ∧ name ≠ ".." ∧ '/' ∉ name.toList := by
  simp [isEntryName, and_assoc]

/-- A text that can stand **between two slashes**: it is not empty and has no slash in it. -/
def IsSegment (name : String) : Prop :=
  name ≠ "" ∧ '/' ∉ name.toList

theorem IsSegment.toList_ne_nil {name : String} (h : IsSegment name) : name.toList ≠ [] :=
  fun he => h.1 (String.toList_eq_nil_iff.1 he)

theorem isSegment_of_isEntryName {name : String} (h : isEntryName name = true) : IsSegment name :=
  ⟨(isEntryName_iff.1 h).1, (isEntryName_iff.1 h).2.2.2⟩

theorem toList_ne_nil {name : String} (h : isEntryName name = true) : name.toList ≠ [] :=
  (isSegment_of_isEntryName h).toList_ne_nil

theorem segments_intercalate : ∀ {loc : Location}, loc ≠ [] → (∀ name ∈ loc, isEntryName name = true) →
    segments ("/".intercalate loc).toList = loc.map String.toList
  | [name], _, h => by
    rw [String.intercalate_singleton]
    exact segments_of_notMem (isEntryName_iff.1 (h name List.mem_cons_self)).2.2.2
  | name :: next :: rest, _, h => by
    have ih := segments_intercalate (List.cons_ne_nil next rest) fun n hn =>
      h n (List.mem_cons_of_mem name hn)
    rw [String.intercalate_cons_cons, String.toList_append, String.toList_append, List.append_assoc]
    change segments (name.toList ++ '/' :: ("/".intercalate (next :: rest)).toList) = _
    rw [segments_append_slash, ih,
      segments_of_notMem (isEntryName_iff.1 (h name List.mem_cons_self)).2.2.2]
    rfl

/-- The path to a location **starts at the root**. -/
theorem toList_pathTo (loc : Location) : (pathTo loc).text.toList = '/' :: ("/".intercalate loc).toList := by
  rw [pathTo, String.toList_append]
  rfl

theorem text_pathTo_ne_empty (loc : Location) : (pathTo loc).text ≠ "" := by
  intro he
  have htext := toList_pathTo loc
  rw [he] at htext
  cases htext

theorem origin_pathTo (folder loc : Location) : origin folder (pathTo loc).text.toList = [] := by
  rw [toList_pathTo]
  rfl

/-- **The path to a location** says its names, from the root on. -/
theorem steps_pathTo {loc : Location} (h : ∀ name ∈ loc, isEntryName name = true) :
    (pathTo loc).steps = .root :: loc.map .name := by
  rw [Path.steps, Path.lead, Path.tail, toList_pathTo]
  change Step.root :: ((segments ("/".intercalate loc).toList).filter saysSomething).map Step.ofSegment = _
  by_cases hloc : loc = []
  · subst hloc
    rfl
  · have hsays : (loc.map String.toList).filter saysSomething = loc.map String.toList := by
      refine List.filter_eq_self.2 fun s hs => ?_
      obtain ⟨name, hname, rfl⟩ := List.mem_map.1 hs
      have hn := isEntryName_iff.1 (h name hname)
      have hdot : name.toList ≠ ['.'] := fun he => hn.2.1 (String.toList_injective he)
      simp [saysSomething, toList_ne_nil (h name hname), hdot]
    have hsteps : (loc.map String.toList).map Step.ofSegment = loc.map .name := by
      rw [List.map_map]
      refine List.map_congr_left fun name hname => ?_
      have hn := isEntryName_iff.1 (h name hname)
      have hup : name.toList ≠ ['.', '.'] := fun he => hn.2.2.1 (String.toList_injective he)
      rw [Function.comp_apply, Step.ofSegment, if_neg hup, String.ofList_toList]
    rw [segments_intercalate hloc h, hsays, hsteps]

/-- Paths to locations that **say the same** lead to one location. -/
theorem eq_of_steps_pathTo {a b : Location} (ha : ∀ name ∈ a, isEntryName name = true)
    (hb : ∀ name ∈ b, isEntryName name = true) (h : (pathTo a).steps = (pathTo b).steps) : a = b := by
  rw [steps_pathTo ha, steps_pathTo hb] at h
  exact map_name_inj (List.cons.inj h).2

/-- Paths to locations stand **in the order of their names**. -/
theorem before_pathTo {a b : Location} (ha : ∀ name ∈ a, isEntryName name = true)
    (hb : ∀ name ∈ b, isEntryName name = true) (h : List.Lex (· < ·) a b) :
    (pathTo a).before (pathTo b) := by
  rw [Path.before, steps_pathTo ha, steps_pathTo hb]
  exact .cons (lex_map_name h)

/-! ## 3. Paths that are followed by names -/

/-- The names in a text **between its slashes**. -/
def names (text : List Char) : List String :=
  ((segments text).filter fun s => !s.isEmpty).map String.ofList

theorem names_append_slash (cs ds : List Char) : names (cs ++ '/' :: ds) = names cs ++ names ds := by
  rw [names, segments_append_slash, List.filter_append, List.map_append]
  rfl

theorem names_of_notMem {s : List Char} (hne : s ≠ []) (h : '/' ∉ s) : names s = [String.ofList s] := by
  rw [names, segments_of_notMem h]
  simp [hne]

theorem names_name {name : String} (h : IsSegment name) : names name.toList = [name] := by
  rw [names_of_notMem h.toList_ne_nil h.2, String.ofList_toList]

section Child

variable {p : Path} {name : String}

/-- A name **starts nowhere**: it is seen from the path that it follows. -/
theorem isAbsolute_name (h : IsSegment name) : (⟨name⟩ : Path).isAbsolute = false := by
  rw [Path.isAbsolute, Path.lead, beq_eq_false_iff_ne]
  intro hlead
  have hsplit := splitLead_append name.toList
  rw [hlead] at hsplit
  exact h.2 (hsplit ▸ List.mem_cons_self)

/-- A name that follows a path **stands behind a slash**: one that is there, or a new one. -/
theorem child_text (h : IsSegment name) (hp : p.text ≠ "") :
    ∃ front, (p.child name).text.toList = front ++ '/' :: name.toList ∧
      (p.text.toList = front ∨ p.text.toList = front ++ ['/']) := by
  have hempty : p.text.isEmpty = false := by
    rw [String.isEmpty_eq_false_iff]
    exact hp
  rw [Path.child, Path.join, isAbsolute_name h, hempty, if_neg Bool.false_ne_true, Bool.false_or]
  split
  · rename_i hslash
    obtain ⟨front, hfront⟩ := List.getLast?_eq_some_iff.1 (beq_iff_eq.1 hslash)
    refine ⟨front, ?_, Or.inr hfront⟩
    rw [String.toList_append, hfront, List.append_assoc]
    rfl
  · refine ⟨p.text.toList, ?_, Or.inl rfl⟩
    rw [String.toList_append, String.toList_append, List.append_assoc]
    rfl

theorem names_child (h : IsSegment name) (hp : p.text ≠ "") :
    names (p.child name).text.toList = names p.text.toList ++ [name] := by
  obtain ⟨front, hchild, hfront⟩ := child_text h hp
  have hnames : names p.text.toList = names front := by
    rcases hfront with hf | hf
    · rw [hf]
    · rw [hf, names_append_slash]
      exact List.append_nil _
  rw [hchild, names_append_slash, names_name h, hnames]

/-- A path that is followed by a name **starts where it started**, and does not end with a slash. -/
theorem child_ends (h : IsSegment name) (hp : p.text ≠ "") :
    (p.child name).text ≠ "" ∧ (p.child name).text.toList.head? = p.text.toList.head? ∧
      (p.child name).text.toList.getLast? ≠ some '/' := by
  obtain ⟨front, hchild, hfront⟩ := child_text h hp
  refine ⟨fun he => ?_, ?_, fun hlast => ?_⟩
  · rw [he] at hchild
    exact List.append_ne_nil_of_right_ne_nil front (List.cons_ne_nil _ _) hchild.symm
  · rw [hchild]
    rcases hfront with hf | hf
    · rw [hf]
      cases front with
      | nil => exact absurd (String.toList_eq_nil_iff.1 hf) hp
      | cons c cs => rfl
    · rw [hf]
      cases front <;> rfl
  · have hne := h.toList_ne_nil
    rw [hchild, List.getLast?_append, List.getLast?_cons_of_ne_nil hne, List.getLast?_eq_some_getLast hne,
      Option.some_or, Option.some.injEq] at hlast
    exact h.2 (hlast ▸ List.getLast_mem hne)

end Child

/-- **Names that follow a path** are walked through behind its own. -/
theorem pieces_descend : ∀ {rel : Location} {p : Path}, rel ≠ [] → p.text ≠ "" →
    (∀ name ∈ rel, isEntryName name = true) →
      (p.descend rel).text ≠ "" ∧ (p.descend rel).text.toList.head? = p.text.toList.head? ∧
        pieces (p.descend rel).text.toList = names p.text.toList ++ rel
  | [name], p, _, hp, h => by
    have hname := isSegment_of_isEntryName (h name List.mem_cons_self)
    obtain ⟨hne, hhead, hlast⟩ := child_ends hname hp
    refine ⟨hne, hhead, ?_⟩
    change pieces (p.child name).text.toList = _
    rw [pieces, if_neg hlast]
    exact names_child hname hp
  | name :: next :: rest, p, _, hp, h => by
    have hname := isSegment_of_isEntryName (h name List.mem_cons_self)
    obtain ⟨hne, hhead, -⟩ := child_ends hname hp
    obtain ⟨hne', hhead', hpieces⟩ := pieces_descend (List.cons_ne_nil next rest) hne fun n hn =>
      h n (List.mem_cons_of_mem name hn)
    refine ⟨hne', hhead'.trans hhead, ?_⟩
    change pieces ((p.child name).descend (next :: rest)).text.toList = _
    rw [hpieces, names_child hname hp, List.append_assoc]
    rfl

/-! ## 4. Walks without links -/

section Walk

variable {d : Disk} {through other : Location → List Char → List String → Except Failure Place} {last last' : Bool}

/-- There is no link in any folder of the disk. -/
theorem LinkFree.ne_link (hd : d.LinkFree) {loc : Location} {es : List (String × Entry)}
    (hloc : d.at? loc = some (.folder es)) {name : String} {target : String} :
    es.lookup name ≠ some (.link target) := by
  intro hl
  have hroot : (Entry.folder d.entries).LinkFree := hd
  have hfolder : (Entry.folder es).LinkFree := hroot.at? hloc
  exact linkFreeEntries_iff.1 hfolder _ (mem_of_lookup hl)

/-- Without links **nothing is gone through**, be it at the end or not. -/
theorem walkPieces_congr (hd : d.LinkFree) : ∀ (ps : List String) (loc : Location),
    walkPieces d last through loc ps = walkPieces d last' other loc ps
  | [], _ => rfl
  | piece :: rest, loc => by
    unfold walkPieces
    cases hloc : d.at? loc with
    | none => rfl
    | some e =>
      cases e with
      | file _ => rfl
      | link _ => rfl
      | folder es =>
        dsimp only
        split
        · exact walkPieces_congr hd rest loc
        · split
          · exact walkPieces_congr hd rest loc.dropLast
          · split
            · rfl
            · cases hl : es.lookup piece with
              | none => rfl
              | some f =>
                cases f with
                | link target => exact absurd hl (hd.ne_link hloc)
                | file _ => exact walkPieces_congr hd rest _
                | folder _ => exact walkPieces_congr hd rest _

/-- A walk that is over **finds what lies there**. -/
theorem walkPieces_nil {loc : Location} {place : Place} (h : walkPieces d last through loc [] = .ok place) :
    ∃ e, d.at? loc = some e ∧ place = .found loc e := by
  rw [walkPieces] at h
  cases hloc : d.at? loc with
  | none =>
    rw [hloc] at h
    cases h
  | some e =>
    rw [hloc] at h
    cases h
    exact ⟨e, rfl, rfl⟩

end Walk

/-! ## 5. Entries at paths -/

section Entries

variable {d : Disk} {p : Path} {loc : Location} {e : Entry}

/-- Without links a path leads to **the same place**, be a link gone through at its end or not. -/
theorem place?_congr (hd : d.LinkFree) (last last' : Bool) (p : Path) : d.place? last p = d.place? last' p := by
  unfold place?
  dsimp only
  split
  · rfl
  · unfold walkText
    split
    · rfl
    · exact walkPieces_congr hd _ _

theorem place?_eq_found_iff (hd : d.LinkFree) {last : Bool} :
    d.place? last p = .ok (.found loc e) ↔ d.entry? p = .ok (loc, e) := by
  rw [place?_congr hd last true, entry?]
  split <;> rename_i h <;> simp [h]

end Entries

end TreeIndex.Disk
