import TreeIndex.Content
import TreeIndex.Proofs.Disk.Place
import TreeIndex.Proofs.Outcome

/-!
# Canonical paths

What holds of canonical paths **on every disk**, whatever links stand on it.

* `Place.Lands`: a place where something lies that is no link; every path leads to such a place
  (`entry?_lands`), as links are gone through;
* `pieces_pathTo`, `walkPieces_eq_found`: the path to a location is walked through name by name, **past no
  link**, so it leads to that location or nowhere (`entry?_pathTo`);
* `entry?_of_canonical`, `canonical_canonical`: hence a canonical path leads where the path leads, and **is its
  own canonical path**;
* `canonical_eq_of_same`: two canonical paths that say the same are the same text;
* `content?_eq_ok_iff`, `value?_eq_ok`: what is read is what a file says.
-/

namespace TreeIndex.Disk

/-! ## 1. Locations in folders -/

/-- What lies beneath a location **lies beneath what lies there**. -/
theorem Entry.at?_append : ∀ (e : Entry) (a b : Location), e.at? (a ++ b) = (e.at? a).bind (·.at? b)
  | _, [], _ => rfl
  | .folder es, name :: a, b => by
    rw [List.cons_append, Entry.at?, Entry.at?, Option.bind_assoc]
    exact congrArg _ (funext fun e => Entry.at?_append e a b)
  | .file _, _ :: _, _ => rfl
  | .link _, _ :: _, _ => rfl

section Folders

variable {d : Disk} {loc : Location} {name : String} {e : Entry} {es : List (String × Entry)}

theorem at?_append (a b : Location) : d.at? (a ++ b) = (d.at? a).bind (·.at? b) :=
  Entry.at?_append _ a b

theorem at?_snoc (h : d.at? loc = some (.folder es)) : d.at? (loc ++ [name]) = es.lookup name := by
  rw [at?_append, h]
  show (es.lookup name).bind some = _
  exact Option.bind_fun_some _

/-- Beneath a name, something lies in **the folder above it**. -/
theorem exists_folder_of_at? {a : Location} (h : d.at? (loc ++ name :: a) = some e) :
    ∃ es f, d.at? loc = some (.folder es) ∧ es.lookup name = some f ∧ f.at? a = some e := by
  rw [at?_append] at h
  obtain ⟨g, hg, h⟩ := Option.bind_eq_some_iff.1 h
  cases g with
  | file _ => simp [Entry.at?] at h
  | link _ => simp [Entry.at?] at h
  | folder es =>
    obtain ⟨f, hf, h⟩ := Option.bind_eq_some_iff.1 h
    exact ⟨es, f, hg, hf, h⟩

/-- Above a folder **there is a folder**: the root is the one above itself. -/
theorem exists_folder_dropLast (h : d.at? loc = some (.folder es)) :
    ∃ fs, d.at? loc.dropLast = some (.folder fs) := by
  rcases List.eq_nil_or_concat loc with rfl | ⟨above, name, rfl⟩
  · exact ⟨es, h⟩
  · rw [List.concat_eq_append] at h ⊢
    obtain ⟨fs, -, hfs, -⟩ := exists_folder_of_at? h
    exact ⟨fs, by rw [List.dropLast_concat]; exact hfs⟩

end Folders

/-! ## 2. Where paths lead -/

/-- Something lies at the place, and **it is no link**; or it is a name that no entry has yet. -/
def Place.Lands (d : Disk) : Place → Prop
  | .found loc e => d.at? loc = some e ∧ ∀ target, e ≠ .link target
  | .vacant _ _ => True

/-- A text that does not end with a slash **has a name in it**. -/
theorem exists_segment_ne_nil : ∀ {cs : List Char}, cs ≠ [] → cs.getLast? ≠ some '/' →
    ∃ s ∈ segments cs, s ≠ []
  | [c], _, hlast => by
    have hc : c ≠ '/' := by simpa using hlast
    exact ⟨[c], by simp [segments, hc], List.cons_ne_nil c []⟩
  | c :: next :: cs, _, hlast => by
    obtain ⟨s, hs, hne⟩ := exists_segment_ne_nil (List.cons_ne_nil next cs) (by simpa using hlast)
    unfold segments
    split
    · exact ⟨s, List.mem_cons_of_mem _ hs, hne⟩
    · split
      · exact ⟨[c], List.mem_singleton_self _, List.cons_ne_nil c []⟩
      · rename_i first rest _
        exact ⟨c :: first, List.mem_cons_self, List.cons_ne_nil c first⟩

/-- Every path that is not empty **has a piece**. -/
theorem pieces_ne_nil {text : List Char} (h : text ≠ []) : pieces text ≠ [] := by
  unfold pieces
  dsimp only
  split
  · simp
  · rename_i hlast
    obtain ⟨s, hs, hne⟩ := exists_segment_ne_nil h hlast
    have hmem : String.ofList s ∈ ((segments text).filter fun s => !s.isEmpty).map String.ofList :=
      List.mem_map_of_mem (List.mem_filter.2 ⟨hs, by simpa using hne⟩)
    exact List.ne_nil_of_mem hmem

section Walk

variable {d : Disk} {through : Location → List Char → List String → Except Failure Place}

/-- A walk that goes through links **ends at no link**, if it does not start at one. -/
theorem walkPieces_lands (hthrough : ∀ loc text rest place, through loc text rest = .ok place →
    place.Lands d) : ∀ {ps : List String} {loc : Location} {place : Place},
      (ps = [] → ∀ target, d.at? loc ≠ some (.link target)) →
        walkPieces d true through loc ps = .ok place → place.Lands d
  | [], loc, place, hstart, h => by
    obtain ⟨e, hloc, rfl⟩ := walkPieces_nil h
    exact ⟨hloc, fun target he => hstart rfl target (he ▸ hloc)⟩
  | piece :: rest, loc, place, _, h => by
    unfold walkPieces at h
    split at h
    · cases h
    · rename_i es hloc
      split at h
      · exact walkPieces_lands hthrough (fun _ target => by simp [hloc]) h
      split at h
      · obtain ⟨fs, hfs⟩ := exists_folder_dropLast hloc
        exact walkPieces_lands hthrough (fun _ target => by simp [hfs]) h
      split at h
      · cases h
      split at h
      · split at h <;> cases h
        trivial
      · simp only [Bool.not_true, Bool.and_false, Bool.false_eq_true, if_false] at h
        exact hthrough _ _ _ _ h
      · rename_i f hf hlookup
        have hnext : d.at? (loc ++ [piece]) = some f := (at?_snoc hloc).trans hlookup
        refine walkPieces_lands hthrough (fun _ target ht => ?_) h
        exact hf target (Option.some.inj (hnext.symm.trans ht))
    · cases h

theorem walkText_lands : ∀ {spare : Nat} {folder : Location} {text : List Char} {rest : List String}
    {place : Place}, walkText d true spare folder text rest = .ok place → place.Lands d
  | 0, _, _, _, _, h => by cases h
  | spare + 1, folder, text, rest, place, h => by
    unfold walkText at h
    split at h
    · cases h
    · rename_i hne
      have hpieces : pieces text ≠ [] := pieces_ne_nil fun he => hne (by rw [he]; rfl)
      refine walkPieces_lands (fun _ _ _ _ hp => walkText_lands hp) (fun hnil => ?_) h
      exact absurd (List.append_eq_nil_iff.1 hnil).1 hpieces

/-- **Names are walked through** one by one, past no link: to the location that they are added to, if the walk
    succeeds at all. -/
theorem walkPieces_eq_found : ∀ {rel base : Location} {e : Entry} {place : Place},
    d.at? (base ++ rel) = some e → (∀ target, e ≠ .link target) →
      (∀ name ∈ rel, isEntryName name = true) → walkPieces d true through base rel = .ok place →
        place = .found (base ++ rel) e
  | [], base, e, place, hat, _, _, h => by
    rw [List.append_nil] at hat ⊢
    obtain ⟨f, hf, rfl⟩ := walkPieces_nil h
    rw [Option.some.inj (hf.symm.trans hat)]
  | name :: rel, base, e, place, hat, hlink, hnames, h => by
    obtain ⟨hname, hrel⟩ := List.forall_mem_cons.1 hnames
    obtain ⟨-, hdot, hup, -⟩ := isEntryName_iff.1 hname
    obtain ⟨es, f, hbase, hlookup, hf⟩ := exists_folder_of_at? hat
    have hnext : d.at? ((base ++ [name]) ++ rel) = some e := by
      rw [List.append_assoc]
      exact hat
    have ih : walkPieces d true through (base ++ [name]) rel = .ok place →
        place = .found (base ++ name :: rel) e := by
      intro hwalk
      rw [walkPieces_eq_found hnext hlink hrel hwalk, List.append_assoc]
      rfl
    rw [walkPieces, hbase] at h
    simp only [if_neg hdot, if_neg hup] at h
    split at h
    · cases h
    rw [hlookup] at h
    cases f with
    | file bytes => exact ih h
    | folder fs => exact ih h
    | link target =>
      -- nothing lies beneath a link, so this one would be the entry itself
      cases rel with
      | nil =>
        cases hf
        exact absurd rfl (hlink target)
      | cons next rel => simp [Entry.at?] at hf

end Walk

section Entries

variable {d : Disk} {p q : Path} {loc found : Location} {e f : Entry}

/-- **Every path leads to something that is no link**, if it leads anywhere. -/
theorem entry?_lands (h : d.entry? p = .ok (loc, e)) :
    d.at? loc = some e ∧ ∀ target, e ≠ .link target := by
  have hplace : d.place? true p = .ok (.found loc e) := by
    unfold entry? at h
    split at h
    · rename_i hplace
      cases h
      exact hplace
    · cases h
    · cases h
  unfold place? at hplace
  dsimp only at hplace
  split at hplace
  · cases hplace
  · exact walkText_lands hplace

/-! ## 3. Paths to locations -/

theorem intercalate_ne_nil (hne : loc ≠ []) (h : ∀ name ∈ loc, isEntryName name = true) :
    ("/".intercalate loc).toList ≠ [] := by
  intro hnil
  have hsegments := segments_intercalate hne h
  rw [hnil] at hsegments
  cases loc with
  | nil => exact hne rfl
  | cons name rest =>
    exact toList_ne_nil (h name List.mem_cons_self) (List.cons.inj hsegments).1.symm

theorem getLast?_intercalate : ∀ {loc : Location}, (∀ name ∈ loc, isEntryName name = true) →
    ("/".intercalate loc).toList.getLast? ≠ some '/'
  | [], _ => by simp
  | [name], h => by
    obtain ⟨-, -, -, hslash⟩ := isEntryName_iff.1 (h name List.mem_cons_self)
    rw [String.intercalate_singleton]
    exact fun hlast => hslash (List.mem_of_getLast? hlast)
  | name :: next :: rest, h => by
    have htail : ∀ n ∈ next :: rest, isEntryName n = true :=
      fun n hn => h n (List.mem_cons_of_mem name hn)
    have ih := getLast?_intercalate htail
    have hne := intercalate_ne_nil (List.cons_ne_nil next rest) htail
    rw [String.intercalate_cons_cons, String.toList_append, String.toList_append, List.append_assoc]
    change (name.toList ++ '/' :: ("/".intercalate (next :: rest)).toList).getLast? ≠ _
    rw [List.getLast?_append, List.getLast?_cons_of_ne_nil hne, List.getLast?_eq_some_getLast hne,
      Option.some_or, ← List.getLast?_eq_some_getLast hne]
    exact ih

/-- The pieces of the path to a location **are its names**, but for the root, which is a dot. -/
theorem pieces_pathTo (h : ∀ name ∈ loc, isEntryName name = true) :
    pieces (pathTo loc).text.toList = if loc = [] then ["."] else loc := by
  have htext := toList_pathTo loc
  by_cases hloc : loc = []
  · subst hloc
    rw [htext]
    rfl
  · have hne := intercalate_ne_nil hloc h
    have hsays : (loc.map String.toList).filter (fun s => !s.isEmpty) = loc.map String.toList := by
      refine List.filter_eq_self.2 fun s hs => ?_
      obtain ⟨name, hname, rfl⟩ := List.mem_map.1 hs
      simpa using toList_ne_nil (h name hname)
    have hback : (loc.map String.toList).map String.ofList = loc := by
      rw [List.map_map]
      exact (List.map_congr_left fun name _ => String.ofList_toList).trans (List.map_id loc)
    have hlast : ('/' :: ("/".intercalate loc).toList).getLast? ≠ some '/' := by
      rw [List.getLast?_cons_of_ne_nil hne]
      exact getLast?_intercalate h
    rw [htext, pieces, if_neg hlast, if_neg hloc]
    change ((segments ("/".intercalate loc).toList).filter fun s => !s.isEmpty).map String.ofList = loc
    rw [segments_intercalate hloc h, hsays, hback]

/-- **The path to a location leads there**, if it leads anywhere. -/
theorem entry?_pathTo (hat : d.at? loc = some e) (hlink : ∀ target, e ≠ .link target)
    (h : d.entry? (pathTo loc) = .ok (found, f)) : found = loc ∧ f = e := by
  have hnames := d.tidy.isEntryName hat
  have hplace : d.place? true (pathTo loc) = .ok (.found found f) := by
    unfold entry? at h
    split at h
    · rename_i hplace
      cases h
      exact hplace
    · cases h
    · cases h
  unfold place? at hplace
  dsimp only at hplace
  split at hplace
  · cases hplace
  unfold walkText at hplace
  split at hplace
  · cases hplace
  rw [List.append_nil, origin_pathTo, pieces_pathTo hnames] at hplace
  split at hplace
  · rename_i hroot
    subst hroot
    have hfolder : d.at? [] = some (.folder d.entries) := rfl
    cases hfolder.symm.trans hat
    rw [walkPieces, hfolder] at hplace
    dsimp only at hplace
    rw [if_pos rfl] at hplace
    obtain ⟨g, hg, hfound⟩ := walkPieces_nil hplace
    cases hfound
    cases hg.symm.trans hfolder
    exact ⟨rfl, rfl⟩
  · have hroot : d.at? ([] ++ loc) = some e := hat
    have hfound := walkPieces_eq_found hroot hlink hnames hplace
    cases hfound
    exact ⟨rfl, rfl⟩

/-! ## 4. Canonical paths -/

theorem canonical_eq_pathTo (h : d.entry? p = .ok (loc, e)) : d.canonical p = pathTo loc := by
  rw [canonical, h]

/-- A canonical path leads **where the path leads**. -/
theorem entry?_of_canonical (h : d.entry? (d.canonical p) = .ok (loc, e)) : d.entry? p = .ok (loc, e) := by
  cases hp : d.entry? p with
  | error failure =>
    have hself : d.canonical p = p := by rw [canonical, hp]
    rw [hself, hp] at h
    cases h
  | ok there =>
    obtain ⟨hat, hlink⟩ := entry?_lands hp
    rw [canonical_eq_pathTo hp] at h
    obtain ⟨rfl, rfl⟩ := entry?_pathTo hat hlink h
    rfl

/-- A canonical path **is its own canonical path**. -/
theorem canonical_canonical (d : Disk) (p : Path) : d.canonical (d.canonical p) = d.canonical p := by
  cases h : d.entry? (d.canonical p) with
  | error failure => rw [canonical, h]
  | ok there => rw [canonical_eq_pathTo h, canonical_eq_pathTo (entry?_of_canonical h)]

/-- Two canonical paths of something that **say the same** are the same. -/
theorem canonical_eq_of_same (hp : d.entry? p = .ok (loc, e)) (hq : d.entry? q = .ok (found, f))
    (h : (d.canonical p).same (d.canonical q) = true) : loc = found ∧ d.canonical p = d.canonical q := by
  rw [canonical_eq_pathTo hp, canonical_eq_pathTo hq] at h ⊢
  have hloc : loc = found := eq_of_steps_pathTo (d.tidy.isEntryName (entry?_lands hp).1)
    (d.tidy.isEntryName (entry?_lands hq).1) (Path.same_iff.1 h)
  exact ⟨hloc, by rw [hloc]⟩

/-! ## 5. What is read -/

/-- **What is read** is what the bytes of a file say. -/
theorem content?_eq_ok_iff {text : String} :
    d.content? p = .ok text ↔
      ∃ loc bytes, d.entry? p = .ok (loc, .file bytes) ∧ String.fromUTF8? bytes = some text := by
  constructor
  · intro h
    unfold content? text? bytes? at h
    cases hp : d.entry? p with
    | error failure =>
      rw [hp] at h
      cases h
    | ok there =>
      obtain ⟨loc, e⟩ := there
      rw [hp] at h
      cases e with
      | file bytes =>
        refine ⟨loc, bytes, rfl, ?_⟩
        dsimp only [Outcome.ok_bind] at h
        cases hutf : String.fromUTF8? bytes with
        | none =>
          rw [hutf] at h
          cases h
        | some read =>
          rw [hutf] at h
          rw [Except.ok.inj h]
      | folder es => cases h
      | link target => cases h
  · rintro ⟨loc, bytes, hentry, hutf⟩
    unfold content? text? bytes?
    rw [hentry]
    dsimp only [Outcome.ok_bind]
    rw [hutf]

/-- What is read **lies in a file**. -/
theorem content?_eq_ok {text : String} (h : d.content? p = .ok text) :
    ∃ loc bytes, d.entry? p = .ok (loc, .file bytes) := by
  obtain ⟨loc, bytes, hentry, -⟩ := content?_eq_ok_iff.1 h
  exact ⟨loc, bytes, hentry⟩

/-- A file that holds the bytes of a text **says that text**. -/
theorem content?_of_file {text : String} (h : d.entry? p = .ok (loc, .file text.toUTF8)) : d.content? p = .ok text :=
  content?_eq_ok_iff.2 ⟨loc, text.toUTF8, h, dif_pos text.isValidUTF8⟩

theorem value?_eq_ok {v : Yaml.Value} (h : d.value? p = .ok v) :
    ∃ loc bytes, d.entry? p = .ok (loc, .file bytes) := by
  obtain ⟨text, htext, -⟩ := Outcome.bind_eq_ok.1 h
  exact content?_eq_ok htext

theorem isFile_iff : d.isFile p = true ↔ ∃ loc bytes, d.entry? p = .ok (loc, .file bytes) := by
  unfold isFile
  split
  · rename_i loc bytes h
    exact ⟨fun _ => ⟨loc, bytes, h⟩, fun _ => rfl⟩
  · rename_i hne
    refine ⟨nofun, ?_⟩
    rintro ⟨loc, bytes, h⟩
    exact absurd h (hne loc bytes)

end Entries

end TreeIndex.Disk
