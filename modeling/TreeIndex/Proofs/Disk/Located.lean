import TreeIndex.Proofs.Disk.Named
import TreeIndex.Proofs.Disk.Put

/-!
# Where files are written

A path that never goes up names one location, whatever lies there, so it leads to the file there and to no other one.

* `free_of_walk`, `free_of_place?`: a free name that a path leads to is in a folder, and **nothing lies there**;
* `NamesFile`, `locate`: the paths that can name a file, and **the location that they name**; `names_addText`: what is
  added to such a path is added to its last name;
* `entry?_eq_file_iff`: a path leads to a file exactly if it **names the location of that file**; `target?_eq_ok`: and
  what is written to it goes there;
* `grows_makeFoldersUnder`: folders that are made change no file, and **nothing else comes in**;
  `makeFoldersUnder_of_folder`: where a folder is, none is made.
-/

namespace TreeIndex.Disk

variable {d d' : Disk} {p : Path} {loc : Location} {place : Place} {ps : List String} {bytes : ByteArray}

/-! ## 1. Free names -/

/-- A walk to a free name **stands in its folder**, in which there is nothing of that name. -/
theorem free_of_walk {above : Location} {name : String} : ∀ {ps : List String} {loc : Location},
    d.walk loc ps = .ok (.vacant above name) → name ∈ ps ∧ name ≠ "." ∧ name ≠ ".." ∧
      ∃ es, d.at? above = some (.folder es) ∧ es.lookup name = none
  | [], loc, h => by
    obtain ⟨e, -, hplace⟩ := walkPieces_nil h
    cases hplace
  | piece :: ps, loc, h => by
    have hlater {start : Location} (h : d.walk start ps = .ok (.vacant above name)) : name ∈ piece :: ps ∧ name ≠ "." ∧
        name ≠ ".." ∧ ∃ es, d.at? above = some (.folder es) ∧ es.lookup name = none := by
      obtain ⟨hmem, hrest⟩ := free_of_walk h
      exact ⟨List.mem_cons_of_mem piece hmem, hrest⟩
    obtain ⟨es, hes, ⟨-, h⟩ | ⟨-, h⟩ | ⟨hdot, hup, -, hnext⟩⟩ := walk_cons_eq_ok h
    · exact hlater h
    · exact hlater h
    · rcases hnext with ⟨hnone, -, hplace⟩ | ⟨e, -, -, h⟩
      · cases hplace
        exact ⟨List.mem_cons_self, hdot, hup, es, hes, hnone⟩
      · exact hlater h

/-- A free name that a path leads to is a name **of an entry**, and nothing lies there. -/
theorem free_of_place? (hd : d.LinkFree) {last : Bool} {above : Location} {name : String}
    (h : d.place? last p = .ok (.vacant above name)) :
    d.InFolder (above ++ [name]) ∧ d.at? (above ++ [name]) = none := by
  obtain ⟨hnul, hne, hwalk⟩ := (place?_eq_ok_iff hd).1 h
  obtain ⟨hmem, hdot, hup, es, habove, hnone⟩ := free_of_walk hwalk
  have hsegment := (names_spec (mem_names_of_mem_pieces hmem hdot)).1
  have hname : isEntryName name = true := isEntryName_iff.2 ⟨hsegment.1, hdot, hup, hsegment.2⟩
  exact ⟨⟨above, name, es, rfl, habove, hname⟩, (at?_snoc habove).trans hnone⟩

/-! ## 2. Paths that name files -/

/-- A path that **can name a file**: it ends neither with a slash nor with a dot, and its names fit. -/
structure NamesFile (p : Path) : Prop where
  nonempty : p.text ≠ ""
  slash : p.text.toList.getLast? ≠ some '/'
  dot : (names p.text.toList).getLast? ≠ some "."
  nul : '\x00' ∉ p.text.toList
  fits : ∀ n ∈ names p.text.toList, isTooLong n = false

/-- The location **that a path names**, if it never goes up. -/
def locate (d : Disk) (p : Path) : Location :=
  origin d.here p.text.toList ++ (names p.text.toList).filter (· ≠ ".")

theorem NamesFile.pieces_eq (h : NamesFile p) : pieces p.text.toList = names p.text.toList :=
  if_neg h.slash

/-- A text **ends with what follows its last slash**. -/
theorem exists_last_segment : ∀ cs : List Char, ∃ front last, cs = front ++ last ∧ '/' ∉ last ∧
    (front = [] ∨ ∃ before, front = before ++ ['/'])
  | [] => ⟨[], [], rfl, List.not_mem_nil, Or.inl rfl⟩
  | c :: cs => by
    obtain ⟨front, last, rfl, hlast, hfront⟩ := exists_last_segment cs
    rcases hfront with rfl | ⟨before, rfl⟩
    · by_cases hc : c = '/'
      · exact ⟨[c], last, rfl, hlast, Or.inr ⟨[], congrArg (· :: []) hc⟩⟩
      · refine ⟨[], c :: last, rfl, ?_, Or.inl rfl⟩
        rw [List.mem_cons, not_or]
        exact ⟨Ne.symm hc, hlast⟩
    · exact ⟨c :: (before ++ ['/']), last, rfl, hlast, Or.inr ⟨c :: before, rfl⟩⟩

/-- What is added to a path that does not end with a slash **is added to its last name**. -/
theorem names_addText (hp : NamesFile p) {more : String} (hmore : '/' ∉ more.toList) :
    ∃ front name, names p.text.toList = front ++ [name] ∧
      names (p.addText more).text.toList = front ++ [name ++ more] := by
  obtain ⟨front, last, htext, hlast, hfront⟩ := exists_last_segment p.text.toList
  have hne : last ≠ [] := by
    rintro rfl
    rw [List.append_nil] at htext
    rcases hfront with rfl | ⟨before, rfl⟩
    · exact hp.nonempty (String.toList_eq_nil_iff.1 htext)
    · exact hp.slash (htext ▸ List.getLast?_concat)
  have hmoreSlash : '/' ∉ last ++ more.toList := by
    rw [List.mem_append, not_or]
    exact ⟨hlast, hmore⟩
  have hmoreNe : last ++ more.toList ≠ [] := List.append_ne_nil_of_left_ne_nil hne _
  have hadded : (p.addText more).text.toList = front ++ (last ++ more.toList) := by
    rw [Path.addText, String.toList_append, htext, List.append_assoc]
  have hname : String.ofList last ++ more = String.ofList (last ++ more.toList) := by
    rw [String.ofList_append, String.ofList_toList]
  rw [hadded, htext]
  rcases hfront with rfl | ⟨before, rfl⟩
  · refine ⟨[], String.ofList last, names_of_notMem hne hlast, ?_⟩
    rw [hname]
    exact names_of_notMem hmoreNe hmoreSlash
  · refine ⟨names before, String.ofList last, ?_, ?_⟩
    · rw [List.append_assoc, List.singleton_append, names_append_slash, names_of_notMem hne hlast]
    · rw [List.append_assoc, List.singleton_append, names_append_slash, names_of_notMem hmoreNe hmoreSlash, hname]

/-- What is written to a path goes **where the path leads**: to the file there, or to a free name. -/
theorem exists_place?_of_target? (hd : d.LinkFree) (h : d.target? p = .ok loc) :
    ∃ place, d.place? true p = .ok place ∧ place.location = loc ∧ d.Takes loc := by
  unfold target? at h
  split at h
  · cases h
  split at h
  · split at h <;> cases h
  split at h
  · cases h
  · rename_i found bytes hplace
    obtain rfl := Except.ok.inj h
    have hentry : d.entry? p = .ok (found, .file bytes) := (place?_eq_found_iff hd).1 hplace
    exact ⟨_, hplace, rfl, takes_of_file (entry?_lands hentry).1⟩
  · cases h
  · rename_i above name hplace
    obtain rfl := Except.ok.inj h
    obtain ⟨hfolder, hnone⟩ := free_of_place? hd hplace
    refine ⟨_, hplace, rfl, hfolder, fun e he => ?_⟩
    cases hnone.symm.trans he

section Places

variable (hd : d.LinkFree) (hup : Step.up ∉ p.steps)

include hd hup

/-- A path that leads to no folder names **the location that it leads to**. -/
theorem namesFile_of_place? {last : Bool} (h : d.place? last p = .ok place)
    (hplace : ∀ found es, place ≠ .found found (.folder es)) : NamesFile p ∧ place.location = d.locate p := by
  rw [up_mem_steps_iff] at hup
  obtain ⟨hnul, hne, hwalk⟩ := (place?_eq_ok_iff hd).1 h
  have hdot := getLast?_of_walk hwalk hplace
  have hslash : p.text.toList.getLast? ≠ some '/' := by
    intro hslash
    rw [pieces, if_pos hslash] at hdot
    exact hdot List.getLast?_concat
  have hpieces : pieces p.text.toList = names p.text.toList := if_neg hslash
  rw [hpieces] at hwalk hdot
  exact ⟨⟨hne, hslash, hdot, hnul, fits_of_walk hup hwalk⟩, location_of_walk hup hwalk⟩

/-- A path leads to a file **exactly if it names its location**. -/
theorem entry?_eq_file_iff :
    d.entry? p = .ok (loc, .file bytes) ↔ NamesFile p ∧ loc = d.locate p ∧ d.at? loc = some (.file bytes) := by
  constructor
  · intro h
    have hplace : d.place? true p = .ok (.found loc (.file bytes)) := (place?_eq_found_iff hd).2 h
    obtain ⟨hnames, hloc⟩ := namesFile_of_place? hd hup hplace fun found es heq => by cases heq
    exact ⟨hnames, hloc, (entry?_lands h).1⟩
  · rintro ⟨hnames, rfl, hat⟩
    rw [up_mem_steps_iff] at hup
    rw [entry?_eq_ok_iff hd, hnames.pieces_eq]
    exact ⟨hnames.nul, hnames.nonempty, walk_of_fits hat (hd.ne_link_of_at? hat) hup hnames.dot hnames.fits⟩

/-- What is written to a path goes **to the location that it names**. -/
theorem target?_eq_ok (h : d.target? p = .ok loc) : NamesFile p ∧ loc = d.locate p ∧ d.Takes loc := by
  obtain ⟨place, hplace, rfl, htakes⟩ := exists_place?_of_target? hd h
  obtain ⟨hnames, hloc⟩ := namesFile_of_place? hd hup hplace fun found es heq => by
    rw [heq] at hplace htakes
    obtain ⟨old, hold⟩ := htakes.2 _ (entry?_lands ((place?_eq_found_iff hd).1 hplace)).1
    cases hold
  exact ⟨hnames, hloc, htakes⟩

/-- What is written to a path that leads to a file goes **to that file**. -/
theorem target?_of_file (h : d.entry? p = .ok (loc, .file bytes)) : d.target? p = .ok loc := by
  obtain ⟨hnames, -, -⟩ := (entry?_eq_file_iff hd hup).1 h
  have hfolder : asksForFolder p = false := beq_eq_false_iff_ne.2 hnames.slash
  have hplace : d.place? true p = .ok (.found loc (.file bytes)) := (place?_eq_found_iff hd).2 h
  have hroot : isRootText p = false := by
    rw [isRootText, hfolder, Bool.false_and]
  rw [target?, hroot, hfolder, if_neg Bool.false_ne_true, if_neg Bool.false_ne_true, hplace]

end Places

/-! ## 3. Disks with the same files -/

theorem KeepsFiles.locate_eq {changed : List Location} (h : d.KeepsFiles d' changed) (p : Path) :
    d'.locate p = d.locate p := by
  rw [locate, locate, h.here_eq]

theorem KeepsFiles.hereFits {changed : List Location} (h : d.KeepsFiles d' changed) (hhere : d.HereFits) :
    d'.HereFits := by
  rw [HereFits, h.here_eq]
  exact hhere

/-! ## 4. Folders that are made -/

/-- A folder that is made **is all that comes in**. -/
theorem grows_of_makeFolder? (hd : d.LinkFree) (h : d.makeFolder? p = .ok d') : d.Grows d' := by
  unfold makeFolder? at h
  split at h
  · cases h
  split at h
  · cases h
  · cases h
  · rename_i above name hplace
    cases h
    obtain ⟨hfolder, hnone⟩ := free_of_place? hd hplace
    exact grows_putFolder hfolder hnone

theorem toList_withoutSlashes (p : Path) : (withoutSlashes p).text.toList = p.text.toList.rdropWhile (· = '/') :=
  String.toList_ofList

theorem names_withoutSlashes (cs : List Char) : names (cs.rdropWhile (· = '/')) = names cs := by
  induction cs using List.reverseRecOn with
  | nil => rfl
  | append_singleton cs c ih =>
    by_cases hc : c = '/'
    · subst hc
      rw [List.rdropWhile_concat_pos _ _ _ (by rfl), ih, names_append_slash]
      exact (List.append_nil _).symm
    · rw [List.rdropWhile_concat_neg _ _ _ (by simpa using hc)]

/-- The path to a folder leads there **without the slashes at its end**, unless nothing would remain. -/
theorem entry?_withoutSlashes {es : List (String × Entry)} (hd : d.LinkFree) (h : d.entry? p = .ok (loc, .folder es))
    (hroot : ¬ isRootText p = true) : d.entry? (withoutSlashes p) = .ok (loc, .folder es) := by
  obtain ⟨hnul, hne, hwalk⟩ := (entry?_eq_folder_iff hd).1 h
  have hfront : (withoutSlashes p).text.toList <+: p.text.toList := toList_withoutSlashes p ▸ List.rdropWhile_prefix _ _
  have hsome : (withoutSlashes p).text ≠ "" := by
    intro he
    have hall := List.rdropWhile_eq_nil_iff.1 ((toList_withoutSlashes p).symm.trans (String.toList_eq_nil_iff.2 he))
    have hlast : p.text.toList.getLast? = some '/' := by
      have hnil : p.text.toList ≠ [] := fun hnil => hne (String.toList_eq_nil_iff.1 hnil)
      rw [List.getLast?_eq_some_getLast hnil, of_decide_eq_true (hall _ (List.getLast_mem hnil))]
    refine hroot ?_
    rw [isRootText, asksForFolder, hlast, he]
    rfl
  have hhead : (withoutSlashes p).text.toList.head? = p.text.toList.head? := by
    obtain ⟨slashes, hslashes⟩ := hfront
    rw [← hslashes, List.head?_append_of_ne_nil _ fun hnil => hsome (String.toList_eq_nil_iff.1 hnil)]
  refine (entry?_eq_folder_iff hd).2 ⟨fun hmem => hnul (hfront.subset hmem), hsome, ?_⟩
  rw [origin, hhead, toList_withoutSlashes, names_withoutSlashes]
  exact hwalk

/-- A folder **that is there** is not made. -/
theorem makeFolder?_of_folder {es : List (String × Entry)} (hd : d.LinkFree) (h : d.entry? p = .ok (loc, .folder es)) :
    d.makeFolder? p = .error .alreadyThere := by
  unfold makeFolder?
  split
  · rfl
  · rename_i hroot
    have hplace : d.place? false (withoutSlashes p) = .ok (.found loc (.folder es)) :=
      (place?_eq_found_iff hd).2 (entry?_withoutSlashes hd h hroot)
    rw [hplace]

section Folders

variable (refuses : Path → Option Failure)

theorem grows_of_makeFolderUnder? (hd : d.LinkFree) (h : makeFolderUnder? refuses d p = .ok d') : d.Grows d' := by
  unfold makeFolderUnder? at h
  split at h
  · cases h
  rename_i made hmade
  split at h
  · cases h
  · cases h
    exact grows_of_makeFolder? hd hmade

/-- **Folders that are made are all that comes in**, even if some of them cannot be made. -/
theorem grows_makeFirst (hd : d.LinkFree) : ∀ ps : List Path, d.Grows (makeFirst refuses ps d).2
  | [] => .refl d
  | p :: above => by
    unfold makeFirst
    split
    · exact .refl d
    split
    · rename_i made hmade
      exact grows_of_makeFolderUnder? refuses hd hmade
    · -- the folders above are missing, and are made first
      have hgrows : d.Grows (makeFirst refuses above d).2 := grows_makeFirst hd above
      split
      · rename_i f d' hfirst
        rwa [hfirst] at hgrows
      · rename_i d' hfirst
        rw [hfirst] at hgrows
        split
        · rename_i made hmade
          exact hgrows.trans (grows_of_makeFolderUnder? refuses (hgrows.linkFree hd) hmade)
        · split <;> exact hgrows
    · split <;> exact .refl d

theorem grows_makeFoldersUnder (hd : d.LinkFree) (p : Path) : d.Grows (makeFoldersUnder refuses p d).2 :=
  grows_makeFirst refuses hd p.ancestors

/-- To make it all the same **changes nothing**, whatever is refused. -/
theorem makeFoldersUnder_of_folder {es : List (String × Entry)} (hd : d.LinkFree)
    (h : d.entry? p = .ok (loc, .folder es)) : makeFoldersUnder refuses p d = (.ok (), d) := by
  obtain ⟨above, hancestors⟩ : ∃ above, p.ancestors = p :: above := by
    unfold Path.ancestors Path.ancestorsUpTo
    split <;> exact ⟨_, rfl⟩
  have hfolder : d.isFolder p = true := by
    rw [isFolder, h]
  have hthere : makeFolderUnder? refuses d p = .error .alreadyThere := by
    rw [makeFolderUnder?, makeFolder?_of_folder hd h]
  have hne : ¬ p.text.isEmpty = true := fun he => ((entry?_eq_ok_iff hd).1 h).2.1 (String.isEmpty_iff.1 he)
  rw [makeFoldersUnder, hancestors, makeFirst]
  dsimp only
  rw [if_neg hne, hthere]
  exact if_pos hfolder

end Folders

end TreeIndex.Disk
