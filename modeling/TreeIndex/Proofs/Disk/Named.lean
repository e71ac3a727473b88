import TreeIndex.Proofs.Disk.Parent

/-!
# The names of a path

What a path says, and where it leads, is told by the names between its slashes.

* `Step.ofName`, `steps_eq_names`: the steps of a path **are its names**, without the dots;
* `Fits`: a name that can stand in a path, and that an entry can have;
* `walk`: a walk past no link, step by step (`walk_cons_eq_ok`) and in two parts (`exists_folder_of_walk_append`,
  `walk_append`);
  `walk_names`, `location_of_walk`: it leads to a location whose names **are those that it came by**; `walk_of_fits`:
  along names that fit it leads to what lies there;
* `place?_eq_ok_iff`, `entry?_eq_ok_iff`: without links, a path is walked through from where it starts;
  `exists_folder_of_parent?`: so what lies above a path that leads somewhere **is a folder**;
* `entry?_pathTo_of_fits`: where names fit, the path to a location **leads there**;
* `Disk.HereFits`, `entry?_canonical`: so a canonical path leads where the path leads, if the names of the folder that
  paths start from fit.
-/

namespace TreeIndex

/-! ## 1. Names and steps -/

/-- The step that **a name between two slashes** says. -/
def Step.ofName (name : String) : Step :=
  if name = ".." then up else .name name

theorem Step.ofName_ofList (s : List Char) : Step.ofName (String.ofList s) = Step.ofSegment s := by
  have hup : String.ofList s = ".." ↔ s = ['.', '.'] := by
    rw [← String.toList_inj, String.toList_ofList]
    rfl
  simp only [Step.ofName, Step.ofSegment, hup]

namespace Disk

variable {p : Path}

theorem names_splitLead (cs : List Char) :
    names cs = leadNames (splitLead cs).1 ++ names (splitLead cs).2 := by
  rw [← names_of_lead splitLead_here, splitLead_append]

/-- The segments that say something are **the names without the dots**. -/
theorem map_ofSegment (cs : List Char) : ((segments cs).filter saysSomething).map Step.ofSegment =
    ((names cs).filter (· ≠ ".")).map Step.ofName := by
  have hsaying : (segments cs).filter saysSomething =
      ((segments cs).filter fun s => !s.isEmpty).filter fun s => String.ofList s ≠ "." := by
    rw [List.filter_filter]
    refine List.filter_congr fun s _ => ?_
    have hdot : String.ofList s = "." ↔ s = ['.'] := by
      rw [← String.toList_inj, String.toList_ofList]
      rfl
    rw [saysSomething, Bool.not_or, Bool.and_comm]
    by_cases hs : s = ['.'] <;> simp [hs, hdot]
  rw [hsaying, names, List.filter_map, List.map_map]
  exact List.map_congr_left fun s _ => (Step.ofName_ofList s).symm

/-- **The steps of a path are its names**, without the dots. -/
theorem steps_eq_names (p : Path) :
    p.steps = p.lead.steps ++ ((names p.text.toList).filter (· ≠ ".")).map Step.ofName := by
  have hlead : (leadNames p.lead).filter (· ≠ ".") = [] := by
    cases p.lead <;> rfl
  rw [Path.steps, Path.tail, map_ofSegment, names_splitLead p.text.toList, List.filter_append]
  rw [show (splitLead p.text.toList).1 = p.lead from rfl, hlead, List.nil_append]

/-- A path goes up exactly if **two dots are among its names**. -/
theorem up_mem_steps_iff : Step.up ∈ p.steps ↔ ".." ∈ names p.text.toList := by
  have hlead : Step.up ∉ p.lead.steps := by
    cases p.lead <;> decide
  rw [steps_eq_names, List.mem_append, or_iff_right hlead, List.mem_map]
  constructor
  · intro ⟨name, hname, hstep⟩
    have hup : name = ".." := by
      unfold Step.ofName at hstep
      split at hstep
      · assumption
      · cases hstep
    rw [hup] at hname
    exact (List.mem_filter.1 hname).1
  · exact fun h => ⟨"..", List.mem_filter.2 ⟨h, by decide⟩, rfl⟩

/-! ## 2. Names that fit -/

/-- A name that **can stand in a path** and that an entry can have: it is not too long, and no NUL stands in it. -/
def Fits (name : String) : Prop :=
  isTooLong name = false ∧ '\x00' ∉ name.toList

instance (name : String) : Decidable (Fits name) := by
  unfold Fits
  infer_instance

theorem mem_of_mem_segments {c : Char} : ∀ {cs s : List Char}, s ∈ segments cs → c ∈ s → c ∈ cs
  | [], s, hs, hc => by
    obtain rfl := List.mem_singleton.1 hs
    cases hc
  | x :: cs, s, hs, hc => by
    unfold segments at hs
    split at hs
    · rcases List.mem_cons.1 hs with rfl | hs
      · cases hc
      · exact List.mem_cons_of_mem x (mem_of_mem_segments hs hc)
    · split at hs
      · rename_i hnil
        exact absurd hnil (segments_ne_nil cs)
      · rename_i first rest hcs
        rcases List.mem_cons.1 hs with rfl | hs
        · rcases List.mem_cons.1 hc with rfl | hc
          · exact List.mem_cons_self
          · exact List.mem_cons_of_mem x (mem_of_mem_segments (hcs ▸ List.mem_cons_self) hc)
        · exact List.mem_cons_of_mem x (mem_of_mem_segments (hcs ▸ List.mem_cons_of_mem first hs) hc)

/-- **What stands between two slashes**: it is not empty, has no slash in it, and its characters are those of the
    text. -/
theorem names_spec {text : List Char} {name : String} (h : name ∈ names text) :
    IsSegment name ∧ ∀ c ∈ name.toList, c ∈ text := by
  obtain ⟨s, hs, rfl⟩ := List.mem_map.1 h
  obtain ⟨hs, hne⟩ := List.mem_filter.1 hs
  refine ⟨⟨fun he => ?_, ?_⟩, ?_⟩
  · have hnil : s = [] := by simpa using congrArg String.toList he
    simp [hnil] at hne
  · rw [String.toList_ofList]
    exact notMem_of_mem_segments hs
  · rw [String.toList_ofList]
    exact fun c hc => mem_of_mem_segments hs hc

/-- A piece of a path is one of its names, or the dot that a slash at the end stands for. -/
theorem mem_names_of_mem_pieces {text : List Char} {piece : String} (h : piece ∈ pieces text) (hdot : piece ≠ ".") :
    piece ∈ names text := by
  unfold pieces at h
  dsimp only at h
  split at h
  · rcases List.mem_append.1 h with h | h
    · exact h
    · exact absurd (List.mem_singleton.1 h) hdot
  · exact h

/-! ## 3. Walks past no link -/

variable {d : Disk} {loc : Location} {place : Place} {ps qs : List String}

/-- A walk along some pieces that **goes through no link**. -/
def walk (d : Disk) (loc : Location) (ps : List String) : Except Failure Place :=
  walkPieces d true (fun _ _ _ => .error .tooManyLinks) loc ps

/-- Without links, **every walk is such a walk**. -/
theorem walkPieces_eq_walk (hd : d.LinkFree) {last : Bool}
    {through : Location → List Char → List String → Except Failure Place} :
    walkPieces d last through loc ps = d.walk loc ps :=
  walkPieces_congr hd ps loc

theorem walk_nil {e : Entry} (hloc : d.at? loc = some e) : d.walk loc [] = .ok (.found loc e) := by
  rw [walk, walkPieces, hloc]

/-- The steps of a walk: at a dot it stays, at two dots it goes up, and at a name **it goes to the entry** that is
    called so. -/
theorem walk_cons_eq_ok {piece : String} (h : d.walk loc (piece :: ps) = .ok place) :
    ∃ es, d.at? loc = some (.folder es) ∧ (piece = "." ∧ d.walk loc ps = .ok place ∨
      piece = ".." ∧ d.walk loc.dropLast ps = .ok place ∨
      (piece ≠ "." ∧ piece ≠ ".." ∧ isTooLong piece = false ∧
        (es.lookup piece = none ∧ ps = [] ∧ place = .vacant loc piece ∨
        ∃ e, es.lookup piece = some e ∧ (∀ target, e ≠ .link target) ∧
          d.walk (loc ++ [piece]) ps = .ok place))) := by
  unfold walk walkPieces at h
  split at h
  · cases h
  · rename_i es hloc
    refine ⟨es, hloc, ?_⟩
    split at h
    · rename_i hdot
      exact Or.inl ⟨hdot, h⟩
    rename_i hdot
    split at h
    · rename_i hup
      exact Or.inr (Or.inl ⟨hup, h⟩)
    rename_i hup
    split at h
    · cases h
    rename_i hlong
    refine Or.inr (Or.inr ⟨hdot, hup, Bool.eq_false_iff.2 hlong, ?_⟩)
    split at h
    · rename_i hnone
      split at h
      · rename_i hps
        exact Or.inl ⟨hnone, List.isEmpty_iff.1 hps, (Except.ok.inj h).symm⟩
      · cases h
    · simp at h
    · rename_i e hlink hlookup
      exact Or.inr ⟨e, hlookup, fun target heq => hlink target heq, h⟩
  · cases h

theorem walk_dot {es : List (String × Entry)} (hloc : d.at? loc = some (.folder es)) :
    d.walk loc ("." :: ps) = d.walk loc ps := by
  rw [walk, walkPieces, hloc]
  rfl

theorem walk_up {es : List (String × Entry)} (hloc : d.at? loc = some (.folder es)) :
    d.walk loc (".." :: ps) = d.walk loc.dropLast ps := by
  rw [walk, walkPieces, hloc]
  rfl

section Name

variable {es : List (String × Entry)} {piece : String} (hloc : d.at? loc = some (.folder es)) (hdot : piece ≠ ".")
  (hup : piece ≠ "..") (hlong : isTooLong piece = false)

include hloc hdot hup hlong

theorem walk_name {e : Entry} (hlookup : es.lookup piece = some e) (hlink : ∀ target, e ≠ .link target) :
    d.walk loc (piece :: ps) = d.walk (loc ++ [piece]) ps := by
  rw [walk, walkPieces, hloc]
  simp only [if_neg hdot, if_neg hup, hlong, Bool.false_eq_true, if_false, hlookup]
  cases e with
  | link target => exact absurd rfl (hlink target)
  | file bytes => rfl
  | folder fs => rfl

end Name

/-- A walk that goes on **stands in a folder** after its first pieces. -/
theorem exists_folder_of_walk_append {next : String} : ∀ {ps : List String} {loc : Location},
    d.walk loc (ps ++ next :: qs) = .ok place → ∃ mid es, d.walk loc ps = .ok (.found mid (.folder es)) ∧
      d.at? mid = some (.folder es) ∧ d.walk mid (next :: qs) = .ok place
  | [], loc, h => by
    obtain ⟨es, hloc, -⟩ := walk_cons_eq_ok h
    exact ⟨loc, es, walk_nil hloc, hloc, h⟩
  | piece :: ps, loc, h => by
    obtain ⟨es, hloc, ⟨rfl, hrest⟩ | ⟨rfl, hrest⟩ | ⟨hdot, hup, hlong, hnext⟩⟩ := walk_cons_eq_ok h
    · rw [walk_dot hloc]
      exact exists_folder_of_walk_append hrest
    · rw [walk_up hloc]
      exact exists_folder_of_walk_append hrest
    · rcases hnext with ⟨-, hps, -⟩ | ⟨f, hlookup, hlink, hrest⟩
      · exact absurd hps (List.append_ne_nil_of_right_ne_nil ps (List.cons_ne_nil next qs))
      · rw [walk_name hloc hdot hup hlong hlookup hlink]
        exact exists_folder_of_walk_append hrest

/-- A walk **goes on** from the entry that its first pieces lead to. -/
theorem walk_append {mid : Location} {e : Entry} : ∀ {ps : List String} {loc : Location}, d.walk loc ps = .ok (.found mid e) →
    d.walk loc (ps ++ qs) = d.walk mid qs
  | [], loc, h => by
    obtain ⟨f, -, hplace⟩ := walkPieces_nil h
    cases hplace
    rfl
  | piece :: ps, loc, h => by
    obtain ⟨es, hes, ⟨rfl, hrest⟩ | ⟨rfl, hrest⟩ | ⟨hdot, hup, hlong, hnext⟩⟩ := walk_cons_eq_ok h
    · rw [List.cons_append, walk_dot hes]
      exact walk_append hrest
    · rw [List.cons_append, walk_up hes]
      exact walk_append hrest
    · rcases hnext with ⟨-, -, hplace⟩ | ⟨f, hlookup, hlink, hrest⟩
      · cases hplace
      · rw [List.cons_append, walk_name hes hdot hup hlong hlookup hlink]
        exact walk_append hrest

/-- What a walk finds **lies where it ends**. -/
theorem at?_of_walk {mid : Location} {e : Entry} (h : d.walk loc ps = .ok (.found mid e)) : d.at? mid = some e := by
  have hnil : d.walk mid [] = .ok (.found mid e) := by
    rw [← walk_append h, List.append_nil, h]
  obtain ⟨f, hf, hplace⟩ := walkPieces_nil hnil
  cases hplace
  exact hf

/-- A walk that ends with a dot **ends at a folder**. -/
theorem getLast?_of_walk (h : d.walk loc ps = .ok place) (hplace : ∀ found es, place ≠ .found found (.folder es)) :
    ps.getLast? ≠ some "." := by
  intro hlast
  obtain ⟨front, rfl⟩ := List.getLast?_eq_some_iff.1 hlast
  obtain ⟨mid, es, -, hmid, hdot⟩ := exists_folder_of_walk_append h
  rw [walk_dot hmid, walk_nil hmid] at hdot
  exact hplace mid es (Except.ok.inj hdot).symm

/-- A walk to a folder **may end with a dot**. -/
theorem walk_pieces_eq_folder_iff {text : List Char} {mid : Location} {es : List (String × Entry)} :
    d.walk loc (pieces text) = .ok (.found mid (.folder es)) ↔
      d.walk loc (names text) = .ok (.found mid (.folder es)) := by
  by_cases hslash : text.getLast? = some '/'
  · have hpieces : pieces text = names text ++ ["."] := if_pos hslash
    rw [hpieces]
    constructor
    · intro h
      obtain ⟨found, fs, hfound, hat, hdot⟩ := exists_folder_of_walk_append h
      rw [walk_dot hat, walk_nil hat] at hdot
      rwa [← hdot]
    · intro h
      have hat := at?_of_walk h
      rw [walk_append h, walk_dot hat, walk_nil hat]
  · have hpieces : pieces text = names text := if_neg hslash
    rw [hpieces]

/-! ## 4. The names of a location -/

/-- The location of a place: of what is found there, or of what is to lie there. -/
def Place.location : Place → Location
  | .found loc _ => loc
  | .vacant folder name => folder ++ [name]

/-- **The names of a location** that a walk leads to are those that it started with, or names that it came by. -/
theorem walk_names : ∀ {ps : List String} {loc : Location}, d.walk loc ps = .ok place →
    ∀ name ∈ place.location, name ∈ loc ∨ name ∈ ps ∧ name ≠ "." ∧ isTooLong name = false
  | [], loc, h, name, hname => by
    obtain ⟨e, -, rfl⟩ := walkPieces_nil h
    exact Or.inl hname
  | piece :: ps, loc, h, name, hname => by
    have hlater {start : Location} (h : d.walk start ps = .ok place) :
        name ∈ start ∨ name ∈ piece :: ps ∧ name ≠ "." ∧ isTooLong name = false :=
      (walk_names h name hname).imp_right fun hps => ⟨List.mem_cons_of_mem piece hps.1, hps.2⟩
    obtain ⟨es, -, ⟨-, h⟩ | ⟨-, h⟩ | ⟨hdot, -, hlong, hnext⟩⟩ := walk_cons_eq_ok h
    · exact hlater h
    · exact (hlater h).imp_left (List.dropLast_subset loc ·)
    · have hpiece (hmem : name ∈ loc ++ [piece]) :
          name ∈ loc ∨ name ∈ piece :: ps ∧ name ≠ "." ∧ isTooLong name = false := by
        refine (List.mem_append.1 hmem).imp_right fun hmem => ?_
        rw [List.mem_singleton.1 hmem]
        exact ⟨List.mem_cons_self, hdot, hlong⟩
      rcases hnext with ⟨-, -, rfl⟩ | ⟨e, -, -, h⟩
      · exact hpiece hname
      · exact (hlater h).elim hpiece Or.inr

/-- A walk that never goes up leads **to the location that its names are added to**. -/
theorem location_of_walk : ∀ {ps : List String} {loc : Location}, ".." ∉ ps → d.walk loc ps = .ok place →
    place.location = loc ++ ps.filter (· ≠ ".")
  | [], loc, _, h => by
    obtain ⟨e, -, rfl⟩ := walkPieces_nil h
    exact (List.append_nil loc).symm
  | piece :: ps, loc, hup, h => by
    rw [List.mem_cons, not_or] at hup
    obtain ⟨es, -, ⟨rfl, hrest⟩ | ⟨heq, -⟩ | ⟨hdot, -, -, hnext⟩⟩ := walk_cons_eq_ok h
    · rw [List.filter_cons_of_neg (by decide)]
      exact location_of_walk hup.2 hrest
    · exact absurd heq.symm hup.1
    · rw [List.filter_cons_of_pos (by simpa using hdot)]
      rcases hnext with ⟨-, rfl, rfl⟩ | ⟨e, -, -, hrest⟩
      · rfl
      · rw [location_of_walk hup.2 hrest, List.append_assoc]
        rfl

/-- The names that a walk came by **fit**. -/
theorem fits_of_walk : ∀ {ps : List String} {loc : Location}, ".." ∉ ps → d.walk loc ps = .ok place →
    ∀ n ∈ ps, isTooLong n = false
  | [], _, _, _, n, hn => absurd hn List.not_mem_nil
  | piece :: ps, loc, hup, h, n, hn => by
    rw [List.mem_cons, not_or] at hup
    obtain ⟨es, -, ⟨rfl, hrest⟩ | ⟨heq, -⟩ | ⟨-, -, hlong, hnext⟩⟩ := walk_cons_eq_ok h
    · rcases List.mem_cons.1 hn with rfl | hn
      · decide
      · exact fits_of_walk hup.2 hrest n hn
    · exact absurd heq.symm hup.1
    · rcases List.mem_cons.1 hn with rfl | hn
      · exact hlong
      · rcases hnext with ⟨-, rfl, -⟩ | ⟨e, -, -, hrest⟩
        · cases hn
        · exact fits_of_walk hup.2 hrest n hn

/-- Names of entries are **no steps of their own**. -/
theorem names_of_entries (h : ∀ n ∈ loc, isEntryName n = true) :
    ".." ∉ loc ∧ loc.getLast? ≠ some "." ∧ loc.filter (· ≠ ".") = loc := by
  refine ⟨fun hmem => (isEntryName_iff.1 (h _ hmem)).2.2.1 rfl, fun hlast => ?_, List.filter_eq_self.2 fun n hn => ?_⟩
  · exact (isEntryName_iff.1 (h _ (List.mem_of_getLast? hlast))).2.1 rfl
  · exact decide_eq_true (isEntryName_iff.1 (h n hn)).2.1

/-- Pieces of which the last is no dot **have a name among them**. -/
theorem filter_dots_ne_nil (hne : ps ≠ []) (hlast : ps.getLast? ≠ some ".") : ps.filter (· ≠ ".") ≠ [] := by
  have hdot : ps.getLast hne ≠ "." := fun h => hlast (by rw [List.getLast?_eq_some_getLast hne, h])
  exact List.ne_nil_of_mem (List.mem_filter.2 ⟨List.getLast_mem hne, decide_eq_true hdot⟩)

/-! ## 5. Where paths lead -/

theorem LinkFree.ne_link_of_at? (hd : d.LinkFree) {e : Entry} (hat : d.at? loc = some e) (target : String) :
    e ≠ .link target := by
  rintro rfl
  have hroot : (Entry.folder d.entries).LinkFree := hd
  exact hroot.at? hat

section Places

variable {last : Bool} {e : Entry}

/-- Without links, **a path is walked through** from where it starts. -/
theorem place?_eq_ok_iff (hd : d.LinkFree) : d.place? last p = .ok place ↔ '\x00' ∉ p.text.toList ∧ p.text ≠ "" ∧
    d.walk (origin d.here p.text.toList) (pieces p.text.toList) = .ok place := by
  have hempty : p.text.toList.isEmpty = true ↔ p.text = "" := by
    rw [List.isEmpty_iff, String.toList_eq_nil_iff]
  unfold place?
  dsimp only
  by_cases hnul : p.text.toList.contains '\x00' = true
  · rw [if_pos hnul]
    refine ⟨fun h => ?_, fun h => absurd (List.contains_iff_mem.1 hnul) h.1⟩
    cases h
  rw [if_neg hnul]
  rw [List.contains_iff_mem] at hnul
  unfold walkText
  by_cases hnil : p.text.toList.isEmpty = true
  · rw [if_pos hnil]
    refine ⟨fun h => ?_, fun h => absurd (hempty.1 hnil) h.2.1⟩
    cases h
  · rw [if_neg hnil, List.append_nil, walkPieces_eq_walk hd]
    exact ⟨fun h => ⟨hnul, fun he => hnil (hempty.2 he), h⟩, fun h => h.2.2⟩

theorem entry?_eq_ok_iff (hd : d.LinkFree) : d.entry? p = .ok (loc, e) ↔ '\x00' ∉ p.text.toList ∧ p.text ≠ "" ∧
    d.walk (origin d.here p.text.toList) (pieces p.text.toList) = .ok (.found loc e) := by
  have hplace : d.place? true p = .ok (.found loc e) ↔ d.entry? p = .ok (loc, e) := place?_eq_found_iff hd
  rw [← hplace, place?_eq_ok_iff hd]

/-- A path leads to a folder along **its names**: a slash at its end makes no difference. -/
theorem entry?_eq_folder_iff {es : List (String × Entry)} (hd : d.LinkFree) : d.entry? p = .ok (loc, .folder es) ↔ '\x00' ∉ p.text.toList ∧
    p.text ≠ "" ∧ d.walk (origin d.here p.text.toList) (names p.text.toList) = .ok (.found loc (.folder es)) := by
  rw [entry?_eq_ok_iff hd, walk_pieces_eq_folder_iff]

/-- **What lies above a path that leads somewhere is a folder.** -/
theorem exists_folder_of_parent? {q : Path} (hd : d.LinkFree) (h : d.entry? p = .ok (loc, e)) (hparent : p.parent? = some q)
    (hq : q.text ≠ "") : ∃ mid es, d.entry? q = .ok (mid, .folder es) := by
  obtain ⟨hnul, -, hwalk⟩ := (entry?_eq_ok_iff hd).1 h
  obtain ⟨⟨next, more, hnames⟩, hhead⟩ := names_of_parent? hparent hq
  obtain ⟨rest, hpieces⟩ : ∃ rest, pieces p.text.toList = names q.text.toList ++ next :: rest := by
    have hcases : pieces p.text.toList = names p.text.toList ++ ["."] ∨ pieces p.text.toList = names p.text.toList :=
      ite_eq_or_eq _ _ _
    rcases hcases with heq | heq <;> rw [heq, hnames]
    · exact ⟨more ++ ["."], by rw [List.append_assoc, List.cons_append]⟩
    · exact ⟨more, rfl⟩
  rw [hpieces, origin, ← hhead] at hwalk
  obtain ⟨mid, es, hmid, -⟩ := exists_folder_of_walk_append hwalk
  refine ⟨mid, es, (entry?_eq_folder_iff hd).2 ⟨fun hmem => hnul ?_, hq, hmid⟩⟩
  exact (prefix_of_parent? hparent).subset hmem

/-- The folder that paths start from **can be named** in a path. -/
def HereFits (d : Disk) : Prop :=
  ∀ name ∈ d.here, Fits name

/-- Where a path leads, without links, **the names fit**. -/
theorem fits_of_place? (hd : d.LinkFree) (hhere : d.HereFits) (h : d.place? last p = .ok place) :
    ∀ name ∈ place.location, Fits name := by
  obtain ⟨hnul, -, hwalk⟩ := (place?_eq_ok_iff hd).1 h
  intro name hname
  rcases walk_names hwalk name hname with hstart | ⟨hpiece, hdot, hlong⟩
  · unfold origin at hstart
    split at hstart
    · cases hstart
    · exact hhere name hstart
  · exact ⟨hlong, fun hmem => hnul ((names_spec (mem_names_of_mem_pieces hpiece hdot)).2 _ hmem)⟩

theorem fits_of_entry? (hd : d.LinkFree) (hhere : d.HereFits) (h : d.entry? p = .ok (loc, e)) :
    ∀ name ∈ loc, Fits name := by
  have hplace : d.place? true p = .ok (.found loc e) := (place?_eq_found_iff hd).2 h
  exact fits_of_place? hd hhere hplace

theorem nul_notMem_intercalate : ∀ {loc : Location}, (∀ name ∈ loc, '\x00' ∉ name.toList) →
    '\x00' ∉ ("/".intercalate loc).toList
  | [], _ => List.not_mem_nil
  | [name], h => by
    rw [String.intercalate_singleton]
    exact h name List.mem_cons_self
  | name :: next :: rest, h => by
    obtain ⟨hname, hrest⟩ := List.forall_mem_cons.1 h
    rw [String.intercalate_cons_cons, String.toList_append, String.toList_append, List.mem_append, List.mem_append,
      not_or, not_or]
    exact ⟨⟨hname, by decide⟩, nul_notMem_intercalate hrest⟩

/-- **Names that fit are walked through** one by one, to the location that they are added to. -/
theorem walk_of_fits : ∀ {ps : List String} {base : Location}, d.at? (base ++ ps.filter (· ≠ ".")) = some e →
    (∀ target, e ≠ .link target) → ".." ∉ ps → ps.getLast? ≠ some "." → (∀ n ∈ ps, isTooLong n = false) →
      d.walk base ps = .ok (.found (base ++ ps.filter (· ≠ ".")) e)
  | [], base, hat, _, _, _, _ => by
    rw [List.filter_nil, List.append_nil] at hat ⊢
    exact walk_nil hat
  | piece :: ps, base, hat, hlink, hup, hlast, hfits => by
    rw [List.mem_cons, not_or] at hup
    obtain ⟨hlong, hfits⟩ := List.forall_mem_cons.1 hfits
    have hrest : ps.getLast? ≠ some "." := by
      intro h
      rw [List.getLast?_cons, h] at hlast
      exact hlast rfl
    by_cases hdot : piece = "."
    · rw [hdot, List.filter_cons_of_neg (by decide)] at hat ⊢
      -- a later name stands in this folder, since the last piece is no dot
      have hnext : ps ≠ [] := by
        rintro rfl
        exact hlast (congrArg some hdot)
      obtain ⟨name, more, hmore⟩ := List.exists_cons_of_ne_nil (filter_dots_ne_nil hnext hrest)
      obtain ⟨es, -, hes, -⟩ := exists_folder_of_at? (hmore ▸ hat)
      rw [walk_dot hes]
      exact walk_of_fits hat hlink hup.2 hrest hfits
    · rw [List.filter_cons_of_pos (by simpa using hdot)] at hat ⊢
      obtain ⟨es, f, hbase, hlookup, hf⟩ := exists_folder_of_at? hat
      have hflink : ∀ target, f ≠ .link target := by
        rintro target rfl
        -- nothing lies beneath a link, so this one would be the entry itself
        cases hps : ps.filter (· ≠ ".") with
        | nil =>
          rw [hps] at hf
          exact hlink target (Option.some.inj hf).symm
        | cons next more =>
          rw [hps] at hf
          cases hf
      have hnext : d.at? ((base ++ [piece]) ++ ps.filter (· ≠ ".")) = some e := by
        rw [List.append_assoc]
        exact hat
      rw [walk_name hbase hdot (Ne.symm hup.1) hlong hlookup hflink, walk_of_fits hnext hlink hup.2 hrest hfits,
        List.append_assoc]
      rfl

/-- Where names fit, **the path to a location leads there**. -/
theorem entry?_pathTo_of_fits (hd : d.LinkFree) (hat : d.at? loc = some e) (hfits : ∀ name ∈ loc, Fits name) :
    d.entry? (pathTo loc) = .ok (loc, e) := by
  have hnames := d.tidy.isEntryName hat
  have hnul : '\x00' ∉ (pathTo loc).text.toList := by
    rw [toList_pathTo, List.mem_cons, not_or]
    exact ⟨by decide, nul_notMem_intercalate fun name hname => (hfits name hname).2⟩
  refine (entry?_eq_ok_iff hd).2 ⟨hnul, text_pathTo_ne_empty loc, ?_⟩
  rw [origin_pathTo, pieces_pathTo hnames]
  split
  · rename_i hroot
    subst hroot
    have hfolder : d.at? [] = some (.folder d.entries) := rfl
    rw [walk_dot hfolder, walk_nil hat]
  · obtain ⟨hup, hlast, hdots⟩ := names_of_entries hnames
    have hroot : d.at? ([] ++ loc.filter (· ≠ ".")) = some e := by
      rw [hdots]
      exact hat
    have hwalk := walk_of_fits hroot (hd.ne_link_of_at? hat) hup hlast fun n hn => (hfits n hn).1
    rw [hdots] at hwalk
    exact hwalk

/-- The path to some names **leads there**, if it leads to an entry at all. -/
theorem location_of_entry?_pathTo (hd : d.LinkFree) {found : Location} (hnames : ∀ n ∈ loc, isEntryName n = true)
    (h : d.entry? (pathTo loc) = .ok (found, e)) : found = loc := by
  obtain ⟨-, -, hwalk⟩ := (entry?_eq_ok_iff hd).1 h
  rw [origin_pathTo, pieces_pathTo hnames] at hwalk
  split at hwalk
  · rename_i hroot
    have hfolder : d.at? [] = some (.folder d.entries) := rfl
    rw [walk_dot hfolder, walk_nil hfolder] at hwalk
    cases hwalk
    exact hroot.symm
  · obtain ⟨hup, -, hdots⟩ := names_of_entries hnames
    rw [← hdots]
    exact location_of_walk hup hwalk

/-- A canonical path **leads where the path leads**. -/
theorem entry?_canonical (hd : d.LinkFree) (hhere : d.HereFits) (h : d.entry? p = .ok (loc, e)) :
    d.entry? (d.canonical p) = .ok (loc, e) := by
  rw [canonical_eq_pathTo h]
  have hfits := fits_of_entry? hd hhere h
  exact entry?_pathTo_of_fits hd (entry?_lands h).1 hfits

end Places

end Disk

end TreeIndex
