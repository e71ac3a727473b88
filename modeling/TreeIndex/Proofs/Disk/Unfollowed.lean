import TreeIndex.Proofs.Disk.Canonical
import TreeIndex.Proofs.Disk.Walk

/-!
# Walks that follow no links

A walk that follows no links comes by every file once, **on every disk**, whatever links stand on it: a link
where the walk starts is gone through once, and all others are passed by.

* `entry?_of_place?`: what a path leads to, if its last link stays, is no link, so it is what lies at the end of
  the path;
* `exists_place?_of_entry?`: a path that leads to an entry leads to one as well if its last link stays;
* `walkPieces_mid`: a walk that goes on is a walk to some place and a walk from there, **links included**;
* `entry?_descend_at`: hence names that follow a path lead to the location that they are added to, as they are
  walked through past no link;
* `FollowsNone`: no link is followed beneath a path, as links are passed by, or as there is none;
* `filesBeneath_following`: then a walk finds the path followed by the names of files, **also if the path itself
  is a link to a folder**; `filesBeneath_of_folder`: so it does for every folder;
* `exists_names_of_mem_filesBeneath`: what it finds lies where the names say;
* `pairwise_filesBeneath_following`: so the canonical paths of what it finds are in order, and no two of them are
  the same;
* `mem_filesBeneath_iff`: on a disk without links, a walk that passes over no name finds **every file beneath a
  path**.
-/

namespace TreeIndex.Disk

variable {d : Disk}

/-! ## 1. Links at the end -/

section Last

variable {through other : Location → List Char → List String → Except Failure Place} {found : Location}
  {e : Entry}

/-- A walk that **ends at no link** ends there as well if a link at the end is gone through. -/
theorem walkPieces_last (he : ∀ target, e ≠ .link target)
    (hthrough : ∀ loc text rest, through loc text rest = .ok (.found found e) →
      other loc text rest = .ok (.found found e)) : ∀ {ps : List String} {loc : Location},
      walkPieces d false through loc ps = .ok (.found found e) →
        walkPieces d true other loc ps = .ok (.found found e)
  | [], loc, h => by
    obtain ⟨f, hloc, hplace⟩ := walkPieces_nil h
    rw [walkPieces, hloc, hplace]
  | piece :: rest, loc, h => by
    unfold walkPieces at h ⊢
    split at h
    · cases h
    · split at h
      · rename_i hdot
        rw [if_pos hdot]
        exact walkPieces_last he hthrough h
      rename_i hdot
      rw [if_neg hdot]
      split at h
      · rename_i hup
        rw [if_pos hup]
        exact walkPieces_last he hthrough h
      rename_i hup
      rw [if_neg hup]
      split at h
      · cases h
      rename_i hlong
      rw [if_neg hlong]
      split at h
      · split at h <;> cases h
      · rename_i target _
        split at h
        · -- a link at the end would have been found itself
          cases h
          exact absurd rfl (he target)
        · rw [if_neg (by simp)]
          exact hthrough _ _ _ h
      · rename_i f hf _
        cases f with
        | link target => exact absurd rfl (hf target)
        | file bytes => exact walkPieces_last he hthrough h
        | folder fs => exact walkPieces_last he hthrough h
    · cases h

theorem walkText_last (he : ∀ target, e ≠ .link target) : ∀ {spare : Nat} {folder : Location}
    {text : List Char} {rest : List String}, walkText d false spare folder text rest = .ok (.found found e) →
      walkText d true spare folder text rest = .ok (.found found e)
  | 0, _, _, _, h => by cases h
  | spare + 1, folder, text, rest, h => by
    unfold walkText at h ⊢
    split at h
    · cases h
    · rename_i hne
      rw [if_neg hne]
      exact walkPieces_last he (fun _ _ _ => walkText_last he) h

/-- What a path leads to, if its last link stays, **lies at the end of the path** unless it is that link. -/
theorem entry?_of_place? {p : Path} (he : ∀ target, e ≠ .link target)
    (h : d.place? false p = .ok (.found found e)) : d.entry? p = .ok (found, e) := by
  have hplace : d.place? true p = .ok (.found found e) := by
    unfold place? at h ⊢
    dsimp only at h ⊢
    split at h
    · cases h
    · rename_i hnul
      rw [if_neg hnul]
      exact walkText_last he h
  unfold entry?
  rw [hplace]

end Last

section Staying

variable {through other : Location → List Char → List String → Except Failure Place}

/-- What is done along a path **leads to an entry**. -/
def Arrives (r : Except Failure Place) : Prop :=
  ∃ loc e, r = .ok (.found loc e)

/-- A walk that leads to an entry does so as well **if it stays at a link at the end**. -/
theorem walkPieces_staying (hthrough : ∀ loc text rest, Arrives (through loc text rest) →
      Arrives (other loc text rest)) : ∀ {ps : List String} {loc : Location},
      Arrives (walkPieces d true through loc ps) → Arrives (walkPieces d false other loc ps)
  | [], loc, h => by
    rw [walkPieces] at h ⊢
    exact h
  | piece :: rest, loc, h => by
    unfold walkPieces at h ⊢
    split at h
    · exact h
    · split at h
      · rename_i hdot
        rw [if_pos hdot]
        exact walkPieces_staying hthrough h
      rename_i hdot
      rw [if_neg hdot]
      split at h
      · rename_i hup
        rw [if_pos hup]
        exact walkPieces_staying hthrough h
      rename_i hup
      rw [if_neg hup]
      split at h
      · rename_i hlong
        rw [if_pos hlong]
        exact h
      rename_i hlong
      rw [if_neg hlong]
      split at h
      · exact h
      · rename_i target _
        rw [if_neg (by simp)] at h
        split
        · exact ⟨_, _, rfl⟩
        · exact hthrough _ _ _ h
      · rename_i f hf _
        cases f with
        | link target => exact absurd rfl (hf target)
        | file bytes => exact walkPieces_staying hthrough h
        | folder fs => exact walkPieces_staying hthrough h
    · exact h

theorem walkText_staying : ∀ {spare : Nat} {folder : Location} {text : List Char} {rest : List String},
    Arrives (walkText d true spare folder text rest) → Arrives (walkText d false spare folder text rest)
  | 0, _, _, _, h => h
  | spare + 1, folder, text, rest, h => by
    unfold walkText at h ⊢
    split at h
    · rename_i hempty
      rw [if_pos hempty]
      exact h
    · rename_i hne
      rw [if_neg hne]
      exact walkPieces_staying (fun _ _ _ => walkText_staying) h

/-- A path that leads to an entry leads to one **if its last link stays**: to that link, or to the same entry. -/
theorem exists_place?_of_entry? {p : Path} {loc : Location} {e : Entry} (h : d.entry? p = .ok (loc, e)) :
    (∃ found target, d.place? false p = .ok (.found found (.link target))) ∨
      d.place? false p = .ok (.found loc e) := by
  have harrives : Arrives (d.place? false p) := by
    unfold entry? at h
    split at h
    · rename_i hplace
      unfold place? at hplace ⊢
      dsimp only at hplace ⊢
      split at hplace
      · cases hplace
      · rename_i hnul
        rw [if_neg hnul]
        exact walkText_staying ⟨_, _, hplace⟩
    · cases h
    · cases h
  obtain ⟨found, f, hf⟩ := harrives
  by_cases hlink : ∃ target, f = .link target
  · obtain ⟨target, rfl⟩ := hlink
    exact Or.inl ⟨found, target, hf⟩
  · have hentry := entry?_of_place? (fun target heq => hlink ⟨target, heq⟩) hf
    cases hentry.symm.trans h
    exact Or.inr hf

end Staying

/-! ## 2. Walks that go on -/

section Mid

variable {through : Location → List Char → List String → Except Failure Place} {next : String}
  {more : List String} {place : Place}

/-- A walk **goes on**: it stands at some place after its first pieces, and the next ones lead on from there. -/
def GoesOn (d : Disk) (first : Except Failure Place) (next : String) (more : List String) (place : Place) :
    Prop :=
  ∃ mid e through', first = .ok (.found mid e) ∧
    walkPieces d true through' mid (next :: more) = .ok place

/-- A walk that goes on is a walk **to some place, and a walk from there**; links on the way are gone through
    first. -/
theorem walkPieces_mid (hthrough : ∀ loc text rest, through loc text (rest ++ next :: more) = .ok place →
      GoesOn d (through loc text rest) next more place) : ∀ {ps : List String} {loc : Location},
      walkPieces d true through loc (ps ++ next :: more) = .ok place →
        GoesOn d (walkPieces d true through loc ps) next more place
  | [], loc, h => by
    have hstart : walkPieces d true through loc (next :: more) = .ok place := h
    cases hloc : d.at? loc with
    | none =>
      rw [walkPieces, hloc] at hstart
      cases hstart
    | some e =>
      refine ⟨loc, e, through, ?_, hstart⟩
      rw [walkPieces, hloc]
  | piece :: ps, loc, h => by
    rw [List.cons_append] at h
    unfold walkPieces at h ⊢
    split at h
    · cases h
    · split at h
      · rename_i hdot
        rw [if_pos hdot]
        exact walkPieces_mid hthrough h
      rename_i hdot
      rw [if_neg hdot]
      split at h
      · rename_i hup
        rw [if_pos hup]
        exact walkPieces_mid hthrough h
      rename_i hup
      rw [if_neg hup]
      split at h
      · cases h
      rename_i hlong
      rw [if_neg hlong]
      split at h
      · -- a name that is not there yet ends every walk
        simp at h
      · rename_i target _
        simp only [Bool.not_true, Bool.and_false, Bool.false_eq_true, if_false] at h ⊢
        exact hthrough _ _ _ h
      · rename_i f hf _
        cases f with
        | link target => exact absurd rfl (hf target)
        | file bytes => exact walkPieces_mid hthrough h
        | folder fs => exact walkPieces_mid hthrough h
    · cases h

theorem walkText_mid : ∀ {spare : Nat} {folder : Location} {text : List Char} {rest : List String},
    walkText d true spare folder text (rest ++ next :: more) = .ok place →
      GoesOn d (walkText d true spare folder text rest) next more place
  | 0, _, _, _, h => by cases h
  | spare + 1, folder, text, rest, h => by
    unfold walkText at h ⊢
    split at h
    · cases h
    · rename_i hne
      rw [if_neg hne]
      rw [← List.append_assoc] at h
      exact walkPieces_mid (fun _ _ _ => walkText_mid) h

end Mid

/-! ## 3. Names that follow a path -/

section Names

variable {p : Path} {loc found : Location} {e f : Entry}

/-- **A path is walked through** from where it starts; what lies at its end is found at last. -/
theorem walk_of_entry? (h : d.entry? p = .ok (loc, e)) :
    p.text ≠ "" ∧ walkPieces d true (walkText d true mostLinks) (origin d.here p.text.toList)
      (pieces p.text.toList) = .ok (.found loc e) := by
  unfold entry? at h
  split at h
  · rename_i hplace
    cases h
    unfold place? at hplace
    dsimp only at hplace
    split at hplace
    · cases hplace
    unfold walkText at hplace
    split at hplace
    · cases hplace
    · rename_i hne
      rw [List.append_nil] at hplace
      exact ⟨fun he => hne (by rw [he]; rfl), hplace⟩
  · cases h
  · cases h

/-- A slash at the end **leads nowhere else**, be there links on the way or not. -/
theorem walk_names_of_pieces {text : List Char} {start : Location} {spare : Nat}
    (h : walkPieces d true (walkText d true spare) start (pieces text) = .ok (.found loc e)) :
    ∃ f, walkPieces d true (walkText d true spare) start (names text) = .ok (.found loc f) := by
  unfold pieces at h
  dsimp only at h
  split at h
  · obtain ⟨mid, f, through, hmid, hdot⟩ := walkPieces_mid (fun _ _ _ => walkText_mid) h
    refine ⟨f, ?_⟩
    rw [names, hmid]
    unfold walkPieces at hdot
    split at hdot
    · cases hdot
    · rw [if_pos rfl] at hdot
      obtain ⟨g, -, hplace⟩ := walkPieces_nil hdot
      cases hplace
      rfl
    · cases hdot
  · exact ⟨e, h⟩

/-- What lies beneath the end of a path **lies at the path followed by its names**, if anything is found there:
    the names are walked through past no link. -/
theorem entry?_descend_at (h : d.entry? p = .ok (loc, e)) {rel : Location} {g : Entry}
    (hat : e.at? rel = some g) (hg : ∀ target, g ≠ .link target)
    (hf : d.entry? (p.descend rel) = .ok (found, f)) : found = loc ++ rel := by
  obtain ⟨hloc, -⟩ := entry?_lands h
  cases rel with
  | nil =>
    have hsame : (loc, e) = (found, f) := Except.ok.inj (h.symm.trans hf)
    cases hsame
    exact (List.append_nil _).symm
  | cons name rel =>
    have hnames : ∀ n ∈ name :: rel, isEntryName n = true :=
      (d.tidy.at? hloc).isEntryName hat
    obtain ⟨hp, hbase⟩ := walk_of_entry? h
    obtain ⟨-, hwalk⟩ := walk_of_entry? hf
    obtain ⟨-, hhead, hpieces⟩ := pieces_descend (List.cons_ne_nil name rel) hp hnames
    rw [origin, hhead, hpieces] at hwalk
    obtain ⟨mid, m, through, hmid, hrest⟩ := walkPieces_mid (fun _ _ _ => walkText_mid) hwalk
    obtain ⟨b, hb⟩ := walk_names_of_pieces hbase
    have hsame : Place.found mid m = .found loc b := Except.ok.inj (hmid.symm.trans hb)
    cases hsame
    have hbeneath : d.at? (loc ++ name :: rel) = some g := by
      rw [at?_append, hloc]
      exact hat
    cases walkPieces_eq_found hbeneath hg hnames hrest
    rfl

end Names

/-! ## 4. Walks that follow no links -/

/-- **No link is followed** beneath a path: links are passed by, or there is none. -/
def FollowsNone (d : Disk) (follow : Bool) (p : Path) : Prop :=
  follow = true → ∀ loc e, d.entry? p = .ok (loc, e) → e.LinkFree

theorem followsNone_of_passing {follow : Bool} (h : follow = false) (p : Path) : d.FollowsNone follow p :=
  fun hfollow => absurd (h.symm.trans hfollow) Bool.false_ne_true

theorem followsNone_of_linkFree (h : d.LinkFree) (follow : Bool) (p : Path) : d.FollowsNone follow p := by
  have hroot : (Entry.folder d.entries).LinkFree := h
  exact fun _ _ _ hentry => hroot.at? (entry?_lands hentry).1

section Walks

variable {prunes : String → Bool}

/-- Where links are passed by or there is none, a walk finds **the path followed by the names** of the files. -/
theorem walkEntry_following {o : WalkOptions} {e : Entry} (he : o.followLinks = true → e.LinkFree)
    (above : List Location) (loc : Location) (p : Path) :
    walkEntry (d.filesThrough o) prunes above loc p e = (e.fileLocations prunes).map p.descend := by
  refine walkEntry_eq e above loc p ?_
  cases ho : o.followLinks with
  | true => exact Or.inl (he ho)
  | false =>
    refine Or.inr fun _ _ => ?_
    rw [filesThrough, ho, if_neg Bool.false_ne_true]

end Walks

/-- **The files beneath a path** beneath which no link is followed: none, or else the path followed by the names
    of the files beneath what lies at its end. -/
theorem filesBeneath_following {o : WalkOptions} {p : Path} (h : d.FollowsNone o.followLinks p) :
    d.filesBeneath o p = [] ∨ ∃ loc e, d.entry? p = .ok (loc, e) ∧
      d.filesBeneath o p = (e.fileLocations o.prunes).map p.descend := by
  unfold filesBeneath
  split
  · split
    · -- the link at the start is gone through like any other
      rename_i hfollow
      rw [filesThrough, if_pos hfollow, filesBehind]
      split
      · rename_i loc e hentry
        exact Or.inr ⟨loc, e, hentry, walkEntry_eq e [] loc p (Or.inl (h hfollow loc e hentry))⟩
      · exact Or.inl rfl
    · rename_i hpassed
      split
      · rename_i loc es hentry
        have hwalk : walkEntry (d.filesThrough o) o.prunes [] loc p (.folder es) =
            ((Entry.folder es).fileLocations o.prunes).map p.descend :=
          walkEntry_following (fun hfollow => absurd hfollow hpassed) [] loc p
        rw [walkEntry] at hwalk
        exact Or.inr ⟨loc, .folder es, hentry, hwalk⟩
      · exact Or.inl rfl
  · rename_i loc e hne hplace
    have hlink : ∀ target, e ≠ .link target := fun target heq => hne target (heq ▸ rfl)
    have hentry := entry?_of_place? hlink hplace
    exact Or.inr ⟨loc, e, hentry, walkEntry_following (fun hfollow => h hfollow loc e hentry) [] loc p⟩
  · exact Or.inl rfl

/-- **The files beneath a folder** beneath which no link is followed, be there a link at the start or not. -/
theorem filesBeneath_of_folder {o : WalkOptions} {p : Path} {loc : Location} {es : List (String × Entry)}
    (hp : d.entry? p = .ok (loc, .folder es)) (hfree : o.followLinks = true → (Entry.folder es).LinkFree) :
    d.filesBeneath o p = ((Entry.folder es).fileLocations o.prunes).map p.descend := by
  unfold filesBeneath
  rcases exists_place?_of_entry? hp with ⟨found, target, hplace⟩ | hplace
  · rw [hplace]
    dsimp only
    split
    · rename_i hfollow
      rw [filesThrough, if_pos hfollow, filesBehind, hp]
      exact walkEntry_eq _ [] loc p (Or.inl (hfree hfollow))
    · rw [hp]
      exact walkEntry_following hfree [] loc p
  · rw [hplace]
    exact walkEntry_following hfree [] loc p

section Files

variable {o : WalkOptions} {root : Path}

/-- Files beneath a path **lie where their names say**. -/
theorem entry?_descend_file {top rel loc : Location} {e f : Entry} (hroot : d.entry? root = .ok (top, e))
    (hrel : rel ∈ e.fileLocations o.prunes) (hentry : d.entry? (root.descend rel) = .ok (loc, f)) :
    loc = top ++ rel := by
  have htidy : e.Tidy := d.tidy.at? (entry?_lands hroot).1
  obtain ⟨⟨bytes, hfile⟩, -⟩ := (mem_fileLocations_iff htidy).1 hrel
  exact entry?_descend_at hroot hfile nofun hentry

/-- What a walk finds, if anything lies there, **lies at the location of the walk, followed by names**. -/
theorem exists_names_of_mem_filesBeneath (h : d.FollowsNone o.followLinks root) {p : Path}
    (hp : p ∈ d.filesBeneath o root) {loc : Location} {f : Entry} (hentry : d.entry? p = .ok (loc, f)) :
    ∃ top e rel, d.entry? root = .ok (top, e) ∧ rel ∈ e.fileLocations o.prunes ∧ p = root.descend rel ∧
      loc = top ++ rel := by
  rcases filesBeneath_following h with hnone | ⟨top, e, hroot, hfiles⟩
  · rw [hnone] at hp
    cases hp
  · rw [hfiles] at hp
    obtain ⟨rel, hrel, rfl⟩ := List.mem_map.1 hp
    exact ⟨top, e, rel, hroot, hrel, rfl, entry?_descend_file hroot hrel hentry⟩

/-- What a walk finds that follows no links **lies beneath its start**. -/
theorem beneath_of_mem_filesBeneath (h : d.FollowsNone o.followLinks root) {p : Path}
    (hp : p ∈ d.filesBeneath o root) : d.Beneath root p := by
  rcases filesBeneath_following h with hnone | ⟨loc, e, hroot, hfiles⟩
  · rw [hnone] at hp
    cases hp
  · rw [hfiles] at hp
    obtain ⟨rel, hrel, rfl⟩ := List.mem_map.1 hp
    obtain ⟨⟨bytes, hfile⟩, -⟩ := (mem_fileLocations_iff (d.tidy.at? (entry?_lands hroot).1)).1 hrel
    exact ⟨loc, e, rel, bytes, hroot, hfile, rfl⟩

/-- **A walk that follows no links comes by every file once**: the canonical paths of what it finds are in
    order. -/
theorem pairwise_filesBeneath_following (h : d.FollowsNone o.followLinks root) :
    (d.filesBeneath o root).Pairwise fun p q => ∀ {loc loc' : Location} {e e' : Entry},
      d.entry? p = .ok (loc, e) → d.entry? q = .ok (loc', e') → (d.canonical p).before (d.canonical q) := by
  rcases filesBeneath_following h with hnone | ⟨top, f, hroot, hfiles⟩
  · rw [hnone]
    exact List.Pairwise.nil
  · have htidy : f.Tidy := d.tidy.at? (entry?_lands hroot).1
    rw [hfiles]
    refine List.pairwise_map.2 ((pairwise_fileLocations f htidy).imp_of_mem fun {a b} ha hb hab => ?_)
    intro loc loc' e e' hp hq
    have hnames := d.tidy.isEntryName (entry?_lands hp).1
    have hnames' := d.tidy.isEntryName (entry?_lands hq).1
    obtain rfl := entry?_descend_file hroot ha hp
    obtain rfl := entry?_descend_file hroot hb hq
    rw [canonical_eq_pathTo hp, canonical_eq_pathTo hq]
    exact before_pathTo hnames hnames' (lex_append top hab)

end Files

/-! ## 5. Disks without links -/

/-- On a disk without links, what lies at a path is **what its walk goes through**. -/
theorem filesBeneath_of_linkFree (hd : d.LinkFree) {o : WalkOptions} {root : Path} {loc : Location} {e : Entry}
    (hroot : d.entry? root = .ok (loc, e)) :
    d.filesBeneath o root = (e.fileLocations o.prunes).map root.descend := by
  have hplace : d.place? false root = .ok (.found loc e) := (place?_eq_found_iff hd).2 hroot
  have he : e.LinkFree := followsNone_of_linkFree hd true root rfl loc e hroot
  unfold filesBeneath
  rw [hplace]
  cases e with
  | link target => exact absurd rfl ((entry?_lands hroot).2 target)
  | file bytes => exact walkEntry_eq _ _ _ _ (Or.inl he)
  | folder es => exact walkEntry_eq _ _ _ _ (Or.inl he)

/-- Where no name is passed over, a walk finds **all files beneath a path**, on a disk without links. -/
theorem mem_filesBeneath_iff (hd : d.LinkFree) {follow : Bool} {root p : Path} :
    p ∈ d.filesBeneath ⟨[], follow⟩ root ↔ d.Beneath root p := by
  constructor
  · exact beneath_of_mem_filesBeneath (o := ⟨[], follow⟩) (followsNone_of_linkFree hd follow root)
  · rintro ⟨loc, e, rel, bytes, hroot, hfile, rfl⟩
    rw [filesBeneath_of_linkFree hd hroot]
    have htidy : e.Tidy := d.tidy.at? (entry?_lands hroot).1
    exact List.mem_map_of_mem ((mem_fileLocations_iff htidy).2 ⟨⟨bytes, hfile⟩, fun _ _ => rfl⟩)

end TreeIndex.Disk
