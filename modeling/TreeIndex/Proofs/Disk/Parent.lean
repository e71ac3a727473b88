import Mathlib.Data.List.DropRight
import TreeIndex.Proofs.Disk.Unfollowed

/-!
# What stands above a path, and the name at its end

The parent of a path is found in its text, and what lies there on the disk agrees with that.

* `segments_joinSegments`, `names_joinSegments`: segments that are joined are **cut apart again**;
* `names_of_lead`: the beginning of a path is a name of its own if it is a dot;
* `parent?_eq_some`: a parent keeps the beginning of the path and its first segments, and **the rest has a name**;
  `prefix_of_parent?`, `names_of_parent?`: so the text of the path goes on behind that of the parent, and more names
  follow;
* `isFile_parent`: what lies above a path that leads somewhere **is no file**, as it was walked through;
* `steps_descend`: names that follow a path **are its last steps**; `fileName_descend`, `fileName_pathTo`: so the last
  of them is its name;
* `fileName_of_mem_filesBeneath`: so what a walk that follows no links finds beneath a folder **is called by the
  last name of its location**.
-/

namespace TreeIndex

/-! ## 1. Segments that are joined -/

theorem notMem_of_mem_segments : ∀ {cs s : List Char}, s ∈ segments cs → '/' ∉ s
  | [], s, h => by
    obtain rfl := List.mem_singleton.1 h
    exact List.not_mem_nil
  | c :: cs, s, h => by
    unfold segments at h
    split at h
    · rcases List.mem_cons.1 h with rfl | h
      · exact List.not_mem_nil
      · exact notMem_of_mem_segments h
    · rename_i hc
      split at h
      · rename_i hnil
        exact absurd hnil (segments_ne_nil cs)
      · rename_i first rest hcs
        rcases List.mem_cons.1 h with rfl | h
        · have hfirst : '/' ∉ first := notMem_of_mem_segments (hcs ▸ List.mem_cons_self)
          exact fun hmem => (List.mem_cons.1 hmem).elim (fun heq => hc heq.symm) hfirst
        · exact notMem_of_mem_segments (hcs ▸ List.mem_cons_of_mem first h)

theorem joinSegments_cons {s : List Char} {ss : List (List Char)} (h : ss ≠ []) :
    joinSegments (s :: ss) = s ++ '/' :: joinSegments ss := by
  cases ss with
  | nil => exact absurd rfl h
  | cons t ss => rfl

/-- Segments that are joined are **cut apart again**. -/
theorem segments_joinSegments : ∀ {ss : List (List Char)}, ss ≠ [] → (∀ s ∈ ss, '/' ∉ s) →
    segments (joinSegments ss) = ss
  | [s], _, h => segments_of_notMem (h s List.mem_cons_self)
  | s :: next :: rest, _, h => by
    obtain ⟨hs, hrest⟩ := List.forall_mem_cons.1 h
    rw [joinSegments_cons (List.cons_ne_nil next rest), segments_append_slash, segments_of_notMem hs,
      segments_joinSegments (List.cons_ne_nil next rest) hrest]
    rfl

/-- What is joined of the first segments **stands in front** of what is joined of all. -/
theorem joinSegments_front : ∀ (front back : List (List Char)), joinSegments front <+: joinSegments (front ++ back)
  | [], _ => List.nil_prefix
  | [s], back => by
    cases back with
    | nil => exact List.prefix_rfl
    | cons t back => exact List.prefix_append s _
  | s :: t :: front, back => by
    rw [joinSegments_cons (List.cons_ne_nil t front), List.cons_append,
      joinSegments_cons (List.append_ne_nil_of_left_ne_nil (List.cons_ne_nil t front) back),
      List.prefix_append_right_inj, List.prefix_cons_inj]
    exact joinSegments_front (t :: front) back

/-- What is joined of the first segments of a text **begins as the text does**, unless nothing is. -/
theorem head?_joinSegments {cs : List Char} {front back : List (List Char)} (h : segments cs = front ++ back)
    (hback : back ≠ []) : joinSegments front = [] ∨ (joinSegments front).head? = cs.head? := by
  have hcs : cs = joinSegments (front ++ back) := by
    rw [← h, joinSegments_segments]
  cases front with
  | nil => exact Or.inl rfl
  | cons s front =>
    have hwhole : cs = s ++ '/' :: joinSegments (front ++ back) := by
      rw [hcs, List.cons_append, joinSegments_cons (List.append_ne_nil_of_right_ne_nil front hback)]
    cases front with
    | nil =>
      cases s with
      | nil => exact Or.inl rfl
      | cons c s => exact Or.inr (by rw [hwhole]; rfl)
    | cons t front =>
      have hpart : joinSegments (s :: t :: front) = s ++ '/' :: joinSegments (t :: front) := rfl
      refine Or.inr ?_
      rw [hpart, hwhole]
      cases s <;> rfl

namespace Disk

/-- The names **among some segments**. -/
def named (ss : List (List Char)) : List String :=
  (ss.filter fun s => !s.isEmpty).map String.ofList

theorem named_append (ss ts : List (List Char)) : named (ss ++ ts) = named ss ++ named ts := by
  rw [named, List.filter_append, List.map_append]
  rfl

theorem names_joinSegments {ss : List (List Char)} (h : ∀ s ∈ ss, '/' ∉ s) :
    names (joinSegments ss) = named ss := by
  cases ss with
  | nil => rfl
  | cons s ss =>
    rw [names, segments_joinSegments (List.cons_ne_nil s ss) h]
    rfl

/-! ## 2. Beginnings -/

/-- The names that the beginning of a path says: **a dot is one**. -/
def leadNames : Lead → List String
  | .here => ["."]
  | _ => []

/-- A beginning and what follows it: **the names of both**. Behind a dot, nothing follows or a slash does. -/
theorem names_of_lead {lead : Lead} {cs : List Char} (h : lead = .here → cs = [] ∨ cs.head? = some '/') :
    names (lead.chars ++ cs) = leadNames lead ++ names cs := by
  cases lead with
  | root => exact names_append_slash [] cs
  | bare => rfl
  | here =>
    rcases h rfl with rfl | hslash
    · rfl
    · obtain ⟨rest, rfl⟩ := List.head?_eq_some_iff.1 hslash
      have hrest : names ('/' :: rest) = names rest := names_append_slash [] rest
      have hboth : names ('.' :: '/' :: rest) = names ['.'] ++ names rest := names_append_slash ['.'] rest
      rw [hrest]
      exact hboth

theorem splitLead_here {cs : List Char} (h : (splitLead cs).1 = .here) :
    (splitLead cs).2 = [] ∨ (splitLead cs).2.head? = some '/' := by
  unfold splitLead at h ⊢
  split at h
  · cases h
  · exact Or.inl rfl
  · exact Or.inr rfl
  · cases h

/-! ## 3. Parents -/

open TreeIndex.Path (dropSilent)

/-- Behind the last segment that says something, **the others are silent**. -/
theorem exists_silent (ss : List (List Char)) : ∃ silent, dropSilent ss ++ silent = ss :=
  List.rdropWhile_prefix _ ss

/-- The last segment that is not dropped **says something**. -/
theorem saysSomething_getLast {ss : List (List Char)} (h : dropSilent ss ≠ []) :
    saysSomething ((dropSilent ss).getLast h) = true := by
  have hlast := List.rdropWhile_last_not (fun s => !saysSomething s) ss h
  rw [Bool.not_eq_true', Bool.not_eq_false] at hlast
  exact hlast

variable {p q : Path}

/-- **A parent** keeps the beginning of the path and its first segments, and the others have a name; or it is the
    empty path. -/
theorem parent?_eq_some (h : p.parent? = some q) : q = ⟨""⟩ ∨ ∃ front back,
    p.tail = front ++ back ∧ named back ≠ [] ∧ q.text.toList = p.lead.chars ++ joinSegments front := by
  unfold Path.parent? at h
  split at h
  · split at h
    · exact Or.inl (Option.some.inj h).symm
    · cases h
  · rename_i s rest htail
    obtain rfl := Option.some.inj h
    obtain ⟨silent, hsilent⟩ := exists_silent p.tail
    obtain ⟨quiet, hquiet⟩ := exists_silent (s :: rest).dropLast
    have hne : s :: rest ≠ [] := List.cons_ne_nil s rest
    have hlast : (s :: rest).dropLast ++ [(s :: rest).getLast hne] = s :: rest := List.dropLast_concat_getLast hne
    have hname : (s :: rest).getLast hne ≠ [] := by
      intro he
      have hsays := saysSomething_getLast (htail ▸ hne)
      simp only [htail, he] at hsays
      cases hsays
    refine Or.inr ⟨dropSilent (s :: rest).dropLast, quiet ++ [(s :: rest).getLast hne] ++ silent, ?_, ?_, ?_⟩
    · rw [← List.append_assoc, ← List.append_assoc, hquiet, hlast, ← htail, hsilent]
    · rw [named_append, named_append]
      refine List.append_ne_nil_of_left_ne_nil (List.append_ne_nil_of_right_ne_nil _ ?_) _
      simp [named, hname]
    · exact String.toList_ofList

/-- The text of a parent is **a part in front** of the text of the path. -/
theorem prefix_of_parent? (h : p.parent? = some q) : q.text.toList <+: p.text.toList := by
  rcases parent?_eq_some h with rfl | ⟨front, back, htail, -, htext⟩
  · exact List.nil_prefix
  · have hwhole : (splitLead p.text.toList).2 = joinSegments (front ++ back) := by
      rw [← htail, Path.tail, joinSegments_segments]
    rw [htext, ← splitLead_append p.text.toList, hwhole]
    exact (List.prefix_append_right_inj _).2 (joinSegments_front front back)

/-- **More names follow those of the parent**, and both paths start at the same place. -/
theorem names_of_parent? (h : p.parent? = some q) (hq : q.text ≠ "") :
    (∃ next more, names p.text.toList = names q.text.toList ++ next :: more) ∧
      q.text.toList.head? = p.text.toList.head? := by
  rcases parent?_eq_some h with rfl | ⟨front, back, htail, hback, htext⟩
  · exact absurd rfl hq
  have hwhole : p.text.toList = p.lead.chars ++ (splitLead p.text.toList).2 := (splitLead_append _).symm
  have hsegments : segments (splitLead p.text.toList).2 = front ++ back := htail
  have hne : back ≠ [] := fun he => hback (by rw [he]; rfl)
  have hbegins := head?_joinSegments hsegments hne
  have hslash : ∀ s ∈ front ++ back, '/' ∉ s := fun s hs => notMem_of_mem_segments (hsegments ▸ hs)
  have hfront : p.lead = .here → joinSegments front = [] ∨ (joinSegments front).head? = some '/' := by
    intro hlead
    rcases hbegins with hnil | hhead
    · exact Or.inl hnil
    · rcases splitLead_here hlead with hrest | hrest
      · rw [hrest] at hhead
        exact Or.inl (List.head?_eq_none_iff.1 hhead)
      · exact Or.inr (hhead.trans hrest)
  have hparent : names q.text.toList = leadNames p.lead ++ named front := by
    rw [htext, names_of_lead hfront, names_joinSegments fun s hs => hslash s (List.mem_append_left back hs)]
  have hnames : names (p.lead.chars ++ (splitLead p.text.toList).2) =
      leadNames p.lead ++ names (splitLead p.text.toList).2 := names_of_lead splitLead_here
  have hpath : names p.text.toList = leadNames p.lead ++ (named front ++ named back) := by
    rw [← named_append, ← hsegments]
    exact (congrArg names hwhole).trans hnames
  constructor
  · obtain ⟨next, more, hmore⟩ := List.exists_cons_of_ne_nil hback
    exact ⟨next, more, by rw [hpath, hparent, hmore, List.append_assoc]⟩
  · rw [htext, hwhole]
    cases hlead : p.lead with
    | root => rfl
    | here => rfl
    | bare =>
      rcases hbegins with hnil | hhead
      · rw [hlead, hnil] at htext
        exact absurd (String.toList_eq_nil_iff.1 htext) hq
      · exact hhead

section Walk

variable {d : Disk} {loc : Location} {e : Entry}

/-- A walk that goes on stands **in a folder**. -/
theorem exists_folder_of_walkPieces {last : Bool}
    {through : Location → List Char → List String → Except Failure Place} {piece : String}
    {rest : List String} {place : Place} (h : walkPieces d last through loc (piece :: rest) = .ok place) :
    ∃ es, d.at? loc = some (.folder es) := by
  unfold walkPieces at h
  split at h
  · cases h
  · rename_i es hloc
    exact ⟨es, hloc⟩
  · cases h

/-- A dot leads to the folder one is in, **not to a file**. -/
theorem isFile_dot (d : Disk) : d.isFile ⟨"."⟩ = false := by
  rw [Bool.eq_false_iff]
  intro hfile
  obtain ⟨loc, bytes, hentry⟩ := isFile_iff.1 hfile
  obtain ⟨-, hwalk⟩ := walk_of_entry? hentry
  have hdot : walkPieces d true (walkText d true mostLinks) d.here ["."] = .ok (.found loc (.file bytes)) := hwalk
  obtain ⟨es, hes⟩ := exists_folder_of_walkPieces hdot
  rw [walkPieces, hes] at hdot
  dsimp only at hdot
  rw [if_pos rfl, walkPieces, hes] at hdot
  cases hdot

/-- **What lies above a path that leads somewhere is no file.** -/
theorem isFile_parent (h : d.entry? p = .ok (loc, e)) : d.isFile (p.parent?.getD ⟨"."⟩) = false := by
  cases hparent : p.parent? with
  | none => exact isFile_dot d
  | some q =>
    rw [Option.getD_some, Bool.eq_false_iff]
    intro hfile
    obtain ⟨above, bytes, hentry⟩ := isFile_iff.1 hfile
    obtain ⟨hq, hqwalk⟩ := walk_of_entry? hentry
    obtain ⟨-, hpwalk⟩ := walk_of_entry? h
    obtain ⟨⟨next, more, hnames⟩, hhead⟩ := names_of_parent? hparent hq
    -- the names of the path lead past the end of its parent
    obtain ⟨f, hpnames⟩ := walk_names_of_pieces hpwalk
    rw [hnames, origin, ← hhead] at hpnames
    obtain ⟨mid, g, through, hmid, hrest⟩ := walkPieces_mid (fun _ _ _ => walkText_mid) hpnames
    obtain ⟨es, hes⟩ := exists_folder_of_walkPieces hrest
    obtain ⟨b, hqnames⟩ := walk_names_of_pieces hqwalk
    have hsame : Place.found mid g = .found above b := Except.ok.inj (hmid.symm.trans hqnames)
    cases hsame
    cases hes.symm.trans (entry?_lands hentry).1

end Walk

/-! ## 4. The name at the end -/

/-- What stands behind a slash **changes nothing of how a text begins**. -/
theorem splitLead_slash {front : List Char} (hfront : front ≠ []) (cs : List Char) :
    splitLead (front ++ '/' :: cs) = ((splitLead front).1, (splitLead front).2 ++ '/' :: cs) := by
  obtain ⟨c, rest, rfl⟩ := List.exists_cons_of_ne_nil hfront
  by_cases hslash : c = '/'
  · rw [hslash]
    rfl
  by_cases hdot : c = '.'
  · subst hdot
    cases rest with
    | nil => rfl
    | cons e rest =>
      by_cases he : e = '/'
      · rw [he]
        rfl
      · simp [splitLead, he]
  · simp [splitLead, hslash, hdot]

/-- The name of an entry says **itself**. -/
theorem steps_name {name : String} (h : isEntryName name = true) :
    ((segments name.toList).filter saysSomething).map Step.ofSegment = [.name name] := by
  obtain ⟨hne, hdot, hup, hslash⟩ := isEntryName_iff.1 h
  have hdot' : name.toList ≠ ['.'] := fun he => hdot (String.toList_injective he)
  have hup' : name.toList ≠ ['.', '.'] := fun he => hup (String.toList_injective he)
  have hsays : saysSomething name.toList = true := by
    simp [saysSomething, toList_ne_nil h, hdot']
  rw [segments_of_notMem hslash, List.filter_cons_of_pos hsays, List.filter_nil, List.map_singleton, Step.ofSegment,
    if_neg hup', String.ofList_toList]

/-- A name that follows a path **is one more step**. -/
theorem steps_child {name : String} (h : isEntryName name = true) (hp : p.text ≠ "") :
    (p.child name).steps = p.steps ++ [.name name] := by
  obtain ⟨front, hchild, hfront⟩ := child_text (isSegment_of_isEntryName h) hp
  by_cases hnil : front = []
  · subst hnil
    rcases hfront with hf | hf
    · exact absurd (String.toList_eq_nil_iff.1 hf) hp
    · rw [Path.steps, Path.steps, Path.lead, Path.lead, Path.tail, Path.tail, hchild, hf]
      exact congrArg (Step.root :: ·) (steps_name h)
  · have hpath : p.steps = (splitLead front).1.steps ++
        ((segments (splitLead front).2).filter saysSomething).map Step.ofSegment := by
      rcases hfront with hf | hf
      · rw [Path.steps, Path.lead, Path.tail, hf]
      · -- a slash at the end says nothing
        have hend : (segments []).filter saysSomething = [] := rfl
        rw [Path.steps, Path.lead, Path.tail, hf, splitLead_slash hnil, segments_append_slash, List.filter_append, hend,
          List.append_nil]
    rw [hpath, Path.steps, Path.lead, Path.tail, hchild, splitLead_slash hnil, segments_append_slash,
      List.filter_append, List.map_append, steps_name h, List.append_assoc]

/-- **Names that follow a path** are its last steps. -/
theorem steps_descend : ∀ {rel : List String} {p : Path}, p.text ≠ "" → (∀ n ∈ rel, isEntryName n = true) →
    (p.descend rel).steps = p.steps ++ rel.map .name
  | [], p, _, _ => (List.append_nil p.steps).symm
  | name :: rel, p, hp, h => by
    obtain ⟨hname, hrel⟩ := List.forall_mem_cons.1 h
    have hchild := (child_ends (isSegment_of_isEntryName hname) hp).1
    have hrest : ((p.child name).descend rel).steps = (p.child name).steps ++ rel.map .name :=
      steps_descend hchild hrel
    rw [steps_child hname hp, List.append_assoc] at hrest
    exact hrest

theorem fileName_descend {rel : List String} {name : String} (hp : p.text ≠ "")
    (h : ∀ n ∈ rel ++ [name], isEntryName n = true) : (p.descend (rel ++ [name])).fileName = name := by
  have hlast : (p.descend (rel ++ [name])).steps.getLast? = some (.name name) := by
    rw [steps_descend hp h, List.map_append, List.map_singleton, ← List.append_assoc, List.getLast?_concat]
  rw [Path.fileName, Path.fileName?, hlast]
  rfl

theorem fileName_pathTo {loc : Location} {name : String} (h : ∀ n ∈ loc ++ [name], isEntryName n = true) :
    (pathTo (loc ++ [name])).fileName = name := by
  have hlast : (pathTo (loc ++ [name])).steps.getLast? = some (.name name) := by
    rw [steps_pathTo h, List.map_append, List.map_singleton, ← List.cons_append, List.getLast?_concat]
  rw [Path.fileName, Path.fileName?, hlast]
  rfl

/-- What a walk that follows no links finds beneath a folder is **called by the last name of its location**. -/
theorem fileName_of_mem_filesBeneath {d : Disk} {o : WalkOptions} {root : Path} {loc : Location} {f : Entry}
    (h : d.FollowsNone o.followLinks root) (hroot : d.isFile root = false) (hp : p ∈ d.filesBeneath o root)
    (hentry : d.entry? p = .ok (loc, f)) : p.fileName = (pathTo loc).fileName := by
  obtain ⟨top, e, rel, htop, hrel, rfl, rfl⟩ := exists_names_of_mem_filesBeneath h hp hentry
  have hlands := (entry?_lands htop).1
  obtain ⟨⟨bytes, hfile⟩, -⟩ := (mem_fileLocations_iff (d.tidy.at? hlands)).1 hrel
  have hnames := d.tidy.isEntryName (entry?_lands hentry).1
  rcases List.eq_nil_or_concat rel with rfl | ⟨front, name, rfl⟩
  · -- the walk would have started at a file
    rw [Entry.at?] at hfile
    rw [isFile, htop, Option.some.inj hfile] at hroot
    cases hroot
  · rw [List.concat_eq_append] at hnames ⊢
    obtain ⟨htext, -⟩ := walk_of_entry? htop
    rw [fileName_descend htext fun n hn => hnames n (List.mem_append_right top hn),
      ← List.append_assoc, fileName_pathTo]
    rw [List.append_assoc]
    exact hnames

end Disk

end TreeIndex
