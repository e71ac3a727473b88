import Mathlib.Data.List.Infix
import TreeIndex.Definitions.Resolution
import TreeIndex.Proofs.Disk.Named

/-!
# The nearest root marker

Where a search for the root marker ends, on a disk without links.

* `parent?_pathTo`, `ancestors_pathTo`: the paths above the path to a location are **the paths to what it begins with**;
* `child_pathTo`: a name that follows the path to a location;
* `HoldsMarker`, `NearestMarker`: a folder that holds a marker, and the deepest such folder above a location;
* `findMarker?_eq_ok_iff`, `findMarker?_eq_error_iff`: the search finds **the marker in the nearest folder**, and fails
  exactly if no folder holds one; `MarkerFound`, `markerFound`: both;
* `isFile_of_findMarker?`: what is found is a file, on any disk.
-/

namespace TreeIndex

namespace Disk

variable {loc : Location} {name : String}

/-! ## 1. Above the path to a location -/

theorem joinSegments_map : ∀ loc : Location, joinSegments (loc.map String.toList) = ("/".intercalate loc).toList
  | [] => rfl
  | [name] => by
    rw [String.intercalate_singleton]
    rfl
  | name :: next :: rest => by
    have ih := joinSegments_map (next :: rest)
    have hne : (next :: rest).map String.toList ≠ [] := List.cons_ne_nil next.toList _
    rw [List.map_cons, joinSegments_cons hne, ih, String.intercalate_cons_cons, String.toList_append,
      String.toList_append, List.append_assoc]
    rfl

/-- Names of entries **all say something**. -/
theorem dropSilent_map (h : ∀ n ∈ loc, isEntryName n = true) :
    Path.dropSilent (loc.map String.toList) = loc.map String.toList := by
  refine List.rdropWhile_eq_self_iff.2 fun hne => ?_
  obtain ⟨n, hn, hlast⟩ := List.mem_map.1 (List.getLast_mem hne)
  obtain ⟨-, hdot, -⟩ := isEntryName_iff.1 (h n hn)
  have hsays : saysSomething n.toList = true := by
    have hdot' : n.toList ≠ ['.'] := fun he => hdot (String.toList_injective he)
    simp [saysSomething, toList_ne_nil (h n hn), hdot']
  rw [← hlast, hsays]
  decide

/-- The parent of the path to a location is **the path to the location above it**. -/
theorem parent?_pathTo (h : ∀ n ∈ loc ++ [name], isEntryName n = true) :
    (pathTo (loc ++ [name])).parent? = some (pathTo loc) := by
  have hlead : (pathTo (loc ++ [name])).lead = .root := by
    rw [Path.lead, toList_pathTo]
    rfl
  have hne : loc ++ [name] ≠ [] := List.append_ne_nil_of_right_ne_nil loc (List.cons_ne_nil name [])
  have htail : (pathTo (loc ++ [name])).tail = (loc ++ [name]).map String.toList := by
    rw [Path.tail, toList_pathTo]
    exact segments_intercalate hne h
  have hloc : Path.dropSilent (loc.map String.toList) = loc.map String.toList :=
    dropSilent_map fun n hn => h n (List.mem_append_left _ hn)
  obtain ⟨first, rest, hcons⟩ := List.exists_cons_of_ne_nil (l := (loc ++ [name]).map String.toList) (by simp)
  have hlast : (first :: rest).dropLast = loc.map String.toList := by
    rw [← hcons, List.map_append, List.map_singleton, List.dropLast_concat]
  unfold Path.parent?
  rw [htail, dropSilent_map h, hcons]
  dsimp only
  rw [hlead, hlast, hloc, joinSegments_map, pathTo, Option.some.injEq, Path.mk.injEq, ← String.toList_inj,
    String.toList_ofList, String.toList_append]
  rfl

theorem length_le_intercalate : ∀ {loc : Location}, (∀ n ∈ loc, isEntryName n = true) →
    loc.length ≤ ("/".intercalate loc).toList.length
  | [], _ => Nat.zero_le _
  | [name], h => by
    rw [String.intercalate_singleton]
    exact List.length_pos_of_ne_nil (toList_ne_nil (h name List.mem_cons_self))
  | name :: next :: rest, h => by
    have ih := length_le_intercalate fun n hn => h n (List.mem_cons_of_mem name hn)
    rw [String.intercalate_cons_cons, String.toList_append, String.toList_append, List.length_append,
      List.length_append, List.length_cons]
    have hslash : "/".toList.length = 1 := rfl
    omega

/-- **The paths above** the path to a location are the paths to what it begins with, from the longest on. -/
theorem ancestorsUpTo_pathTo (limit : Nat) : ∀ {loc : Location}, loc.length < limit →
    (∀ n ∈ loc, isEntryName n = true) → Path.ancestorsUpTo limit (pathTo loc) = loc.inits.reverse.map pathTo := by
  induction limit with
  | zero => exact fun hlimit => absurd hlimit (Nat.not_lt_zero _)
  | succ limit ih =>
    intro loc hlimit h
    rcases List.eq_nil_or_concat loc with rfl | ⟨above, name, rfl⟩
    · rfl
    · rw [List.concat_eq_append] at hlimit h ⊢
      rw [List.length_append, List.length_singleton, Nat.succ_lt_succ_iff] at hlimit
      have habove := ih hlimit fun n hn => h n (List.mem_append_left _ hn)
      unfold Path.ancestorsUpTo
      rw [parent?_pathTo h]
      dsimp only
      rw [habove, List.inits_append]
      simp

theorem ancestors_pathTo (h : ∀ n ∈ loc, isEntryName n = true) :
    (pathTo loc).ancestors = loc.inits.reverse.map pathTo := by
  have hlength : loc.length ≤ (pathTo loc).text.length := by
    rw [← String.length_toList, toList_pathTo, List.length_cons]
    exact Nat.le_succ_of_le (length_le_intercalate h)
  exact ancestorsUpTo_pathTo _ (Nat.lt_succ_of_le hlength) h

theorem joinSegments_concat {s : List Char} : ∀ {ss : List (List Char)}, ss ≠ [] →
    joinSegments (ss ++ [s]) = joinSegments ss ++ '/' :: s
  | [t], _ => rfl
  | t :: next :: rest, _ => by
    have ih := joinSegments_concat (s := s) (List.cons_ne_nil next rest)
    rw [List.cons_append, joinSegments_cons (List.append_ne_nil_of_left_ne_nil (List.cons_ne_nil next rest) [s]), ih,
      joinSegments_cons (List.cons_ne_nil next rest), List.append_assoc]
    rfl

/-- A name that follows the path to a location **leads on from there**. -/
theorem child_pathTo (hname : isEntryName name = true) (h : ∀ n ∈ loc, isEntryName n = true) :
    (pathTo loc).child name = pathTo (loc ++ [name]) := by
  have hrel := isAbsolute_name (isSegment_of_isEntryName hname)
  have hempty : (pathTo loc).text.isEmpty = false := by
    rw [String.isEmpty_eq_false_iff]
    exact text_pathTo_ne_empty loc
  rw [Path.child, Path.join, hrel, hempty, if_neg Bool.false_ne_true, Bool.false_or, toList_pathTo]
  by_cases hloc : loc = []
  · subst hloc
    rw [if_pos (by decide), List.nil_append, pathTo, pathTo, String.intercalate_singleton]
    rfl
  · have hlast : ('/' :: ("/".intercalate loc).toList).getLast? ≠ some '/' := by
      rw [List.getLast?_cons_of_ne_nil (intercalate_ne_nil hloc h)]
      exact getLast?_intercalate h
    rw [if_neg (by simpa using hlast), Path.mk.injEq, ← String.toList_inj, String.toList_append, String.toList_append,
      toList_pathTo, toList_pathTo, ← joinSegments_map (loc ++ [name]), List.map_append, List.map_singleton,
      joinSegments_concat (by simpa using hloc), joinSegments_map, List.append_assoc]
    rfl

end Disk

/-! ## 2. Folders that hold a marker -/

open Disk (Location pathTo)

/-- A folder that **holds a root marker**: a file that is called so. -/
def HoldsMarker (d : Disk) (s : Settings) (dir : Location) : Prop :=
  (∃ es, d.at? dir = some (.folder es)) ∧ d.isFile ((pathTo dir).child s.markerName) = true

/-- The **deepest folder** at a location or above it that holds a marker. A file is no folder, so above one the search
    starts in the folder that it lies in. -/
structure NearestMarker (d : Disk) (s : Settings) (loc dir : Location) : Prop where
  above : dir <+: loc
  holds : HoldsMarker d s dir
  deepest : ∀ other, other <+: loc → HoldsMarker d s other → other <+: dir

/-- The folder that a search from an entry **starts in**. -/
def searchFolder (loc : Location) : Disk.Entry → Location
  | .file _ => loc.dropLast
  | _ => loc

/-- Of what a location begins with, **the longest** part that has a property. -/
theorem find?_inits {P : Location → Bool} {loc dir : Location} : loc.inits.reverse.find? P = some dir ↔
    dir <+: loc ∧ P dir = true ∧ ∀ other, other <+: loc → P other = true → other <+: dir := by
  induction loc using List.reverseRecOn with
  | nil =>
    rw [List.inits, List.reverse_singleton, List.find?_singleton, Option.ite_none_right_eq_some, Option.some.injEq]
    constructor
    · rintro ⟨hP, rfl⟩
      exact ⟨List.prefix_rfl, hP, fun other hother _ => hother⟩
    · rintro ⟨hdir, hP, -⟩
      obtain rfl := List.prefix_nil.1 hdir
      exact ⟨hP, rfl⟩
  | append_singleton loc name ih =>
    have hinits : (loc ++ [name]).inits.reverse = (loc ++ [name]) :: loc.inits.reverse := by
      rw [List.inits_append]
      simp
    rw [hinits]
    by_cases hwhole : P (loc ++ [name]) = true
    · rw [List.find?_cons_of_pos hwhole, Option.some.injEq]
      constructor
      · rintro rfl
        exact ⟨List.prefix_rfl, hwhole, fun other hother _ => hother⟩
      · rintro ⟨hdir, -, hdeepest⟩
        exact (hdeepest _ List.prefix_rfl hwhole).eq_of_length_le hdir.length_le
    · rw [List.find?_cons_of_neg hwhole, ih]
      constructor
      · intro ⟨hdir, hP, hdeepest⟩
        refine ⟨List.prefix_concat_iff.2 (Or.inr hdir), hP, fun other hother hholds => ?_⟩
        rcases List.prefix_concat_iff.1 hother with rfl | hother
        · exact absurd hholds hwhole
        · exact hdeepest other hother hholds
      · intro ⟨hdir, hP, hdeepest⟩
        rcases List.prefix_concat_iff.1 hdir with rfl | hdir
        · exact absurd hP hwhole
        · exact ⟨hdir, hP, fun other hother => hdeepest other (List.prefix_concat_iff.2 (Or.inr hother))⟩

section Search

variable {d : Disk} {s : Settings} {p marker : Path} {loc dir : Location} {e : Disk.Entry} {fault : Fault}

/-- Above a location **there are only folders**. -/
theorem exists_folder_of_prefix (hat : d.at? loc = some e) (hdir : dir <+: loc) (hne : dir ≠ loc) :
    ∃ es, d.at? dir = some (.folder es) := by
  obtain ⟨rest, rfl⟩ := hdir
  cases rest with
  | nil => exact absurd (List.append_nil dir).symm hne
  | cons name rest =>
    obtain ⟨es, -, hes, -⟩ := Disk.exists_folder_of_at? hat
    exact ⟨es, hes⟩

/-- A search goes through **the folders at a location and above it**. -/
theorem prefix_searchFolder_iff (hat : d.at? loc = some e) (hlink : ∀ target, e ≠ .link target) :
    dir <+: searchFolder loc e ↔ dir <+: loc ∧ ∃ es, d.at? dir = some (.folder es) := by
  cases e with
  | link target => exact absurd rfl (hlink target)
  | folder es =>
    refine ⟨fun hdir => ⟨hdir, ?_⟩, And.left⟩
    by_cases hsame : dir = loc
    · exact ⟨es, hsame ▸ hat⟩
    · exact exists_folder_of_prefix hat hdir hsame
  | file bytes =>
    rcases List.eq_nil_or_concat loc with rfl | ⟨above, name, rfl⟩
    · -- the root of the disk is no file
      cases hat
    rw [List.concat_eq_append] at hat ⊢
    rw [searchFolder, List.dropLast_concat]
    constructor
    · intro hdir
      refine ⟨List.prefix_concat_iff.2 (Or.inr hdir), ?_⟩
      obtain ⟨es, -, habove, -⟩ := Disk.exists_folder_of_at? hat
      by_cases hsame : dir = above
      · exact ⟨es, hsame ▸ habove⟩
      · exact exists_folder_of_prefix habove hdir hsame
    · rintro ⟨hdir, es, hes⟩
      rcases List.prefix_concat_iff.1 hdir with rfl | hdir
      · cases hes.symm.trans hat
      · exact hdir

theorem prefix_searchFolder_holds_iff (hat : d.at? loc = some e) (hlink : ∀ target, e ≠ .link target) :
    dir <+: searchFolder loc e ∧ d.isFile ((pathTo dir).child s.markerName) = true ↔
      dir <+: loc ∧ HoldsMarker d s dir := by
  rw [prefix_searchFolder_iff hat hlink, HoldsMarker, and_assoc]

/-- A folder holds a marker if **a file lies in it that is called so**. -/
theorem holdsMarker_iff_at? (hd : d.LinkFree) (hname : Disk.isEntryName s.markerName = true)
    (hfits : ∀ name ∈ dir ++ [s.markerName], Disk.Fits name) :
    HoldsMarker d s dir ↔ ∃ bytes, d.at? (dir ++ [s.markerName]) = some (.file bytes) := by
  constructor
  · rintro ⟨⟨es, hes⟩, hfile⟩
    have hdir := d.tidy.isEntryName hes
    rw [Disk.child_pathTo hname hdir] at hfile
    obtain ⟨found, bytes, hentry⟩ := Disk.isFile_iff.1 hfile
    have hnames : ∀ n ∈ dir ++ [s.markerName], Disk.isEntryName n = true :=
      List.forall_mem_append.2 ⟨hdir, List.forall_mem_singleton.2 hname⟩
    obtain rfl := Disk.location_of_entry?_pathTo hd hnames hentry
    exact ⟨bytes, (Disk.entry?_lands hentry).1⟩
  · intro ⟨bytes, hat⟩
    obtain ⟨es, -, hes, -⟩ := Disk.exists_folder_of_at? hat
    refine ⟨⟨es, hes⟩, ?_⟩
    rw [Disk.child_pathTo hname (d.tidy.isEntryName hes)]
    exact Disk.isFile_iff.2 ⟨_, bytes, Disk.entry?_pathTo_of_fits hd hat hfits⟩

/-! ## 3. The search -/

/-- What is found as the root marker **is a file**. -/
theorem isFile_of_findMarker? (h : findMarker? d s p = .ok marker) : d.isFile marker = true := by
  unfold findMarker? at h
  dsimp only at h
  split at h
  · rename_i found hfound
    obtain rfl := Except.ok.inj h
    exact List.find?_some hfound
  · cases h

section Starts

variable (hd : d.LinkFree) (hhere : d.HereFits) (h : d.entry? p = .ok (loc, e))

include hd hhere h

/-- A search starts **in the folder of its start**. -/
theorem searchStart_canonical : searchStart d (d.canonical p) = pathTo (searchFolder loc e) := by
  obtain ⟨hat, hlink⟩ := Disk.entry?_lands h
  have hentry := Disk.entry?_canonical hd hhere h
  rw [Disk.canonical_eq_pathTo h] at hentry ⊢
  unfold searchStart Disk.isFile
  rw [hentry]
  cases e with
  | link target => exact absurd rfl (hlink target)
  | folder es => rfl
  | file bytes =>
    rcases List.eq_nil_or_concat loc with rfl | ⟨above, name, rfl⟩
    · cases hat
    · rw [List.concat_eq_append] at hat ⊢
      dsimp only
      rw [if_pos rfl, Disk.parent?_pathTo (d.tidy.isEntryName hat), searchFolder, List.dropLast_concat]
      rfl

/-- What the search looks for: **the first folder**, from its start upwards, with a marker in it. -/
theorem findMarker?_eq_find? : findMarker? d s p =
    (((searchFolder loc e).inits.reverse.find? fun dir => d.isFile ((pathTo dir).child s.markerName)).elim
      (.error (.discovery (.noMarker s.markerName (pathTo (searchFolder loc e)))))
      fun dir => .ok ((pathTo dir).child s.markerName)) := by
  obtain ⟨hat, hlink⟩ := Disk.entry?_lands h
  obtain ⟨-, es, hes⟩ := (prefix_searchFolder_iff hat hlink).1 List.prefix_rfl
  unfold findMarker?
  rw [searchStart_canonical hd hhere h]
  dsimp only
  rw [Disk.ancestors_pathTo (d.tidy.isEntryName hes), List.map_map, List.find?_map]
  simp only [Function.comp_def]
  cases (searchFolder loc e).inits.reverse.find? fun dir => d.isFile ((pathTo dir).child s.markerName) <;> rfl

/-- The search finds **the marker in the nearest folder** that holds one. -/
theorem findMarker?_eq_ok_iff : findMarker? d s p = .ok marker ↔
    ∃ dir, NearestMarker d s loc dir ∧ marker = (pathTo dir).child s.markerName := by
  obtain ⟨hat, hlink⟩ := Disk.entry?_lands h
  rw [findMarker?_eq_find? hd hhere h]
  constructor
  · intro hfound
    cases hdir : (searchFolder loc e).inits.reverse.find? fun dir => d.isFile ((pathTo dir).child s.markerName) with
    | none =>
      rw [hdir] at hfound
      cases hfound
    | some dir =>
      rw [hdir] at hfound
      obtain ⟨hbegins, hfile, hdeepest⟩ := find?_inits.1 hdir
      obtain ⟨habove, hmarker⟩ := (prefix_searchFolder_holds_iff hat hlink).1 ⟨hbegins, hfile⟩
      refine ⟨dir, ⟨habove, hmarker, fun other hother hholds' => ?_⟩, (Except.ok.inj hfound).symm⟩
      obtain ⟨hother, hfile'⟩ := (prefix_searchFolder_holds_iff hat hlink).2 ⟨hother, hholds'⟩
      exact hdeepest other hother hfile'
  · rintro ⟨dir, hnearest, rfl⟩
    obtain ⟨hbegins, hfile⟩ := (prefix_searchFolder_holds_iff hat hlink).2 ⟨hnearest.above, hnearest.holds⟩
    rw [find?_inits.2 ⟨hbegins, hfile, fun other hother hfile' => ?_⟩]
    · rfl
    · obtain ⟨hother, hholds'⟩ := (prefix_searchFolder_holds_iff hat hlink).1 ⟨hother, hfile'⟩
      exact hnearest.deepest other hother hholds'

/-- The search fails **exactly if no folder holds a marker**. -/
theorem findMarker?_eq_error_iff : findMarker? d s p = .error fault ↔
    fault = .discovery (.noMarker s.markerName (pathTo (searchFolder loc e))) ∧
      ∀ dir, dir <+: loc → ¬ HoldsMarker d s dir := by
  obtain ⟨hat, hlink⟩ := Disk.entry?_lands h
  rw [findMarker?_eq_find? hd hhere h]
  constructor
  · intro hfailed
    cases hdir : (searchFolder loc e).inits.reverse.find? fun dir => d.isFile ((pathTo dir).child s.markerName) with
    | some dir =>
      rw [hdir] at hfailed
      cases hfailed
    | none =>
      rw [hdir] at hfailed
      refine ⟨(Except.error.inj hfailed).symm, fun dir hdir' hmarker => ?_⟩
      obtain ⟨hbegins, hfile⟩ := (prefix_searchFolder_holds_iff hat hlink).2 ⟨hdir', hmarker⟩
      exact List.find?_eq_none.1 hdir dir (List.mem_reverse.2 ((List.mem_inits _ _).2 hbegins)) hfile
  · rintro ⟨rfl, hnone⟩
    rw [List.find?_eq_none.2 fun dir hdir hfile => ?_]
    · rfl
    · have hstands := (List.mem_inits _ _).1 (List.mem_reverse.1 hdir)
      obtain ⟨habove, hmarker⟩ := (prefix_searchFolder_holds_iff hat hlink).1 ⟨hstands, hfile⟩
      exact hnone dir habove hmarker

end Starts

/-- **Where the search for the root marker ends**, seen from a location. -/
structure MarkerFound (d : Disk) (s : Settings) (start : Path) (loc : Location) : Prop where
  found : ∀ marker, findMarker? d s start = .ok marker ↔
    ∃ dir, NearestMarker d s loc dir ∧ marker = (pathTo dir).child s.markerName
  /-- It fails exactly if no folder holds a marker, and with that fault. -/
  fails : (∃ fault, findMarker? d s start = .error fault) ↔ ∀ dir, dir <+: loc → ¬ HoldsMarker d s dir
  fault : ∀ fault, findMarker? d s start = .error fault →
    ∃ folder, fault = .discovery (.noMarker s.markerName folder)
  /-- What is held is a file of this name, where that is a name that a file can have. -/
  plain : Disk.isEntryName s.markerName = true → Disk.Fits s.markerName → ∀ dir, dir <+: loc →
    (HoldsMarker d s dir ↔ ∃ bytes, d.at? (dir ++ [s.markerName]) = some (.file bytes)) ∧
      (pathTo dir).child s.markerName = pathTo (dir ++ [s.markerName])

theorem markerFound (s : Settings) (hd : d.LinkFree) (hhere : d.HereFits) (h : d.entry? p = .ok (loc, e)) :
    MarkerFound d s p loc where
  found _ := findMarker?_eq_ok_iff hd hhere h
  fails := by
    simp only [findMarker?_eq_error_iff hd hhere h, exists_eq_left]
  fault fault hfault := ⟨_, ((findMarker?_eq_error_iff hd hhere h).1 hfault).1⟩
  plain hname hfits dir hdir := by
    have hmem : ∀ name ∈ dir, name ∈ loc := fun name hmem => hdir.subset hmem
    refine ⟨holdsMarker_iff_at? hd hname (List.forall_mem_append.2 ⟨fun name hname => ?_, ?_⟩), ?_⟩
    · exact Disk.fits_of_entry? hd hhere h name (hmem name hname)
    · exact List.forall_mem_singleton.2 hfits
    · exact Disk.child_pathTo hname fun name hname => d.tidy.isEntryName (Disk.entry?_lands h).1 name (hmem name hname)

end Search

end TreeIndex
