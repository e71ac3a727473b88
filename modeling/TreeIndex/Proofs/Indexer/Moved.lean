import TreeIndex.Proofs.Definitions.Marker
import TreeIndex.Proofs.Indexer.Life

/-!
# Indexers that start elsewhere

An index does not depend on where in a tree the search for its root began.

* `Indexer.movedTo`: the same indexer, started elsewhere; `answer_movedTo`: it answers the same, if the same is
  resolved from there;
* `Request.disk?`, `run_movedTo`: so **whole runs are the same**;
* `InOneTree`: two paths that have one nearest marker above them; `resolve?_of_inOneTree`: from both the same is
  resolved;
* `nearest_marker`: on a disk without links, the nearest marker is found, and **nothing else** of where one starts
  matters.
-/

namespace TreeIndex

/-! ## 1. Requests -/

namespace Indexer

/-- The same indexer, **started elsewhere**. -/
def movedTo (x : Indexer) (start : Path) : Indexer :=
  { x with start := start }

variable {x : Indexer} {d : Disk} {q : Path}

/-- Going through the tree **does not look at the start**. -/
theorem build_movedTo (ds : Definitions) :
    (x.movedTo q).build d ds = ((x.build d ds).1, (x.build d ds).2.movedTo q) := by
  rcases build_cases (d := d) (x := x) ds with ⟨ix, hix, hb⟩ | ⟨fault, hf, hb⟩
  · rw [hb]
    unfold build
    rw [movedTo]
    dsimp only
    rw [hix]
    rfl
  · rw [hb]
    unfold build
    rw [movedTo]
    dsimp only
    rw [hf]
    rfl

variable (hsame : Definitions.resolve? d x.settings q = Definitions.resolve? d x.settings x.start)

include hsame

theorem resolve_movedTo : (x.movedTo q).resolve d = ((x.resolve d).1, (x.resolve d).2.movedTo q) := by
  unfold resolve movedTo
  dsimp only
  rw [hsame]
  cases x.state.definitions? with
  | some ds => rfl
  | none => cases Definitions.resolve? d x.settings x.start <;> rfl

theorem index_movedTo : (x.movedTo q).index d = ((x.index d).1, (x.index d).2.movedTo q) := by
  have hstate : (x.movedTo q).state = x.state := rfl
  unfold index
  rw [resolve_movedTo hsame, hstate]
  cases x.state with
  | indexed ix => rfl
  | _ =>
    obtain ⟨r, y⟩ := x.resolve d
    cases r with
    | error fault => rfl
    | ok ds => exact build_movedTo ds

theorem refresh_movedTo : (x.movedTo q).refresh d = ((x.refresh d).1, (x.refresh d).2.movedTo q) := by
  have hresolve : Definitions.resolve? d (x.movedTo q).settings (x.movedTo q).start =
      Definitions.resolve? d x.settings x.start := hsame
  unfold refresh
  rw [hresolve]
  cases Definitions.resolve? d x.settings x.start with
  | error fault => rfl
  | ok ds => exact build_movedTo ds

end Indexer

/-- The disk that a request looks at. -/
def Request.disk? : Request → Option Disk
  | .resolve d => some d
  | .index d => some d
  | .refresh d => some d
  | .view => none

/-- A request **answers the same elsewhere**, where the same is resolved. -/
theorem Indexer.answer_movedTo {x : Indexer} {q : Path} {r : Request} (hsame : ∀ d, r.disk? = some d →
    Definitions.resolve? d x.settings q = Definitions.resolve? d x.settings x.start) :
    (x.movedTo q).answer r = ((x.answer r).1, (x.answer r).2.movedTo q) := by
  cases r with
  | resolve d => rw [answer, resolve_movedTo (hsame d rfl), answer]
  | index d => rw [answer, index_movedTo (hsame d rfl), answer]
  | refresh d => rw [answer, refresh_movedTo (hsame d rfl), answer]
  | view => rfl

/-! ## 2. Runs -/

/-- **A run is a run from elsewhere**, with the same answers, where the same is resolved on every disk that it looks
    at. -/
theorem run_movedTo {s : Settings} {p q : Path} {cs : List Call} {x : Indexer} (h : Run s p cs x)
    (hsame : ∀ c ∈ cs, ∀ d, c.request.disk? = some d → Definitions.resolve? d s q = Definitions.resolve? d s p) :
    Run s q cs (x.movedTo q) := by
  induction h with
  | fresh => exact .fresh
  | @call cs x h r ih =>
    have hm := remembers_of_run h
    have hrun := (ih fun c hc => hsame c (List.mem_append_left _ hc)).call r
    rw [Indexer.answer_movedTo fun d hdisk => ?_] at hrun
    · exact hrun
    · rw [hm.settings_eq, hm.start_eq]
      exact hsame _ (List.mem_append_right cs List.mem_cons_self) d hdisk

/-! ## 3. One tree -/

open Disk (Location)

/-- Two paths **in one tree**: both lead to something at or beneath a folder that holds a marker, and no other folder
    between it and either of them holds one. -/
def InOneTree (d : Disk) (s : Settings) (p q : Path) : Prop :=
  ∃ dir loc e loc' e', d.entry? p = .ok (loc, e) ∧ d.entry? q = .ok (loc', e') ∧ HoldsMarker d s dir ∧
    dir <+: loc ∧ dir <+: loc' ∧
      ∀ other, dir <+: other → (other <+: loc ∨ other <+: loc') → HoldsMarker d s other → other = dir

/-- A folder that holds a marker is **the nearest one** if no other between it and a location does. -/
theorem nearestMarker_of_between {d : Disk} {s : Settings} {dir loc : Location} (hholds : HoldsMarker d s dir)
    (hdir : dir <+: loc) (hbetween : ∀ other, dir <+: other → other <+: loc → HoldsMarker d s other → other = dir) :
    NearestMarker d s loc dir := by
  refine ⟨hdir, hholds, fun other hother hmarker => ?_⟩
  rcases List.prefix_or_prefix_of_prefix hother hdir with habove | hbeneath
  · exact habove
  · rw [hbetween other hbeneath hother hmarker]

/-- In one tree **the same is resolved** from everywhere. -/
theorem resolve?_of_inOneTree {d : Disk} {s : Settings} {p q : Path} (hd : d.LinkFree) (hhere : d.HereFits)
    (h : InOneTree d s p q) : Definitions.resolve? d s q = Definitions.resolve? d s p := by
  obtain ⟨dir, loc, e, loc', e', hp, hq, hholds, hdir, hdir', hbetween⟩ := h
  have hnear := nearestMarker_of_between hholds hdir fun other hbeneath hother =>
    hbetween other hbeneath (Or.inl hother)
  have hnear' := nearestMarker_of_between hholds hdir' fun other hbeneath hother =>
    hbetween other hbeneath (Or.inr hother)
  have hfound := (findMarker?_eq_ok_iff hd hhere hp).2 ⟨dir, hnear, rfl⟩
  have hfound' := (findMarker?_eq_ok_iff hd hhere hq).2 ⟨dir, hnear', rfl⟩
  unfold Definitions.resolve?
  rw [hfound, hfound']

/-- **The nearest marker, and nothing else.** On a disk without links, the search finds the marker in the deepest folder
    above its start; and of two starts in one tree, what is resolved is the same, and a run from one of them is a run
    from the other: with the same answers, definitions and index. -/
theorem nearest_marker {d : Disk} (s : Settings) (hd : d.LinkFree) (hhere : d.HereFits) :
    (∀ p loc e, d.entry? p = .ok (loc, e) → MarkerFound d s p loc) ∧
      ∀ p q, InOneTree d s p q → Definitions.resolve? d s q = Definitions.resolve? d s p ∧
        ∀ cs x, Run s p cs x → (∀ c ∈ cs, ∀ d', c.request.disk? = some d' → d' = d) → Run s q cs (x.movedTo q) := by
  refine ⟨fun p loc e h => markerFound s hd hhere h, fun p q h => ?_⟩
  have hsame := resolve?_of_inOneTree hd hhere h
  refine ⟨hsame, fun cs x hrun hdisks => run_movedTo hrun fun c hc d' hdisk => ?_⟩
  rw [hdisks c hc d' hdisk, hsame]

/-! ## 4. A tree in a tree -/

/-- A tree with one text in a folder of its own, and **another tree within**. -/
def nestedEntries : List (String × Disk.Entry) :=
  insertEntry "own" (.folder [("root.config", .file "".toUTF8)])
    (insertEntry "sub" (.folder [("b.txt", .file "".toUTF8)]) textEntries)

theorem tidy_nestedEntries : (Disk.Entry.folder nestedEntries).Tidy := by
  have htidy (name : String) (hname : Disk.isEntryName name = true) :
      (Disk.Entry.folder [(name, .file "".toUTF8)]).Tidy :=
    Disk.tidy_folder_iff.2 ⟨List.pairwise_singleton _ _, fun x hx => by
      rw [List.mem_singleton.1 hx]
      exact ⟨hname, trivial⟩⟩
  exact (tidy_textEntries.insert (by decide +kernel) (htidy "b.txt" (by decide +kernel))).insert (by decide +kernel)
    (htidy "root.config" (by decide +kernel))

/-- A disk with both. -/
def nestedDisk : Disk := ⟨nestedEntries, [], tidy_nestedEntries⟩

theorem linkFree_nestedDisk : nestedDisk.LinkFree := by
  refine Disk.linkFreeEntries_iff.2 fun x hx => ?_
  have hfolder (name : String) : (Disk.Entry.folder [(name, .file "".toUTF8)]).LinkFree := ⟨trivial, trivial⟩
  rcases mem_insertEntry hx with rfl | hx
  · exact hfolder "root.config"
  rcases mem_insertEntry hx with rfl | hx
  · exact hfolder "b.txt"
  · exact Disk.linkFreeEntries_iff.1 (Disk.linkFree_of_files files_textEntries) x hx

theorem hereFits_nestedDisk : nestedDisk.HereFits :=
  fun _ hname => absurd hname List.not_mem_nil

theorem exists_entry?_nestedDisk {p : Path} {loc : Location}
    (h : (nestedDisk.entry? p).toOption.map Prod.fst = some loc) : ∃ e, nestedDisk.entry? p = .ok (loc, e) := by
  obtain ⟨⟨found, e⟩, hentry, rfl⟩ := Option.map_eq_some_iff.1 h
  exact ⟨e, Outcome.toOption_eq_some.1 hentry⟩

/-- Both trees **have a marker**. -/
theorem holdsMarker_nestedDisk : ∀ dir ∈ [[], ["own"]], HoldsMarker nestedDisk {} dir := by
  have hfits : ∀ dir ∈ [[], ["own"]], ∀ name ∈ dir ++ [Settings.markerName {}], Disk.Fits name := by
    decide +kernel
  have hnames : ∀ dir ∈ [[], ["own"]], ∀ name ∈ dir ++ [Settings.markerName {}], Disk.isEntryName name = true := by
    decide +kernel
  have hfiles : ∀ dir ∈ [[], ["own"]], nestedDisk.isFile (Disk.pathTo (dir ++ [Settings.markerName {}])) = true := by
    decide +kernel
  intro dir hdir
  obtain ⟨loc, bytes, hentry⟩ := Disk.isFile_iff.1 (hfiles dir hdir)
  obtain rfl := Disk.location_of_entry?_pathTo linkFree_nestedDisk (hnames dir hdir) hentry
  exact (holdsMarker_iff_at? linkFree_nestedDisk (by decide +kernel) (hfits dir hdir)).2
    ⟨bytes, (Disk.entry?_lands hentry).1⟩

theorem inOneTree_nestedDisk : InOneTree nestedDisk {} ⟨"/"⟩ ⟨"/sub/b.txt"⟩ := by
  obtain ⟨e, hroot⟩ : ∃ e, nestedDisk.entry? ⟨"/"⟩ = .ok ([], e) := exists_entry?_nestedDisk (by decide +kernel)
  obtain ⟨f, htext⟩ : ∃ f, nestedDisk.entry? ⟨"/sub/b.txt"⟩ = .ok (["sub", "b.txt"], f) :=
    exists_entry?_nestedDisk (by decide +kernel)
  refine ⟨[], [], e, ["sub", "b.txt"], f, hroot, htext, holdsMarker_nestedDisk [] List.mem_cons_self, List.nil_prefix,
    List.nil_prefix, fun other _ hother hholds => ?_⟩
  have hmem : other ∈ [[], ["sub"], ["sub", "b.txt"]] := by
    rcases hother with hnil | hother
    · rw [List.prefix_nil.1 hnil]
      exact List.mem_cons_self
    · exact (List.mem_inits _ _).2 hother
  have hnone : ∀ other ∈ [["sub"], ["sub", "b.txt"]],
      nestedDisk.isFile ((Disk.pathTo other).child (Settings.markerName {})) = false := by
    decide +kernel
  rcases List.mem_cons.1 hmem with rfl | hmem
  · rfl
  · exact absurd hholds.2 (Bool.eq_false_iff.1 (hnone other hmem))

/-- The tree within has a marker of its own, and from a text in a folder **the whole tree is indexed**. -/
theorem nearest_marker_nestedDisk : findMarker? nestedDisk {} ⟨"/own"⟩ = .ok ⟨"/own/root.config"⟩ ∧
    ∃ cs x, Run {} ⟨"/"⟩ cs x ∧ cs.map (·.request) = [.index nestedDisk] ∧
      Run {} ⟨"/sub/b.txt"⟩ cs (x.movedTo ⟨"/sub/b.txt"⟩) ∧ ∃ ix, x.view? = .ok ix ∧
        ix.scope.map (fun c => (c.kind, c.name)) = [(.file, "a"), (.file, "b"), (.item, "foo"), (.project, "")] := by
  obtain ⟨hfound, hmoved⟩ := nearest_marker {} linkFree_nestedDisk hereFits_nestedDisk
  constructor
  · obtain ⟨e, hown⟩ : ∃ e, nestedDisk.entry? ⟨"/own"⟩ = .ok (["own"], e) :=
      exists_entry?_nestedDisk (by decide +kernel)
    have hholds := holdsMarker_nestedDisk ["own"] (List.mem_cons_of_mem [] List.mem_cons_self)
    have hpath : (⟨"/own/root.config"⟩ : Path) = (Disk.pathTo ["own"]).child (Settings.markerName {}) := by
      decide +kernel
    rw [(hfound ⟨"/own"⟩ ["own"] e hown).found]
    exact ⟨["own"], ⟨List.prefix_rfl, hholds, fun other hother _ => hother⟩, hpath⟩
  · have hrun : (rootIndexer.index nestedDisk).2.view?.toOption.map (fun ix =>
        ix.scope.map fun c => (c.kind, c.name)) =
          some [(.file, "a"), (.file, "b"), (.item, "foo"), (.project, "")] := by
      decide +kernel
    obtain ⟨ix, hview, hscope⟩ := Option.map_eq_some_iff.1 hrun
    have hindex := Indexer.index_of_shown rfl (Outcome.toOption_eq_some.1 hview)
    have hfresh : Run {} ⟨"/"⟩ [] rootIndexer := .fresh
    have hindexed := hfresh.call (.index nestedDisk)
    rw [Indexer.answer_index hindex] at hindexed
    refine ⟨_, _, hindexed, rfl, ?_, ix, rfl, hscope⟩
    refine (hmoved _ _ inOneTree_nestedDisk).2 _ _ hindexed fun c hc d hdisk => ?_
    rw [List.mem_singleton.1 hc] at hdisk
    exact (Option.some.inj hdisk).symm

end TreeIndex
