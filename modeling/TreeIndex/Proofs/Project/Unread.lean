import TreeIndex.Proofs.Disk.Shape
import TreeIndex.Proofs.Index.Projects

/-!
# What a search for projects does not read

A search reads the configurations of the projects that it lists, and nothing else. So it lists the same on a disk
that differs **in a file that is none of these**.

* `load?_eq`: a configuration elsewhere says the same; `target?_eq_ok`, `leads_of_differsAt`: so dependencies mean
  the same projects;
* `withDependencies?_of_differsAt`: a search finds **the same projects in the same order**, if none of them lies in
  the file;
* `baseDependencies?_of_differsAt`, `Definitions.projects?_of_differsAt`: the same of what a base configuration
  depends on, and of all projects of a tree.
-/

namespace TreeIndex

open Disk (Location pathTo)

namespace Project

variable {d d' : Disk} {loc : Location} {marker : String} {first p q : Project} {qs out : List Project}

/-- A project lies **apart from a location**. -/
def LiesApart (loc : Location) (p : Project) : Prop :=
  p.path.same (pathTo loc) = false

theorem LiesApart.of_same (h : LiesApart loc q) (hsame : p.path.same q.path = true) : LiesApart loc p := by
  rw [LiesApart, Bool.eq_false_iff] at h ⊢
  exact fun hloc => h (Path.same_iff.2 ((Path.same_iff.1 hsame).symm.trans (Path.same_iff.1 hloc)))

/-! ## 1. Configurations elsewhere -/

/-- A project that was read and lies apart from a location **was not read there**. -/
theorem misses_of_load? {path : Path} (h : load? d marker path = .ok q) (hq : LiesApart loc q) :
    d.Misses loc path := by
  rw [LiesApart, (load?_eq_ok h).1] at hq
  exact Disk.misses_of_apart hq

theorem record_eq (h : d.DiffersAt d' loc) {path : Path} (hpath : d.Misses loc path) :
    ProjectRecord.load? d' path = ProjectRecord.load? d path := by
  rw [ProjectRecord.load?, ProjectRecord.load?, h.value?_eq hpath]

/-- **A configuration elsewhere** says the same. -/
theorem load?_eq (h : d.DiffersAt d' loc) {path : Path} (hpath : d.Misses loc path) :
    load? d' marker path = load? d marker path := by
  rw [load?, load?, h.canonical_eq, record_eq h hpath.canonical]

theorem dependencyPath?_eq (h : d.DiffersAt d' loc) (marker : String) (p : Project) (dependency : Dependency) :
    dependencyPath? d' marker p dependency = dependencyPath? d marker p dependency := by
  have hcandidate : candidate d' marker p dependency = candidate d marker p dependency := by
    rw [candidate, candidate, h.isFolder_eq]
  rw [dependencyPath?, dependencyPath?, hcandidate, h.isFile_eq, h.canonical_eq]

/-! ## 2. Searches -/

/-- A dependency means **the same project**, if that one lies elsewhere. -/
theorem target?_eq_ok (h : d.DiffersAt d' loc) {dependency : Dependency} (hq : LiesApart loc q)
    (htarget : target? d marker first p dependency = .ok q) : target? d' marker first p dependency = .ok q := by
  obtain ⟨path, hpath, htarget⟩ := Outcome.bind_eq_ok.1 htarget
  rw [← dependencyPath?_eq h] at hpath
  refine Outcome.bind_eq_ok.2 ⟨path, hpath, ?_⟩
  split at htarget
  · rename_i hsame
    rw [if_pos hsame]
    exact htarget
  · rename_i hne
    rw [if_neg hne, load?_eq h (misses_of_load? htarget hq)]
    exact htarget

theorem leads_of_differsAt (h : d.DiffersAt d' loc) (hqs : ∀ q ∈ qs, LiesApart loc q)
    (hleads : Leads d marker first p qs) : Leads d' marker first p qs := by
  obtain ⟨hlength, hall⟩ := List.forall₂_iff_get.1 hleads
  refine List.forall₂_iff_get.2 ⟨hlength, fun i hi hi' => ?_⟩
  exact target?_eq_ok h (hqs _ (List.get_mem qs ⟨i, hi'⟩)) (hall i hi hi')

/-- **A search finds the same projects in the same order**, if all of them lie elsewhere. -/
theorem withDependencies?_of_differsAt (h : d.DiffersAt d' loc) (hout : ∀ q ∈ out, LiesApart loc q)
    (hfound : withDependencies? d marker first = .ok out) : withDependencies? d' marker first = .ok out := by
  have hpreorder := preorder_of_withDependencies? hfound
  refine withDependencies?_eq_ok_iff.2 (hpreorder.imp fun p hp qs hqs => leads_of_differsAt h (fun q hq => ?_) hqs)
  -- whatever a listed project leads to is listed
  obtain ⟨rs, hrs, hlisted⟩ := hpreorder.closed.2 p hp
  obtain rfl := hqs.unique hrs
  obtain ⟨r, hr, hsame⟩ := hlisted q hq
  have hr' : LiesApart loc r := hout r hr
  exact hr'.of_same hsame

end Project

/-! ## 3. The projects of a tree -/

open Project (LiesApart)

variable {d d' : Disk} {loc : Location}

/-- **What a base configuration depends on** is the same, if it all lies elsewhere and the base does. -/
theorem baseDependencies?_of_differsAt (h : d.DiffersAt d' loc) {marker : String} {base : Path}
    {found : List Project} (hbase : (d.canonical base).same (pathTo loc) = false)
    (hout : ∀ q ∈ found, LiesApart loc q) (hfound : baseDependencies? d marker base = .ok found) :
    baseDependencies? d' marker base = .ok found := by
  obtain ⟨r, hr, hfound⟩ := Outcome.bind_eq_ok.1 hfound
  rw [baseDependencies?, h.canonical_eq]
  refine Outcome.bind_eq_ok.2 ⟨r, ?_, ?_⟩
  · rw [Project.record_eq h (Disk.misses_of_apart hbase).canonical]
    exact hr
  split at hfound
  · rename_i hempty
    rw [if_pos hempty]
    exact hfound
  · rename_i hempty
    obtain ⟨reached, hreached, hdrop⟩ := Outcome.bind_eq_ok.1 hfound
    obtain ⟨rest, rfl⟩ := Project.exists_cons_of_preorder (Project.preorder_of_withDependencies? hreached)
    obtain rfl := Except.ok.inj hdrop
    rw [if_neg hempty]
    refine Outcome.bind_eq_ok.2 ⟨_, Project.withDependencies?_of_differsAt h ?_ hreached, rfl⟩
    exact List.forall_mem_cons.2 ⟨hbase, hout⟩

/-- **The projects of a tree** are the same, if all of them lie elsewhere and the base configuration does. -/
theorem Definitions.projects?_of_differsAt (h : d.DiffersAt d' loc) {s : Settings} {ds : Definitions}
    {projects : List Project}
    (hbase : ∀ base, s.baseConfig = some base → (d.canonical base).same (pathTo loc) = false)
    (hapart : ∀ p ∈ projects, LiesApart loc p) (hfound : ds.projects? d s = .ok projects) :
    ds.projects? d' s = .ok projects := by
  obtain ⟨root, own, found, hroot, hown, rfl, hbased, hbaseless⟩ := Definitions.projects?_eq_ok.1 hfound
  have hpreorder := Project.preorder_of_withDependencies? hown
  rw [Definitions.distinctProjects_append (apart_of_base hbased hbaseless).1 hpreorder.fresh.1] at hapart
  have hownApart : ∀ p ∈ own, LiesApart loc p := fun p hp => hapart p (List.mem_append_left _ hp)
  have hfoundApart : ∀ q ∈ found, LiesApart loc q := by
    intro q hq
    by_cases hlisted : Project.isAmong (own.map (·.path)) q.path = true
    · obtain ⟨path, hpath, hsame⟩ := List.any_eq_true.1 hlisted
      obtain ⟨p, hp, rfl⟩ := List.mem_map.1 hpath
      exact (hownApart p hp).of_same hsame
    · refine hapart q (List.mem_append_right own (List.mem_filter.2 ⟨hq, ?_⟩))
      rw [Bool.eq_false_iff.2 hlisted]
      rfl
  have hrootMem : root ∈ own := by
    obtain ⟨rest, rfl⟩ := Project.exists_cons_of_preorder hpreorder
    exact List.mem_cons_self
  have hroot' : Project.load? d' s.markerName ds.rootMarker = .ok root := by
    rw [Project.load?_eq h (Project.misses_of_load? hroot (hownApart root hrootMem))]
    exact hroot
  refine Definitions.projects?_eq_ok.2 ⟨root, own, found, hroot',
    Project.withDependencies?_of_differsAt h hownApart hown, rfl, fun base hconfig hfile => ?_, fun hnone => ?_⟩
  · rw [h.isFile_eq] at hfile
    exact baseDependencies?_of_differsAt h (hbase base hconfig) hfoundApart (hbased base hconfig hfile)
  · exact hbaseless fun base hconfig => h.isFile_eq base ▸ hnone base hconfig

end TreeIndex
