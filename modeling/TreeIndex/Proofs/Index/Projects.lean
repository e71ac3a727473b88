import TreeIndex.Proofs.Indexer.Content
import TreeIndex.Proofs.Project.Closure

/-!
# The projects of a tree

A tree holds the project of its root marker and all that one depends on, and then what a base configuration
depends on. **No path is listed twice**, and the project of the root marker comes first.

* `distinctProjects_append`: of two lists of projects that are apart, all of the first one remain, and those of
  the second one that are not in the first;
* `BaseReaches`, `baseDependencies?_eq_ok`: what a base configuration depends on is **a preorder without the base
  itself**; `apart_of_base`: so it is apart, if there is a base configuration at all;
* `Index.HoldsProjects`: the projects of an index; `Index.HoldsProjects.of_build?`: so it is of every index that
  is built;
* `Index.HoldsProjects.rootProject?_eq_ok`: the first project is the one that an index says to be its root;
* `holdsProjects_of_index`: all of this for what a request to index leaves behind.
-/

namespace TreeIndex

open Project (Apart ListedIn Leads LeadsTo DependsOn Preorder)

/-! ## 1. Each path once -/

namespace Definitions

/-- Whatever lies apart from a project remains beside it. -/
theorem filter_of_apart {p : Project} {ps : List Project} (h : ∀ q ∈ ps, Apart p q) :
    ps.filter (fun q => !p.path.same q.path) = ps := by
  refine List.filter_eq_self.2 fun q hq => ?_
  have hapart := h q hq
  rw [Apart] at hapart
  rw [hapart]
  rfl

/-- Projects that lie apart **all remain**. -/
theorem distinctProjects_eq_self : ∀ {ps : List Project}, ps.Pairwise Apart → distinctProjects ps = ps
  | [], _ => rfl
  | p :: ps, h => by
    obtain ⟨hp, hps⟩ := List.pairwise_cons.1 h
    rw [distinctProjects, distinctProjects_eq_self hps, filter_of_apart hp]

/-- Of two lists of projects, the second one keeps **what the first one has not**. -/
theorem distinctProjects_append {qs : List Project} (hqs : qs.Pairwise Apart) :
    ∀ {ps : List Project}, ps.Pairwise Apart →
      distinctProjects (ps ++ qs) = ps ++ qs.filter fun q => !Project.isAmong (ps.map (·.path)) q.path
  | [], _ => by
    have hall : qs.filter (fun q => !Project.isAmong [] q.path) = qs := List.filter_eq_self.2 fun _ _ => rfl
    rw [List.nil_append, List.nil_append, List.map_nil, hall]
    exact distinctProjects_eq_self hqs
  | p :: ps, h => by
    obtain ⟨hp, hps⟩ := List.pairwise_cons.1 h
    have hboth : ∀ q ∈ qs, ((!p.path.same q.path) && !Project.isAmong (ps.map (·.path)) q.path) =
        !Project.isAmong ((p :: ps).map (·.path)) q.path := by
      intro q _
      have hsame : q.path.same p.path = p.path.same q.path := by
        rw [Bool.eq_iff_iff, Path.same_iff, Path.same_iff]
        exact eq_comm
      simp only [Project.isAmong, List.map_cons, List.any_cons, Bool.not_or, hsame]
    rw [List.cons_append, distinctProjects, distinctProjects_append hqs hps, List.filter_append,
      filter_of_apart hp, List.filter_filter, List.filter_congr hboth, List.cons_append]

/-- **What the projects of a tree are put together from**: those of the root marker, and what a base
    configuration depends on, if there is one. -/
theorem projects?_eq_ok {d : Disk} {s : Settings} {ds : Definitions} {projects : List Project} :
    ds.projects? d s = .ok projects ↔ ∃ root own found,
      Project.load? d s.markerName ds.rootMarker = .ok root ∧
        root.withDependencies? d s.markerName = .ok own ∧
          projects = distinctProjects (own ++ found) ∧
            (∀ base, s.baseConfig = some base → d.isFile base = true →
              baseDependencies? d s.markerName base = .ok found) ∧
              ((∀ base, s.baseConfig = some base → d.isFile base = false) → found = []) := by
  constructor
  · intro h
    obtain ⟨root, hroot, h⟩ := Outcome.bind_eq_ok.1 h
    obtain ⟨own, hown, h⟩ := Outcome.bind_eq_ok.1 h
    dsimp only at h
    cases hbase : s.baseConfig with
    | none =>
      rw [hbase] at h
      exact ⟨root, own, [], hroot, hown, (Except.ok.inj h).symm, nofun, fun _ => rfl⟩
    | some base =>
      rw [hbase] at h
      dsimp only at h
      split at h
      · rename_i hfile
        obtain ⟨found, hfound, h⟩ := Outcome.bind_eq_ok.1 h
        refine ⟨root, own, found, hroot, hown, (Except.ok.inj h).symm, fun other hother _ => ?_, fun hnone => ?_⟩
        · obtain rfl := Option.some.inj hother
          exact hfound
        · rw [hnone base rfl] at hfile
          cases hfile
      · rename_i hfile
        refine ⟨root, own, [], hroot, hown, (Except.ok.inj h).symm, fun other hother hfile' => ?_, fun _ => rfl⟩
        obtain rfl := Option.some.inj hother
        exact absurd hfile' hfile
  · rintro ⟨root, own, found, hroot, hown, rfl, hbased, hbaseless⟩
    refine Outcome.bind_eq_ok.2 ⟨root, hroot, Outcome.bind_eq_ok.2 ⟨own, hown, ?_⟩⟩
    dsimp only
    cases hbase : s.baseConfig with
    | none =>
      obtain rfl : found = [] := hbaseless fun base hb => by cases hbase.symm.trans hb
      rfl
    | some base =>
      dsimp only
      split
      · rename_i hfile
        exact Outcome.bind_eq_ok.2 ⟨found, hbased base hbase hfile, rfl⟩
      · rename_i hfile
        obtain rfl : found = [] := hbaseless fun other hother => by
          obtain rfl := Option.some.inj (hbase.symm.trans hother)
          exact Bool.eq_false_iff.2 hfile
        rfl

end Definitions

/-! ## 2. What a base configuration depends on -/

/-- A base configuration as a project: **where its search starts**. -/
def baseProject (d : Disk) (base : Path) (r : ProjectRecord) : Project :=
  ⟨r.name.getD baseName, d.canonical base, r.dependencies⟩

/-- The projects that a base configuration depends on, directly or not: **in preorder, without the base**. -/
structure BaseReaches (d : Disk) (marker : String) (base : Path) (reached : List Project) : Prop where
  exists_preorder : ∃ r, ProjectRecord.load? d (d.canonical base) = .ok r ∧
    Preorder (Leads d marker (baseProject d base r)) [] [baseProject d base r]
      (baseProject d base r :: reached) ∧
    ∀ q, q ∈ reached ↔ q ≠ baseProject d base r ∧
      Relation.ReflTransGen (LeadsTo d marker (baseProject d base r)) (baseProject d base r) q
  /-- The base itself is not among them. -/
  ne_base : ∀ q ∈ reached, q.path.same (d.canonical base) = false
  canonical : ∀ q ∈ reached, q.path = d.canonical q.path
  apart : reached.Pairwise Apart

/-- Where the dependencies of a base configuration are found, they are found **by a search from it**. -/
theorem withDependencies?_of_base {d : Disk} {marker : String} {base : Path} {reached : List Project}
    (h : baseDependencies? d marker base = .ok reached) : ∃ r,
      ProjectRecord.load? d (d.canonical base) = .ok r ∧
        Project.withDependencies? d marker (baseProject d base r) = .ok (baseProject d base r :: reached) := by
  obtain ⟨r, hr, h⟩ := Outcome.bind_eq_ok.1 h
  refine ⟨r, hr, ?_⟩
  split at h
  · rename_i hempty
    obtain rfl := Except.ok.inj h
    have hnone : (baseProject d base r).dependencies = [] := List.isEmpty_iff.1 hempty
    refine Project.withDependencies?_eq_ok_iff.2 (.new ?_ ?_ .nil .nil)
    · exact Project.not_listedIn_iff.2 fun _ hq => absurd hq List.not_mem_nil
    · rw [Leads, hnone]
      exact .nil
  · obtain ⟨out, hout, h⟩ := Outcome.bind_eq_ok.1 h
    obtain rfl := Except.ok.inj h
    obtain ⟨more, rfl⟩ := Project.exists_cons_of_preorder (Project.preorder_of_withDependencies? hout)
    exact hout

theorem baseDependencies?_eq_ok {d : Disk} {marker : String} {base : Path} {reached : List Project}
    (h : baseDependencies? d marker base = .ok reached) : BaseReaches d marker base reached := by
  obtain ⟨r, hr, hsearch⟩ := withDependencies?_of_base h
  have hpreorder := Project.preorder_of_withDependencies? hsearch
  have hcanonical := Project.canonical_of_preorder hpreorder (Disk.canonical_canonical d base).symm
  obtain ⟨hbase, hapart⟩ := List.pairwise_cons.1 hpreorder.fresh.1
  refine ⟨⟨r, hr, hpreorder, fun q => ?_⟩, fun q hq => (hbase q hq).symm,
    fun q hq => hcanonical q (List.mem_cons_of_mem _ hq), hapart⟩
  rw [← Project.mem_iff_of_preorder hpreorder, List.mem_cons]
  constructor
  · intro hq
    refine ⟨?_, Or.inr hq⟩
    rintro rfl
    have hself := hbase _ hq
    rw [Apart, Path.same_refl] at hself
    cases hself
  · rintro ⟨hne, hq⟩
    exact hq.resolve_left hne

/-- What a base configuration reaches, or nothing: projects that lie apart, **and not the base itself**. -/
theorem apart_of_base {d : Disk} {s : Settings} {found : List Project}
    (hbased : ∀ base, s.baseConfig = some base → d.isFile base = true →
      baseDependencies? d s.markerName base = .ok found)
    (hbaseless : (∀ base, s.baseConfig = some base → d.isFile base = false) → found = []) :
    found.Pairwise Apart ∧ (∀ q ∈ found, q.path = d.canonical q.path) ∧
      ∀ base, s.baseConfig = some base → ∀ q ∈ found, q.path.same (d.canonical base) = false := by
  by_cases hbase : ∃ base, s.baseConfig = some base ∧ d.isFile base = true
  · obtain ⟨base, hbase, hfile⟩ := hbase
    have hreaches := baseDependencies?_eq_ok (hbased base hbase hfile)
    refine ⟨hreaches.apart, hreaches.canonical, fun other hother => ?_⟩
    obtain rfl := Option.some.inj (hbase.symm.trans hother)
    exact hreaches.ne_base
  · rw [hbaseless fun base hbase' => Bool.eq_false_iff.2 fun hfile => hbase ⟨base, hbase', hfile⟩]
    exact ⟨List.Pairwise.nil, fun _ hq => absurd hq List.not_mem_nil, fun _ _ _ hq => absurd hq List.not_mem_nil⟩

/-! ## 3. The projects of an index -/

/-- **The projects that an index holds**: those of the root marker, and more from a base configuration. -/
structure Index.HoldsProjects (d : Disk) (s : Settings) (ix : Index) (root : Project)
    (own more : List Project) : Prop where
  scope : ix.scope.projects = (own ++ more).map .project
  /-- Projects are known by their canonical paths, and none is listed twice. -/
  canonical : ∀ q ∈ own ++ more, q.path = d.canonical q.path
  apart : (own ++ more).Pairwise Apart
  /-- The project of the root marker comes first, and then all that it depends on. -/
  loads : Project.load? d s.markerName ix.definitions.rootMarker = .ok root
  lists : root.withDependencies? d s.markerName = .ok own
  first : own.head? = some root
  mem_own : ∀ q, q ∈ own ↔ Relation.ReflTransGen (DependsOn d s.markerName) root q
  /-- Where there is a base configuration, the rest is what that one depends on and what is not listed yet. -/
  based : ∀ base, s.baseConfig = some base → d.isFile base = true → ∃ reached,
    BaseReaches d s.markerName base reached ∧
      more = reached.filter fun q => !Project.isAmong (own.map (·.path)) q.path
  baseless : (∀ base, s.baseConfig = some base → d.isFile base = false) → more = []
  /-- The base configuration is listed only if the project of the root marker depends on it. -/
  base_own : ∀ base, s.baseConfig = some base →
    ∀ q ∈ own ++ more, q.path.same (d.canonical base) = true → q ∈ own

namespace Index.HoldsProjects

variable {d : Disk} {s : Settings} {ix : Index} {root : Project} {own more : List Project}

/-- The project of the root marker **stands in the index**. -/
theorem root_mem (h : ix.HoldsProjects d s root own more) : .project root ∈ ix.scope := by
  obtain ⟨rest, rfl⟩ := List.head?_eq_some_iff.1 h.first
  have hlisted : Component.project root ∈ ix.scope.projects := by
    rw [h.scope]
    exact List.mem_cons_self
  exact (List.mem_filter.1 hlisted).1

/-- **The first project** is the root of the index. -/
theorem rootProject?_eq_ok (h : ix.HoldsProjects d s root own more) : ix.rootProject? d = .ok root := by
  have hroot := (Project.load?_eq_ok h.loads).1
  obtain ⟨rest, rfl⟩ := List.head?_eq_some_iff.1 h.first
  have hothers : ∀ q ∈ rest ++ more, q.path.same root.path = false := by
    intro q hq
    have hapart := (List.pairwise_cons.1 h.apart).1 q hq
    exact hapart.symm
  have hnone : ((rest ++ more).map Component.project).filter (fun c => c.path.same root.path) = [] := by
    refine List.filter_eq_nil_iff.2 fun c hc => ?_
    obtain ⟨q, hq, rfl⟩ := List.mem_map.1 hc
    exact Bool.eq_false_iff.1 (hothers q hq)
  have honly : ix.scope.projects.filter (fun c => c.path.same root.path) = [.project root] := by
    rw [h.scope, List.cons_append, List.map_cons, List.filter_cons, hnone, if_pos]
    exact Path.same_refl root.path
  rw [Index.rootProject?, ← hroot, honly]
  rfl

/-- **The projects of an index that is built.** -/
theorem of_build? {ds : Definitions} (h : Index.build? d s ds = .ok ix) :
    ∃ root own more, ix.HoldsProjects d s root own more := by
  obtain ⟨rfl, files, _, items, projects, -, -, -, hprojects, hscope⟩ := Index.build?_eq_ok h
  have hlisted : ix.scope.projects = projects.map .project := by
    rw [hscope]
    exact Scope.projects_assembled files items projects
  obtain ⟨root, own, found, hroot, hown, rfl, hbased, hbaseless⟩ := Definitions.projects?_eq_ok.1 hprojects
  have hself := Project.load?_path hroot
  have hpreorder := Project.preorder_of_withDependencies? hown
  obtain ⟨hapart, hcanonical, hbase⟩ := apart_of_base hbased hbaseless
  rw [Definitions.distinctProjects_append hapart hpreorder.fresh.1] at hlisted
  refine ⟨root, own, _, hlisted, fun q hq => ?_, ?_, hroot, hown, ?_, fun q => ?_, fun base hb hfile => ?_,
    fun hb => ?_, fun base hb q hq hsame => ?_⟩
  · rcases List.mem_append.1 hq with hq | hq
    · exact Project.canonical_of_preorder hpreorder (Project.load?_eq_ok hself).1 q hq
    · exact hcanonical q (List.mem_of_mem_filter hq)
  · refine List.pairwise_append.2 ⟨hpreorder.fresh.1, hapart.filter _, fun p hp q hq => ?_⟩
    have hnew := (List.mem_filter.1 hq).2
    rw [Project.isAmong, Bool.not_eq_true', List.any_eq_false] at hnew
    have hne : ¬ q.path.same p.path = true := hnew _ (List.mem_map_of_mem hp)
    exact Apart.symm (Bool.eq_false_iff.2 hne)
  · obtain ⟨rest, rfl⟩ := Project.exists_cons_of_preorder hpreorder
    rfl
  · rw [← Project.leadsTo_eq_dependsOn hself]
    exact Project.mem_iff_of_preorder hpreorder
  · exact ⟨found, baseDependencies?_eq_ok (hbased base hb hfile), rfl⟩
  · rw [hbaseless hb]
    rfl
  · rcases List.mem_append.1 hq with hq | hq
    · exact hq
    · rw [hbase base hb q (List.mem_of_mem_filter hq)] at hsame
      cases hsame

end Index.HoldsProjects

/-- **The projects that a request to index leaves behind**, or a request to refresh: the project of the root
    marker comes first, and is found again as long as the disk stays. -/
theorem holdsProjects_of_index {d : Disk} {x y : Indexer}
    (h : x.index d = (.ok (), y) ∨ x.refresh d = (.ok (), y)) :
    ∃ ix root own more, y.view? = .ok ix ∧ ix.HoldsProjects d x.settings root own more ∧
      y.rootProject? d = .ok root := by
  obtain ⟨ix, hview, -, hbuilt⟩ := Indexer.exists_build? h
  obtain ⟨root, own, more, hholds⟩ := Index.HoldsProjects.of_build? hbuilt
  refine ⟨ix, root, own, more, hview, hholds, ?_⟩
  rw [Indexer.rootProject?, hview]
  exact hholds.rootProject?_eq_ok

/-! ## 4. A tree with a base configuration -/

/-- A tree, and a base configuration that depends on its project and on another one, which **leads back**. -/
def baseEntries : List (String × Disk.Entry) :=
  [("b", .file "name: b\ndependencies: [{name: base, path: base}]".toUTF8),
   ("base", .file "dependencies: [{name: r, path: .}, {name: b, path: b}]".toUTF8),
   ("root.config", .file "name: r\nindex: {types: [file], identifiers: {file: .kind}}".toUTF8),
   ("root.kind", .file "".toUTF8),
   ("text.kind", .file "identifier: .txt".toUTF8)]

theorem files_baseEntries : ∀ x ∈ baseEntries, ∃ bytes, x.2 = .file bytes := by
  decide

theorem ascending_baseEntries : Ascending baseEntries := by
  decide

/-- A disk with that tree. -/
def baseDisk : Disk :=
  ⟨baseEntries, [], Disk.tidy_of_files files_baseEntries ascending_baseEntries (by decide +kernel)⟩

/-- An indexer of that tree. -/
def baseIndexer : Indexer := { settings := { baseConfig := some ⟨"/base"⟩ }, start := ⟨"/"⟩ }

/-- The base is no project of the tree, **although one of them depends on it**. -/
theorem holdsProjects_of_index_baseDisk : ∃ (y : Indexer) (ix : Index) (root : Project)
    (own more : List Project), baseIndexer.index baseDisk = (.ok (), y) ∧
    ix.HoldsProjects baseDisk baseIndexer.settings root own more ∧ y.rootProject? baseDisk = .ok root ∧
    (own ++ more).map (·.name) = ["r", "b"] := by
  have hrun : (baseIndexer.index baseDisk).2.view?.toOption.map (fun ix =>
      ix.scope.projects.map (·.name)) = some ["r", "b"] := by
    decide +kernel
  obtain ⟨ix, hview, hnames⟩ := Option.map_eq_some_iff.1 hrun
  have hindex := Indexer.index_of_shown rfl (Outcome.toOption_eq_some.1 hview)
  obtain ⟨jx, root, own, more, hshown, hholds, hroot⟩ := holdsProjects_of_index (Or.inl hindex)
  obtain rfl : ix = jx := Except.ok.inj hshown
  rw [hholds.scope, List.map_map] at hnames
  exact ⟨_, ix, root, own, more, hindex, hholds, hroot, hnames⟩

end TreeIndex
