import TreeIndex.Project
import TreeIndex.Proofs.Disk.Canonical
import TreeIndex.Proofs.Disk.Walk
import TreeIndex.Proofs.Project.Preorder

/-!
# What dependencies mean

A dependency means the project of its configuration file. A search that starts at some project does not read
that project again, so where a dependency leads back to it, it means the first project as it is.

* `load?_eq_ok`, `load?_canonical`, `load?_eq_of_same`: a project that was read lies in a file and is known by its
  canonical path; **that path alone decides what is read**;
* `Means`: the configuration file is there and says that project; `target?`: what a dependency means in a search
  from a first project. If that one was read itself, the two are the same (`target?_eq_ok_iff_means`);
* `Known`: the first project, or one that was read; known projects of one path **are one project**
  (`Known.eq_of_same`);
* `length_le_fileCount_of_loaded`: projects that were read are no more than there are files.
-/

namespace TreeIndex.Project

variable {d : Disk} {marker : String}

/-! ## 1. Projects that were read -/

/-- A project that was read **lies in a file**, and is known by its canonical path. -/
theorem load?_eq_ok {p : Path} {q : Project} (h : load? d marker p = .ok q) :
    q.path = d.canonical p ∧ ∃ loc bytes, d.entry? p = .ok (loc, .file bytes) := by
  obtain ⟨r, hr, h⟩ := Outcome.bind_eq_ok.1 h
  obtain ⟨v, hv, -⟩ := Outcome.bind_eq_ok.1 hr
  obtain ⟨loc, bytes, hentry⟩ := Disk.value?_eq_ok hv
  refine ⟨?_, loc, bytes, Disk.entry?_of_canonical hentry⟩
  cases hname : r.name with
  | some name =>
    rw [hname] at h
    exact congrArg Project.path (Except.ok.inj h).symm
  | none =>
    rw [hname] at h
    dsimp only at h
    split at h
    · exact congrArg Project.path (Except.ok.inj h).symm
    · cases h

/-- **The canonical path decides** what is read. -/
theorem load?_canonical (d : Disk) (marker : String) (p : Path) :
    load? d marker (d.canonical p) = load? d marker p := by
  unfold load?
  rw [Disk.canonical_canonical]

/-- A project that was read **is read again** from its own path. -/
theorem load?_path {p : Path} {q : Project} (h : load? d marker p = .ok q) :
    load? d marker q.path = .ok q := by
  rw [(load?_eq_ok h).1, load?_canonical]
  exact h

/-- Projects that were read from paths that say the same **are the same**. -/
theorem load?_eq_of_same {p q : Project} (hp : load? d marker p.path = .ok p)
    (hq : load? d marker q.path = .ok q) (h : p.path.same q.path = true) : p = q := by
  obtain ⟨hpath, _, _, hentry⟩ := load?_eq_ok hp
  obtain ⟨hpath', _, _, hentry'⟩ := load?_eq_ok hq
  rw [hpath, hpath'] at h
  have hcanonical := (Disk.canonical_eq_of_same hentry hentry' h).2
  rw [← load?_canonical, hcanonical, load?_canonical, hq] at hp
  exact (Except.ok.inj hp).symm

/-- Projects that were read and lie apart are **no more than there are files**. -/
theorem length_le_fileCount_of_loaded {ps : List Project} (hloaded : ∀ p ∈ ps, load? d marker p.path = .ok p)
    (hapart : ps.Pairwise Apart) : ps.length ≤ (Disk.Entry.folder d.entries).fileCount := by
  have hplace : ∀ p ∈ ps, ∃ loc, p.path = Disk.pathTo loc ∧ ∃ bytes, d.at? loc = some (.file bytes) := by
    intro p hp
    obtain ⟨hpath, loc, bytes, hentry⟩ := load?_eq_ok (hloaded p hp)
    refine ⟨loc, ?_, bytes, (Disk.entry?_lands hentry).1⟩
    rw [hpath, Disk.canonical_eq_pathTo hentry]
  choose! loc hpath hfile using hplace
  have hnodup : (ps.map loc).Nodup := by
    refine List.pairwise_map.2 (hapart.imp_of_mem fun {p q} hp hq hpq heq => ?_)
    rw [Apart, hpath p hp, hpath q hq, heq, Path.same_refl] at hpq
    cases hpq
  have hfiles : ∀ l ∈ ps.map loc, ∃ bytes, d.at? l = some (.file bytes) := by
    intro l hl
    obtain ⟨p, hp, rfl⟩ := List.mem_map.1 hl
    exact hfile p hp
  simpa using Disk.length_le_fileCount hnodup hfiles

/-! ## 2. Dependencies -/

/-- A dependency **means** a project: its configuration file is there, and says so. -/
def Means (d : Disk) (marker : String) (p : Project) (dependency : Dependency) (q : Project) : Prop :=
  d.isFile (candidate d marker p dependency) = true ∧ load? d marker (candidate d marker p dependency) = .ok q

theorem dependencyPath?_eq_ok {p : Project} {dependency : Dependency} {path : Path} :
    dependencyPath? d marker p dependency = .ok path ↔
      d.isFile (candidate d marker p dependency) = true ∧
        d.canonical (candidate d marker p dependency) = path := by
  unfold dependencyPath?
  dsimp only
  split <;> simp [*]

/-- What a dependency means **in a search** from a first project, which is not read again. -/
def target? (d : Disk) (marker : String) (first p : Project) (dependency : Dependency) :
    Except Fault Project := do
  let path ← dependencyPath? d marker p dependency
  if path.same first.path then .ok first else load? d marker path

/-- The projects that the dependencies of a project mean, **one for each**, in the order of their declaration. -/
def Leads (d : Disk) (marker : String) (first p : Project) (qs : List Project) : Prop :=
  List.Forall₂ (fun dependency q => target? d marker first p dependency = .ok q) p.dependencies qs

/-- Some dependency of a project means another one. -/
def LeadsTo (d : Disk) (marker : String) (first p q : Project) : Prop :=
  ∃ dependency ∈ p.dependencies, target? d marker first p dependency = .ok q

variable {first p q : Project} {qs : List Project}

theorem Leads.leadsTo (h : Leads d marker first p qs) (hq : q ∈ qs) : LeadsTo d marker first p q := by
  obtain ⟨dependency, hdep, htarget⟩ := Outcome.exists_of_mem_mapM (Outcome.mapM_eq_ok.2 h) hq
  exact ⟨dependency, hdep, htarget⟩

theorem Leads.mem (h : Leads d marker first p qs) (hq : LeadsTo d marker first p q) : q ∈ qs := by
  obtain ⟨dependency, hdep, htarget⟩ := hq
  obtain ⟨r, hr, hother⟩ := Outcome.exists_mem_of_mapM (Outcome.mapM_eq_ok.2 h) hdep
  rw [htarget] at hother
  exact Except.ok.inj hother ▸ hr

theorem Leads.unique {rs : List Project} (h : Leads d marker first p qs) (hr : Leads d marker first p rs) :
    qs = rs := by
  have hok := (Outcome.mapM_eq_ok.2 h).symm.trans (Outcome.mapM_eq_ok.2 hr)
  exact Except.ok.inj hok

/-! ## 3. Known projects -/

/-- What a search comes by: **the first project, or one that was read** elsewhere. -/
def Known (d : Disk) (marker : String) (first p : Project) : Prop :=
  p = first ∨ load? d marker p.path = .ok p ∧ Apart p first

theorem known_of_target? {dependency : Dependency} (h : target? d marker first p dependency = .ok q) :
    Known d marker first q := by
  obtain ⟨path, hpath, h⟩ := Outcome.bind_eq_ok.1 h
  split at h
  · cases h
    exact Or.inl rfl
  · rename_i hne
    obtain ⟨-, rfl⟩ := dependencyPath?_eq_ok.1 hpath
    have hq := (load?_eq_ok h).1
    rw [Disk.canonical_canonical] at hq
    refine Or.inr ⟨load?_path h, ?_⟩
    rw [Apart, hq, Bool.eq_false_iff]
    exact hne

/-- Known projects of one path **are one project**. -/
theorem Known.eq_of_same (hp : Known d marker first p) (hq : Known d marker first q)
    (h : p.path.same q.path = true) : p = q := by
  rcases hp with rfl | ⟨hp, hpfirst⟩ <;> rcases hq with rfl | ⟨hq, hqfirst⟩
  · rfl
  · have hapart := hqfirst.symm
    rw [Apart, h] at hapart
    cases hapart
  · rw [Apart, h] at hpfirst
    cases hpfirst
  · exact load?_eq_of_same hp hq h

/-- In a search from a project that was read, a dependency **means what its file says**. -/
theorem target?_eq_ok_iff_means (hfirst : load? d marker first.path = .ok first) {dependency : Dependency} :
    target? d marker first p dependency = .ok q ↔ Means d marker p dependency q := by
  rw [target?, Means, Outcome.bind_eq_ok]
  constructor
  · rintro ⟨path, hpath, h⟩
    obtain ⟨hfile, rfl⟩ := dependencyPath?_eq_ok.1 hpath
    refine ⟨hfile, ?_⟩
    split at h
    · rename_i hsame
      cases h
      obtain ⟨hq, _, _, hentry⟩ := load?_eq_ok hfirst
      obtain ⟨_, _, hentry'⟩ := Disk.isFile_iff.1 hfile
      rw [hq] at hsame
      have hcanonical := (Disk.canonical_eq_of_same hentry' hentry hsame).2
      rw [← load?_canonical, hcanonical, load?_canonical]
      exact hfirst
    · rw [load?_canonical] at h
      exact h
  · rintro ⟨hfile, hload⟩
    refine ⟨_, dependencyPath?_eq_ok.2 ⟨hfile, rfl⟩, ?_⟩
    split
    · rename_i hsame
      rw [← (load?_eq_ok hload).1] at hsame
      rw [load?_eq_of_same (load?_path hload) hfirst hsame]
    · rw [load?_canonical]
      exact hload

end TreeIndex.Project
