import TreeIndex.Proofs.Project.Search

/-!
# A project and everything it depends on

The search for the dependencies of a project succeeds exactly if **no dependency of whatever it reaches is
missing**, and then it lists what is reached in depth-first preorder.

* `reach?_eq_withDependencies?`: any more rounds than there are files give the same, so the search ends by itself
  and never because no round is left;
* `withDependencies?_eq_ok_iff`: the search lists **the preorder and nothing else**;
* `mem_iff_of_preorder`: that is every project that is reached;
* `withDependencies?_isOk_iff`: the search succeeds exactly if every dependency on its way means a project;
* `Closure`, `closure_of_load?`: all of this for a project that was read, **in terms of the files on the disk**.
-/

namespace TreeIndex.Project

variable {d : Disk} {marker : String} {first p q : Project} {out : List Project}

/-! ## 1. The first round -/

/-- The first round lists **the first project**. -/
theorem reach?_first (d : Disk) (marker : String) (first : Project) (left : Nat) :
    reach? d marker (left + 1) [] [first] = (do
      let found ← dependencies? d marker (visited [first]) first first.dependencies
      let reached ← reach? d marker left (visited [first]) (found ++ [])
      .ok (first :: reached)) := rfl

/-- What is found beneath the first project is known. -/
theorem known_of_first {found : List Project}
    (h : dependencies? d marker (visited [first]) first first.dependencies = .ok found) :
    ∀ q ∈ found ++ [], Known d marker first q :=
  known_of_pending Searched.nil h fun _ hq => absurd hq List.not_mem_nil

/-- **The search ends by itself**: more rounds than there are files all give the same. -/
theorem reach?_eq_withDependencies? {rounds : Nat} (h : (Disk.Entry.folder d.entries).fileCount < rounds) :
    reach? d marker rounds [] [first] = withDependencies? d marker first := by
  obtain ⟨more, rfl⟩ := Nat.exists_eq_add_of_lt h
  rw [withDependencies?, reach?_first, reach?_first]
  cases hfound : dependencies? d marker (visited [first]) first first.dependencies with
  | error fault => rfl
  | ok found =>
    have hrounds : ∀ more, reach? d marker ((Disk.Entry.folder d.entries).fileCount + more) (visited [first])
          (found ++ []) =
        reach? d marker (Disk.Entry.folder d.entries).fileCount (visited [first]) (found ++ []) := by
      intro more
      induction more with
      | zero => rfl
      | succ more ih =>
        rw [← Nat.add_assoc, reach?_succ Searched.nil (known_of_first hfound) (by omega)]
        exact ih
    exact congrArg (fun reached => reached >>= fun reached => .ok (first :: reached)) (hrounds more)

/-! ## 2. What is listed -/

theorem preorder_of_withDependencies? (h : withDependencies? d marker first = .ok out) :
    Preorder (Leads d marker first) [] [first] out := by
  rw [withDependencies?, reach?_first] at h
  obtain ⟨found, hfound, h⟩ := Outcome.bind_eq_ok.1 h
  obtain ⟨reached, hreached, h⟩ := Outcome.bind_eq_ok.1 h
  obtain rfl := Except.ok.inj h
  have hbelow := preorder_of_reach? Searched.nil (known_of_first hfound) (Nat.le_add_right _ _) hreached
  rw [List.append_nil] at hbelow
  obtain ⟨qs, hqs, rfl⟩ := (dependencies?_eq_ok_iff Searched.nil).1 hfound
  have hnew : ¬ ListedIn [] first := not_listedIn_iff.2 fun _ hq => absurd hq List.not_mem_nil
  have hall := Preorder.of_filter (fun q hq => isAmong_visited.1 hq) hbelow
  simpa using Preorder.new hnew hqs hall .nil

/-- The first project **comes first**. -/
theorem exists_cons_of_preorder {next : Project → List Project → Prop} (h : Preorder next [] [first] out) :
    ∃ more, out = first :: more := by
  cases h with
  | listed hp _ => exact absurd hp (not_listedIn_iff.2 fun _ hq => absurd hq List.not_mem_nil)
  | new _ _ _ _ => exact ⟨_, rfl⟩

/-- Whatever is reached is known. -/
theorem known_of_reaches (h : Relation.ReflTransGen (LeadsTo d marker first) first q) : Known d marker first q := by
  rcases Relation.ReflTransGen.cases_tail h with rfl | ⟨p, -, dependency, -, htarget⟩
  · exact Or.inl rfl
  · exact known_of_target? htarget

/-- The preorder lists **what is reached, and only that**. -/
theorem mem_iff_of_preorder (h : Preorder (Leads d marker first) [] [first] out) :
    q ∈ out ↔ Relation.ReflTransGen (LeadsTo d marker first) first q := by
  have hleads : ∀ p qs, Leads d marker first p qs → ∀ q ∈ qs, LeadsTo d marker first p q :=
    fun _ _ hqs _ hq => hqs.leadsTo hq
  have hreaches : ∀ q ∈ out, Relation.ReflTransGen (LeadsTo d marker first) first q := by
    intro q hq
    obtain ⟨p, hp, hpq⟩ := Preorder.reaches hleads h q hq
    obtain rfl := List.mem_singleton.1 hp
    exact hpq
  refine ⟨hreaches q, fun hq => ?_⟩
  -- A known project is listed as soon as one of its path is.
  have hmem : ∀ {r : Project}, Known d marker first r → ListedIn ([] ++ out) r → r ∈ out := by
    rintro r hr ⟨s, hs, hsame⟩
    obtain rfl := hr.eq_of_same (known_of_reaches (hreaches s hs)) hsame
    exact hs
  induction hq with
  | refl =>
    obtain ⟨more, rfl⟩ := exists_cons_of_preorder h
    exact List.mem_cons_self
  | @tail p q _ hpq ih =>
    obtain ⟨qs, hqs, hlisted⟩ := h.closed.2 p ih
    obtain ⟨dependency, hdep, htarget⟩ := hpq
    exact hmem (known_of_target? htarget) (hlisted q (hqs.mem ⟨dependency, hdep, htarget⟩))

/-- Whatever is listed is known **by its canonical path**, if the first project is. -/
theorem canonical_of_preorder (h : Preorder (Leads d marker first) [] [first] out)
    (hfirst : first.path = d.canonical first.path) : ∀ q ∈ out, q.path = d.canonical q.path := by
  intro q hq
  rcases known_of_reaches ((mem_iff_of_preorder h).1 hq) with rfl | ⟨hload, -⟩
  · exact hfirst
  · exact (load?_eq_ok hload).1

/-! ## 3. When the search succeeds -/

/-- Where there is a preorder, every dependency of what is reached **means a project**. -/
theorem exists_target_of_preorder (h : Preorder (Leads d marker first) [] [first] out)
    (hq : Relation.ReflTransGen (LeadsTo d marker first) first q) {dependency : Dependency}
    (hdep : dependency ∈ q.dependencies) : ∃ r, target? d marker first q dependency = .ok r := by
  obtain ⟨qs, hqs, -⟩ := h.closed.2 q ((mem_iff_of_preorder h).2 hq)
  obtain ⟨r, -, hr⟩ := Outcome.exists_mem_of_mapM (Outcome.mapM_eq_ok.2 hqs) hdep
  exact ⟨r, hr⟩

theorem withDependencies?_eq_error {fault : Fault} (h : withDependencies? d marker first = .error fault) :
    ∃ q, Relation.ReflTransGen (LeadsTo d marker first) first q ∧
      ∃ dependency ∈ q.dependencies, ∀ r, target? d marker first q dependency ≠ .ok r := by
  rw [withDependencies?, reach?_first] at h
  rcases Outcome.bind_eq_error.1 h with h | ⟨found, hfound, h⟩
  · exact ⟨first, .refl, dependencies?_eq_error Searched.nil h⟩
  rcases Outcome.bind_eq_error.1 h with h | ⟨reached, _, h⟩
  · obtain ⟨p, hp, q, hpq, hbad⟩ := reach?_eq_error Searched.nil (known_of_first hfound) h
    rw [List.append_nil] at hp
    exact ⟨q, .head (known_of_dependencies? Searched.nil hfound hp).2 hpq, hbad⟩
  · cases h

/-- The search succeeds exactly if **every dependency on its way means a project**. -/
theorem withDependencies?_isOk_iff : (∃ out, withDependencies? d marker first = .ok out) ↔
    ∀ q, Relation.ReflTransGen (LeadsTo d marker first) first q →
      ∀ dependency ∈ q.dependencies, ∃ r, target? d marker first q dependency = .ok r := by
  constructor
  · rintro ⟨out, hout⟩ q hq dependency hdep
    exact exists_target_of_preorder (preorder_of_withDependencies? hout) hq hdep
  · intro hall
    cases h : withDependencies? d marker first with
    | ok out => exact ⟨out, rfl⟩
    | error fault =>
      obtain ⟨q, hq, dependency, hdep, hbad⟩ := withDependencies?_eq_error h
      obtain ⟨r, hr⟩ := hall q hq dependency hdep
      exact absurd hr (hbad r)

/-- **The search lists the preorder**, and nothing else. -/
theorem withDependencies?_eq_ok_iff :
    withDependencies? d marker first = .ok out ↔ Preorder (Leads d marker first) [] [first] out := by
  refine ⟨preorder_of_withDependencies?, fun h => ?_⟩
  obtain ⟨other, hother⟩ := withDependencies?_isOk_iff.2 fun q hq dependency hdep =>
    exists_target_of_preorder h hq hdep
  have hone : ∀ p qs rs, Leads d marker first p qs → Leads d marker first p rs → qs = rs :=
    fun _ _ _ hqs hrs => hqs.unique hrs
  have heq := Preorder.unique hone h (preorder_of_withDependencies? hother)
  rw [hother, heq]

/-! ## 4. Projects that were read -/

/-- Some dependency of a project **means** another one. -/
def DependsOn (d : Disk) (marker : String) (p q : Project) : Prop :=
  ∃ dependency ∈ p.dependencies, Means d marker p dependency q

/-- **What is listed** for a project: everything it depends on, directly or not. -/
structure Listing (d : Disk) (marker : String) (p : Project) (out : List Project) : Prop where
  /-- The project itself comes first. -/
  first : out.head? = some p
  /-- Every project that is reached is listed, and nothing else. -/
  mem_iff : ∀ q, q ∈ out ↔ Relation.ReflTransGen (DependsOn d marker) p q
  /-- Projects are known by their canonical paths. -/
  canonical : ∀ q ∈ out, q.path = d.canonical q.path
  /-- No path is listed twice. -/
  apart : out.Pairwise Apart

/-- **What a search for the dependencies of a project comes to.** -/
structure Closure (d : Disk) (marker : String) (p : Project) : Prop where
  /-- It ends by itself, not because no round is left. -/
  ends : ∀ rounds, (Disk.Entry.folder d.entries).fileCount < rounds →
    reach? d marker rounds [] [p] = withDependencies? d marker p
  /-- It succeeds exactly if every dependency of a project that is reached is the path of a configuration file, or
      of a folder with the marker in it, and that file says a project. -/
  succeeds : (∃ out, withDependencies? d marker p = .ok out) ↔
    ∀ q, Relation.ReflTransGen (DependsOn d marker) p q → ∀ dependency ∈ q.dependencies,
      d.isFile (candidate d marker q dependency) = true ∧
        ∃ r, load? d marker (candidate d marker q dependency) = .ok r
  /-- It lists the depth-first preorder, with dependencies in the order of their declaration. -/
  preorder : ∀ out, withDependencies? d marker p = .ok out ↔
    Preorder (fun q => List.Forall₂ (Means d marker q) q.dependencies) [] [p] out
  lists : ∀ out, withDependencies? d marker p = .ok out → Listing d marker p out

/-- In a search from a project that was read, what leads to another project **says so in a file**. -/
theorem leadsTo_eq_dependsOn (h : load? d marker first.path = .ok first) :
    LeadsTo d marker first = DependsOn d marker := by
  funext p q
  exact propext (exists_congr fun _ => and_congr_right fun _ => target?_eq_ok_iff_means h)

/-- **A project that was read, and everything it depends on.** -/
theorem closure_of_load? {start : Path} (h : load? d marker start = .ok p) : Closure d marker p := by
  have hself := load?_path h
  have hleads := leadsTo_eq_dependsOn hself
  have hnext : Leads d marker p = fun q => List.Forall₂ (Means d marker q) q.dependencies := by
    funext q qs
    have hmeans : (fun dependency r => target? d marker p q dependency = .ok r) = Means d marker q := by
      funext dependency r
      exact propext (target?_eq_ok_iff_means hself)
    rw [Leads, hmeans]
  refine ⟨fun rounds hrounds => reach?_eq_withDependencies? hrounds, ?_, fun out => ?_, fun out hout => ?_⟩
  · rw [withDependencies?_isOk_iff, hleads]
    refine forall_congr' fun q => imp_congr_right fun _ => forall_congr' fun dependency => imp_congr_right fun _ => ?_
    simp only [target?_eq_ok_iff_means hself, Means, exists_and_left]
  · rw [← hnext]
    exact withDependencies?_eq_ok_iff
  · have hpreorder := preorder_of_withDependencies? hout
    have hmem : ∀ q, q ∈ out ↔ Relation.ReflTransGen (DependsOn d marker) p q := by
      intro q
      rw [← hleads]
      exact mem_iff_of_preorder hpreorder
    refine ⟨?_, hmem, canonical_of_preorder hpreorder (load?_eq_ok hself).1, hpreorder.fresh.1⟩
    obtain ⟨more, rfl⟩ := exists_cons_of_preorder hpreorder
    rfl

/-! ## 5. A disk with cycles -/

/-- A project that depends on itself and on two others, which meet again; the last one **leads back**. -/
def webEntries : List (String × Disk.Entry) :=
  [("a", .file "name: a\ndependencies: [{name: c, path: c}]".toUTF8),
   ("b", .file "name: b\ndependencies: [{name: c, path: c}, {name: r, path: r}]".toUTF8),
   ("c", .file "name: c\ndependencies: [{name: b, path: b}]".toUTF8),
   ("r", .file "name: r\ndependencies: [{name: r, path: .}, {name: a, path: a}, {name: b, path: b}]".toUTF8)]

theorem files_webEntries : ∀ x ∈ webEntries, ∃ bytes, x.2 = .file bytes := by
  decide

theorem ascending_webEntries : Ascending webEntries := by
  decide

/-- A disk with these projects. -/
def webDisk : Disk :=
  ⟨webEntries, [], Disk.tidy_of_files files_webEntries ascending_webEntries (by decide +kernel)⟩

/-- The projects of the web, **depth first and each once**, although they lead back to each other. -/
theorem closure_webDisk : ∃ p, load? webDisk "r" ⟨"/r"⟩ = .ok p ∧
    Closure webDisk "r" p ∧
    ∃ out, withDependencies? webDisk "r" p = .ok out ∧
      out.map (·.name) = ["r", "a", "c", "b"] := by
  have hrun : ((load? webDisk "r" ⟨"/r"⟩).toOption.bind fun p =>
      (withDependencies? webDisk "r" p).toOption.map fun out => out.map (·.name)) =
      some ["r", "a", "c", "b"] := by
    decide +kernel
  obtain ⟨p, hp, hrun⟩ := Option.bind_eq_some_iff.1 hrun
  obtain ⟨out, hout, hnames⟩ := Option.map_eq_some_iff.1 hrun
  rw [Outcome.toOption_eq_some] at hp hout
  exact ⟨p, hp, closure_of_load? hp, out, hout, hnames⟩

end TreeIndex.Project
