import Mathlib.Data.List.TakeWhile
import TreeIndex.Proofs.Project.Target

/-!
# The search for dependencies

`reach?` keeps a stack of pending projects and the paths it has visited. What it lists is the depth-first
preorder, and it fails **only** if a dependency of a project that it reaches means none.

* `Searched`: what is listed in the course of a search -- the first project, then others that were read, all
  apart. So **the files of the disk bound how many there are** (`Searched.length_le`), and where no round is left,
  everything that is pending is listed (`Searched.listedIn_of_pending`);
* `dependencies?_cons_iff`, `dependencies?_eq_ok_iff`: what is found beneath a project is what its dependencies
  mean, without what is listed;
* `preorder_of_reach?`: **the stack gives the preorder**, by induction on the rounds that are left;
* `reach?_eq_error`: where the search fails, some dependency of a project it reaches means none;
* `reach?_succ`: another round changes nothing.
-/

namespace TreeIndex.Project

variable {d : Disk} {marker : String} {first p q : Project} {listed more pending : List Project}

/-! ## 1. What is listed in the course of a search -/

/-- The paths of what is listed, **the last one in front**: what the search has visited. -/
def visited (listed : List Project) : List Path :=
  (listed.map Project.path).reverse

theorem isAmong_visited {path : Path} :
    isAmong (visited listed) path = true ↔ ∃ q ∈ listed, path.same q.path = true := by
  simp [isAmong, visited]

theorem cons_visited (listed : List Project) (p : Project) :
    p.path :: visited listed = visited (listed ++ [p]) := by
  simp [visited]

/-- **The state of a search**: the first project is listed, then projects that were read, no path twice. -/
structure Searched (d : Disk) (marker : String) (first : Project) (more : List Project) : Prop where
  loaded : ∀ p ∈ more, load? d marker p.path = .ok p
  apart : (first :: more).Pairwise Apart

namespace Searched

theorem nil : Searched d marker first [] where
  loaded := fun _ h => absurd h List.not_mem_nil
  apart := List.pairwise_singleton Apart first

theorem known (h : Searched d marker first more) (hp : p ∈ first :: more) : Known d marker first p := by
  rcases List.mem_cons.1 hp with rfl | hp
  · exact Or.inl rfl
  · have hapart := (List.pairwise_cons.1 h.apart).1 p hp
    exact Or.inr ⟨h.loaded p hp, hapart.symm⟩

/-- **One step**: what is known and not listed yet is listed last. -/
theorem snoc (h : Searched d marker first more) (hp : Known d marker first p)
    (hnew : ¬ ListedIn (first :: more) p) : Searched d marker first (more ++ [p]) where
  loaded := by
    intro q hq
    rcases List.mem_append.1 hq with hq | hq
    · exact h.loaded q hq
    · obtain rfl := List.mem_singleton.1 hq
      rcases hp with rfl | ⟨hload, -⟩
      · exact absurd (listedIn_of_mem List.mem_cons_self) hnew
      · exact hload
  apart := by
    rw [← List.cons_append, List.pairwise_append]
    refine ⟨h.apart, List.pairwise_singleton Apart p, fun q hq r hr => ?_⟩
    obtain rfl := List.mem_singleton.1 hr
    exact (not_listedIn_iff.1 hnew q hq).symm

/-- **The files of the disk bound** what is listed. -/
theorem length_le (h : Searched d marker first more) :
    more.length ≤ (Disk.Entry.folder d.entries).fileCount :=
  length_le_fileCount_of_loaded h.loaded (List.pairwise_cons.1 h.apart).2

/-- Where as many are listed as there are files, **everything known is listed**. -/
theorem listedIn_of_length (h : Searched d marker first more)
    (hlen : (Disk.Entry.folder d.entries).fileCount ≤ more.length) (hp : Known d marker first p) :
    ListedIn (first :: more) p := by
  by_contra hnew
  have hle := (h.snoc hp hnew).length_le
  rw [List.length_append, List.length_singleton] at hle
  omega

end Searched

/-! ## 2. Beneath one project -/

/-- The path of a dependency is among those visited exactly if **what it means is listed**. Then the dependency is
    not read, but it could be. -/
theorem target?_of_isAmong (h : Searched d marker first more) {dependency : Dependency} {path : Path}
    (hpath : dependencyPath? d marker p dependency = .ok path)
    (hseen : isAmong (visited (first :: more)) path = true) :
    ∃ q ∈ first :: more, target? d marker first p dependency = .ok q := by
  obtain ⟨q, hq, hsame⟩ := isAmong_visited.1 hseen
  refine ⟨q, hq, Outcome.bind_eq_ok.2 ⟨path, hpath, ?_⟩⟩
  rcases h.known hq with rfl | ⟨hload, hapart⟩
  · rw [if_pos hsame]
  · have hne : ¬ path.same first.path = true := by
      intro hfirst
      rw [Apart, Bool.eq_false_iff] at hapart
      exact hapart (Path.same_iff.2 ((Path.same_iff.1 hsame).symm.trans (Path.same_iff.1 hfirst)))
    rw [if_neg hne]
    obtain ⟨hfile, rfl⟩ := dependencyPath?_eq_ok.1 hpath
    obtain ⟨_, _, hentry⟩ := Disk.isFile_iff.1 hfile
    obtain ⟨hcanonical, _, _, hentry'⟩ := load?_eq_ok hload
    rw [hcanonical] at hsame
    rw [load?_canonical, ← load?_canonical, (Disk.canonical_eq_of_same hentry hentry' hsame).2,
      load?_canonical]
    exact hload

/-- What a dependency means lies **at its path**. -/
theorem path_of_target? {dependency : Dependency} {path : Path}
    (hpath : dependencyPath? d marker p dependency = .ok path)
    (h : target? d marker first p dependency = .ok q) : path.same q.path = true := by
  obtain ⟨_, hpath', h⟩ := Outcome.bind_eq_ok.1 h
  obtain rfl := Except.ok.inj (hpath.symm.trans hpath')
  split at h
  · rename_i hsame
    obtain rfl := Except.ok.inj h
    exact hsame
  · obtain ⟨-, rfl⟩ := dependencyPath?_eq_ok.1 hpath
    rw [(load?_eq_ok h).1, Disk.canonical_canonical]
    exact Path.same_refl _

/-- So what a dependency means is listed exactly if **its path is among those visited**. -/
theorem isAmong_of_target? {paths : List Path} {dependency : Dependency} {path : Path}
    (hpath : dependencyPath? d marker p dependency = .ok path)
    (h : target? d marker first p dependency = .ok q) : isAmong paths q.path = isAmong paths path := by
  have hsteps := Path.same_iff.1 (path_of_target? hpath h)
  have hsame : q.path.same = path.same := by
    funext other
    rw [Path.same, Path.same, hsteps]
  rw [isAmong, isAmong, hsame]

/-- **One dependency**: what it means comes in front of what the others give, unless it is listed. -/
theorem dependencies?_cons_iff (h : Searched d marker first more) {dependency : Dependency}
    {rest : List Dependency} {found : List Project} :
    dependencies? d marker (visited (first :: more)) p (dependency :: rest) = .ok found ↔
      ∃ q later, target? d marker first p dependency = .ok q ∧
        dependencies? d marker (visited (first :: more)) p rest = .ok later ∧
          found = if isAmong (visited (first :: more)) q.path then later else q :: later := by
  have hfirst {path : Path} (hseen : ¬ isAmong (visited (first :: more)) path = true) :
      ¬ path.same first.path = true := fun hsame =>
    hseen (isAmong_visited.2 ⟨first, List.mem_cons_self, hsame⟩)
  rw [dependencies?, Outcome.bind_eq_ok]
  constructor
  · rintro ⟨later, hlater, hrest⟩
    obtain ⟨path, hpath, hrest⟩ := Outcome.bind_eq_ok.1 hrest
    split at hrest
    · rename_i hseen
      obtain ⟨q, -, hq⟩ := target?_of_isAmong h hpath hseen
      refine ⟨q, later, hq, hlater, ?_⟩
      rw [isAmong_of_target? hpath hq, if_pos hseen]
      exact (Except.ok.inj hrest).symm
    · rename_i hseen
      obtain ⟨q, hload, hrest⟩ := Outcome.bind_eq_ok.1 hrest
      have hq : target? d marker first p dependency = .ok q :=
        Outcome.bind_eq_ok.2 ⟨path, hpath, (if_neg (hfirst hseen)).trans hload⟩
      refine ⟨q, later, hq, hlater, ?_⟩
      rw [isAmong_of_target? hpath hq, if_neg hseen]
      exact (Except.ok.inj hrest).symm
  · rintro ⟨q, later, hq, hlater, rfl⟩
    obtain ⟨path, hpath, hrest⟩ := Outcome.bind_eq_ok.1 hq
    refine ⟨later, hlater, Outcome.bind_eq_ok.2 ⟨path, hpath, ?_⟩⟩
    rw [isAmong_of_target? hpath hq]
    by_cases hseen : isAmong (visited (first :: more)) path = true
    · rw [if_pos hseen, if_pos hseen]
    · rw [if_neg (hfirst hseen)] at hrest
      rw [if_neg hseen, if_neg hseen, hrest]
      rfl

/-- **What is found beneath a project**: what its dependencies mean, one for each, without what is listed. -/
theorem dependencies?_eq_ok_iff (h : Searched d marker first more) :
    ∀ {dependencies : List Dependency} {found : List Project},
      dependencies? d marker (visited (first :: more)) p dependencies = .ok found ↔
        ∃ qs, List.Forall₂ (fun dependency q => target? d marker first p dependency = .ok q) dependencies qs ∧
          found = qs.filter fun q => !isAmong (visited (first :: more)) q.path
  | [], found => by
    rw [dependencies?, Except.ok.injEq]
    constructor
    · rintro rfl
      exact ⟨[], .nil, rfl⟩
    · rintro ⟨qs, hqs, rfl⟩
      cases hqs
      rfl
  | dependency :: rest, found => by
    have hfilter (q : Project) (qs : List Project) :
        (q :: qs).filter (fun q => !isAmong (visited (first :: more)) q.path) =
          if isAmong (visited (first :: more)) q.path then
            qs.filter fun q => !isAmong (visited (first :: more)) q.path
          else q :: qs.filter fun q => !isAmong (visited (first :: more)) q.path := by
      cases hseen : isAmong (visited (first :: more)) q.path <;> simp [hseen]
    rw [dependencies?_cons_iff h]
    constructor
    · rintro ⟨q, later, hq, hlater, rfl⟩
      obtain ⟨qs, hqs, rfl⟩ := (dependencies?_eq_ok_iff h).1 hlater
      exact ⟨q :: qs, .cons hq hqs, (hfilter q qs).symm⟩
    · rintro ⟨_, hqs, rfl⟩
      obtain ⟨q, qs, hq, hrest, rfl⟩ := List.forall₂_cons_left_iff.1 hqs
      exact ⟨q, _, hq, (dependencies?_eq_ok_iff h).2 ⟨qs, hrest, rfl⟩, hfilter q qs⟩

/-- Nothing is found beneath a project only if **one of its dependencies means nothing**. -/
theorem dependencies?_eq_error (h : Searched d marker first more) {dependencies : List Dependency} {fault : Fault}
    (hf : dependencies? d marker (visited (first :: more)) p dependencies = .error fault) :
    ∃ dependency ∈ dependencies, ∀ q, target? d marker first p dependency ≠ .ok q := by
  by_contra hall
  push Not at hall
  obtain ⟨qs, hqs⟩ := Outcome.exists_mapM_eq_ok hall
  have hok := (dependencies?_eq_ok_iff h).2 ⟨qs, Outcome.mapM_eq_ok.1 hqs, rfl⟩
  rw [hf] at hok
  cases hok

/-- What is found beneath a project is known, and some dependency **leads to it**. -/
theorem known_of_dependencies? (h : Searched d marker first more) {found : List Project}
    (hf : dependencies? d marker (visited (first :: more)) p p.dependencies = .ok found) (hq : q ∈ found) :
    Known d marker first q ∧ LeadsTo d marker first p q := by
  obtain ⟨qs, hqs, rfl⟩ := (dependencies?_eq_ok_iff h).1 hf
  obtain ⟨dependency, hdep, htarget⟩ := Leads.leadsTo hqs (List.mem_of_mem_filter hq)
  exact ⟨known_of_target? htarget, dependency, hdep, htarget⟩

/-- Where what is pending is known, it stays so **with what is found beneath a project in front**. -/
theorem known_of_pending (h : Searched d marker first more) {found rest : List Project}
    (hf : dependencies? d marker (visited (first :: more)) p p.dependencies = .ok found)
    (hrest : ∀ q ∈ rest, Known d marker first q) : ∀ q ∈ found ++ rest, Known d marker first q := by
  intro q hq
  rcases List.mem_append.1 hq with hq | hq
  · exact (known_of_dependencies? h hf hq).1
  · exact hrest q hq

/-! ## 3. One round -/

/-- What one round of the search does: it **passes over what is listed**, and stops or goes on beneath the first
    project that is not. -/
theorem reach?_cases (d : Disk) (marker : String) (listed pending : List Project) :
    (∀ p ∈ pending, ListedIn listed p) ∧
        (∀ left, reach? d marker (left + 1) (visited listed) pending = .ok []) ∨
      ∃ before p rest, pending = before ++ p :: rest ∧ (∀ q ∈ before, ListedIn listed q) ∧
        ¬ ListedIn listed p ∧ ∀ left, reach? d marker (left + 1) (visited listed) pending =
          (do
            let found ← dependencies? d marker (visited (listed ++ [p])) p p.dependencies
            let reached ← reach? d marker left (visited (listed ++ [p])) (found ++ rest)
            .ok (p :: reached)) := by
  let seen : Project → Bool := fun p => isAmong (visited listed) p.path
  have hbefore : ∀ q ∈ pending.takeWhile seen, ListedIn listed q := by
    intro q hq
    have hseen : seen q = true := List.mem_takeWhile_imp hq
    exact isAmong_visited.1 hseen
  have hsplit : pending.takeWhile seen ++ pending.dropWhile seen = pending := List.takeWhile_append_dropWhile
  cases hdrop : pending.dropWhile seen with
  | nil =>
    rw [hdrop, List.append_nil] at hsplit
    rw [hsplit] at hbefore
    refine Or.inl ⟨hbefore, fun left => ?_⟩
    rw [reach?]
    simp only [show (fun p : Project => isAmong (visited listed) p.path) = seen from rfl, hdrop]
  | cons p rest =>
    have hnew : seen p = false := by
      have hhead := List.head?_dropWhile_not seen pending
      rw [hdrop] at hhead
      exact hhead
    refine Or.inr ⟨pending.takeWhile seen, p, rest, ?_, hbefore, ?_, fun left => ?_⟩
    · rw [← hdrop, hsplit]
    · intro hl
      have hseen : seen p = true := isAmong_visited.2 hl
      rw [hnew] at hseen
      cases hseen
    · rw [reach?]
      simp only [show (fun p : Project => isAmong (visited listed) p.path) = seen from rfl, hdrop,
        cons_visited]

/-! ## 4. The whole search -/

/-- **The stack gives the preorder.** The induction is on the rounds that are left; with the projects listed so
    far they are enough for all files. -/
theorem preorder_of_reach? : ∀ {left : Nat} {more pending out : List Project}, Searched d marker first more →
    (∀ p ∈ pending, Known d marker first p) →
    (Disk.Entry.folder d.entries).fileCount ≤ left + more.length →
    reach? d marker left (visited (first :: more)) pending = .ok out →
    Preorder (Leads d marker first) (first :: more) pending out
  | 0, more, pending, out, h, hknown, hleft, hout => by
    obtain rfl := Except.ok.inj hout
    have hlisted : ∀ p ∈ pending, ListedIn (first :: more) p := fun p hp =>
      h.listedIn_of_length (by omega) (hknown p hp)
    simpa using Preorder.of_listed hlisted .nil
  | left + 1, more, pending, out, h, hknown, hleft, hout => by
    rcases reach?_cases d marker (first :: more) pending with
      ⟨hlisted, hstop⟩ | ⟨before, p, rest, rfl, hbefore, hnew, hgo⟩
    · rw [hstop] at hout
      obtain rfl := Except.ok.inj hout
      simpa using Preorder.of_listed hlisted .nil
    · rw [hgo] at hout
      obtain ⟨found, hfound, hout⟩ := Outcome.bind_eq_ok.1 hout
      obtain ⟨reached, hreached, hout⟩ := Outcome.bind_eq_ok.1 hout
      obtain rfl := Except.ok.inj hout
      have hp : Known d marker first p := hknown p (by simp)
      have hstep := h.snoc hp hnew
      have hrest : ∀ q ∈ rest, Known d marker first q := fun q hq => hknown q (by simp [hq])
      have hpending := known_of_pending hstep hfound hrest
      have hdeep := preorder_of_reach? hstep hpending (by rw [List.length_append, List.length_singleton]; omega)
        hreached
      obtain ⟨below, beside, rfl, hbelow, hbeside⟩ := hdeep.append
      obtain ⟨qs, hqs, rfl⟩ := (dependencies?_eq_ok_iff hstep).1 hfound
      refine Preorder.of_listed hbefore (.new hnew hqs ?_ ?_)
      · exact Preorder.of_filter (fun q hq => isAmong_visited.1 hq) hbelow
      · simpa using hbeside

/-- Where the search fails, **some dependency** of a project that it reaches **means nothing**. -/
theorem reach?_eq_error : ∀ {left : Nat} {more pending : List Project} {fault : Fault},
    Searched d marker first more → (∀ p ∈ pending, Known d marker first p) →
    reach? d marker left (visited (first :: more)) pending = .error fault →
    ∃ p ∈ pending, ∃ q, Relation.ReflTransGen (LeadsTo d marker first) p q ∧
      ∃ dependency ∈ q.dependencies, ∀ r, target? d marker first q dependency ≠ .ok r
  | 0, _, _, _, _, _, hf => by cases hf
  | left + 1, more, pending, fault, h, hknown, hf => by
    rcases reach?_cases d marker (first :: more) pending with
      ⟨_, hstop⟩ | ⟨before, p, rest, rfl, _, hnew, hgo⟩
    · rw [hstop] at hf
      cases hf
    · rw [hgo] at hf
      have hstep := h.snoc (hknown p (by simp)) hnew
      rcases Outcome.bind_eq_error.1 hf with hf | ⟨found, hfound, hf⟩
      · exact ⟨p, by simp, p, .refl, dependencies?_eq_error hstep hf⟩
      rcases Outcome.bind_eq_error.1 hf with hf | ⟨reached, _, hf⟩
      · have hrest : ∀ q ∈ rest, Known d marker first q := fun q hq => hknown q (by simp [hq])
        have hpending := known_of_pending hstep hfound hrest
        obtain ⟨r, hr, q, hreach, hbad⟩ := reach?_eq_error hstep hpending hf
        rcases List.mem_append.1 hr with hr | hr
        · exact ⟨p, by simp, q, .head (known_of_dependencies? hstep hfound hr).2 hreach, hbad⟩
        · exact ⟨r, by simp [hr], q, hreach, hbad⟩
      · cases hf

/-- **Another round changes nothing.** -/
theorem reach?_succ : ∀ {left : Nat} {more pending : List Project}, Searched d marker first more →
    (∀ p ∈ pending, Known d marker first p) →
    (Disk.Entry.folder d.entries).fileCount ≤ left + more.length →
    reach? d marker (left + 1) (visited (first :: more)) pending =
      reach? d marker left (visited (first :: more)) pending := by
  intro left more pending h hknown hleft
  induction left generalizing more pending with
  | zero =>
    rcases reach?_cases d marker (first :: more) pending with
      ⟨_, hstop⟩ | ⟨before, p, rest, rfl, _, hnew, _⟩
    · rw [hstop, reach?]
    · exact absurd (h.listedIn_of_length (by omega) (hknown p (by simp))) hnew
  | succ left ih =>
    rcases reach?_cases d marker (first :: more) pending with
      ⟨_, hstop⟩ | ⟨before, p, rest, rfl, _, hnew, hgo⟩
    · rw [hstop, hstop]
    · have hstep := h.snoc (hknown p (by simp)) hnew
      rw [hgo, hgo]
      cases hfound : dependencies? d marker (visited (first :: more ++ [p])) p p.dependencies with
      | error fault => rfl
      | ok found =>
        have hrest : ∀ q ∈ rest, Known d marker first q := fun q hq => hknown q (by simp [hq])
        have hpending := known_of_pending hstep hfound hrest
        have hrounds := ih hstep hpending (by rw [List.length_append, List.length_singleton]; omega)
        exact congrArg (fun reached => reached >>= fun reached => .ok (p :: reached)) hrounds

end TreeIndex.Project
