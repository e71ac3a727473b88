import TreeIndex.Proofs.Dictionary
import TreeIndex.Proofs.Disk.Place
import TreeIndex.Proofs.Indexer.Run
import TreeIndex.Proofs.Outcome

/-!
# What an indexer does after any run

Whatever an indexer was asked, on whatever disks, and whatever failed:

* `Remembers.isIndexed_iff`: it has an index **exactly if a call succeeded**;
* `Passes`: going through the tree with some definitions; `Remembers.index_passes`: which ones they are;
* `Life`, `life_of_run`: what is refused, what is shown, what is kept, and what is counted.
-/

namespace TreeIndex

variable {s : Settings} {start : Path} {cs : List Call} {x : Indexer}

/-! ## 1. States -/

/-- **There is an index** exactly if a call has succeeded. -/
theorem Remembers.isIndexed_iff (h : Remembers s start cs x) :
    (∃ ix, x.state = .indexed ix) ↔ ∃ c ∈ cs, c.succeeds = true := by
  have hstands := h.stands
  constructor
  · rintro ⟨ix, hix⟩
    rw [hix] at hstands
    cases hstands with
    | indexed hs => exact hs.exists_succeeds
  · rintro ⟨c, hc, hs⟩
    cases hst : x.state with
    | indexed ix => exact ⟨ix, rfl⟩
    | uninitialized =>
      rw [hst] at hstands
      cases hstands with
      | uninitialized hn _ => exact absurd hs (by simp [hn c hc])
    | resolved ds =>
      rw [hst] at hstands
      cases hstands with
      | resolved hn _ => exact absurd hs (by simp [hn c hc])

/-- The index of a state is **what the last successful call found**. -/
theorem Remembers.state_eq_indexed_iff (h : Remembers s start cs x) {ix : Index} :
    x.state = .indexed ix ↔ Shows s start cs ix := by
  have hall {jx : Index} (hj : x.state = .indexed jx) : Shows s start cs jx := by
    have hstands := h.stands
    rw [hj] at hstands
    cases hstands with
    | indexed hs => exact hs
  refine ⟨hall, fun hs => ?_⟩
  obtain ⟨jx, hj⟩ := h.isIndexed_iff.2 hs.exists_succeeds
  rw [hj, hs.unique (hall hj)]

theorem Indexer.view?_eq_ok {ix : Index} : x.view? = .ok ix ↔ x.state = .indexed ix := by
  unfold Indexer.view?
  cases hst : x.state with
  | indexed jx => simp only [Except.ok.injEq, IndexState.indexed.injEq]
  | _ => exact ⟨nofun, nofun⟩

/-! ## 2. Passes over the tree -/

/-- What a pass over the tree answers. -/
theorem Indexer.build_fst (d : Disk) (ds : Definitions) :
    (x.build d ds).1 = (Index.build? d x.settings ds).map fun _ => () := by
  rcases Indexer.build_cases (d := d) (x := x) ds with ⟨ix, hix, hb⟩ | ⟨fault, hf, hb⟩
  · rw [hb, hix]
    rfl
  · rw [hb, hf]
    rfl

/-- What a pass over the tree leaves behind. -/
theorem Indexer.build_state (d : Disk) (ds : Definitions) :
    (x.build d ds).2.state = match Index.build? d x.settings ds with
      | .ok ix => .indexed ix
      | .error _ => x.state := by
  rcases Indexer.build_cases (d := d) (x := x) ds with ⟨ix, hix, hb⟩ | ⟨fault, hf, hb⟩
  · rw [hb, hix]
  · rw [hb, hf]

/-- A request to refresh that fails **leaves the state**. -/
theorem Indexer.refresh_state {d : Disk} {fault : Fault} (h : (x.refresh d).1 = .error fault) :
    (x.refresh d).2.state = x.state := by
  rcases Indexer.refresh_cases (d := d) (x := x) with ⟨ds, -, hx⟩ | ⟨other, -, hx⟩
  · rw [hx, Indexer.build_fst] at h
    rw [hx, Indexer.build_state]
    cases hb : Index.build? d x.settings ds with
    | ok ix =>
      rw [hb] at h
      cases h
    | error other => rfl
  · rw [hx]

/-- The request to index **is refused** exactly if there is an index. -/
theorem Indexer.index_refused_iff (d : Disk) :
    (∃ root, (x.index d).1 = .error (.alreadyIndexed root)) ↔ ∃ ix, x.state = .indexed ix := by
  rcases Indexer.index_cases (d := d) (x := x) with
    ⟨ix, hst, hx⟩ | ⟨fault, hst, hf, hx⟩ | ⟨ds, hst, hx⟩
  · rw [hx, hst]
    exact ⟨fun _ => ⟨ix, rfl⟩, fun _ => ⟨_, rfl⟩⟩
  · rw [hx, hst]
    have hne := (Definitions.resolve?_faultsIn d x.settings x.start).ne_alreadyIndexed (by decide) hf
    refine ⟨fun ⟨root, hr⟩ => absurd (Except.error.inj hr) (hne root), fun ⟨_, hi⟩ => ?_⟩
    cases hi
  · rw [hx, Indexer.build_fst]
    constructor
    · rintro ⟨root, hr⟩
      cases hb : Index.build? d x.settings ds with
      | ok ix =>
        rw [hb] at hr
        cases hr
      | error fault =>
        rw [hb] at hr
        have hne := (Index.build?_faultsIn d x.settings ds).ne_alreadyIndexed (by decide) hb
        exact absurd (Except.error.inj hr) (hne root)
    · rintro ⟨ix, hi⟩
      rcases hst with hst | ⟨hst, -⟩ <;> rw [hst] at hi <;> cases hi

/-- Where something is shown that was not there before, **the request to index has found it**. -/
theorem Indexer.index_of_shown {d : Disk} {ix : Index} (hx : x.state = .uninitialized)
    (h : (x.index d).2.view? = .ok ix) :
    x.index d = (.ok (), { x with state := .indexed ix, builds := x.builds + 1 }) := by
  rw [Indexer.view?_eq_ok] at h
  rcases Indexer.index_cases (d := d) (x := x) with
    ⟨jx, hst, -⟩ | ⟨fault, -, -, hi⟩ | ⟨ds, -, hi⟩
  · cases hx.symm.trans hst
  · rw [hi] at h
    cases hx.symm.trans h
  · rcases Indexer.build_cases (d := d) (x := { x with state := .resolved ds }) ds with
      ⟨jx, -, hb⟩ | ⟨fault, -, hb⟩
    · rw [hi, hb] at h
      cases h
      exact hi.trans hb
    · rw [hi, hb] at h
      cases h

/-- **Going through the tree** with some definitions: the answer, and the state after it. `kept` is what stays
    if the pass fails. -/
structure Passes (s : Settings) (d : Disk) (ds : Definitions) (kept : IndexState)
    (reply : Indexer.Reply Unit) : Prop where
  answer : reply.1 = (Index.build? d s ds).map fun _ => ()
  built : ∀ ix, Index.build? d s ds = .ok ix → reply.2.state = .indexed ix
  failed : ∀ fault, Index.build? d s ds = .error fault → reply.2.state = kept

theorem Indexer.passes_build (hx : x.settings = s) (d : Disk) (ds : Definitions) :
    Passes s d ds x.state (x.build d ds) where
  answer := hx ▸ Indexer.build_fst d ds
  built ix hix := by
    rw [Indexer.build_state, hx, hix]
  failed fault hf := by
    rw [Indexer.build_state, hx, hf]

/-- Where a request to index **goes through the tree**, it does so with the definitions that were resolved first
    and keeps them. -/
theorem Remembers.index_passes (h : Remembers s start cs x) {d : Disk}
    (hb : (x.index d).2.builds ≠ x.builds) :
    ∃ ds, firstResolved s start (cs.map (·.request) ++ [.index d]) = some ds ∧
      Passes s d ds (.resolved ds) (x.index d) := by
  rcases Indexer.index_cases (d := d) (x := x) with
    ⟨ix, hst, hx⟩ | ⟨fault, hst, hf, hx⟩ | ⟨ds, hst, hx⟩
  · rw [hx] at hb
    exact absurd rfl hb
  · rw [hx] at hb
    exact absurd rfl hb
  · refine ⟨ds, (h.firstResolved_index hst).2, ?_⟩
    rw [hx]
    exact Indexer.passes_build (x := { x with state := .resolved ds }) h.settings_eq d ds

/-! ## 3. The life of an indexer -/

/-- **What holds of an indexer after a run**, whatever is asked next and on whatever disk. -/
structure Life (s : Settings) (start : Path) (cs : List Call) (x : Indexer) : Prop where
  /-- Indexing is refused exactly if a call has indexed the tree before, -/
  refused_iff : ∀ d, (∃ root, (x.index d).1 = .error (.alreadyIndexed root)) ↔
    ∃ c ∈ cs, c.succeeds = true
  /-- and what is refused changes nothing. -/
  refused_same : ∀ d root, (x.index d).1 = .error (.alreadyIndexed root) → (x.index d).2 = x
  /-- Something is shown exactly if a call has indexed the tree before, -/
  shown_iff : (∃ ix, x.view? = .ok ix) ↔ ∃ c ∈ cs, c.succeeds = true
  /-- and that is what the last of these calls has found. -/
  shown : ∀ ix, x.view? = .ok ix ↔ Shows s start cs ix
  /-- A request to refresh that fails leaves the state, its definitions and what is shown. -/
  kept : ∀ d fault, (x.refresh d).1 = .error fault →
    (x.refresh d).2.state = x.state ∧ (x.refresh d).2.view? = x.view?
  /-- What is indexed stays indexed. -/
  indexed : ∀ r ix, x.state = .indexed ix → ∃ jx, (x.answer r).2.state = .indexed jx
  /-- Indexing goes through the tree with the definitions that were resolved first, -/
  index : ∀ d, (x.index d).2.builds ≠ x.builds →
    ∃ ds, firstResolved s start (cs.map (·.request) ++ [.index d]) = some ds ∧
      Passes s d ds (.resolved ds) (x.index d)
  /-- and refreshing with new ones, -/
  refresh : ∀ d ds, Definitions.resolve? d s start = .ok ds → Passes s d ds x.state (x.refresh d)
  /-- or not at all. -/
  unresolved : ∀ d fault, Definitions.resolve? d s start = .error fault →
    x.refresh d = (.error fault, x)
  /-- The passes that are counted are the calls that were not refused and had definitions. -/
  builds : x.builds = cs.countP (Call.passes s start)

/-- **The life of an indexer**, after every run. -/
theorem life_of_run (h : Run s start cs x) : Life s start cs x where
  refused_iff d := by
    rw [Indexer.index_refused_iff, (remembers_of_run h).isIndexed_iff]
  refused_same d root hr := by
    obtain ⟨ix, hix⟩ := (Indexer.index_refused_iff d).1 ⟨root, hr⟩
    unfold Indexer.index
    rw [hix]
  shown_iff := by
    simp only [Indexer.view?_eq_ok, (remembers_of_run h).isIndexed_iff]
  shown ix := by
    rw [Indexer.view?_eq_ok, (remembers_of_run h).state_eq_indexed_iff]
  kept d fault hf := by
    have hstate := Indexer.refresh_state hf
    refine ⟨hstate, ?_⟩
    unfold Indexer.view?
    rw [hstate]
  indexed r ix hix := by
    have hsome := (remembers_of_run h).isIndexed_iff.1 ⟨ix, hix⟩
    obtain ⟨c, hc, hs⟩ := hsome
    exact (remembers_of_run (h.call r)).isIndexed_iff.2 ⟨c, List.mem_append_left _ hc, hs⟩
  index d hb := (remembers_of_run h).index_passes hb
  refresh d ds hds := by
    have hm := remembers_of_run h
    unfold Indexer.refresh
    rw [hm.settings_eq, hm.start_eq, hds]
    exact Indexer.passes_build hm.settings_eq d ds
  unresolved d fault hf := by
    have hm := remembers_of_run h
    unfold Indexer.refresh
    rw [hm.settings_eq, hm.start_eq, hf]
  builds := (remembers_of_run h).builds_eq

/-! ## 4. A tree with one text -/

/-- A text with one section, and the definitions for both. -/
def textEntries : List (String × Disk.Entry) :=
  [("a.txt", .file "x\n<foo\n>foo\n".toUTF8),
   ("part.item", .file "identifier:\n start: <{name:[a-z]+}\n end: '>{name}'".toUTF8),
   ("root.config", .file "index: {types: [file, item], identifiers: {file: .kind, item: .item}}".toUTF8),
   ("root.item", .file "".toUTF8),
   ("root.kind", .file "".toUTF8),
   ("text.kind", .file "identifier: .txt".toUTF8)]

/-- There are only files. -/
theorem files_textEntries : ∀ x ∈ textEntries, ∃ bytes, x.2 = .file bytes := by
  decide

theorem tidy_textEntries : (Disk.Entry.folder textEntries).Tidy := by
  have hascending : Ascending textEntries := by
    decide
  exact Disk.tidy_of_files files_textEntries hascending (by decide +kernel)

/-- A disk with that text. -/
def textDisk : Disk := ⟨textEntries, [], tidy_textEntries⟩

/-- An indexer at the root of a disk. -/
def rootIndexer : Indexer := { settings := {}, start := ⟨"/"⟩ }

/-- The text and its section **are indexed**. -/
theorem index_textDisk : ∃ ix, rootIndexer.index textDisk =
      (.ok (), { rootIndexer with state := .indexed ix, builds := 1 }) ∧
    ix.scope.map (fun c => (c.kind, c.name)) = [(.file, "a"), (.item, "foo"), (.project, "")] := by
  have hrun : (rootIndexer.index textDisk).2.view?.toOption.map (fun ix =>
      ix.scope.map fun c => (c.kind, c.name)) =
      some [(.file, "a"), (.item, "foo"), (.project, "")] := by
    decide +kernel
  obtain ⟨ix, hview, hscope⟩ := Option.map_eq_some_iff.1 hrun
  exact ⟨ix, Indexer.index_of_shown rfl (Outcome.toOption_eq_some.1 hview), hscope⟩

/-- The text is indexed, and **the index stays** when nothing is found on the disk any more. -/
theorem life_of_run_textDisk : ∃ cs x, Run {} ⟨"/"⟩ cs x ∧
    cs.map (·.request) = [.index textDisk, .refresh Disk.empty] ∧ ∃ ix, x.view? = .ok ix := by
  obtain ⟨_, hx, -⟩ := index_textDisk
  have hfresh : Run {} ⟨"/"⟩ [] rootIndexer := .fresh
  have hindexed := hfresh.call (.index textDisk)
  rw [Indexer.answer_index hx] at hindexed
  have hrun := hindexed.call (.refresh Disk.empty)
  exact ⟨_, _, hrun, rfl, (life_of_run hrun).shown_iff.2 ⟨_, List.mem_cons_self, rfl⟩⟩

end TreeIndex
