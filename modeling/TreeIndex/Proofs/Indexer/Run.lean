import TreeIndex.Indexer
import TreeIndex.Proofs.Faults

/-!
# Runs of an indexer

An indexer is asked again and again, and the disk may be another one each time.

* `Request`, `Answer`, `Call`: one request with what was asked before it and what it answered;
* `Run`: the calls that an indexer has answered since it was made;
* `Call.succeeds`, `Call.refused`: what a call answered;
* `firstResolved`, `Call.definitions?`: the definitions that a call is to index with, said **of the requests
  alone** -- whatever state the indexer is in;
* `Shows`: what the last successful call indexed;
* `index_cases`, `refresh_cases`, `build_cases`: everything that a request can do;
* `Stands`, `Remembers`: the invariant of a run -- **state and counter are told by the calls**. Every request
  keeps it (`Remembers.call`), so it holds after every run (`remembers_of_run`).
-/

namespace TreeIndex

/-! ## 1. Calls -/

/-- A request, **with the disk as it is** at that moment. -/
inductive Request where
  | resolve (d : Disk)
  | index (d : Disk)
  | refresh (d : Disk)
  | view

/-- What a request answers. -/
inductive Answer where
  | definitions (r : Except Fault Definitions)
  | done (r : Except Fault Unit)
  | view (r : Except Fault Index)

/-- What an indexer answers, and the indexer after it. -/
def Indexer.answer (x : Indexer) : Request → Answer × Indexer
  | .resolve d => (.definitions (x.resolve d).1, (x.resolve d).2)
  | .index d => (.done (x.index d).1, (x.index d).2)
  | .refresh d => (.done (x.refresh d).1, (x.refresh d).2)
  | .view => (.view x.view?, x)

theorem Indexer.answer_index {x y : Indexer} {d : Disk} {r : Except Fault Unit} (h : x.index d = (r, y)) :
    x.answer (.index d) = (.done r, y) := by
  rw [Indexer.answer, h]

/-- One request of a run, with **the requests before it** and its answer. -/
structure Call where
  earlier : List Request
  request : Request
  answer : Answer

/-- The calls that an indexer has answered **since it was made**. -/
inductive Run (s : Settings) (start : Path) : List Call → Indexer → Prop where
  | fresh : Run s start [] { settings := s, start := start }
  | call {cs : List Call} {x : Indexer} (h : Run s start cs x) (r : Request) :
      Run s start (cs ++ [⟨cs.map (·.request), r, (x.answer r).1⟩]) (x.answer r).2

namespace Call

/-- The call has indexed the tree. -/
def succeeds (c : Call) : Bool :=
  match c.answer with
  | .done (.ok ()) => true
  | _ => false

/-- The call was refused, as the tree was indexed already. -/
def refused (c : Call) : Bool :=
  match c.answer with
  | .done (.error (.alreadyIndexed _)) => true
  | _ => false

end Call

/-! ## 2. What the requests say -/

section History

variable (s : Settings) (start : Path)

/-- What a request resolves if nothing was resolved before. -/
def Request.resolved? : Request → Option Definitions
  | .resolve d => (Definitions.resolve? d s start).toOption
  | .index d => (Definitions.resolve? d s start).toOption
  | _ => none

/-- **The first definitions** that some requests resolve in order to keep them. -/
def firstResolved (rs : List Request) : Option Definitions :=
  rs.findSome? (Request.resolved? s start)

/-- The definitions with which a request is **to index** the tree: those that are kept, or new ones. -/
def Request.definitions? (earlier : List Request) : Request → Option Definitions
  | .index d => firstResolved s start (earlier ++ [.index d])
  | .refresh d => (Definitions.resolve? d s start).toOption
  | _ => none

/-- The definitions with which a call is to index the tree. -/
def Call.definitions? (c : Call) : Option Definitions :=
  c.request.definitions? s start c.earlier

/-- The call goes through the tree: it is **not refused, and its definitions are there**. -/
def Call.passes (c : Call) : Bool :=
  !c.refused && (c.definitions? s start).isSome

/-- The request indexes the tree, on that disk. -/
def Request.indexesOn (d : Disk) (r : Request) : Prop :=
  r = .index d ∨ r = .refresh d

/-- The index that a call finds **with its own definitions on its own disk**. -/
def Call.Finds (c : Call) (ix : Index) : Prop :=
  ∃ d ds, c.request.indexesOn d ∧ c.definitions? s start = some ds ∧ Index.build? d s ds = .ok ix

/-- **What the last successful call indexed.** -/
def Shows (cs : List Call) (ix : Index) : Prop :=
  ∃ c, (cs.filter Call.succeeds).getLast? = some c ∧ c.Finds s start ix

end History

section Shown

variable {s : Settings} {start : Path} {cs : List Call} {c : Call} {ix : Index}

theorem firstResolved_snoc (rs : List Request) (r : Request) :
    firstResolved s start (rs ++ [r]) = (firstResolved s start rs).or (r.resolved? s start) := by
  rw [firstResolved, List.findSome?_append, List.findSome?_singleton]
  rfl

theorem Call.Finds.unique {jx : Index} (h : c.Finds s start ix) (hj : c.Finds s start jx) : ix = jx := by
  obtain ⟨d, ds, hd, hds, hix⟩ := h
  obtain ⟨e, es, he, hes, hjx⟩ := hj
  cases hds.symm.trans hes
  have hde : d = e := by
    rcases hd with hd | hd <;> rcases he with he | he <;> cases hd.symm.trans he <;> rfl
  subst hde
  exact Except.ok.inj (hix.symm.trans hjx)

theorem Shows.unique {jx : Index} (h : Shows s start cs ix) (hj : Shows s start cs jx) : ix = jx := by
  obtain ⟨c, hc, hix⟩ := h
  obtain ⟨e, he, hjx⟩ := hj
  cases hc.symm.trans he
  exact hix.unique hjx

/-- What is shown was indexed by some call. -/
theorem Shows.exists_succeeds (h : Shows s start cs ix) : ∃ c ∈ cs, c.succeeds = true := by
  obtain ⟨c, hc, -⟩ := h
  obtain ⟨hmem, hsucc⟩ := List.mem_filter.1 (List.mem_of_getLast? hc)
  exact ⟨c, hmem, hsucc⟩

/-- A call that indexes nothing **leaves what is shown**. -/
theorem Shows.snoc_of_not (h : Shows s start cs ix) (hc : c.succeeds = false) :
    Shows s start (cs ++ [c]) ix := by
  obtain ⟨e, he, hix⟩ := h
  refine ⟨e, ?_, hix⟩
  rw [List.filter_append, List.filter_cons_of_neg (by simp [hc]), List.filter_nil, List.append_nil]
  exact he

/-- A call that indexes the tree **is what is shown from then on**. -/
theorem Shows.snoc (hc : c.succeeds = true) (hix : c.Finds s start ix) : Shows s start (cs ++ [c]) ix := by
  refine ⟨c, ?_, hix⟩
  rw [List.filter_append, List.filter_cons_of_pos hc, List.filter_nil, List.getLast?_concat]

end Shown

/-! ## 3. What a request can do -/

namespace Indexer

variable {d : Disk} {x : Indexer}

/-- **A pass over the tree** counts, and changes the state only if it succeeds. -/
theorem build_cases (ds : Definitions) :
    (∃ ix, Index.build? d x.settings ds = .ok ix ∧
      x.build d ds = (.ok (), { x with state := .indexed ix, builds := x.builds + 1 })) ∨
    ∃ fault, Index.build? d x.settings ds = .error fault ∧
      x.build d ds = (.error fault, { x with builds := x.builds + 1 }) := by
  unfold build
  dsimp only
  cases h : Index.build? d x.settings ds with
  | ok ix => exact Or.inl ⟨ix, rfl, rfl⟩
  | error fault => exact Or.inr ⟨fault, rfl, rfl⟩

/-- **Resolving** does nothing where the definitions are known, or else it finds them or fails. -/
theorem resolve_cases :
    (∃ ds, x.state.definitions? = some ds ∧ x.resolve d = (.ok ds, x)) ∨
    (x.state = .uninitialized ∧
      ((∃ ds, Definitions.resolve? d x.settings x.start = .ok ds ∧
        x.resolve d = (.ok ds, { x with state := .resolved ds })) ∨
      ∃ fault, Definitions.resolve? d x.settings x.start = .error fault ∧
        x.resolve d = (.error fault, x))) := by
  unfold resolve
  cases hst : x.state with
  | resolved ds => exact Or.inl ⟨ds, rfl, rfl⟩
  | indexed ix => exact Or.inl ⟨ix.definitions, rfl, rfl⟩
  | uninitialized =>
    refine Or.inr ⟨rfl, ?_⟩
    dsimp only [IndexState.definitions?]
    cases h : Definitions.resolve? d x.settings x.start with
    | ok ds => exact Or.inl ⟨ds, rfl, rfl⟩
    | error fault => exact Or.inr ⟨fault, rfl, rfl⟩

/-- **Indexing** is refused, or there are no definitions, or it goes through the tree with those that are
    kept -- new ones if there were none. -/
theorem index_cases :
    (∃ ix, x.state = .indexed ix ∧ x.index d = (.error (.alreadyIndexed ix.definitions.rootDir), x)) ∨
    (∃ fault, x.state = .uninitialized ∧ Definitions.resolve? d x.settings x.start = .error fault ∧
      x.index d = (.error fault, x)) ∨
    ∃ ds, (x.state = .resolved ds ∨
        x.state = .uninitialized ∧ Definitions.resolve? d x.settings x.start = .ok ds) ∧
      x.index d = ({ x with state := .resolved ds } : Indexer).build d ds := by
  cases hst : x.state with
  | indexed ix =>
    refine Or.inl ⟨ix, rfl, ?_⟩
    unfold index
    rw [hst]
  | resolved ds =>
    refine Or.inr (Or.inr ⟨ds, Or.inl rfl, ?_⟩)
    have hx : ({ x with state := .resolved ds } : Indexer) = x := by
      rw [← hst]
    unfold index resolve
    simp only [hst, IndexState.definitions?, hx]
  | uninitialized =>
    refine Or.inr ?_
    rcases resolve_cases (d := d) (x := x) with ⟨ds, hds, -⟩ | ⟨-, ⟨ds, hds, hr⟩ | ⟨fault, hf, hr⟩⟩
    · rw [hst] at hds
      cases hds
    · refine Or.inr ⟨ds, Or.inr ⟨rfl, hds⟩, ?_⟩
      unfold index
      simp only [hst, hr]
    · refine Or.inl ⟨fault, rfl, hf, ?_⟩
      unfold index
      simp only [hst, hr]

/-- **Refreshing** resolves in any case. -/
theorem refresh_cases :
    (∃ ds, Definitions.resolve? d x.settings x.start = .ok ds ∧ x.refresh d = x.build d ds) ∨
    ∃ fault, Definitions.resolve? d x.settings x.start = .error fault ∧
      x.refresh d = (.error fault, x) := by
  unfold refresh
  cases h : Definitions.resolve? d x.settings x.start with
  | ok ds => exact Or.inl ⟨ds, rfl, rfl⟩
  | error fault => exact Or.inr ⟨fault, rfl, rfl⟩

end Indexer

/-- **An indexer alone** says that the tree is indexed already. -/
theorem FaultsIn.ne_alreadyIndexed {β : Type} {ks : List Category} {r : Except Fault β} {fault : Fault}
    (h : FaultsIn ks r) (hk : .lifecycle ∉ ks) (hr : r = .error fault) (root : Path) :
    fault ≠ .alreadyIndexed root := by
  rintro rfl
  exact hk (h _ hr)

/-! ## 4. What a run leaves behind -/

section Memory

variable (s : Settings) (start : Path)

/-- What a state says **of the calls that led to it**. -/
inductive Stands (cs : List Call) : IndexState → Prop where
  | uninitialized (hn : ∀ c ∈ cs, c.succeeds = false)
      (hr : firstResolved s start (cs.map (·.request)) = none) : Stands cs .uninitialized
  | resolved {ds : Definitions} (hn : ∀ c ∈ cs, c.succeeds = false)
      (hr : firstResolved s start (cs.map (·.request)) = some ds) : Stands cs (.resolved ds)
  | indexed {ix : Index} (h : Shows s start cs ix) : Stands cs (.indexed ix)

/-- **The invariant of a run.** -/
structure Remembers (cs : List Call) (x : Indexer) : Prop where
  settings_eq : x.settings = s
  start_eq : x.start = start
  stands : Stands s start cs x.state
  builds_eq : x.builds = cs.countP (Call.passes s start)

end Memory

section Steps

variable {s : Settings} {start : Path} {cs : List Call} {c : Call} {x : Indexer}

theorem all_snoc {p : Call → Prop} (hn : ∀ c ∈ cs, p c) (hc : p c) : ∀ e ∈ cs ++ [c], p e := by
  intro e he
  rcases List.mem_append.1 he with he | he
  · exact hn e he
  · rw [List.mem_singleton.1 he]
    exact hc

/-- A call that indexes nothing **leaves a state as it stands**, if it resolves nothing that is to be kept. -/
theorem Stands.snoc {st : IndexState} (h : Stands s start cs st) (hc : c.succeeds = false)
    (hr : st = .uninitialized → c.request.resolved? s start = none) : Stands s start (cs ++ [c]) st := by
  cases h with
  | uninitialized hn hnone =>
    refine .uninitialized (all_snoc hn hc) ?_
    rw [List.map_append, List.map_singleton, firstResolved_snoc, hnone, hr rfl]
    rfl
  | resolved hn hsome =>
    refine .resolved (all_snoc hn hc) ?_
    rw [List.map_append, List.map_singleton, firstResolved_snoc, hsome]
    rfl
  | indexed h => exact .indexed (h.snoc_of_not hc)

/-- A call that does not go through the tree. -/
theorem Remembers.idle {st : IndexState} (h : Remembers s start cs x) (hc : c.passes s start = false)
    (hst : Stands s start (cs ++ [c]) st) : Remembers s start (cs ++ [c]) { x with state := st } where
  settings_eq := h.settings_eq
  start_eq := h.start_eq
  stands := hst
  builds_eq := by
    rw [List.countP_append, List.countP_singleton, hc]
    exact h.builds_eq

/-- A call that goes through the tree: **it counts**, and if it succeeds it is what is shown. -/
theorem Remembers.pass {d : Disk} {ds : Definitions} {st : IndexState} {r : Request}
    (h : Remembers s start cs x) (hr : r.indexesOn d)
    (hds : r.definitions? s start (cs.map (·.request)) = some ds)
    (hst : ∀ fault, Stands s start (cs ++ [⟨cs.map (·.request), r, .done (.error fault)⟩]) st) :
    Remembers s start
      (cs ++ [⟨cs.map (·.request), r, .done (({ x with state := st } : Indexer).build d ds).1⟩])
      (({ x with state := st } : Indexer).build d ds).2 := by
  have hcount (c : Call) (hc : c.passes s start = true) :
      x.builds + 1 = (cs ++ [c]).countP (Call.passes s start) := by
    rw [List.countP_append, List.countP_singleton, hc, h.builds_eq]
    rfl
  have hsome : (r.definitions? s start (cs.map (·.request))).isSome = true := by
    rw [hds]
    rfl
  rcases Indexer.build_cases (d := d) (x := { x with state := st }) ds with
    ⟨ix, hix, hb⟩ | ⟨fault, hf, hb⟩
  · rw [hb]
    rw [h.settings_eq] at hix
    refine ⟨h.settings_eq, h.start_eq, .indexed (Shows.snoc rfl ⟨d, ds, hr, hds, hix⟩), hcount _ ?_⟩
    exact hsome
  · rw [hb]
    refine ⟨h.settings_eq, h.start_eq, hst fault, hcount _ ?_⟩
    have hne := (Index.build?_faultsIn d x.settings ds).ne_alreadyIndexed (by decide) hf
    have hrefused : Call.refused ⟨cs.map (·.request), r, .done (.error fault)⟩ = false := by
      cases fault with
      | alreadyIndexed root => exact absurd rfl (hne root)
      | _ => rfl
    rw [Call.passes, hrefused]
    exact hsome

/-- What is to be indexed with was kept, or it is resolved just now: it is **the first that was resolved**. -/
theorem Remembers.firstResolved_index {d : Disk} {ds : Definitions} (h : Remembers s start cs x)
    (hst : x.state = .resolved ds ∨
      x.state = .uninitialized ∧ Definitions.resolve? d x.settings x.start = .ok ds) :
    (∀ c ∈ cs, c.succeeds = false) ∧
      firstResolved s start (cs.map (·.request) ++ [.index d]) = some ds := by
  have hstands := h.stands
  rcases hst with hst | ⟨hst, hd⟩ <;> rw [hst] at hstands
  · cases hstands with
    | resolved hn hr =>
      refine ⟨hn, ?_⟩
      rw [firstResolved_snoc, hr]
      rfl
  · cases hstands with
    | uninitialized hn hr =>
      refine ⟨hn, ?_⟩
      rw [h.settings_eq, h.start_eq] at hd
      rw [firstResolved_snoc, hr, Request.resolved?, hd]
      rfl

/-- A call that does not go through the tree **and changes nothing**. -/
theorem Remembers.same {r : Request} {a : Answer} (h : Remembers s start cs x)
    (hs : Call.succeeds ⟨cs.map (·.request), r, a⟩ = false)
    (hp : Call.passes s start ⟨cs.map (·.request), r, a⟩ = false)
    (hr : x.state = .uninitialized → r.resolved? s start = none) :
    Remembers s start (cs ++ [⟨cs.map (·.request), r, a⟩]) x :=
  h.idle hp (h.stands.snoc hs hr)

theorem Remembers.resolve (h : Remembers s start cs x) (d : Disk) :
    Remembers s start (cs ++ [⟨cs.map (·.request), .resolve d, .definitions (x.resolve d).1⟩])
      (x.resolve d).2 := by
  obtain rfl := h.settings_eq
  obtain rfl := h.start_eq
  rcases Indexer.resolve_cases (d := d) (x := x) with
    ⟨ds, hds, hx⟩ | ⟨hst, ⟨ds, hds, hx⟩ | ⟨fault, hf, hx⟩⟩
  · rw [hx]
    refine h.same rfl rfl fun hst => ?_
    rw [hst] at hds
    cases hds
  · rw [hx]
    have hstands := h.stands
    rw [hst] at hstands
    cases hstands with
    | uninitialized hn hnone =>
      refine h.idle rfl (.resolved (all_snoc hn rfl) ?_)
      rw [List.map_append, List.map_singleton, firstResolved_snoc, hnone, Request.resolved?, hds]
      rfl
  · rw [hx]
    refine h.same rfl rfl fun _ => ?_
    rw [Request.resolved?, hf]
    rfl

theorem Remembers.index (h : Remembers s start cs x) (d : Disk) :
    Remembers s start (cs ++ [⟨cs.map (·.request), .index d, .done (x.index d).1⟩]) (x.index d).2 := by
  obtain rfl := h.settings_eq
  obtain rfl := h.start_eq
  rcases Indexer.index_cases (d := d) (x := x) with
    ⟨ix, hst, hx⟩ | ⟨fault, hst, hf, hx⟩ | ⟨ds, hst, hx⟩
  · rw [hx]
    refine h.same rfl rfl fun hu => ?_
    rw [hst] at hu
    cases hu
  · rw [hx]
    have hnone : Request.resolved? x.settings x.start (.index d) = none := by
      rw [Request.resolved?, hf]
      rfl
    refine h.same rfl ?_ fun _ => hnone
    have hstands := h.stands
    rw [hst] at hstands
    cases hstands with
    | uninitialized hn hr =>
      rw [Call.passes, Call.definitions?, Request.definitions?, firstResolved_snoc, hr, hnone]
      exact Bool.and_false _
  · rw [hx]
    obtain ⟨hn, hds⟩ := h.firstResolved_index hst
    refine h.pass (Or.inl rfl) hds fun fault => .resolved (all_snoc hn rfl) ?_
    rw [List.map_append]
    exact hds

theorem Remembers.refresh (h : Remembers s start cs x) (d : Disk) :
    Remembers s start (cs ++ [⟨cs.map (·.request), .refresh d, .done (x.refresh d).1⟩])
      (x.refresh d).2 := by
  obtain rfl := h.settings_eq
  obtain rfl := h.start_eq
  rcases Indexer.refresh_cases (d := d) (x := x) with ⟨ds, hds, hx⟩ | ⟨fault, hf, hx⟩
  · rw [hx]
    have hdefs : Request.definitions? x.settings x.start (cs.map (·.request)) (.refresh d) = some ds := by
      rw [Request.definitions?, hds]
      rfl
    exact h.pass (Or.inr rfl) hdefs fun fault => h.stands.snoc rfl fun _ => rfl
  · rw [hx]
    refine h.same rfl ?_ fun _ => rfl
    rw [Call.passes, Call.definitions?, Request.definitions?, hf]
    exact Bool.and_false _

/-- **One more call** leaves behind what the calls tell. -/
theorem Remembers.call (h : Remembers s start cs x) (r : Request) :
    Remembers s start (cs ++ [⟨cs.map (·.request), r, (x.answer r).1⟩]) (x.answer r).2 := by
  cases r with
  | resolve d =>
    dsimp only [Indexer.answer]
    exact h.resolve d
  | index d =>
    dsimp only [Indexer.answer]
    exact h.index d
  | refresh d =>
    dsimp only [Indexer.answer]
    exact h.refresh d
  | view =>
    dsimp only [Indexer.answer]
    exact h.same rfl rfl fun _ => rfl

/-- **What every run leaves behind.** -/
theorem remembers_of_run (h : Run s start cs x) : Remembers s start cs x := by
  induction h with
  | fresh => exact ⟨rfl, rfl, .uninitialized (fun _ hc => absurd hc List.not_mem_nil) rfl, rfl⟩
  | call _ r ih => exact ih.call r

end Steps

end TreeIndex
