import TreeIndex.Index

/-!
# Which faults can come of what

Every part of an index fails in its own ways: with faults of some categories and of no others.

* `FaultsIn`: all faults of an outcome are of some categories; `FaultsIn.bind`, `faultsIn_mapM`: this goes
  through the steps that something is computed in;
* `resolve?_faultsIn`: **definitions** are not found, or refused, or cannot be read;
* `build?_faultsIn`: **a pass over a tree** can also fail where items are extracted.

So neither of them says that something was called out of order: that is said by an indexer alone.
-/

namespace TreeIndex

/-! ## 1. Categories of faults -/

/-- All faults of an outcome **are of some categories**. -/
def FaultsIn {β : Type} (ks : List Category) (r : Except Fault β) : Prop :=
  ∀ fault, r = .error fault → fault.category ∈ ks

section Steps

variable {α β : Type} {ks ls : List Category}

theorem faultsIn_ok {a : α} : FaultsIn ks (.ok a : Except Fault α) :=
  nofun

theorem faultsIn_error {fault : Fault} (k : Category) (hk : fault.category = k) (h : k ∈ ks) :
    FaultsIn ks (.error fault : Except Fault α) := by
  intro _ hf
  cases hf
  exact hk ▸ h

theorem FaultsIn.mono {r : Except Fault α} (h : FaultsIn ks r) (hle : ∀ k ∈ ks, k ∈ ls) :
    FaultsIn ls r :=
  fun fault hf => hle _ (h fault hf)

theorem FaultsIn.bind {x : Except Fault α} {f : α → Except Fault β} (hx : FaultsIn ks x)
    (hf : ∀ a, FaultsIn ks (f a)) : FaultsIn ks (x >>= f) := by
  intro fault h
  cases x with
  | error other =>
    cases h
    exact hx _ rfl
  | ok a => exact hf a fault h

/-- **A list of steps** fails as its elements do. -/
theorem faultsIn_mapM {f : α → Except Fault β} (hf : ∀ a, FaultsIn ks (f a)) :
    ∀ xs : List α, FaultsIn ks (xs.mapM f)
  | [] => faultsIn_ok
  | x :: xs => by
    rw [List.mapM_cons]
    exact (hf x).bind fun _ => (faultsIn_mapM hf xs).bind fun _ => faultsIn_ok

end Steps

/-! ## 2. Files -/

namespace Disk

variable (d : Disk) (p : Path)

theorem content?_faultsIn : FaultsIn [.io] (d.content? p) := by
  unfold content?
  split
  · exact faultsIn_ok
  · exact faultsIn_error .io rfl (by decide)

theorem value?_faultsIn : FaultsIn [.io] (d.value? p) := by
  refine (content?_faultsIn d p).bind fun text => ?_
  split
  · exact faultsIn_ok
  · exact faultsIn_ok
  · exact faultsIn_error .io rfl (by decide)

theorem mapping?_faultsIn : FaultsIn [.configuration, .io] (d.mapping? p) := by
  refine ((value?_faultsIn d p).mono (by decide)).bind fun v => ?_
  split
  · exact faultsIn_ok
  · exact faultsIn_error .configuration rfl (by decide)

end Disk

theorem SourceFile.load?_faultsIn (d : Disk) (definition : Definition) (p : Path) :
    FaultsIn [.io] (SourceFile.load? d definition p) :=
  (Disk.content?_faultsIn d _).bind fun _ => faultsIn_ok

/-! ## 3. Definitions -/

theorem Definition.inFile_faultsIn {β : Type} (file : Path) (r : Except ConfigurationCause β) :
    FaultsIn [.configuration] (Definition.inFile file r) := by
  unfold Definition.inFile
  split
  · exact faultsIn_ok
  · exact faultsIn_error .configuration rfl (by decide)

theorem Draft.onto?_faultsIn (root : Definition) (draft : Draft) :
    FaultsIn [.configuration] (Draft.onto? root draft) := by
  unfold Draft.onto?
  split
  · exact Definition.inFile_faultsIn _ _
  · exact faultsIn_error .configuration rfl (by decide)

theorem family?_faultsIn (types : Types) (drafts : List Draft) (kind : String) :
    FaultsIn [.configuration, .discovery] (family? types drafts kind) := by
  unfold family?
  dsimp only
  split
  · exact faultsIn_ok
  · split
    · exact faultsIn_error .discovery rfl (by decide)
    · refine FaultsIn.bind ((Definition.inFile_faultsIn _ _).mono (by decide)) fun root => ?_
      refine ((faultsIn_mapM (Draft.onto?_faultsIn root) _).mono (by decide)).bind fun children => ?_
      exact faultsIn_ok
  · exact faultsIn_error .discovery rfl (by decide)

theorem families?_faultsIn (types : Types) (drafts : List Draft) :
    FaultsIn [.configuration, .discovery] (families? types drafts) := by
  refine (faultsIn_mapM (fun kind => ?_) types.names).bind fun found => ?_
  · exact (family?_faultsIn types drafts kind).bind fun _ => faultsIn_ok
  · split
    · exact faultsIn_ok
    · exact faultsIn_error .discovery rfl (by decide)

theorem findMarker?_faultsIn (d : Disk) (s : Settings) (start : Path) :
    FaultsIn [.discovery] (findMarker? d s start) := by
  unfold findMarker?
  dsimp only
  split
  · exact faultsIn_ok
  · exact faultsIn_error .discovery rfl (by decide)

theorem rootConfig?_faultsIn (d : Disk) (s : Settings) (marker : Path) :
    FaultsIn [.configuration, .io] (rootConfig? d s marker) := by
  have hvalue : FaultsIn [.configuration, .io] (rootValue? d s marker) := by
    refine ((d.value?_faultsIn marker).mono (by decide)).bind fun v => ?_
    split
    · exact faultsIn_ok
    · split
      · exact ((d.value?_faultsIn _).mono (by decide)).bind fun _ => faultsIn_ok
      · exact faultsIn_ok
  refine hvalue.bind fun v => ?_
  split
  · exact faultsIn_ok
  · exact faultsIn_error .configuration rfl (by decide)

theorem drafts?_faultsIn (d : Disk) (s : Settings) (folder marker : Path) (types : Types) :
    FaultsIn [.configuration, .io] (drafts? d s folder marker types) := by
  refine FaultsIn.bind (faultsIn_mapM (fun e => ?_) _) fun _ => faultsIn_ok
  refine faultsIn_mapM (fun p => ?_) _
  exact (d.mapping?_faultsIn _).bind fun _ => faultsIn_ok

/-- **Definitions** are not found, or they are refused, or they cannot be read. -/
theorem Definitions.resolve?_faultsIn (d : Disk) (s : Settings) (start : Path) :
    FaultsIn [.configuration, .discovery, .io] (Definitions.resolve? d s start) := by
  refine ((findMarker?_faultsIn d s start).mono (by decide)).bind fun marker => ?_
  refine ((rootConfig?_faultsIn d s marker).mono (by decide)).bind fun config => ?_
  refine ((Definition.inFile_faultsIn marker _).mono (by decide)).bind fun types => ?_
  refine ((drafts?_faultsIn d s _ marker types).mono (by decide)).bind fun drafts => ?_
  refine ((families?_faultsIn types drafts).mono (by decide)).bind fun families => ?_
  exact faultsIn_ok

/-! ## 4. Items -/

open Template

theorem Template.build?_faultsIn (file : Path) (text : String) :
    FaultsIn [.configuration] (build? file text) := by
  unfold build?
  split
  · exact faultsIn_ok
  · exact faultsIn_error .configuration rfl (by decide)

theorem Template.pair?_faultsIn (fragments : Dictionary String) (file : Path) (start stop : String) :
    FaultsIn [.configuration] (pair? fragments file start stop) := by
  have hstart : FaultsIn [.configuration] (start? fragments file start) := by
    unfold start?
    dsimp only
    split
    · exact faultsIn_error .configuration rfl (by decide)
    · exact build?_faultsIn file _
  have hstop : FaultsIn [.configuration] (EndTemplate.ofText? fragments file stop) := by
    unfold EndTemplate.ofText?
    dsimp only
    split
    · exact (build?_faultsIn file _).bind fun _ => faultsIn_ok
    · exact faultsIn_ok
  refine hstart.bind fun p => hstop.bind fun e => ?_
  split
  · exact faultsIn_error .configuration rfl (by decide)
  · exact faultsIn_ok

namespace ItemMatcher

theorem ofDefinition?_faultsIn (d : Definition) : FaultsIn [.configuration] (ofDefinition? d) := by
  unfold ofDefinition?
  split
  · exact faultsIn_error .configuration rfl (by decide)
  · split
    · rename_i stop _
      have hstop : FaultsIn [.configuration] (endTemplate? d stop) := by
        unfold endTemplate?
        split
        · exact faultsIn_ok
        · split
          · exact faultsIn_ok
          · exact faultsIn_error .configuration rfl (by decide)
      refine hstop.bind fun text => (pair?_faultsIn _ _ _ text).bind fun e => ?_
      dsimp only
      split
      · exact (build?_faultsIn _ _).bind fun _ => faultsIn_ok
      · exact faultsIn_ok
    · exact faultsIn_error .configuration rfl (by decide)

theorem itemAt?_faultsIn (m : ItemMatcher) (f : SourceFile) (text : List Char)
    (lines : List (List Char)) (s : Scan) (c : Pattern.Capture) :
    FaultsIn [.configuration, .extraction] (m.itemAt? f text lines s c) := by
  have hstop (line : Nat) (captured : Dictionary String) :
      FaultsIn [.configuration, .extraction] (m.endPattern? f line captured) := by
    unfold endPattern?
    split
    · exact faultsIn_ok
    · split
      · exact (build?_faultsIn _ _).mono (by decide)
      · exact faultsIn_error .extraction rfl (by decide)
  refine (hstop _ _).bind fun stop => ?_
  split
  · exact faultsIn_error .extraction rfl (by decide)
  · exact faultsIn_ok

theorem itemsFrom?_faultsIn (m : ItemMatcher) (f : SourceFile) (text : List Char)
    (lines : List (List Char)) : ∀ (cs : List Pattern.Capture) (s : Scan),
      FaultsIn [.configuration, .extraction] (m.itemsFrom? f text lines s cs)
  | [], _ => faultsIn_ok
  | c :: cs, s =>
    (itemAt?_faultsIn m f text lines s c).bind fun e =>
      (itemsFrom?_faultsIn m f text lines cs e.2).bind fun _ => faultsIn_ok

end ItemMatcher

theorem extractAll?_faultsIn (f : SourceFile) : ∀ ms : List ItemMatcher,
    FaultsIn [.configuration, .extraction] (extractAll? f ms)
  | [] => faultsIn_ok
  | m :: ms =>
    (m.itemsFrom?_faultsIn f _ _ _ _).bind fun _ =>
      (extractAll?_faultsIn f ms).bind fun _ => faultsIn_ok

theorem Definitions.items?_faultsIn (ms : List ItemMatcher) : ∀ fs : List SourceFile,
    FaultsIn [.configuration, .extraction] (Definitions.items? ms fs)
  | [] => faultsIn_ok
  | f :: fs =>
    (extractAll?_faultsIn f ms).bind fun _ =>
      (Definitions.items?_faultsIn ms fs).bind fun _ => faultsIn_ok

/-! ## 5. Projects -/

theorem ProjectRecord.load?_faultsIn (d : Disk) (p : Path) : FaultsIn [.io] (ProjectRecord.load? d p) := by
  refine (d.value?_faultsIn p).bind fun v => ?_
  split
  · exact faultsIn_ok
  · exact faultsIn_error .io rfl (by decide)

namespace Project

variable (d : Disk) (marker : String)

theorem load?_faultsIn (p : Path) : FaultsIn [.configuration, .io] (Project.load? d marker p) := by
  refine ((ProjectRecord.load?_faultsIn d _).mono (by decide)).bind fun r => ?_
  split
  · exact faultsIn_ok
  · split
    · exact faultsIn_ok
    · exact faultsIn_error .configuration rfl (by decide)

theorem dependencies?_faultsIn (visited : List Path) (p : Project) : ∀ ds : List Dependency,
    FaultsIn [.configuration, .discovery, .io] (dependencies? d marker visited p ds)
  | [] => faultsIn_ok
  | dependency :: ds => by
    refine (dependencies?_faultsIn visited p ds).bind fun later => ?_
    have hpath : FaultsIn [.configuration, .discovery, .io] (dependencyPath? d marker p dependency) := by
      unfold dependencyPath?
      dsimp only
      split
      · exact faultsIn_ok
      · exact faultsIn_error .discovery rfl (by decide)
    refine hpath.bind fun path => ?_
    split
    · exact faultsIn_ok
    · exact ((load?_faultsIn d marker path).mono (by decide)).bind fun _ => faultsIn_ok

theorem reach?_faultsIn : ∀ (left : Nat) (visited : List Path) (pending : List Project),
    FaultsIn [.configuration, .discovery, .io] (reach? d marker left visited pending)
  | 0, _, _ => faultsIn_ok
  | left + 1, visited, pending => by
    unfold reach?
    split
    · exact faultsIn_ok
    · refine (dependencies?_faultsIn d marker _ _ _).bind fun found => ?_
      exact (reach?_faultsIn left _ _).bind fun _ => faultsIn_ok

end Project

theorem Definitions.projects?_faultsIn (d : Disk) (s : Settings) (ds : Definitions) :
    FaultsIn [.configuration, .discovery, .io] (ds.projects? d s) := by
  refine ((Project.load?_faultsIn d _ _).mono (by decide)).bind fun root => ?_
  refine (Project.reach?_faultsIn d _ _ _ _).bind fun own => ?_
  have hbase (base : Path) : FaultsIn [.configuration, .discovery, .io]
      (baseDependencies? d s.markerName base) := by
    refine ((ProjectRecord.load?_faultsIn d _).mono (by decide)).bind fun r => ?_
    split
    · exact faultsIn_ok
    · exact (Project.reach?_faultsIn d _ _ _ _).bind fun _ => faultsIn_ok
  dsimp only
  split
  · split
    · exact (hbase _).bind fun _ => faultsIn_ok
    · exact faultsIn_ok
  · exact faultsIn_ok

/-! ## 6. Indexes -/

/-- **A pass over a tree** fails with its projects, where a file cannot be read, or where items are
    extracted. -/
theorem Index.build?_faultsIn (d : Disk) (s : Settings) (ds : Definitions) :
    FaultsIn [.configuration, .discovery, .extraction, .io] (Index.build? d s ds) := by
  have hfiles : FaultsIn [.io] (ds.files? d s) := by
    refine faultsIn_mapM (fun e => ?_) _
    exact SourceFile.load?_faultsIn d e.2 e.1
  have hmatchers : FaultsIn [.configuration] ds.matchers? :=
    faultsIn_mapM ItemMatcher.ofDefinition?_faultsIn _
  refine (hfiles.mono (by decide)).bind fun files => ?_
  refine (hmatchers.mono (by decide)).bind fun matchers => ?_
  refine ((Definitions.items?_faultsIn matchers files).mono (by decide)).bind fun items => ?_
  exact ((Definitions.projects?_faultsIn d s ds).mono (by decide)).bind fun _ => faultsIn_ok

end TreeIndex
