import TreeIndex.Proofs.Definitions.Families
import TreeIndex.Proofs.Definitions.Refused

/-!
# Types that are complete

Definitions inherit only where every type is complete: it has one root definition and at least one that inherits from
it, and all of them can be read. Types without a root are told together at the end, anything else that is wrong at once;
so one fault is told, and which one depends on all types.

* `Complete`, `exists_family?_iff`: types that have a family;
* `FamilyFlaw`, `family?_eq_error_iff`: why another one with a root has none, and the fault that tells it;
  `FamilyFlaw.unique`: it is **one fault**;
* `exists_families?_iff`, `families?_eq_missing_iff`, `families?_eq_first`: when definitions inherit, when missing roots
  are told, and that otherwise **the first faulty type** tells its flaw;
* `inherited_families?`: all of it.
-/

namespace TreeIndex

open Yaml (Mapping mergeMappings)
open Definition (WellTagged TagsFlaw)

variable {types : Types} {drafts : List Draft} {kind : String}

/-! ## 1. One type -/

/-- The drafts of a type that **are roots**. -/
def rootDrafts (drafts : List Draft) (kind : String) : List Draft :=
  (drafts.filter fun r => r.kind == kind).filter Draft.isRoot

/-- A type is **complete**: it has one root, whose tags can be read, and others, which all inherit from it. -/
def Complete (drafts : List Draft) (kind : String) : Prop :=
  ∃ root, rootDrafts drafts kind = [root] ∧ WellTagged root.config ∧ childDrafts drafts kind ≠ [] ∧
    ∀ child ∈ childDrafts drafts kind, child.Inherits root.config

/-- **Why a type with a root is not complete**, and the fault that tells it. -/
inductive FamilyFlaw (types : Types) (drafts : List Draft) (kind : String) : Fault → Prop
  | severalRoots (h : 2 ≤ (rootDrafts drafts kind).length) :
      FamilyFlaw types drafts kind (.discovery (.severalRoots kind ((rootDrafts drafts kind).map (·.path))))
  | noChildren {root : Draft} {ending : String} (hroot : rootDrafts drafts kind = [root])
      (hchildren : childDrafts drafts kind = []) (hending : types.identifiers.get? kind = some ending) :
      FamilyFlaw types drafts kind (.discovery (.noChildren kind ending root.path))
  | rootTags {root : Draft} {cause : ConfigurationCause} (hroot : rootDrafts drafts kind = [root])
      (hchildren : childDrafts drafts kind ≠ []) (h : TagsFlaw root.config cause) :
      FamilyFlaw types drafts kind (.configuration root.path cause)
  | child {root child : Draft} {before after : List Draft} {cause : ConfigurationCause}
      (hroot : rootDrafts drafts kind = [root]) (htagged : WellTagged root.config)
      (hchildren : childDrafts drafts kind = before ++ child :: after)
      (hbefore : ∀ b ∈ before, b.Inherits root.config) (h : child.Flaw root.config cause) :
      FamilyFlaw types drafts kind (.configuration child.path cause)

theorem family?_of_nil (h : rootDrafts drafts kind = []) : family? types drafts kind = .ok none := by
  unfold family?
  dsimp only
  rw [rootDrafts] at h
  rw [h]

section OneRoot

variable {root : Draft} (hroot : rootDrafts drafts kind = [root])

include hroot in
theorem family?_of_singleton : family? types drafts kind =
    if (childDrafts drafts kind).isEmpty then
      .error (.discovery (.noChildren kind ((types.identifiers.get? kind).getD "") root.path))
    else Definition.root? kind root.config root.path >>= fun d =>
      (childDrafts drafts kind).mapM (Draft.onto? d) >>= fun ds => .ok (some ⟨d, ds⟩) := by
  unfold family?
  dsimp only
  rw [rootDrafts] at hroot
  rw [hroot]
  rfl

include hroot in
theorem family?_of_childless (h : childDrafts drafts kind = []) : family? types drafts kind =
    .error (.discovery (.noChildren kind ((types.identifiers.get? kind).getD "") root.path)) := by
  rw [family?_of_singleton hroot, h]
  rfl

include hroot in
theorem family?_of_children (h : childDrafts drafts kind ≠ []) : family? types drafts kind =
    Definition.root? kind root.config root.path >>= fun d =>
      (childDrafts drafts kind).mapM (Draft.onto? d) >>= fun ds => .ok (some ⟨d, ds⟩) := by
  rw [family?_of_singleton hroot, if_neg (mt List.isEmpty_iff.1 h)]

end OneRoot

theorem family?_of_several (h : 2 ≤ (rootDrafts drafts kind).length) : family? types drafts kind =
    .error (.discovery (.severalRoots kind ((rootDrafts drafts kind).map (·.path)))) := by
  unfold family?
  dsimp only
  rw [rootDrafts] at h ⊢
  split
  · rename_i hnil
    rw [hnil] at h
    cases h
  · rename_i root hone
    rw [hone, List.length_singleton] at h
    omega
  · rfl

/-- A root that can be read, **with its configuration**. -/
theorem config_of_root? {config : Mapping} {path : Path} {d : Definition}
    (h : Definition.root? kind config path = .ok d) : d.config = config := by
  obtain ⟨tags, -, rfl⟩ := Definition.root?_eq_ok.1 h
  rfl

/-- **The types that have a family** are those that are complete. -/
theorem exists_family?_iff (types : Types) :
    (∃ family, family? types drafts kind = .ok (some family)) ↔ Complete drafts kind := by
  constructor
  · intro ⟨family, hfamily⟩
    obtain ⟨root, hroots, hroot, hne, hchildren⟩ := family?_eq_some hfamily
    refine ⟨root, hroots, (Definition.exists_root?_iff _ _).1 ⟨_, hroot⟩, hne, fun child hchild => ?_⟩
    obtain ⟨d, -, hd⟩ := Outcome.exists_mem_of_mapM hchildren hchild
    exact config_of_root? hroot ▸ Draft.exists_onto?_iff.1 ⟨d, hd⟩
  · intro ⟨root, hroots, htagged, hne, hinherit⟩
    obtain ⟨d, hd⟩ := (Definition.exists_root?_iff kind root.path).2 htagged
    have hall : ∀ child ∈ childDrafts drafts kind, ∃ c, child.onto? d = .ok c := by
      intro child hchild
      refine Draft.exists_onto?_iff.2 ?_
      rw [config_of_root? hd]
      exact hinherit child hchild
    obtain ⟨ds, hds⟩ := Outcome.exists_mapM_eq_ok hall
    refine ⟨⟨d, ds⟩, ?_⟩
    rw [family?_of_children hroots hne, hd, Outcome.ok_bind, hds]
    rfl

/-- **A type that has no root** is left out. -/
theorem family?_eq_none_iff (types : Types) : family? types drafts kind = .ok none ↔ rootDrafts drafts kind = [] := by
  refine ⟨fun h => ?_, family?_of_nil⟩
  unfold family? at h
  dsimp only at h
  split at h
  · assumption
  · split at h
    · cases h
    · obtain ⟨d, -, h⟩ := Outcome.bind_eq_ok.1 h
      obtain ⟨ds, -, h⟩ := Outcome.bind_eq_ok.1 h
      cases h
  · cases h

theorem flaw_of_family? {ending : String} (hending : types.identifiers.get? kind = some ending) {fault : Fault}
    (h : family? types drafts kind = .error fault) : FamilyFlaw types drafts kind fault := by
  rcases hroots : rootDrafts drafts kind with _ | ⟨root, _ | ⟨other, roots⟩⟩
  · rw [family?_of_nil hroots] at h
    cases h
  · by_cases hne : childDrafts drafts kind = []
    · rw [family?_of_childless hroots hne, hending] at h
      obtain rfl := Except.error.inj h
      exact .noChildren hroots hne hending
    rw [family?_of_children hroots hne] at h
    rcases Outcome.bind_eq_error.1 h with h | ⟨d, hd, h⟩
    · obtain ⟨cause, hcause, rfl⟩ := Definition.root?_eq_error_iff.1 h
      exact .rootTags hroots hne hcause
    rcases Outcome.bind_eq_error.1 h with h | ⟨_, _, h⟩
    · obtain ⟨before, child, after, hchildren, hbefore, hchild⟩ := Outcome.mapM_eq_error_iff.1 h
      obtain ⟨cause, hcause, rfl⟩ := Draft.onto?_eq_error_iff.1 hchild
      rw [config_of_root? hd] at hcause
      refine .child hroots ((Definition.exists_root?_iff _ _).1 ⟨d, hd⟩) hchildren (fun b hb => ?_) hcause
      exact config_of_root? hd ▸ Draft.exists_onto?_iff.1 (hbefore b hb)
    · cases h
  · have hseveral : 2 ≤ (rootDrafts drafts kind).length := by
      rw [hroots, List.length_cons, List.length_cons]
      omega
    rw [family?_of_several hseveral] at h
    obtain rfl := Except.error.inj h
    exact .severalRoots hseveral

theorem FamilyFlaw.family? {fault : Fault} (h : FamilyFlaw types drafts kind fault) :
    family? types drafts kind = .error fault := by
  cases h with
  | severalRoots h => exact family?_of_several h
  | noChildren hroot hchildren hending =>
    rw [family?_of_childless hroot hchildren, hending]
    rfl
  | rootTags hroot hchildren h =>
    rw [family?_of_children hroot hchildren]
    exact Outcome.bind_eq_error.2 (Or.inl (Definition.root?_eq_error_iff.2 ⟨_, h, rfl⟩))
  | child hroot htagged hchildren hbefore h =>
    obtain ⟨d, hd⟩ := (Definition.exists_root?_iff kind _).2 htagged
    rw [← config_of_root? hd] at hbefore h
    have hne : childDrafts drafts kind ≠ [] := by
      rw [hchildren]
      exact List.append_ne_nil_of_right_ne_nil _ (List.cons_ne_nil _ _)
    have hfirst := Outcome.mapM_eq_error_iff.2 ⟨_, _, _, hchildren, fun b hb =>
      Draft.exists_onto?_iff.2 (hbefore b hb), Draft.onto?_eq_error_iff.2 ⟨_, h, rfl⟩⟩
    rw [family?_of_children hroot hne, hd, Outcome.ok_bind]
    exact Outcome.bind_eq_error.2 (Or.inl hfirst)

/-- **A type is refused** exactly for its flaw. -/
theorem family?_eq_error_iff {ending : String} (hending : types.identifiers.get? kind = some ending) {fault : Fault} :
    family? types drafts kind = .error fault ↔ FamilyFlaw types drafts kind fault :=
  ⟨flaw_of_family? hending, FamilyFlaw.family?⟩

/-- A type has **one flaw** at most: the first one counts. -/
theorem FamilyFlaw.unique {fault other : Fault} (h : FamilyFlaw types drafts kind fault)
    (ho : FamilyFlaw types drafts kind other) : other = fault :=
  Except.error.inj (ho.family?.symm.trans h.family?)

/-- A type is **faulty**: it has a root, but is not complete. -/
def Faulty (drafts : List Draft) (kind : String) : Prop :=
  rootDrafts drafts kind ≠ [] ∧ ¬ Complete drafts kind

theorem exists_family?_eq_ok_iff (types : Types) :
    (∃ found, family? types drafts kind = .ok found) ↔ ¬ Faulty drafts kind := by
  rw [Faulty, ne_eq, ← family?_eq_none_iff types, ← exists_family?_iff types]
  constructor
  · intro ⟨found, hfound⟩ ⟨hroot, hfamily⟩
    cases found with
    | none => exact hroot hfound
    | some family => exact hfamily ⟨family, hfound⟩
  · intro h
    by_cases hnone : family? types drafts kind = .ok none
    · exact ⟨none, hnone⟩
    · obtain ⟨family, hfamily⟩ := Classical.not_not.1 fun hfamily => h ⟨hnone, hfamily⟩
      exact ⟨some family, hfamily⟩

/-! ## 2. All types -/

/-- The types that **have no root**, in their order. -/
def rootless (types : Types) (drafts : List Draft) : List String :=
  types.names.filter fun kind => (rootDrafts drafts kind).isEmpty

/-- A type and its family, if it has one. -/
def named? (types : Types) (drafts : List Draft) (kind : String) : Except Fault (String × Option Family) :=
  family? types drafts kind >>= fun family => .ok (kind, family)

theorem exists_named?_iff : (∃ e, named? types drafts kind = .ok e) ↔ ¬ Faulty drafts kind := by
  rw [← exists_family?_eq_ok_iff types]
  constructor
  · intro ⟨e, he⟩
    obtain ⟨found, hfound, -⟩ := Outcome.bind_eq_ok.1 he
    exact ⟨found, hfound⟩
  · intro ⟨found, hfound⟩
    exact ⟨_, Outcome.bind_eq_ok.2 ⟨found, hfound, rfl⟩⟩

/-- Of the types that were looked at, those without a family **have no root**. -/
theorem map_missing {found : List (String × Option Family)} {names : List String}
    (h : List.Forall₂ (fun kind e => named? types drafts kind = .ok e) names found) :
    (found.filter fun e => e.2.isNone).map (·.1) = names.filter fun kind => (rootDrafts drafts kind).isEmpty := by
  induction h with
  | nil => rfl
  | @cons kind e names found he _ ih =>
    obtain ⟨family, hfamily, he⟩ := Outcome.bind_eq_ok.1 he
    obtain rfl := Except.ok.inj he
    have hsame : family.isNone = (rootDrafts drafts kind).isEmpty := by
      rw [Bool.eq_iff_iff, Option.isNone_iff_eq_none, List.isEmpty_iff, ← family?_eq_none_iff types, hfamily,
        Except.ok.injEq]
    rw [List.filter_cons, List.filter_cons, hsame, ← ih]
    split <;> rfl

section Found

variable {found : List (String × Option Family)} (hfound : types.names.mapM (named? types drafts) = .ok found)

include hfound in
theorem missing_eq : ((found.filter fun e => e.2.isNone).map fun e => rootFileName types e.1) =
    (rootless types drafts).map (rootFileName types) := by
  rw [rootless, ← map_missing (Outcome.mapM_eq_ok.1 hfound), List.map_map]
  rfl

include hfound in
/-- Where no type lacks its root, **all families are there**. -/
theorem families?_of_rooted (h : rootless types drafts = []) : families? types drafts =
    .ok (found.filterMap fun e => e.2.map fun family => (e.1, family)) := by
  have hmissing := missing_eq hfound
  rw [h] at hmissing
  refine Outcome.bind_eq_ok.2 ⟨found, hfound, ?_⟩
  rw [hmissing]
  rfl

include hfound in
/-- Where one does, **all missing roots** are told. -/
theorem families?_of_rootless (h : rootless types drafts ≠ []) : families? types drafts =
    .error (.discovery (.missingRoots ((rootless types drafts).map (rootFileName types)))) := by
  have hmissing := missing_eq hfound
  refine Outcome.bind_eq_error.2 (Or.inr ⟨found, hfound, ?_⟩)
  rw [hmissing]
  split
  · rename_i hnil
    exact absurd (List.map_eq_nil_iff.1 hnil) h
  · rfl

end Found

/-- Types without a root, and **the files that they should be in**. -/
def NamesFiles (types : Types) (kinds files : List String) : Prop :=
  List.Forall₂ (fun kind file => ∃ ending, types.identifiers.get? kind = some ending ∧ file = rootName ++ ending)
    kinds files

theorem namesFiles_iff {kinds files : List String}
    (hcovered : ∀ kind ∈ kinds, ∃ ending, types.identifiers.get? kind = some ending) :
    NamesFiles types kinds files ↔ files = kinds.map (rootFileName types) := by
  have hname : ∀ kind ∈ kinds, ∃ ending, types.identifiers.get? kind = some ending ∧
      rootFileName types kind = rootName ++ ending := by
    intro kind hkind
    obtain ⟨ending, hending⟩ := hcovered kind hkind
    refine ⟨ending, hending, ?_⟩
    rw [rootFileName, hending]
    rfl
  constructor
  · intro h
    refine eq_map_of_forall₂ h hname fun kind file other => ?_
    rintro ⟨ending, hending, rfl⟩ ⟨ending', hending', rfl⟩
    rw [Option.some.inj (hending.symm.trans hending')]
  · rintro rfl
    exact List.forall₂_map_right_iff.2 (List.forall₂_same.2 hname)

theorem rootless_eq_nil_iff : rootless types drafts = [] ↔ ∀ kind ∈ types.names, rootDrafts drafts kind ≠ [] := by
  simp [rootless]

/-- Where no type is faulty, **every one is looked at**. -/
theorem exists_found (h : ∀ kind ∈ types.names, ¬ Faulty drafts kind) :
    ∃ found, types.names.mapM (named? types drafts) = .ok found :=
  Outcome.exists_mapM_iff.2 fun kind hkind => exists_named?_iff.2 (h kind hkind)

/-- **Definitions inherit** exactly where every type is complete. -/
theorem exists_families?_iff :
    (∃ families, families? types drafts = .ok families) ↔ ∀ kind ∈ types.names, Complete drafts kind := by
  constructor
  · intro ⟨families, hfamilies⟩ kind hkind
    obtain ⟨family, -, hfamily⟩ := exists_family hfamilies hkind
    exact (exists_family?_iff types).1 ⟨family, hfamily⟩
  · intro hall
    obtain ⟨found, hfound⟩ := exists_found fun kind hkind hfaulty => hfaulty.2 (hall kind hkind)
    refine ⟨_, families?_of_rooted hfound (rootless_eq_nil_iff.2 fun kind hkind => ?_)⟩
    obtain ⟨root, hroot, -⟩ := hall kind hkind
    rw [hroot]
    exact List.cons_ne_nil _ _

section Covered

variable (hcovered : ∀ kind ∈ types.names, ∃ ending, types.identifiers.get? kind = some ending)

include hcovered in
/-- Where types are not all looked at, **the first faulty one** is in the way. -/
theorem first_of_named? {fault : Fault} (h : types.names.mapM (named? types drafts) = .error fault) :
    ∃ before first after, types.names = before ++ first :: after ∧ (∀ b ∈ before, ¬ Faulty drafts b) ∧
      Faulty drafts first ∧ FamilyFlaw types drafts first fault := by
  obtain ⟨before, first, after, hnames, hbefore, hfirst⟩ := Outcome.mapM_eq_error_iff.1 h
  have hfault : family? types drafts first = .error fault := by
    rcases Outcome.bind_eq_error.1 hfirst with hfirst | ⟨_, _, hfirst⟩
    · exact hfirst
    · cases hfirst
  have hfaulty : Faulty drafts first := by
    refine Classical.not_not.1 fun hno => ?_
    obtain ⟨found, hfound⟩ := (exists_family?_eq_ok_iff types).2 hno
    cases hfault.symm.trans hfound
  obtain ⟨ending, hending⟩ := hcovered first (hnames ▸ List.mem_append_right before List.mem_cons_self)
  exact ⟨before, first, after, hnames, fun b hb => exists_named?_iff.1 (hbefore b hb), hfaulty,
    (family?_eq_error_iff hending).1 hfault⟩

include hcovered in
/-- **Missing roots are told**, all of them and in their order, exactly where some type lacks its root and all others
    are complete. -/
theorem families?_eq_missing_iff {files : List String} :
    families? types drafts = .error (.discovery (.missingRoots files)) ↔
      rootless types drafts ≠ [] ∧ (∀ kind ∈ types.names, rootDrafts drafts kind ≠ [] → Complete drafts kind) ∧
        NamesFiles types (rootless types drafts) files := by
  have hrootless : ∀ kind ∈ rootless types drafts, ∃ ending, types.identifiers.get? kind = some ending :=
    fun kind hkind => hcovered kind (List.mem_of_mem_filter hkind)
  rw [namesFiles_iff hrootless]
  constructor
  · intro h
    rcases Outcome.bind_eq_error.1 h with hnamed | ⟨found, hfound, -⟩
    · obtain ⟨_, _, _, _, _, _, hflaw⟩ := first_of_named? hcovered hnamed
      cases hflaw
    by_cases hnil : rootless types drafts = []
    · cases h.symm.trans (families?_of_rooted hfound hnil)
    have hcomplete : ∀ kind ∈ types.names, rootDrafts drafts kind ≠ [] → Complete drafts kind := by
      intro kind hkind hroot
      have hsound := exists_named?_iff.1 (Outcome.exists_mapM_iff.1 ⟨found, hfound⟩ kind hkind)
      exact Classical.not_not.1 fun hno => hsound ⟨hroot, hno⟩
    cases h.symm.trans (families?_of_rootless hfound hnil)
    exact ⟨hnil, hcomplete, rfl⟩
  · rintro ⟨hne, hcomplete, rfl⟩
    obtain ⟨found, hfound⟩ := exists_found fun kind hkind hfaulty => hfaulty.2 (hcomplete kind hkind hfaulty.1)
    exact families?_of_rootless hfound hne

include hcovered in
/-- Where some type is faulty, **the flaw of the first one is told**. -/
theorem families?_eq_first (hkind : kind ∈ types.names) (hfaulty : Faulty drafts kind) :
    ∃ before first after fault, types.names = before ++ first :: after ∧ (∀ b ∈ before, ¬ Faulty drafts b) ∧
      Faulty drafts first ∧ families? types drafts = .error fault ∧ FamilyFlaw types drafts first fault := by
  cases hnamed : types.names.mapM (named? types drafts) with
  | ok found =>
    exact absurd hfaulty (exists_named?_iff.1 (Outcome.exists_mapM_iff.1 ⟨found, hnamed⟩ kind hkind))
  | error fault =>
    obtain ⟨before, first, after, hnames, hbefore, hfirst, hflaw⟩ := first_of_named? hcovered hnamed
    exact ⟨before, first, after, fault, hnames, hbefore, hfirst, Outcome.bind_eq_error.2 (Or.inl hnamed), hflaw⟩

end Covered

/-- **Whether definitions inherit**, and the fault that is told if they do not. -/
structure Inherited (types : Types) (drafts : List Draft) : Prop where
  /-- They do exactly where every type is complete. -/
  succeeds : (∃ families, families? types drafts = .ok families) ↔ ∀ kind ∈ types.names, Complete drafts kind
  /-- Missing roots are told, all of them and in their order, exactly where some type lacks its root and all others are
      complete. -/
  missing : ∀ files, families? types drafts = .error (.discovery (.missingRoots files)) ↔
    rootless types drafts ≠ [] ∧ (∀ kind ∈ types.names, rootDrafts drafts kind ≠ [] → Complete drafts kind) ∧
      NamesFiles types (rootless types drafts) files
  /-- Where some types are faulty, the one flaw of the first of them is told, whatever roots are missing. -/
  first : ∀ kind ∈ types.names, Faulty drafts kind → ∃ before first after fault,
    types.names = before ++ first :: after ∧ (∀ b ∈ before, ¬ Faulty drafts b) ∧ Faulty drafts first ∧
      families? types drafts = .error fault ∧ ∀ other, FamilyFlaw types drafts first other ↔ other = fault

theorem inherited_families? (hcovered : ∀ kind ∈ types.names, ∃ ending, types.identifiers.get? kind = some ending) :
    Inherited types drafts := by
  refine ⟨exists_families?_iff, fun files => families?_eq_missing_iff hcovered, fun kind hkind hfaulty => ?_⟩
  obtain ⟨before, first, after, fault, hnames, hbefore, hfirst, hfault, hflaw⟩ :=
    families?_eq_first hcovered hkind hfaulty
  refine ⟨before, first, after, fault, hnames, hbefore, hfirst, hfault, fun other => ⟨hflaw.unique, ?_⟩⟩
  rintro rfl
  exact hflaw

/-- Two types, of which one **lacks its root** and the other one has nothing else. -/
def halfDeclared : Types :=
  ⟨["note", "item"], Dictionary.ofList [("item", ".item.index"), ("note", ".note.index")]⟩

/-- The root of the other one. -/
def onlyRoot : Draft :=
  ⟨rootName, itemKind, [], ⟨"/root.item.index"⟩⟩

/-- **That nothing inherits is told**, and not the missing root of an earlier type. -/
theorem inherited_families?_halfDeclared : Inherited halfDeclared [onlyRoot] ∧
    rootless halfDeclared [onlyRoot] = ["note"] ∧
    families? halfDeclared [onlyRoot] = .error (.discovery (.noChildren "item" ".item.index" onlyRoot.path)) := by
  have hcovered : ∀ kind ∈ halfDeclared.names, ∃ ending, halfDeclared.identifiers.get? kind = some ending := by
    have hsome : ∀ kind ∈ halfDeclared.names, (halfDeclared.identifiers.get? kind).isSome = true := by
      decide +kernel
    exact fun kind hkind => Option.isSome_iff_exists.1 (hsome kind hkind)
  have hinherited : Inherited halfDeclared [onlyRoot] := inherited_families? hcovered
  have hroot : rootDrafts [onlyRoot] "item" = [onlyRoot] := rfl
  have hfaulty : Faulty [onlyRoot] "item" := by
    refine ⟨hroot ▸ List.cons_ne_nil _ _, ?_⟩
    intro ⟨_, _, _, hchildren, _⟩
    exact hchildren rfl
  have hflaw : FamilyFlaw halfDeclared [onlyRoot] "item"
      (.discovery (.noChildren "item" ".item.index" onlyRoot.path)) :=
    .noChildren hroot rfl rfl
  refine ⟨hinherited, rfl, ?_⟩
  obtain ⟨before, first, after, fault, hnames, -, hfirst, hfault, hone⟩ :=
    hinherited.first "item" (List.mem_cons_of_mem _ List.mem_cons_self) hfaulty
  have hmem : first ∈ ["note", "item"] := by
    have hmem : first ∈ before ++ first :: after := List.mem_append_right before List.mem_cons_self
    rwa [← hnames] at hmem
  rcases List.mem_cons.1 hmem with rfl | hmem
  · exact absurd rfl hfirst.1
  · obtain rfl := List.mem_singleton.1 hmem
    rw [(hone _).1 hflaw]
    exact hfault

end TreeIndex
