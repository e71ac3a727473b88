import TreeIndex.Proofs.Definitions.Drafts
import TreeIndex.Proofs.Definitions.Inheritance

/-!
# Families

What becomes of the drafts of a type: one root definition, and what inherits from it.

* `family?_eq_some`: the family of a type comes of **one root draft**, and of other drafts that inherit from it;
* `families?_eq_ok`: **every type has a family**, in the order of the types;
* `get?_roots`: the root of a type is that of its family;
* `flatMap_children`: the children of a type are found again by it, and **all children are those of every type**,
  in the order of the types.
-/

namespace TreeIndex

open Yaml (Mapping)

/-! ## 1. One family -/

/-- The drafts of a type that **are no roots**. -/
def childDrafts (drafts : List Draft) (kind : String) : List Draft :=
  (drafts.filter fun r => r.kind == kind).filter fun r => !r.isRoot

/-- **A family** comes of one root draft, and of others that inherit from it. -/
theorem family?_eq_some {types : Types} {drafts : List Draft} {kind : String} {family : Family}
    (h : family? types drafts kind = .ok (some family)) :
    ∃ r, (drafts.filter fun r => r.kind == kind).filter Draft.isRoot = [r] ∧
      Definition.root? kind r.config r.path = .ok family.root ∧ childDrafts drafts kind ≠ [] ∧
        (childDrafts drafts kind).mapM (Draft.onto? family.root) = .ok family.children := by
  unfold family? at h
  dsimp only at h
  split at h
  · cases h
  · rename_i r hroots
    split at h
    · cases h
    · rename_i hchildren
      obtain ⟨root, hroot, h⟩ := Outcome.bind_eq_ok.1 h
      obtain ⟨children, hall, h⟩ := Outcome.bind_eq_ok.1 h
      obtain rfl := Option.some.inj (Except.ok.inj h)
      refine ⟨r, hroots, hroot, fun hnil => hchildren ?_, hall⟩
      rw [childDrafts] at hnil
      rw [hnil]
      rfl
  · cases h

/-- What a child of a family is: **a draft that inherits**. -/
theorem mem_children {drafts : List Draft} {kind : String} {root c : Definition} {children : List Definition}
    (h : (childDrafts drafts kind).mapM (Draft.onto? root) = .ok children) (hc : c ∈ children) :
    ∃ r ∈ childDrafts drafts kind, r.onto? root = .ok c ∧ c.kind = kind ∧ c.name = r.name ∧ c.source = r.path := by
  obtain ⟨r, hr, honto⟩ := Outcome.exists_of_mem_mapM h hc
  have hkind := (List.mem_filter.1 (List.mem_of_mem_filter hr)).2
  obtain ⟨-, i, tags, -, -, rfl⟩ := Draft.onto?_eq_ok.1 honto
  exact ⟨r, hr, honto, beq_iff_eq.1 hkind, rfl, rfl⟩

/-- The children of a family **lie where their drafts do**. -/
theorem map_source_children {root : Definition} {rs : List Draft} {children : List Definition}
    (h : rs.mapM (Draft.onto? root) = .ok children) : children.map (·.source) = rs.map (·.path) := by
  have hall := Outcome.mapM_eq_ok.1 h
  clear h
  induction hall with
  | nil => rfl
  | cons hr _ ih =>
    obtain ⟨-, i, tags, -, -, rfl⟩ := Draft.onto?_eq_ok.1 hr
    rw [List.map_cons, List.map_cons, ih]

/-! ## 2. All families -/

/-- **Every type has a family**, in the order of the types. -/
theorem families?_eq_ok {types : Types} {drafts : List Draft} {families : List (String × Family)}
    (h : families? types drafts = .ok families) :
    List.Forall₂ (fun kind e => e.1 = kind ∧ family? types drafts kind = .ok (some e.2)) types.names families := by
  obtain ⟨found, hfound, hrest⟩ := Outcome.bind_eq_ok.1 h
  clear h
  split at hrest
  · rename_i hmissing
    obtain rfl := Except.ok.inj hrest
    have hall := Outcome.mapM_eq_ok.1 hfound
    clear hfound hrest
    generalize types.names = names at hall ⊢
    induction hall with
    | nil => exact .nil
    | @cons kind e names found he _ ih =>
      obtain ⟨family, hfamily, he⟩ := Outcome.bind_eq_ok.1 he
      obtain rfl := Except.ok.inj he
      cases family with
      | none => cases hmissing
      | some family => exact .cons ⟨rfl, hfamily⟩ (ih hmissing)
  · cases hrest

section Families

variable {types : Types} {drafts : List Draft} {families : List (String × Family)}
  (h : families? types drafts = .ok families) (ht : types.Matched)

include h in
theorem exists_family {kind : String} (hkind : kind ∈ types.names) :
    ∃ family, (kind, family) ∈ families ∧ family? types drafts kind = .ok (some family) := by
  have hall := families?_eq_ok h
  clear h
  generalize types.names = names at hall hkind
  induction hall with
  | nil => cases hkind
  | @cons k e names families he _ ih =>
    rcases List.mem_cons.1 hkind with rfl | hkind
    · obtain ⟨rfl, hfamily⟩ := he
      exact ⟨e.2, List.mem_cons_self, hfamily⟩
    · obtain ⟨family, hmem, hfamily⟩ := ih hkind
      exact ⟨family, List.mem_cons_of_mem _ hmem, hfamily⟩

include h in
theorem map_fst_families : families.map (·.1) = types.names := by
  have hall := families?_eq_ok h
  clear h
  generalize types.names = names at hall ⊢
  induction hall with
  | nil => rfl
  | cons he _ ih => rw [List.map_cons, ih, he.1]

include h ht in
/-- **The root of a type** is that of its family; other types have none. -/
theorem get?_roots {kind : String} {root : Definition} :
    (Dictionary.ofList (families.map fun e => (e.1, e.2.root))).get? kind = some root ↔
      kind ∈ types.names ∧ ∃ family, family? types drafts kind = .ok (some family) ∧ root = family.root := by
  have hnodup : (families.map (·.1)).Nodup := (map_fst_families h).symm ▸ ht.nodup
  have hkeys : ((families.map fun e => (e.1, e.2.root)).map (·.1)).Nodup := by
    rw [List.map_map]
    exact hnodup
  constructor
  · intro hget
    obtain ⟨e, he, heq⟩ := List.mem_map.1 (Dictionary.mem_of_get?_ofList hget)
    cases heq
    have hname : e.1 ∈ types.names := map_fst_families h ▸ List.mem_map_of_mem he
    obtain ⟨family, hmem, hfamily⟩ := exists_family h hname
    have hsame : (e.1, family) = e := List.inj_on_of_nodup_map hnodup hmem he rfl
    exact ⟨hname, family, hfamily, congrArg (fun e => e.2.root) hsame.symm⟩
  · rintro ⟨hname, family, hfamily, rfl⟩
    obtain ⟨other, hmem, hother⟩ := exists_family h hname
    obtain rfl := Option.some.inj (Except.ok.inj (hfamily.symm.trans hother))
    exact Dictionary.get?_ofList_of_mem hkeys (List.mem_map.2 ⟨(kind, family), hmem, rfl⟩)

/-- Where each element is related to one list only, **the lists are those ones**. -/
theorem eq_map_of_forall₂ {α β : Type} {R : α → β → Prop} {f : α → β} {xs : List α} {ys : List β}
    (h : List.Forall₂ R xs ys) (hf : ∀ x ∈ xs, R x (f x)) (hone : ∀ x y z, R x y → R x z → y = z) :
    ys = xs.map f := by
  induction h with
  | nil => rfl
  | cons hxy _ ih =>
    obtain ⟨hhead, hrest⟩ := List.forall_mem_cons.1 hf
    rw [List.map_cons, ih hrest, hone _ _ _ hxy hhead]

/-- The children of a type, if it has a family. -/
def ChildrenOf (types : Types) (drafts : List Draft) (kind : String) (children : List Definition) : Prop :=
  ∃ family, family? types drafts kind = .ok (some family) ∧ children = family.children

theorem ChildrenOf.unique {kind : String} {children other : List Definition}
    (hc : ChildrenOf types drafts kind children) (ho : ChildrenOf types drafts kind other) : children = other := by
  obtain ⟨family, hfamily, rfl⟩ := hc
  obtain ⟨family', hfamily', rfl⟩ := ho
  rw [Option.some.inj (Except.ok.inj (hfamily.symm.trans hfamily'))]

include h ht in
/-- The children of a type are **found again by it**, and all children are those of every type, in the order of
    the types. -/
theorem flatMap_children :
    (∀ kind ∈ types.names, ChildrenOf types drafts kind
      ((families.flatMap fun e => e.2.children).filter fun c => c.kind == kind)) ∧
    (families.flatMap fun e => e.2.children) = types.names.flatMap fun kind =>
      (families.flatMap fun e => e.2.children).filter fun c => c.kind == kind := by
  have hall : List.Forall₂ (ChildrenOf types drafts) types.names (families.map fun e => e.2.children) := by
    refine List.forall₂_map_right_iff.2 ((families?_eq_ok h).imp fun kind e he => ?_)
    exact ⟨e.2, he.2, rfl⟩
  have hkey : ∀ kind children, ChildrenOf types drafts kind children → ∀ c ∈ children, c.kind = kind := by
    rintro kind _ ⟨family, hfamily, rfl⟩ c hc
    obtain ⟨_, -, -, -, hchildren⟩ := family?_eq_some hfamily
    obtain ⟨_, -, -, hkind, -⟩ := mem_children hchildren hc
    exact hkind
  have hnames : (types.names.map id).Nodup := (List.map_id types.names).symm ▸ ht.nodup
  have hfilter := (filter_flatten_key hall hkey hnames).2
  rw [← List.flatMap_def] at hfilter
  refine ⟨hfilter, ?_⟩
  have heach := eq_map_of_forall₂ hall hfilter fun _ _ _ hc ho => hc.unique ho
  exact List.flatMap_def.trans ((congrArg List.flatten heach).trans List.flatMap_def.symm)

end Families

end TreeIndex
