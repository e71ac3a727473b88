import TreeIndex.Definitions.Resolution
import TreeIndex.Proofs.Definitions.Types
import TreeIndex.Proofs.Disk.Endings

/-!
# Drafts

What is read of the files of a type.

* `draft?_eq_ok`: the draft in a file: its configuration, and its name -- **the root marker is a root, whatever it
  is called**;
* `typeFiles`: the files beneath a folder whose names have the ending of a type; `mem_filesByEnding_iff`: these
  are what a walk for all endings finds of one;
* `filter_flatten_key`: what was found key by key is found again by its key;
* `drafts?_filter`: so the drafts of a type are **those of its files, one for each, in their order**;
* `pairwise_draft?_path`: and their paths are in order.
-/

namespace TreeIndex

open Yaml (Mapping)

/-! ## 1. Drafts -/

theorem draft?_eq_ok {d : Disk} {marker : Path} {ending kind : String} {p : Path} {r : Draft} :
    draft? d marker ending kind p = .ok r ↔ d.mapping? (d.canonical p) = .ok r.config ∧
      r.name = (if (d.canonical p).same marker then rootName else (d.canonical p).stem ending) ∧
        r.kind = kind ∧ r.path = d.canonical p := by
  rw [draft?, Outcome.bind_eq_ok]
  constructor
  · rintro ⟨config, hconfig, h⟩
    obtain rfl := Except.ok.inj h
    exact ⟨hconfig, rfl, rfl, rfl⟩
  · rintro ⟨hconfig, hname, hkind, hpath⟩
    refine ⟨r.config, hconfig, congrArg Except.ok ?_⟩
    obtain ⟨name, kind', config, path⟩ := r
    dsimp only at hname hkind hpath ⊢
    rw [hname, hkind, hpath]

/-- The files beneath a folder whose names **have the ending** of a type. -/
def typeFiles (d : Disk) (s : Settings) (folder : Path) (ending : String) : List Path :=
  (d.filesBeneath ⟨[], s.followLinks⟩ folder).filter fun p => hasEnding p.fileName ending

/-- What is found key by key: **what belongs to a key was found for it**, if no key stands twice. -/
theorem filter_flatten_key {α β : Type} {R : α → List β → Prop} {keyOf : α → String} {key : β → String}
    {xs : List α} {ls : List (List β)} (h : List.Forall₂ R xs ls)
    (hkey : ∀ x l, R x l → ∀ y ∈ l, key y = keyOf x) (hnodup : (xs.map keyOf).Nodup) :
    (∀ y ∈ ls.flatten, key y ∈ xs.map keyOf) ∧
      ∀ x ∈ xs, R x (ls.flatten.filter fun y => key y == keyOf x) := by
  induction h with
  | nil => exact ⟨fun _ hy => absurd hy List.not_mem_nil, fun _ hx => absurd hx List.not_mem_nil⟩
  | @cons x l xs ls hxl _ ih =>
    obtain ⟨hx, hnodup⟩ := List.nodup_cons.1 hnodup
    obtain ⟨hkeys, hall⟩ := ih hnodup
    have hl := hkey x l hxl
    refine ⟨fun y hy => ?_, fun z hz => ?_⟩
    · rw [List.flatten_cons] at hy
      rw [List.map_cons]
      rcases List.mem_append.1 hy with hy | hy
      · exact List.mem_cons.2 (Or.inl (hl y hy))
      · exact List.mem_cons_of_mem _ (hkeys y hy)
    rw [List.flatten_cons, List.filter_append]
    rcases List.mem_cons.1 hz with rfl | hz
    · -- all of this one, and nothing of the others
      have hself : l.filter (fun y => key y == keyOf z) = l :=
        List.filter_eq_self.2 fun y hy => beq_iff_eq.2 (hl y hy)
      have hothers : ls.flatten.filter (fun y => key y == keyOf z) = [] := by
        refine List.filter_eq_nil_iff.2 fun y hy => ?_
        rw [beq_iff_eq]
        exact fun heq => hx (heq ▸ hkeys y hy)
      rw [hself, hothers, List.append_nil]
      exact hxl
    · have hnone : l.filter (fun y => key y == keyOf z) = [] := by
        refine List.filter_eq_nil_iff.2 fun y hy => ?_
        rw [hl y hy, beq_iff_eq]
        exact fun heq => hx (heq ▸ List.mem_map_of_mem hz)
      rw [hnone, List.nil_append]
      exact hall z hz

/-- The files by their endings: for every ending of a type, **the files of that type**. -/
theorem mem_filesByEnding_iff {d : Disk} {s : Settings} {folder : Path} {endings : List String} (h : endings.Nodup)
    {ending : String} {ps : List Path} :
    (ending, ps) ∈ (d.filesByEnding ⟨[], s.followLinks⟩ folder endings).entries ↔
      ending ∈ endings ∧ ps = typeFiles d s folder ending := by
  rw [Dictionary.mem_entries_iff, Disk.get?_filesByEnding]
  refine and_congr_right fun hmem => ?_
  rw [Disk.bucket_eq h hmem, eq_comm]
  rfl

/-- The files by their endings: **every ending is of a type**. -/
theorem exists_kind_of_mem_filesByEnding {d : Disk} {s : Settings} {folder : Path} {types : Types}
    {e : String × List Path}
    (he : e ∈ (d.filesByEnding ⟨[], s.followLinks⟩ folder types.byEnding.keys).entries) :
    ∃ kind, types.byEnding.get? e.1 = some kind := by
  obtain ⟨hending, -⟩ := (mem_filesByEnding_iff types.byEnding.nodup_keys).1 he
  obtain ⟨⟨_, kind⟩, hkind, heq⟩ := List.mem_map.1 hending
  rw [← heq]
  exact ⟨kind, Dictionary.mem_entries_iff.1 hkind⟩

/-- **The drafts of a type** are those of its files, one for each, in their order. -/
theorem drafts?_filter {d : Disk} {s : Settings} {folder marker : Path} {types : Types} (ht : types.Matched)
    {drafts : List Draft} (h : drafts? d s folder marker types = .ok drafts) {kind ending : String}
    (hkind : types.identifiers.get? kind = some ending) :
    (typeFiles d s folder ending).mapM (draft? d marker ending kind) =
      .ok (drafts.filter fun r => r.kind == kind) := by
  obtain ⟨found, hfound, h⟩ := Outcome.bind_eq_ok.1 h
  obtain rfl := Except.ok.inj h
  have hbyEnding := ht.byEnding_iff.2 hkind
  have hnodup : types.byEnding.keys.Nodup := types.byEnding.nodup_keys
  have hending : ending ∈ types.byEnding.keys :=
    List.mem_map.2 ⟨(ending, kind), Dictionary.mem_entries_iff.2 hbyEnding, rfl⟩
  let kindOf : String × List Path → String := fun e => (types.byEnding.get? e.1).getD ""
  have hkinds : ((d.filesByEnding ⟨[], s.followLinks⟩ folder types.byEnding.keys).entries.map kindOf).Nodup := by
    refine List.Nodup.map_on (fun a ha b hb hab => ?_) (Dictionary.nodup_entries _)
    obtain ⟨k, hk⟩ := exists_kind_of_mem_filesByEnding ha
    obtain ⟨l, hl⟩ := exists_kind_of_mem_filesByEnding hb
    have hkl : k = l := by simpa [kindOf, hk, hl] using hab
    rw [← hkl] at hl
    have hsame : a.1 = b.1 := Option.some.inj ((ht.byEnding_iff.1 hk).symm.trans (ht.byEnding_iff.1 hl))
    refine Prod.ext hsame ?_
    rw [((mem_filesByEnding_iff hnodup).1 ha).2, ((mem_filesByEnding_iff hnodup).1 hb).2, hsame]
  have hkey : ∀ (e : String × List Path) (own : List Draft), e.2.mapM (draft? d marker e.1 (kindOf e)) = .ok own →
      ∀ r ∈ own, r.kind = kindOf e := by
    intro e own hown r hr
    obtain ⟨p, -, hp⟩ := Outcome.exists_of_mem_mapM hown hr
    exact (draft?_eq_ok.1 hp).2.2.1
  have hall := (filter_flatten_key (Outcome.mapM_eq_ok.1 hfound) hkey hkinds).2 _
    ((mem_filesByEnding_iff hnodup).2 ⟨hending, rfl⟩)
  have hself : (types.byEnding.get? ending).getD "" = kind := by
    rw [hbyEnding]
    rfl
  simp only [kindOf, hself] at hall
  exact hall

/-- **The paths of the drafts of a type are in order**, on a disk without links. -/
theorem pairwise_draft?_path {d : Disk} (hd : d.LinkFree) {s : Settings} {folder marker : Path}
    {kind ending : String} {drafts : List Draft}
    (h : (typeFiles d s folder ending).mapM (draft? d marker ending kind) = .ok drafts) :
    (drafts.map (·.path)).Pairwise Path.before := by
  have hwalk := Disk.pairwise_filesBeneath_following (o := ⟨[], s.followLinks⟩)
    (Disk.followsNone_of_linkFree hd s.followLinks folder)
  have hfiles := hwalk.filter fun p => hasEnding p.fileName ending
  have hentry {p : Path} {r : Draft} (hp : draft? d marker ending kind p = .ok r) :
      ∃ loc e, d.entry? p = .ok (loc, e) := by
    obtain ⟨v, hv, -⟩ := Outcome.bind_eq_ok.1 (draft?_eq_ok.1 hp).1
    obtain ⟨loc, bytes, hloc⟩ := Disk.value?_eq_ok hv
    exact ⟨loc, _, Disk.entry?_of_canonical hloc⟩
  refine List.pairwise_map.2 (Outcome.pairwise_mapM (fun {p q r r'} hpq hp hq => ?_) hfiles h)
  obtain ⟨_, _, hep⟩ := hentry hp
  obtain ⟨_, _, heq⟩ := hentry hq
  rw [(draft?_eq_ok.1 hp).2.2.2, (draft?_eq_ok.1 hq).2.2.2]
  exact hpq hep heq

end TreeIndex
