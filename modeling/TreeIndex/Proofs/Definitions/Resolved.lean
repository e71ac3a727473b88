import TreeIndex.Proofs.Definitions.Families
import TreeIndex.Proofs.Definitions.Marker
import TreeIndex.Proofs.Extraction.Matcher
import TreeIndex.Proofs.Indexer.Life

/-!
# Definitions that were resolved

On a disk without links, the definitions of a tree are **exactly what its files say**, type by type.

* `InType`: a file beneath the root folder whose name has the ending of a type;
* `draft?_isRoot_iff`: a file is a root if it is the marker, or called so;
* `Definitions.OfType`: the definitions of one type -- one root, and one child for every other file, in the order of
  the paths; `root_iff_of_inType`, `mem_map_path_childDrafts`, `ofType_of_family?`: so it is where a family was made
  of drafts;
* `resolve?_eq_ok`: when definitions are resolved, step by step; `isFile_rootDir`: the root folder is no file;
* `Definitions.Resolved`, `resolved_of_resolve?`: all types, and **what a pass over the tree relies on**: every type
  has an ending and every ending a type, every definition of files a suffix, and every one of items templates.
-/

namespace TreeIndex

open Yaml (Value Mapping mergeMappings)

/-! ## 1. The files of a type -/

/-- A file beneath the root folder whose **name has the ending** of a type. -/
def InType (d : Disk) (ds : Definitions) (ending : String) (p : Path) : Prop :=
  d.Beneath ds.rootDir p ∧ hasEnding p.fileName ending = true

theorem mem_typeFiles_iff {d : Disk} (hd : d.LinkFree) {s : Settings} {ds : Definitions} {ending : String}
    {p : Path} : p ∈ typeFiles d s ds.rootDir ending ↔ InType d ds ending p := by
  rw [typeFiles, List.mem_filter, Disk.mem_filesBeneath_iff hd, InType]

/-- A file is **a root** if it is the marker, or if its name says so. -/
theorem draft?_isRoot_iff {d : Disk} {marker : Path} {ending kind : String} {p : Path} {r : Draft}
    (h : draft? d marker ending kind p = .ok r) :
    r.isRoot = true ↔ (d.canonical p).same marker = true ∨ (d.canonical p).stem ending = rootName := by
  rw [Draft.isRoot, beq_iff_eq, (draft?_eq_ok.1 h).2.1]
  by_cases hmarker : (d.canonical p).same marker = true
  · simp [hmarker]
  · simp [hmarker]

/-! ## 2. One type -/

namespace Definitions

/-- **The definitions of one type**: one root, and what inherits from it, file by file. -/
structure OfType (d : Disk) (ds : Definitions) (kind ending : String) (root : Definition) : Prop where
  rootOf : ds.rootOf? kind = some root
  root_eq : root.name = rootName ∧ root.kind = kind ∧ root.identifier = .inherited
  root_config : d.mapping? root.source = .ok root.config
  /-- The root is in a file of the type, and no other file of the type is one. -/
  root_file : ∃ p, InType d ds ending p ∧ root.source = d.canonical p
  root_iff : ∀ p, InType d ds ending p →
    (((d.canonical p).same ds.rootMarker = true ∨ (d.canonical p).stem ending = rootName) ↔
      d.canonical p = root.source)
  /-- There are others, one for every other file of the type, in the order of their paths. -/
  ne_nil : ds.ofKind kind ≠ []
  source_iff : ∀ path, (∃ c ∈ ds.ofKind kind, c.source = path) ↔
    path ≠ root.source ∧ ∃ p, InType d ds ending p ∧ path = d.canonical p
  before : (ds.ofKind kind).Pairwise fun a b => a.source.before b.source
  /-- Each of them says its identifier itself, which fits the type, and inherits everything else. -/
  inherits : ∀ c ∈ ds.ofKind kind, ∃ own, d.mapping? c.source = .ok own ∧
    Mapping.contains own (.text "identifier") = true ∧ c.config = mergeMappings root.config own ∧
      c.name = c.source.stem ending ∧ c.name ≠ rootName ∧ c.identifier.Fits kind

section OneType

variable {d : Disk} {s : Settings} {ds : Definitions} {drafts : List Draft} {family : Family} {kind ending : String}

variable (hd : d.LinkFree) (hfiles : (typeFiles d s ds.rootDir ending).mapM
  (draft? d ds.rootMarker ending kind) = .ok (drafts.filter fun r => r.kind == kind))

include hd hfiles in
/-- Every draft of a type comes of **a file of the type**. -/
theorem exists_file_of_mem {r : Draft} (hr : r ∈ drafts.filter fun r => r.kind == kind) :
    ∃ p, InType d ds ending p ∧ draft? d ds.rootMarker ending kind p = .ok r := by
  obtain ⟨p, hp, hpr⟩ := Outcome.exists_of_mem_mapM hfiles hr
  exact ⟨p, (mem_typeFiles_iff hd).1 hp, hpr⟩

include hd hfiles in
/-- Every file of a type **has a draft**. -/
theorem exists_draft_of_file {p : Path} (hp : InType d ds ending p) :
    ∃ r ∈ drafts.filter fun r => r.kind == kind, draft? d ds.rootMarker ending kind p = .ok r :=
  Outcome.exists_mem_of_mapM hfiles ((mem_typeFiles_iff hd).2 hp)

include hd hfiles in
/-- No two drafts of a type come of **the same file**. -/
theorem eq_of_draft_path {r r' : Draft} (hr : r ∈ drafts.filter fun r => r.kind == kind)
    (hr' : r' ∈ drafts.filter fun r => r.kind == kind) (h : r.path = r'.path) : r = r' := by
  have hnodup : ((drafts.filter fun r => r.kind == kind).map (·.path)).Nodup :=
    (pairwise_draft?_path hd hfiles).imp fun hbefore heq => hbefore.steps_ne (congrArg Path.steps heq)
  exact List.inj_on_of_nodup_map hnodup hr hr' h

include hd hfiles in
/-- **A child of a family** says its identifier itself, and inherits everything else. -/
theorem inherits_of_mem_children {root c : Definition} {children : List Definition}
    (honto : (childDrafts drafts kind).mapM (Draft.onto? root) = .ok children) (hc : c ∈ children) :
    ∃ own, d.mapping? c.source = .ok own ∧ Mapping.contains own (.text "identifier") = true ∧
      c.config = mergeMappings root.config own ∧ c.name = c.source.stem ending ∧ c.name ≠ rootName ∧
        c.identifier.Fits kind := by
  obtain ⟨r, hr, hr_onto, hkind, hname, hsource⟩ := mem_children honto hc
  obtain ⟨hown, hchild⟩ := List.mem_filter.1 hr
  obtain ⟨p, -, hp⟩ := exists_file_of_mem hd hfiles hown
  obtain ⟨hconfig, hname', hkind', hpath⟩ := draft?_eq_ok.1 hp
  obtain ⟨hidentifier, i, tags, hi, -, rfl⟩ := Draft.onto?_eq_ok.1 hr_onto
  rw [Bool.not_eq_true', Draft.isRoot, beq_eq_false_iff_ne] at hchild
  refine ⟨r.config, ?_, hidentifier, rfl, ?_, hchild, ?_⟩
  · dsimp only
    rw [hpath]
    exact hconfig
  · -- the marker would be a root
    split at hname'
    · exact absurd hname' hchild
    · dsimp only
      rw [hname', hpath]
  · rw [hkind'] at hi
    exact Definition.identifier?_eq_ok hi

section Root

variable {r : Draft} (hroots : (drafts.filter fun r => r.kind == kind).filter Draft.isRoot = [r])

include hd hfiles hroots in
/-- Of the drafts of a type, **the root is told by its path**. -/
theorem isRoot_iff {r' : Draft} (hr' : r' ∈ drafts.filter fun r => r.kind == kind) :
    r'.isRoot = true ↔ r'.path = r.path := by
  obtain ⟨hr, hrRoot⟩ := List.mem_filter.1 (hroots ▸ List.mem_singleton_self r)
  constructor
  · intro hroot'
    have hmem : r' ∈ [r] := hroots ▸ List.mem_filter.2 ⟨hr', hroot'⟩
    rw [List.mem_singleton.1 hmem]
  · intro heq
    rw [eq_of_draft_path hd hfiles hr' hr heq]
    exact hrRoot

include hd hfiles hroots in
/-- **The root of a type** is the one file of it that the marker or its name says to be. -/
theorem root_iff_of_inType {p : Path} (hp : InType d ds ending p) :
    ((d.canonical p).same ds.rootMarker = true ∨ (d.canonical p).stem ending = rootName) ↔
      d.canonical p = r.path := by
  obtain ⟨r', hr', hpr'⟩ := exists_draft_of_file hd hfiles hp
  rw [← draft?_isRoot_iff hpr', ← (draft?_eq_ok.1 hpr').2.2.2]
  exact isRoot_iff hd hfiles hroots hr'

include hd hfiles hroots in
/-- The other drafts of a type lie **in all its other files**. -/
theorem mem_map_path_childDrafts {path : Path} : path ∈ (childDrafts drafts kind).map (·.path) ↔
    path ≠ r.path ∧ ∃ p, InType d ds ending p ∧ path = d.canonical p := by
  have hchild : ∀ r', r' ∈ childDrafts drafts kind ↔
      r' ∈ drafts.filter (fun r => r.kind == kind) ∧ r'.path ≠ r.path := by
    intro r'
    rw [childDrafts, List.mem_filter, Bool.not_eq_true', ← Bool.not_eq_true]
    exact and_congr_right fun hr' => not_congr (isRoot_iff hd hfiles hroots hr')
  rw [List.mem_map]
  constructor
  · rintro ⟨r', hr', rfl⟩
    obtain ⟨hown, hne⟩ := (hchild r').1 hr'
    obtain ⟨p, hp, hpr'⟩ := exists_file_of_mem hd hfiles hown
    exact ⟨hne, p, hp, (draft?_eq_ok.1 hpr').2.2.2⟩
  · rintro ⟨hne, p, hp, rfl⟩
    obtain ⟨r', hr', hpr'⟩ := exists_draft_of_file hd hfiles hp
    have hpath := (draft?_eq_ok.1 hpr').2.2.2
    exact ⟨r', (hchild r').2 ⟨hr', hpath.symm ▸ hne⟩, hpath⟩

end Root

include hd hfiles in
/-- **Where a family was made of the drafts of a type**, the type's definitions are what its files say. -/
theorem ofType_of_family? (hfamily : family? ds.types drafts kind = .ok (some family))
    (hroot : ds.rootOf? kind = some family.root) (hchildren : ds.ofKind kind = family.children) :
    ds.OfType d kind ending family.root := by
  obtain ⟨r, hroots, hrootDef, hne, honto⟩ := family?_eq_some hfamily
  have hsources := map_source_children honto
  obtain ⟨p, hp, hpr⟩ := exists_file_of_mem hd hfiles
    (List.mem_of_mem_filter (hroots ▸ List.mem_singleton_self r))
  obtain ⟨hconfig, -, -, hpath⟩ := draft?_eq_ok.1 hpr
  obtain ⟨tags, -, hfamilyRoot⟩ := Definition.root?_eq_ok.1 hrootDef
  have hsource : family.root.source = r.path := by rw [hfamilyRoot]
  refine ⟨hroot, ?_, ?_, ⟨p, hp, hsource.trans hpath⟩, fun q hq => ?_, ?_, fun path => ?_, ?_, fun c hc => ?_⟩
  · rw [hfamilyRoot]
    exact ⟨rfl, rfl, rfl⟩
  · rw [hfamilyRoot, hpath]
    exact hconfig
  · rw [hsource]
    exact root_iff_of_inType hd hfiles hroots hq
  · rw [hchildren]
    intro hnil
    rw [hnil, List.map_nil] at hsources
    exact hne (List.map_eq_nil_iff.1 hsources.symm)
  · rw [hchildren, ← List.mem_map, hsources, hsource]
    exact mem_map_path_childDrafts hd hfiles hroots
  · rw [hchildren, ← List.pairwise_map, hsources]
    exact (pairwise_draft?_path hd hfiles).sublist (List.filter_sublist.map _)
  · rw [hchildren] at hc
    rw [hfamilyRoot] at honto ⊢
    exact inherits_of_mem_children hd hfiles honto hc

end OneType

/-! ## 3. All types -/

/-- **The definitions of a tree**, type by type, and what a pass over the tree relies on. -/
structure Resolved (d : Disk) (s : Settings) (ds : Definitions) : Prop where
  /-- Types and endings match one to one. -/
  types : ds.types.Matched
  /-- Every type has a root, and nothing else has. -/
  roots : ∀ kind, (∃ root, ds.rootOf? kind = some root) ↔ kind ∈ ds.types.names
  /-- The definitions are those of every type, in the order of the types. -/
  all_eq : ds.all = ds.types.names.flatMap ds.ofKind
  ofType : ∀ kind ending, ds.types.identifiers.get? kind = some ending → ∃ root, ds.OfType d kind ending root
  /-- Every ending that files were found by is of a type. -/
  endings : ∀ e ∈ (d.filesByEnding ⟨[], s.followLinks⟩ ds.rootDir ds.types.byEnding.keys).entries,
    ∃ kind ∈ ds.types.names, ds.types.byEnding.get? e.1 = some kind
  /-- Every definition of files has a suffix, so none is passed over when files are looked for. -/
  suffixes : ∀ c ∈ ds.ofKind fileKind, ∃ suffix, c.suffix? = some suffix
  /-- Every definition of items has templates: nothing is wrong with it but a missing end, a tag, or a pattern. -/
  templates : ∀ c ∈ ds.ofKind itemKind, ∀ file cause,
    ItemMatcher.ofDefinition? c = .error (.configuration file cause) → cause = .noEnd c.name

/-- What definitions **are put together from**: what the root marker says, and the drafts in the files of every
    type. -/
theorem resolve?_eq_ok {d : Disk} {s : Settings} {start : Path} {ds : Definitions} :
    resolve? d s start = .ok ds ↔ findMarker? d s start = .ok ds.rootMarker ∧
      ds.rootDir = ds.rootMarker.parent?.getD ⟨"."⟩ ∧ rootConfig? d s ds.rootMarker = .ok ds.rootConfig ∧
        Types.ofConfig? ds.rootConfig = .ok ds.types ∧
          ∃ drafts families, drafts? d s ds.rootDir ds.rootMarker ds.types = .ok drafts ∧
            families? ds.types drafts = .ok families ∧
              ds.roots = Dictionary.ofList (families.map fun e => (e.1, e.2.root)) ∧
                ds.all = families.flatMap fun e => e.2.children := by
  constructor
  · intro h
    obtain ⟨marker, hmarker, h⟩ := Outcome.bind_eq_ok.1 h
    obtain ⟨config, hconfig, h⟩ := Outcome.bind_eq_ok.1 h
    obtain ⟨types, htypes, h⟩ := Outcome.bind_eq_ok.1 h
    obtain ⟨drafts, hdrafts, h⟩ := Outcome.bind_eq_ok.1 h
    obtain ⟨families, hfamilies, h⟩ := Outcome.bind_eq_ok.1 h
    obtain rfl := Except.ok.inj h
    exact ⟨hmarker, rfl, hconfig, Definition.inFile_eq_ok.1 htypes, drafts, families, hdrafts, hfamilies, rfl, rfl⟩
  · obtain ⟨folder, marker, config, types, roots, all⟩ := ds
    dsimp only
    rintro ⟨hmarker, rfl, hconfig, htypes, drafts, families, hdrafts, hfamilies, rfl, rfl⟩
    exact Outcome.bind_eq_ok.2 ⟨marker, hmarker, Outcome.bind_eq_ok.2 ⟨config, hconfig, Outcome.bind_eq_ok.2
      ⟨types, Definition.inFile_eq_ok.2 htypes, Outcome.bind_eq_ok.2 ⟨drafts, hdrafts, Outcome.bind_eq_ok.2
        ⟨families, hfamilies, rfl⟩⟩⟩⟩⟩

/-- The root folder of a tree **is no file**, on any disk: it lies above the marker. -/
theorem isFile_rootDir {d : Disk} {s : Settings} {start : Path} {ds : Definitions} (h : resolve? d s start = .ok ds) :
    d.isFile ds.rootDir = false := by
  obtain ⟨hfound, hrootDir, -⟩ := resolve?_eq_ok.1 h
  obtain ⟨_, _, hentry⟩ := Disk.isFile_iff.1 (isFile_of_findMarker? hfound)
  rw [hrootDir]
  exact Disk.isFile_parent hentry

/-- Whatever inherits has an identifier **that fits its type**. -/
theorem fits_of_mem {d : Disk} {ds : Definitions} (htypes : ds.types.Matched)
    (hall : ds.all = ds.types.names.flatMap ds.ofKind)
    (hof : ∀ kind ending, ds.types.identifiers.get? kind = some ending → ∃ root, ds.OfType d kind ending root)
    {kind : String} {c : Definition} (hc : c ∈ ds.ofKind kind) : c.kind = kind ∧ c.identifier.Fits kind := by
  obtain ⟨hmem, hkind⟩ := List.mem_filter.1 hc
  rw [beq_iff_eq] at hkind
  rw [hall] at hmem
  obtain ⟨name, hname, hother⟩ := List.mem_flatMap.1 hmem
  have hsame : name = kind := (beq_iff_eq.1 (List.mem_filter.1 hother).2).symm.trans hkind
  obtain ⟨ending, hending⟩ := (htypes.mem_iff name).1 hname
  rw [hsame] at hending
  obtain ⟨root, hroot⟩ := hof kind ending hending
  obtain ⟨_, -, -, -, -, -, hfits⟩ := hroot.inherits c hc
  exact ⟨hkind, hfits⟩

end Definitions

/-- **The definitions that are resolved** on a disk without links. -/
theorem resolved_of_resolve? {d : Disk} (hd : d.LinkFree) {s : Settings} {start : Path} {ds : Definitions}
    (h : Definitions.resolve? d s start = .ok ds) : ds.Resolved d s := by
  obtain ⟨-, -, -, htypes, drafts, families, hdrafts, hfamilies, hroots, hall⟩ := Definitions.resolve?_eq_ok.1 h
  have hmatched := Types.matched_of_ofConfig? htypes
  obtain ⟨hchildren, hflat⟩ := flatMap_children hfamilies hmatched
  rw [← hall] at hchildren hflat
  have hof : ∀ kind ending, ds.types.identifiers.get? kind = some ending → ∃ root, ds.OfType d kind ending root := by
    intro kind ending hkind
    have hname := (hmatched.mem_iff kind).2 ⟨ending, hkind⟩
    obtain ⟨family, hfamily, heq⟩ := hchildren kind hname
    have hroot : ds.rootOf? kind = some family.root := by
      rw [Definitions.rootOf?, hroots]
      exact (get?_roots hfamilies hmatched).2 ⟨hname, family, hfamily, rfl⟩
    exact ⟨family.root,
      Definitions.ofType_of_family? hd (drafts?_filter hmatched hdrafts hkind) hfamily hroot heq⟩
  have hfits {kind : String} {c : Definition} (hc : c ∈ ds.ofKind kind) :=
    Definitions.fits_of_mem hmatched hflat hof hc
  refine ⟨hmatched, fun kind => ?_, hflat, hof, fun e he => ?_, fun c hc => ?_, fun c hc file cause hf => ?_⟩
  · constructor
    · rintro ⟨root, hroot⟩
      rw [Definitions.rootOf?, hroots] at hroot
      exact ((get?_roots hfamilies hmatched).1 hroot).1
    · intro hname
      obtain ⟨ending, hending⟩ := (hmatched.mem_iff kind).1 hname
      obtain ⟨root, hroot⟩ := hof kind ending hending
      exact ⟨root, hroot.rootOf⟩
  · obtain ⟨kind, hkind⟩ := exists_kind_of_mem_filesByEnding he
    exact ⟨kind, (hmatched.mem_iff kind).2 ⟨e.1, hmatched.byEnding_iff.1 hkind⟩, hkind⟩
  · obtain ⟨-, hc⟩ := hfits hc
    rw [Identifier.Fits, if_neg (by decide)] at hc
    obtain ⟨text, -, htext⟩ := hc
    exact ⟨text, by rw [Definition.suffix?, htext]⟩
  · obtain ⟨hkind, hc⟩ := hfits hc
    rw [Identifier.Fits, if_pos rfl] at hc
    obtain ⟨start, stop, hid⟩ := hc
    exact ItemMatcher.cause_of_template hkind hid hf

/-- The definitions of the text and of its section. -/
theorem resolved_of_resolve?_textDisk : ∃ ds, Definitions.resolve? textDisk {} ⟨"/"⟩ = .ok ds ∧
    ds.Resolved textDisk {} ∧ ds.types.names = ["file", "item"] ∧ ds.all.map (·.name) = ["text", "part"] := by
  have hrun : (Definitions.resolve? textDisk {} ⟨"/"⟩).toOption.map (fun ds =>
      (ds.types.names, ds.all.map (·.name))) = some (["file", "item"], ["text", "part"]) := by
    decide +kernel
  obtain ⟨ds, hds, hnames⟩ := Option.map_eq_some_iff.1 hrun
  rw [Outcome.toOption_eq_some] at hds
  obtain ⟨htypes, hall⟩ := Prod.mk.inj hnames
  exact ⟨ds, hds, resolved_of_resolve? (Disk.linkFree_of_files files_textEntries) hds, htypes, hall⟩

end TreeIndex
