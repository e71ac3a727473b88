import TreeIndex.Proofs.Definitions.Resolved
import TreeIndex.Proofs.Disk.Parent
import TreeIndex.Proofs.Disk.Shape

/-!
# What the resolution of definitions does not read

Definitions are resolved from the root marker, the base configuration, and the files whose names end as those of a
type do. So they are the same on a disk that differs **in a file that is none of these**.

* `findMarker?_eq`, `rootConfig?_eq`: the same marker is found, and it says the same;
* `misses_of_mem_typeFiles`: the file is **not among the files of a type**: it would be called by the last name of
  its location, and that has no ending of one;
* `drafts?_eq`: so the same drafts are read;
* `Definitions.resolve?_of_differsAt`: **the same definitions**.
-/

namespace TreeIndex

open Disk (Location pathTo)

variable {d d' : Disk} {loc : Location} {s : Settings} {folder marker : Path} {types : Types}

/-! ## 1. The root marker -/

theorem findMarker?_eq (h : d.DiffersAt d' loc) (s : Settings) (start : Path) :
    findMarker? d' s start = findMarker? d s start := by
  have hstart : searchStart d' (d.canonical start) = searchStart d (d.canonical start) := by
    rw [searchStart, searchStart, h.isFile_eq]
  have hfile : d'.isFile = d.isFile := funext h.isFile_eq
  unfold findMarker?
  rw [h.canonical_eq, hstart, hfile]

/-- The configuration of a tree is the same, if **the marker and the base configuration lie elsewhere**. -/
theorem rootConfig?_eq (h : d.DiffersAt d' loc) (hmarker : d.Misses loc marker)
    (hbase : ∀ base, s.baseConfig = some base → d.Misses loc base) :
    rootConfig? d' s marker = rootConfig? d s marker := by
  have hvalue : rootValue? d' s marker = rootValue? d s marker := by
    rw [rootValue?, rootValue?, h.value?_eq hmarker]
    cases hconfig : s.baseConfig with
    | none => rfl
    | some base =>
      dsimp only
      rw [h.isFile_eq, h.value?_eq (hbase base hconfig)]
  rw [rootConfig?, rootConfig?, hvalue]

/-! ## 2. Drafts -/

/-- A file whose name has no ending of a type is **not among the files of that type**. -/
theorem misses_of_mem_typeFiles {ending : String} {p : Path} (hfollow : d.FollowsNone s.followLinks folder)
    (hfolder : d.isFile folder = false) (hending : hasEnding (pathTo loc).fileName ending = false)
    (hp : p ∈ typeFiles d s folder ending) : d.Misses loc p := by
  intro e he
  obtain ⟨hbeneath, hname⟩ := List.mem_filter.1 hp
  rw [Disk.fileName_of_mem_filesBeneath hfollow hfolder hbeneath he, hending] at hname
  cases hname

theorem draft?_eq (h : d.DiffersAt d' loc) {ending kind : String} {p : Path} (hp : d.Misses loc p) :
    draft? d' marker ending kind p = draft? d marker ending kind p := by
  rw [draft?, draft?, h.canonical_eq, h.mapping?_eq hp.canonical]

/-- **The same drafts** are read, if no file of a type is the one that differs. -/
theorem drafts?_eq (h : d.DiffersAt d' loc) (htypes : types.Matched)
    (hmisses : ∀ kind ending, types.identifiers.get? kind = some ending →
      ∀ p ∈ typeFiles d s folder ending, d.Misses loc p) :
    drafts? d' s folder marker types = drafts? d s folder marker types := by
  have hfound : d'.filesByEnding ⟨[], s.followLinks⟩ folder types.byEnding.keys =
      d.filesByEnding ⟨[], s.followLinks⟩ folder types.byEnding.keys := by
    rw [Disk.filesByEnding, Disk.filesByEnding, h.filesBeneath_eq]
  rw [drafts?, drafts?, hfound]
  refine congrArg (· >>= _) (Outcome.mapM_congr fun e he => Outcome.mapM_congr fun p hp => draft?_eq h ?_)
  obtain ⟨kind, hkind⟩ := exists_kind_of_mem_filesByEnding he
  rw [((mem_filesByEnding_iff types.byEnding.nodup_keys).1 he).2] at hp
  exact hmisses kind e.1 (htypes.byEnding_iff.1 hkind) p hp

/-! ## 3. Definitions -/

/-- **The same definitions are resolved** on a disk that differs in a file which is neither the root marker nor the
    base configuration, and whose name has no ending of a type. -/
theorem Definitions.resolve?_of_differsAt (h : d.DiffersAt d' loc) {start : Path} {ds : Definitions}
    (hfollow : d.FollowsNone s.followLinks ds.rootDir)
    (hmarker : (d.canonical ds.rootMarker).same (pathTo loc) = false)
    (hbase : ∀ base, s.baseConfig = some base → (d.canonical base).same (pathTo loc) = false)
    (hending : ∀ kind ending, ds.types.identifiers.get? kind = some ending →
      hasEnding (pathTo loc).fileName ending = false)
    (hresolved : resolve? d s start = .ok ds) : resolve? d' s start = .ok ds := by
  obtain ⟨hfound, hrootDir, hconfig, htypes, drafts, families, hdrafts, hfamilies⟩ := resolve?_eq_ok.1 hresolved
  have hfolder := isFile_rootDir hresolved
  refine resolve?_eq_ok.2 ⟨?_, hrootDir, ?_, htypes, drafts, families, ?_, hfamilies⟩
  · rw [findMarker?_eq h]
    exact hfound
  · rw [rootConfig?_eq h (Disk.misses_of_apart hmarker) fun base hb => Disk.misses_of_apart (hbase base hb)]
    exact hconfig
  · rw [drafts?_eq h (Types.matched_of_ofConfig? htypes) fun kind ending hkind p hp =>
      misses_of_mem_typeFiles hfollow hfolder (hending kind ending hkind) hp]
    exact hdrafts

end TreeIndex
