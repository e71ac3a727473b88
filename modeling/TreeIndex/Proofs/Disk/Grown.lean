import TreeIndex.Proofs.Disk.Located

/-!
# Paths on a disk that grew

A path that goes up leads somewhere else once a folder that it goes up from comes into being.

* `walk_of_folders`: where folders are still folders, a walk **goes the same way**;
* `GroundedFrom`, `Grounded`: a path goes up **only from what is there**, so that no folder that comes in changes its way;
* `walk_of_grows`, `entry?_of_grows`: such a path leads to an entry that was there **only if it led there before**;
* `entry?_of_target?`: bytes that are written to a path lie **where the path leads**, whether it goes up or not.
-/

namespace TreeIndex.Disk

variable {d d' : Disk} {p : Path} {start loc : Location} {place : Place} {ps : List String} {e : Entry}

/-! ## 1. Walks on two disks -/

/-- A walk that leads anywhere **starts at an entry**. -/
theorem exists_at?_of_walk (h : d.walk start ps = .ok place) : ∃ e, d.at? start = some e := by
  cases ps with
  | nil =>
    obtain ⟨e, he, -⟩ := walkPieces_nil h
    exact ⟨e, he⟩
  | cons piece ps =>
    obtain ⟨es, hes, -⟩ := walk_cons_eq_ok h
    exact ⟨_, hes⟩

/-- Where folders are still folders, a walk **goes the same way**, to what lies there now. -/
theorem walk_of_folders (hd' : d'.LinkFree) (hfolders : ∀ loc es, d.at? loc = some (.folder es) →
      ∃ fs, d'.at? loc = some (.folder fs)) : ∀ {ps : List String} {start : Location}, d.walk start ps = .ok place →
    d'.at? place.location = some e → d'.walk start ps = .ok (.found place.location e)
  | [], start, h, he => by
    obtain ⟨f, -, rfl⟩ := walkPieces_nil h
    exact walk_nil he
  | piece :: ps, start, h, he => by
    obtain ⟨es, hstart, hnext⟩ := walk_cons_eq_ok h
    obtain ⟨fs, hstart'⟩ := hfolders start es hstart
    rcases hnext with ⟨rfl, hrest⟩ | ⟨rfl, hrest⟩ | ⟨hdot, hup, hlong, hnext⟩
    · rw [walk_dot hstart']
      exact walk_of_folders hd' hfolders hrest he
    · rw [walk_up hstart']
      exact walk_of_folders hd' hfolders hrest he
    · have hwalk {f : Entry} (hf : d'.at? (start ++ [piece]) = some f) :
          d'.walk start (piece :: ps) = d'.walk (start ++ [piece]) ps :=
        walk_name hstart' hdot hup hlong ((at?_snoc hstart').symm.trans hf) (hd'.ne_link_of_at? hf)
      rcases hnext with ⟨-, rfl, rfl⟩ | ⟨f, -, -, hrest⟩
      · rw [hwalk he]
        exact walk_nil he
      · have hrest' := walk_of_folders hd' hfolders hrest he
        obtain ⟨g, hg⟩ := exists_at?_of_walk hrest'
        rw [hwalk hg, hrest']

/-! ## 2. Paths that go up from what is there -/

/-- Pieces that go up **only from what is there**: whatever stands in front of two dots leads to an entry. -/
def GroundedFrom (d : Disk) (start : Location) (ps : List String) : Prop :=
  ∀ before after, ps = before ++ ".." :: after → ∃ loc e, d.walk start before = .ok (.found loc e)

/-- A path that goes up **only from what is there**. -/
def Grounded (d : Disk) (p : Path) : Prop :=
  d.GroundedFrom (origin d.here p.text.toList) (pieces p.text.toList)

/-- Behind a step that is no name, what stands in front of two dots **leads on from where the step led**. -/
theorem GroundedFrom.of_walk {piece : String} {next : Location} (h : d.GroundedFrom start (piece :: ps))
    (hstep : ∀ qs loc e, d.walk start (piece :: qs) = .ok (.found loc e) → d.walk next qs = .ok (.found loc e)) :
    d.GroundedFrom next ps := by
  intro before after hps
  obtain ⟨loc, e, hwalk⟩ := h (piece :: before) after (by rw [hps, List.cons_append])
  exact ⟨loc, e, hstep before loc e hwalk⟩

/-- From where nothing is, pieces that go up only from what is there **do not go up**. -/
theorem GroundedFrom.up_notMem (h : d.GroundedFrom start ps) (hnone : d.at? start = none) : ".." ∉ ps := by
  intro hup
  obtain ⟨before, after, hps⟩ := List.append_of_mem hup
  obtain ⟨loc, e, hwalk⟩ := h before after hps
  obtain ⟨f, hf⟩ := exists_at?_of_walk hwalk
  cases hnone.symm.trans hf

/-- On a disk that grew, pieces that went up only from what was there lead to an old entry **only if they led there
    before**. -/
theorem walk_of_grows (hd : d.LinkFree) (hgrows : d.Grows d') : ∀ {ps : List String} {start : Location},
    d'.walk start ps = .ok place → d.GroundedFrom start ps → d.at? place.location = some e →
      d.walk start ps = .ok (.found place.location e)
  | [], start, h, _, he => by
    obtain ⟨f, -, rfl⟩ := walkPieces_nil h
    exact walk_nil he
  | piece :: ps, start, h, hgrounded, he => by
    obtain ⟨fs, hstart', hnext⟩ := walk_cons_eq_ok h
    cases hstart : d.at? start with
    | none =>
      -- the walk starts in a new folder and never leaves it, so it ends at nothing old
      rw [location_of_walk (hgrounded.up_notMem hstart) h, at?_append, hstart] at he
      cases he
    | some f =>
      cases f with
      | link target => exact absurd rfl (hd.ne_link_of_at? hstart target)
      | file bytes => cases hstart'.symm.trans ((hgrows.file_iff start List.not_mem_nil bytes).2 hstart)
      | folder es =>
        rcases hnext with ⟨rfl, hrest⟩ | ⟨rfl, hrest⟩ | ⟨hdot, hup, hlong, hnext⟩
        · rw [walk_dot hstart]
          refine walk_of_grows hd hgrows hrest (hgrounded.of_walk fun qs loc e hwalk => ?_) he
          rwa [walk_dot hstart] at hwalk
        · rw [walk_up hstart]
          refine walk_of_grows hd hgrows hrest (hgrounded.of_walk fun qs loc e hwalk => ?_) he
          rwa [walk_up hstart] at hwalk
        · have hwalk {g : Entry} (hg : d.at? (start ++ [piece]) = some g) :
              d.walk start (piece :: ps) = d.walk (start ++ [piece]) ps :=
            walk_name hstart hdot hup hlong ((at?_snoc hstart).symm.trans hg) (hd.ne_link_of_at? hg)
          rcases hnext with ⟨-, rfl, rfl⟩ | ⟨g, -, -, hrest⟩
          · rw [hwalk he]
            exact walk_nil he
          · have hnext : d.GroundedFrom (start ++ [piece]) ps := hgrounded.of_walk fun qs loc e hwalk => by
              obtain ⟨_, -, ⟨heq, -⟩ | ⟨heq, -⟩ | ⟨-, -, -, ⟨-, -, hplace⟩ | ⟨_, -, -, hrest⟩⟩⟩ := walk_cons_eq_ok hwalk
              · exact absurd heq hdot
              · exact absurd heq hup
              · cases hplace
              · exact hrest
            have hrest' := walk_of_grows hd hgrows hrest hnext he
            obtain ⟨k, hk⟩ := exists_at?_of_walk hrest'
            rw [hwalk hk, hrest']

/-- On a disk that grew, a path that went up only from what was there leads to an old entry **only if it led there
    before**. -/
theorem entry?_of_grows (hd : d.LinkFree) (hgrows : d.Grows d') (hp : d.Grounded p)
    (h : d'.place? true p = .ok place) (he : d.at? place.location = some e) :
    d.entry? p = .ok (place.location, e) := by
  obtain ⟨hnul, hne, hwalk⟩ := (place?_eq_ok_iff (hgrows.linkFree hd)).1 h
  rw [hgrows.here_eq] at hwalk
  exact (entry?_eq_ok_iff hd).2 ⟨hnul, hne, walk_of_grows hd hgrows hwalk hp he⟩

/-! ## 3. What is written to a path -/

theorem Takes.not_prefix (h : d.Takes loc) {other : Location} {es : List (String × Entry)}
    (hother : d.at? other = some (.folder es)) : ¬ loc <+: other := by
  intro hprefix
  obtain ⟨more, rfl⟩ := hprefix
  cases hat : d.at? loc with
  | none => exact not_prefix_of_at?_eq_none hat hother (List.prefix_append loc more)
  | some f =>
    obtain ⟨old, rfl⟩ := h.2 f hat
    rw [at?_append, hat] at hother
    cases more <;> simp [Entry.at?] at hother

/-- What is written to a path lies **where the path leads then**, whether the path goes up or not. -/
theorem entry?_of_target? (hd : d.LinkFree) (h : d.target? p = .ok loc) (bytes : ByteArray) :
    Disk.entry? (d.putFile loc bytes) p = .ok (loc, .file bytes) := by
  obtain ⟨place, hplace, rfl, htakes⟩ := exists_place?_of_target? hd h
  have hkeeps := keepsFiles_putFile htakes bytes
  obtain ⟨hnul, hne, hwalk⟩ := (place?_eq_ok_iff hd).1 hplace
  refine (entry?_eq_ok_iff (hkeeps.linkFree hd)).2 ⟨hnul, hne, ?_⟩
  rw [hkeeps.here_eq]
  refine walk_of_folders (hkeeps.linkFree hd) (fun other es hes => ?_) hwalk (at?_putFile htakes.1 bytes)
  exact (folder_put_iff _ htakes.1 (htakes.not_prefix hes)).2 ⟨es, hes⟩

end TreeIndex.Disk
