import TreeIndex.Proofs.Disk.Canonical

/-!
# Locations seen from a root

A record shows a path as the way to it from a root. Whatever root that is, the way **tells locations apart**.

* `stepsBetween_cases`: the steps between two places go up from what the base has beyond the steps that both
  share, and then down the rest of the goal;
* `stepsBetween_injective`: so from one base, the same steps lead to the same goal, as no goal goes up itself;
* `names_descend_empty`, `way_of_text`: a way that is written from the empty path on is read back from its text;
* `shownFrom_pathTo_injective`: hence what is shown of two locations from one root is the same text only for
  the same location.
-/

namespace TreeIndex

/-! ## 1. Steps between places -/

namespace Path

/-- From a base, **one goes up as often as it has steps** to reach what lies above it. -/
theorem stepsBetween_nil : ∀ (base made : List Step),
    stepsBetween [] base made = some (made ++ List.replicate base.length .up)
  | [], made => by
    rw [stepsBetween]
    exact congrArg some (List.append_nil made).symm
  | _ :: base, made => by
    rw [stepsBetween, stepsBetween_nil base, List.append_assoc]
    rfl

/-- **The steps between a base and a goal** go up from what the base has beyond the steps that both share, and
    then down the rest of the goal; there may be no way. -/
theorem stepsBetween_cases : ∀ (goal : List Step) {base : List Step}, .here ∉ base →
    stepsBetween goal base [] = none ∨ ∃ shared down gone, goal = shared ++ down ∧ base = shared ++ gone ∧
      stepsBetween goal base [] = some (List.replicate gone.length .up ++ down)
  | goal, [], _ => by
    refine Or.inr ⟨[], goal, [], rfl, rfl, ?_⟩
    cases goal <;> rfl
  | [], b :: base, _ => Or.inr ⟨[], [], b :: base, rfl, rfl, by rw [stepsBetween_nil, List.append_nil]; rfl⟩
  | a :: goal, b :: base, hhere => by
    rw [List.mem_cons, not_or] at hhere
    rw [stepsBetween]
    by_cases hab : a = b
    · rw [if_pos ⟨rfl, hab⟩]
      rcases stepsBetween_cases goal hhere.2 with h | ⟨shared, down, gone, rfl, rfl, h⟩
      · exact Or.inl h
      · exact Or.inr ⟨a :: shared, down, gone, rfl, by rw [hab]; rfl, h⟩
    · rw [if_neg fun h => hab h.2, if_neg (Ne.symm hhere.1)]
      split
      · exact Or.inl rfl
      · refine Or.inr ⟨[], a :: goal, b :: base, rfl, rfl, ?_⟩
        have hups : base.map (fun _ => Step.up) = List.replicate base.length .up := List.map_const
        rw [List.nil_append, hups]
        rfl

/-- **From one base, the same steps lead to the same goal**, if goals do not go up. -/
theorem stepsBetween_injective {goal goal' base steps : List Step} (hbase : .here ∉ base)
    (hgoal : .up ∉ goal) (hgoal' : .up ∉ goal') (h : stepsBetween goal base [] = some steps)
    (h' : stepsBetween goal' base [] = some steps) : goal = goal' := by
  rcases stepsBetween_cases goal hbase with hnone | ⟨shared, down, gone, rfl, rfl, hsteps⟩
  · cases hnone.symm.trans h
  rcases stepsBetween_cases goal' hbase with hnone | ⟨shared', down', gone', rfl, hsame, hsteps'⟩
  · cases hnone.symm.trans h'
  have hdown : Step.up ∉ down := fun hmem => hgoal (List.mem_append_right shared hmem)
  have hdown' : Step.up ∉ down' := fun hmem => hgoal' (List.mem_append_right shared' hmem)
  have hwritten : List.replicate gone.length Step.up ++ down = List.replicate gone'.length .up ++ down' :=
    Option.some.inj ((hsteps.symm.trans h).trans (h'.symm.trans hsteps'))
  -- the steps up are as many as they are written, since the steps down have none
  have hcount : ∀ {n : Nat} {rest : List Step}, .up ∉ rest →
      (List.replicate n Step.up ++ rest).count .up = n := by
    intro n rest hrest
    rw [List.count_append, List.count_replicate_self, List.count_eq_zero_of_not_mem hrest]
    rfl
  have hlength : gone.length = gone'.length := by
    rw [← hcount (n := gone.length) hdown, hwritten, hcount hdown']
  obtain rfl : down = down' := (List.append_inj hwritten (by simpa using hlength)).2
  have hshared : shared.length = shared'.length := by
    have htotal := congrArg List.length hsame
    rw [List.length_append, List.length_append] at htotal
    omega
  rw [(List.append_inj hsame hshared).1]

end Path

namespace Disk

/-! ## 2. Steps that are written -/

/-- Names that follow a path are **the names behind its own**, and it starts where it started. -/
theorem names_descend : ∀ {ts : List String} {p : Path}, p.text ≠ "" → (∀ t ∈ ts, IsSegment t) →
    names (p.descend ts).text.toList = names p.text.toList ++ ts ∧
      (p.descend ts).text.toList.head? = p.text.toList.head?
  | [], _, _, _ => ⟨(List.append_nil _).symm, rfl⟩
  | t :: ts, p, hp, h => by
    obtain ⟨ht, hts⟩ := List.forall_mem_cons.1 h
    obtain ⟨hne, hhead, -⟩ := child_ends ht hp
    obtain ⟨hnames, hsame⟩ := names_descend hne hts
    rw [names_child ht hp, List.append_assoc] at hnames
    exact ⟨hnames, hsame.trans hhead⟩

/-- Names behind the empty path **are all it says**, and it does not start at the root. -/
theorem names_descend_empty {ts : List String} (h : ∀ t ∈ ts, IsSegment t) :
    names ((⟨""⟩ : Path).descend ts).text.toList = ts ∧
      ((⟨""⟩ : Path).descend ts).text.toList.head? ≠ some '/' := by
  cases ts with
  | nil => exact ⟨rfl, nofun⟩
  | cons t ts =>
    obtain ⟨ht, hts⟩ := List.forall_mem_cons.1 h
    have hfirst : (⟨""⟩ : Path).child t = ⟨t⟩ := by
      unfold Path.child Path.join
      split
      · rfl
      · exact congrArg Path.mk String.empty_append
    have hdescend : (⟨""⟩ : Path).descend (t :: ts) = (⟨t⟩ : Path).descend ts :=
      congrArg (fun p : Path => p.descend ts) hfirst
    obtain ⟨hnames, hhead⟩ := names_descend (p := ⟨t⟩) ht.1 hts
    rw [hdescend, hnames, hhead, names_name ht]
    exact ⟨rfl, fun he => ht.2 (List.mem_of_head? he)⟩

/-! ## 3. Locations that are shown -/

/-- The path to a location **starts at the root**. -/
theorem isAbsolute_pathTo (loc : Location) : (pathTo loc).isAbsolute = true := by
  rw [Path.isAbsolute, Path.lead, toList_pathTo]
  rfl

/-- **The steps from a root to a location**; none if the root does not start where all locations do, or if it
    goes up. -/
def way? (root : Path) (loc : Location) : Option (List Step) :=
  if root.isAbsolute then Path.stepsBetween (loc.map .name) root.steps.tail [] else none

/-- A way as a path: its steps behind the empty path. -/
def wayPath (steps : List Step) : Path :=
  (⟨""⟩ : Path).descend (steps.map Step.text)

/-- **What is shown of a location**: the way from the root, or the path to it if there is no way. -/
theorem shownFrom_pathTo (root : Path) {loc : Location} (h : ∀ name ∈ loc, isEntryName name = true) :
    (pathTo loc).shownFrom root = (((way? root loc).map wayPath).getD (pathTo loc)).text := by
  rw [Path.shownFrom, Path.relativeTo?, isAbsolute_pathTo, way?]
  cases hroot : root.isAbsolute with
  | false => rfl
  | true =>
    have hlead : root.lead = .root := beq_iff_eq.1 hroot
    have hsteps : ∃ rest, root.steps = .root :: rest := by
      rw [Path.steps, hlead]
      exact ⟨_, rfl⟩
    obtain ⟨rest, hrest⟩ := hsteps
    have hwritten : (fun steps : List Step => steps.foldl (fun made step => made.child step.text) ⟨""⟩) =
        wayPath := by
      funext steps
      rw [wayPath, Path.descend, List.foldl_map]
    rw [if_neg (by decide), if_pos rfl, steps_pathTo h, hrest, Path.stepsBetween, if_pos ⟨rfl, rfl⟩, hwritten]
    rfl

/-- The steps behind the beginning of a path are names, **or go up**. -/
theorem here_notMem_tail {root : Path} (h : root.isAbsolute = true) : .here ∉ root.steps.tail := by
  have hlead : root.lead = .root := beq_iff_eq.1 h
  rw [Path.steps, hlead]
  intro hmem
  obtain ⟨segment, -, hsegment⟩ := List.mem_map.1 hmem
  unfold Step.ofSegment at hsegment
  split at hsegment <;> cases hsegment

theorem up_notMem_names (loc : Location) : Step.up ∉ loc.map .name := by
  intro hmem
  obtain ⟨name, -, hname⟩ := List.mem_map.1 hmem
  cases hname

/-- The steps of a way go up, **or they are names of entries**. -/
theorem mem_way? {root : Path} {loc : Location} {steps : List Step}
    (h : ∀ name ∈ loc, isEntryName name = true) (hway : way? root loc = some steps) {step : Step}
    (hstep : step ∈ steps) : step = .up ∨ ∃ name, isEntryName name = true ∧ step = .name name := by
  unfold way? at hway
  split at hway
  · rename_i hroot
    rcases Path.stepsBetween_cases (loc.map .name) (here_notMem_tail hroot) with
      hnone | ⟨shared, down, gone, hgoal, -, hsteps⟩
    · cases hnone.symm.trans hway
    · obtain rfl := Option.some.inj (hsteps.symm.trans hway)
      rcases List.mem_append.1 hstep with hup | hdown
      · exact Or.inl (List.eq_of_mem_replicate hup)
      · have hmem : step ∈ loc.map Step.name := hgoal ▸ List.mem_append_right shared hdown
        obtain ⟨name, hname, rfl⟩ := List.mem_map.1 hmem
        exact Or.inr ⟨name, h name hname, rfl⟩
  · cases hway

/-- **A way is read back** from the path that it is written as, which does not start at the root. -/
theorem way_of_text {root : Path} {loc : Location} {steps : List Step}
    (h : ∀ name ∈ loc, isEntryName name = true) (hway : way? root loc = some steps) :
    (names (wayPath steps).text.toList).map (fun t => Step.ofSegment t.toList) = steps ∧
      (wayPath steps).text.toList.head? ≠ some '/' := by
  have hsegments : ∀ t ∈ steps.map Step.text, IsSegment t := by
    intro t ht
    obtain ⟨step, hstep, rfl⟩ := List.mem_map.1 ht
    rcases mem_way? h hway hstep with rfl | ⟨name, hname, rfl⟩
    · exact ⟨by decide, by decide⟩
    · exact isSegment_of_isEntryName hname
  obtain ⟨hnames, hhead⟩ := names_descend_empty hsegments
  refine ⟨?_, hhead⟩
  rw [wayPath, hnames, List.map_map]
  refine (List.map_congr_left fun step hstep => ?_).trans (List.map_id steps)
  rcases mem_way? h hway hstep with rfl | ⟨name, hname, rfl⟩
  · rfl
  · have hup : name.toList ≠ ['.', '.'] :=
      fun he => (isEntryName_iff.1 hname).2.2.1 (String.toList_injective he)
    exact (if_neg hup).trans (congrArg Step.name String.ofList_toList)

/-- **What is shown tells locations apart**, whatever the root. -/
theorem shownFrom_pathTo_injective (root : Path) {a b : Location}
    (ha : ∀ name ∈ a, isEntryName name = true) (hb : ∀ name ∈ b, isEntryName name = true)
    (h : (pathTo a).shownFrom root = (pathTo b).shownFrom root) : a = b := by
  have hroot (loc : Location) : (pathTo loc).text.toList.head? = some '/' := by
    rw [toList_pathTo]
    rfl
  rw [shownFrom_pathTo root ha, shownFrom_pathTo root hb] at h
  cases hwa : way? root a with
  | none =>
    cases hwb : way? root b with
    | none =>
      rw [hwa, hwb] at h
      exact eq_of_steps_pathTo ha hb (congrArg (fun text => Path.steps ⟨text⟩) h)
    | some steps =>
      rw [hwa, hwb] at h
      have hshown : (pathTo a).text = (wayPath steps).text := h
      have hhead := (way_of_text hb hwb).2
      rw [← hshown] at hhead
      exact absurd (hroot a) hhead
  | some steps =>
    obtain ⟨hsteps, hhead⟩ := way_of_text ha hwa
    cases hwb : way? root b with
    | none =>
      rw [hwa, hwb] at h
      have hshown : (wayPath steps).text = (pathTo b).text := h
      rw [hshown] at hhead
      exact absurd (hroot b) hhead
    | some steps' =>
      rw [hwa, hwb] at h
      have hshown : (wayPath steps).text = (wayPath steps').text := h
      have hsame : steps = steps' := by
        rw [← hsteps, hshown, (way_of_text hb hwb).1]
      rw [← hsame] at hwb
      unfold way? at hwa hwb
      split at hwa
      · rename_i hstart
        rw [if_pos hstart] at hwb
        have hnames := Path.stepsBetween_injective (here_notMem_tail hstart) (up_notMem_names a)
          (up_notMem_names b) hwa hwb
        exact map_name_inj hnames
      · cases hwa

end Disk

end TreeIndex
