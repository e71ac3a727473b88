import TreeIndex.Index
import TreeIndex.Proofs.Disk.Endings

/-!
# The definition of a file

The files of a tree are found bucket by bucket, and one definition after the other takes over what it can. For each
file by itself this is **a search through the definitions**.

* `Placed.listed`: paths in order, those that have a value with their value; `Placed.value?_listed`,
  `Placed.insert_listed`: what is found at a path there, and what it becomes;
* `better`, `classOf?`: the better one of two definitions for a name, and the definition of a name;
* `takeOver_listed`, `foldl_takeOver_listed`, `takeBucket_listed`: what one path, a bucket and a definition change;
* `classified_eq`: so the files of a tree are those of the walk, **each with the definition of its name**.
-/

namespace TreeIndex

/-! ## 1. Values at paths -/

theorem Path.before.steps_beq {p q : Path} (h : p.before q) : (p.steps == q.steps) = false :=
  beq_eq_false_iff_ne.2 h.steps_ne

namespace Placed

variable {α : Type} {paths : List Path} {best : Path → Option α} {p : Path} {v : α}

/-- Those paths **that have a value**, with their values. -/
def listed (paths : List Path) (best : Path → Option α) : List (Placed α) :=
  paths.filterMap fun p => (best p).map (Placed.of p)

theorem listed_none (paths : List Path) : listed paths (fun _ => (none : Option α)) = [] :=
  List.filterMap_eq_nil_iff.2 fun _ _ => rfl

theorem listed_congr {other : Path → Option α} (h : ∀ p ∈ paths, best p = other p) :
    listed paths best = listed paths other :=
  List.filterMap_congr fun p hp => by rw [h p hp]

theorem listed_cons (q : Path) (rest : List Path) (best : Path → Option α) :
    listed (q :: rest) best = ((best q).map (Placed.of q)).toList ++ listed rest best := by
  rw [listed, List.filterMap_cons]
  cases best q <;> rfl

theorem exists_of_mem_listed {e : Placed α} (h : e ∈ listed paths best) : ∃ q ∈ paths, ∃ v, e = Placed.of q v := by
  obtain ⟨q, hq, hvalue⟩ := List.mem_filterMap.1 h
  obtain ⟨v, -, rfl⟩ := Option.map_eq_some_iff.1 hvalue
  exact ⟨q, hq, v, rfl⟩

theorem map_listed (paths : List Path) (best : Path → Option α) :
    (listed paths best).map (fun e => (e.path, e.value)) = paths.filterMap fun p => (best p).map fun v => (p, v) := by
  rw [listed, List.map_filterMap]
  refine List.filterMap_congr fun p _ => ?_
  cases best p <;> rfl

theorem value?_cons (steps : List Step) (q : Path) (v : α) (es : List (Placed α)) :
    value? steps (Placed.of q v :: es) = if q.steps == steps then some v else value? steps es := by
  have hsteps : (Placed.of q v).steps = q.steps := rfl
  rw [value?, List.find?_cons, hsteps]
  cases q.steps == steps <;> rfl

/-- In front of all paths that have values **nothing is found**, -/
theorem value?_eq_none (h : ∀ q ∈ paths, p.before q) : value? p.steps (listed paths best) = none := by
  refine Option.map_eq_none_iff.2 (List.find?_eq_none.2 fun e he hsteps => ?_)
  obtain ⟨q, hq, v, rfl⟩ := exists_of_mem_listed he
  exact (h q hq).steps_ne (beq_iff_eq.1 hsteps).symm

/-- and a value that is added **comes first**. -/
theorem insert_front (h : ∀ q ∈ paths, p.before q) :
    (Placed.of p v).insert (listed paths best) = Placed.of p v :: listed paths best := by
  cases hes : listed paths best with
  | nil => rfl
  | cons e es =>
    obtain ⟨q, hq, w, rfl⟩ := exists_of_mem_listed (hes ▸ List.mem_cons_self)
    have hbefore := h q hq
    have hapart : ¬ ((Placed.of q w).steps == (Placed.of p v).steps) = true := fun hsteps =>
      hbefore.steps_ne (beq_iff_eq.1 hsteps).symm
    rw [insert, if_neg hapart]
    exact if_pos (stepsPrecede_iff.2 hbefore)

/-- What is found at a path is **the value of the path**. -/
theorem value?_listed (h : paths.Pairwise Path.before) (hp : p ∈ paths) : value? p.steps (listed paths best) = best p := by
  induction paths with
  | nil => cases hp
  | cons q rest ih =>
    obtain ⟨hq, hrest⟩ := List.pairwise_cons.1 h
    rw [listed_cons]
    rcases List.mem_cons.1 hp with rfl | hmem
    · cases hv : best p with
      | none => exact value?_eq_none hq
      | some v => exact (value?_cons p.steps p v _).trans (if_pos (beq_self_eq_true _))
    · cases hv : best q with
      | none => exact ih hrest hmem
      | some v =>
        refine (value?_cons p.steps q v _).trans ?_
        rw [(hq p hmem).steps_beq, if_neg Bool.false_ne_true]
        exact ih hrest hmem

/-- A value that is put at a path **becomes the value of the path**. -/
theorem insert_listed (h : paths.Pairwise Path.before) (hp : p ∈ paths) :
    (Placed.of p v).insert (listed paths best) = listed paths fun q => if q = p then some v else best q := by
  induction paths with
  | nil => cases hp
  | cons q rest ih =>
    obtain ⟨hq, hrest⟩ := List.pairwise_cons.1 h
    rw [listed_cons, listed_cons]
    rcases List.mem_cons.1 hp with rfl | hmem
    · have hothers : listed rest (fun q => if q = p then some v else best q) = listed rest best :=
        listed_congr fun r hr => if_neg fun heq => (hq r hr).steps_ne (congrArg Path.steps heq.symm)
      rw [if_pos rfl, hothers]
      cases hw : best p with
      | none => exact insert_front hq
      | some w => exact if_pos (beq_self_eq_true _)
    · have hbefore := hq p hmem
      rw [if_neg fun heq => hbefore.steps_ne (congrArg Path.steps heq), ← ih hrest hmem]
      cases hw : best q with
      | none => rfl
      | some w =>
        have hapart : ¬ ((Placed.of q w).steps == (Placed.of p v).steps) = true := fun hsteps =>
          hbefore.steps_ne (beq_iff_eq.1 hsteps)
        have hbehind : ¬ stepsPrecede (Placed.of p v).steps (Placed.of q w).steps = true := fun hprecede =>
          hbefore.asymm (stepsPrecede_iff.1 hprecede)
        rw [Option.map_some, Option.toList_some, List.singleton_append, List.singleton_append, insert, if_neg hapart,
          if_neg hbehind]

end Placed

open Placed (listed listed_congr)

namespace Definitions

/-! ## 2. The definition of a name -/

/-- The better one of two definitions for a name: **the longer suffix**, or else the first. -/
def better (name : String) (best : Option Definition) (c : Definition) : Option Definition :=
  match c.suffix? with
  | none => best
  | some suffix => if hasEnding name suffix && outdoes suffix best then some c else best

/-- The **definition of a name**. -/
def classOf? (ds : Definitions) (name : String) : Option Definition :=
  (ds.ofKind fileKind).foldl (better name) none

/-! ## 3. Taking over -/

section TakeOver

variable {paths : List Path} {best : Path → Option Definition} {c : Definition} {suffix : String} {p : Path}

/-- One path goes over to a definition **that outdoes the one of the path**. -/
theorem takeOver_listed (h : paths.Pairwise Path.before) (hp : p ∈ paths) :
    takeOver c suffix (listed paths best) p =
      listed paths fun q => if q = p ∧ outdoes suffix (best q) = true then some c else best q := by
  have hheld : Placed.value? (Placed.of p c).steps (listed paths best) = best p := Placed.value?_listed h hp
  rw [takeOver, hheld]
  split
  · rename_i hout
    rw [Placed.insert_listed h hp]
    refine listed_congr fun q _ => ?_
    by_cases hq : q = p
    · rw [if_pos hq, if_pos ⟨hq, hq ▸ hout⟩]
    · rw [if_neg hq, if_neg fun hboth => hq hboth.1]
  · rename_i hout
    refine listed_congr fun q _ => (if_neg ?_).symm
    exact fun hboth => hout (hboth.1 ▸ hboth.2)

/-- So do the paths of a bucket, **each as often as it stands there**: once is enough. -/
theorem foldl_takeOver_listed (h : paths.Pairwise Path.before) (bucket : List Path)
    (hbucket : ∀ p ∈ bucket, p ∈ paths) : bucket.foldl (takeOver c suffix) (listed paths best) =
      listed paths fun q => if q ∈ bucket ∧ outdoes suffix (best q) = true then some c else best q := by
  induction bucket generalizing best with
  | nil => exact listed_congr fun q _ => (if_neg fun hboth => List.not_mem_nil hboth.1).symm
  | cons p rest ih =>
    rw [List.foldl_cons, takeOver_listed h (hbucket p List.mem_cons_self),
      ih fun q hq => hbucket q (List.mem_cons_of_mem p hq)]
    refine listed_congr fun q _ => ?_
    by_cases hq : q = p ∧ outdoes suffix (best q) = true
    · -- it has gone over, and whether it does so again makes no difference
      have hmem : q ∈ p :: rest := hq.1 ▸ List.mem_cons_self
      rw [if_pos hq, ite_self, if_pos ⟨hmem, hq.2⟩]
    · rw [if_neg hq]
      refine if_congr ⟨fun hboth => ⟨List.mem_cons_of_mem p hboth.1, hboth.2⟩, fun hboth => ⟨?_, hboth.2⟩⟩ rfl rfl
      exact (List.mem_cons.1 hboth.1).resolve_left fun heq => hq ⟨heq, hboth.2⟩

end TakeOver

/-! ## 4. The files of a tree -/

section Classified

variable (d : Disk) (s : Settings) (ds : Definitions)

/-- A definition of files takes over the files **for whose names it is the better one**. -/
theorem takeBucket_listed {c : Definition} (hc : c ∈ ds.ofKind fileKind) (best : Path → Option Definition) :
    takeBucket (d.filesByEnding (ds.walkOptions s) ds.rootDir (ds.suffixes fileKind))
        (listed (d.filesBeneath (ds.walkOptions s) ds.rootDir) best) c =
      listed (d.filesBeneath (ds.walkOptions s) ds.rootDir) fun p => better p.fileName (best p) c := by
  have hordered := d.pairwise_filesBeneath (ds.walkOptions s) ds.rootDir
  unfold takeBucket better
  cases hsuffix : c.suffix? with
  | none => rfl
  | some suffix =>
    have hmem : suffix ∈ ds.suffixes fileKind := List.mem_filterMap.2 ⟨c, hc, hsuffix⟩
    dsimp only
    rw [Disk.get?_filesByEnding.2 ⟨hmem, rfl⟩, Option.getD_some,
      foldl_takeOver_listed hordered _ fun p hp => ((Disk.mem_bucket_iff hmem).1 hp).1]
    refine listed_congr fun p hp => if_congr ?_ rfl rfl
    rw [Disk.mem_bucket_iff hmem, Bool.and_eq_true, Disk.hasEnding_iff, and_iff_right hp]

/-- Going from definition to definition **goes on for each path by itself**. -/
theorem foldl_takeBucket_listed (cs : List Definition) (hcs : ∀ c ∈ cs, c ∈ ds.ofKind fileKind)
    (best : Path → Option Definition) :
    cs.foldl (takeBucket (d.filesByEnding (ds.walkOptions s) ds.rootDir (ds.suffixes fileKind)))
        (listed (d.filesBeneath (ds.walkOptions s) ds.rootDir) best) =
      listed (d.filesBeneath (ds.walkOptions s) ds.rootDir) fun p => cs.foldl (better p.fileName) (best p) := by
  induction cs generalizing best with
  | nil => rfl
  | cons c cs ih =>
    rw [List.foldl_cons, takeBucket_listed d s ds (hcs c List.mem_cons_self)]
    exact ih (fun b hb => hcs b (List.mem_cons_of_mem c hb)) _

/-- **The files of a tree** are those of the walk that have a definition. -/
theorem classified_eq : ds.classified d s = (d.filesBeneath (ds.walkOptions s) ds.rootDir).filterMap fun p =>
    (ds.classOf? p.fileName).map fun c => (p, c) := by
  rw [classified, ← Placed.listed_none (d.filesBeneath (ds.walkOptions s) ds.rootDir),
    foldl_takeBucket_listed d s ds _ (fun _ hc => hc), Placed.map_listed]
  rfl

theorem mem_classified_iff {p : Path} {c : Definition} : (p, c) ∈ ds.classified d s ↔
    p ∈ d.filesBeneath (ds.walkOptions s) ds.rootDir ∧ ds.classOf? p.fileName = some c := by
  rw [classified_eq, List.mem_filterMap]
  constructor
  · rintro ⟨q, hq, hclass⟩
    obtain ⟨b, hb, heq⟩ := Option.map_eq_some_iff.1 hclass
    cases heq
    exact ⟨hq, hb⟩
  · intro ⟨hp, hclass⟩
    exact ⟨p, hp, Option.map_eq_some_iff.2 ⟨c, hclass, rfl⟩⟩

end Classified

end Definitions

end TreeIndex
