import Mathlib.Data.Finset.Card
import Mathlib.Data.Finset.Range
import Mathlib.Data.Nat.Bitwise
import TreeIndex.Proofs.Pattern.Matches

/-!
# Searches find what matches

A text holds a match of a pattern exactly if the pattern matches some part of it.

* `Explored`: what following a step does to a frontier -- nothing is lost, and **every step that is seen newly has been
  followed**. The steps that are being followed are seen already, so they are not asked for (`explored_explore`);
* `Closed`, `Closed.waiting`: where every step that was seen has been followed, each way from a step that was seen goes
  on from a way that waits;
* `closed_step`, `isSome_searchFrom`: so a search passes over no way that leads to acceptance;
* `exists_reaches_of_findFrom?`: and what it finds was reached by a way from its beginning, as a property that every
  step keeps;
* `accepts_iff`: **a text is accepted exactly if the pattern matches a part of it**.
-/

namespace TreeIndex.Pattern

/-! ## 1. Steps that have been followed -/

/-- The step waits for a character, or accepts. -/
def Inst.Waits (i : Inst) : Prop :=
  i = .accept ∨ ∃ s, i = .char s

/-- What **following a step** does to a frontier. -/
structure Explored (prog : Array Inst) (spot : Spot) (f g : Frontier) : Prop where
  seen : ∀ {q}, f.seen.testBit q = true → g.seen.testBit q = true
  threads : ∀ {t}, t ∈ f.threads → t ∈ g.threads
  goes : ∀ {q inst next}, g.seen.testBit q = true → f.seen.testBit q = false → prog[q]? = some inst →
    next ∈ inst.silent spot q → g.seen.testBit next = true
  waits : ∀ {q inst}, g.seen.testBit q = true → f.seen.testBit q = false → prog[q]? = some inst →
    inst.Waits → ∃ t ∈ g.threads, t.pc = q

section Explore

variable {prog : Array Inst} {spot : Spot} {f g h : Frontier} {pc q : Nat}

theorem Explored.refl (f : Frontier) : Explored prog spot f f where
  seen h := h
  threads h := h
  goes h hf := by rw [h] at hf; cases hf
  waits h hf := by rw [h] at hf; cases hf

theorem Explored.trans (hfg : Explored prog spot f g) (hgh : Explored prog spot g h) : Explored prog spot f h where
  seen hq := hgh.seen (hfg.seen hq)
  threads ht := hgh.threads (hfg.threads ht)
  goes {q _ _} hq hf hi hnext := by
    cases hg : g.seen.testBit q with
    | true => exact hgh.seen (hfg.goes hg hf hi hnext)
    | false => exact hgh.goes hq hg hi hnext
  waits {q _} hq hf hi hwaits := by
    cases hg : g.seen.testBit q with
    | true =>
      obtain ⟨t, ht, hpc⟩ := hfg.waits hg hf hi hwaits
      exact ⟨t, hgh.threads ht, hpc⟩
    | false => exact hgh.waits hq hg hi hwaits

/-- The frontier once a step is seen. -/
def seeing (f : Frontier) (pc : Nat) : Frontier :=
  { f with seen := f.seen ||| (1 <<< pc) }

theorem testBit_seeing : (seeing f pc).seen.testBit q = (f.seen.testBit q || decide (pc = q)) := by
  rw [seeing, Nat.testBit_or, Nat.one_shiftLeft, Nat.testBit_two_pow]

/-- The steps of the program that were not seen yet. -/
def unseen (prog : Array Inst) (f : Frontier) : Finset Nat :=
  (Finset.range prog.size).filter fun q => f.seen.testBit q = false

theorem unseen_subset (hfg : Explored prog spot f g) : unseen prog g ⊆ unseen prog f := by
  intro q hq
  simp only [unseen, Finset.mem_filter] at hq ⊢
  refine ⟨hq.1, ?_⟩
  cases hf : f.seen.testBit q with
  | true => rw [hfg.seen hf] at hq; cases hq.2
  | false => rfl

/-- Seeing a step of the program leaves **fewer** of them. -/
theorem card_unseen_seeing {inst : Inst} (hf : f.seen.testBit pc = false) (hi : prog[pc]? = some inst) :
    (unseen prog (seeing f pc)).card < (unseen prog f).card := by
  refine Finset.card_lt_card ⟨fun q hq => ?_, fun hsub => ?_⟩
  · simp only [unseen, Finset.mem_filter, testBit_seeing, Bool.or_eq_false_iff] at hq ⊢
    exact ⟨hq.1, hq.2.1⟩
  · have hmem : pc ∈ unseen prog f := by
      simp only [unseen, Finset.mem_filter, Finset.mem_range]
      exact ⟨(Array.getElem?_eq_some_iff.1 hi).1, hf⟩
    have hnot := hsub hmem
    simp [unseen, testBit_seeing] at hnot

/-- A step is followed **once it is seen** and what it leads to is followed. -/
theorem Explored.of_seeing (hg : Explored prog spot (seeing f pc) g)
    (hgoes : ∀ inst, prog[pc]? = some inst → ∀ next ∈ inst.silent spot pc, g.seen.testBit next = true)
    (hwaits : ∀ inst, prog[pc]? = some inst → inst.Waits → ∃ t ∈ g.threads, t.pc = pc) :
    Explored prog spot f g ∧ g.seen.testBit pc = true := by
  have hseen {q : Nat} (h : f.seen.testBit q = true ∨ pc = q) : g.seen.testBit q = true :=
    hg.seen (by rw [testBit_seeing, Bool.or_eq_true, decide_eq_true_eq]; exact h)
  have hother {q : Nat} (hq : f.seen.testBit q = false) (hne : pc ≠ q) : (seeing f pc).seen.testBit q = false := by
    rw [testBit_seeing, hq, decide_eq_false hne]
    rfl
  refine ⟨⟨fun h => hseen (Or.inl h), hg.threads, fun {q inst _} hgq hfq hi hnext => ?_,
    fun {q inst} hgq hfq hi hw => ?_⟩, hseen (Or.inr rfl)⟩
  · by_cases hpc : pc = q
    · subst hpc
      exact hgoes inst hi _ hnext
    · exact hg.goes hgq (hother hfq hpc) hi hnext
  · by_cases hpc : pc = q
    · subst hpc
      exact hwaits inst hi hw
    · exact hg.waits hgq (hother hfq hpc) hi hw

/-- A way that waits joins the frontier. -/
theorem Explored.push (hfg : Explored prog spot f g) (t : Thread) :
    Explored prog spot f { g with threads := t :: g.threads } where
  seen := hfg.seen
  threads ht := List.mem_cons_of_mem t (hfg.threads ht)
  goes := hfg.goes
  waits hq hf hi hw := by
    obtain ⟨u, hu, hpc⟩ := hfg.waits hq hf hi hw
    exact ⟨u, List.mem_cons_of_mem t hu, hpc⟩

/-- **Following a step** follows all that it leads to, if the fuel suffices for the steps that were not seen. -/
theorem explored_explore : ∀ (fuel pc : Nat) (marks : Marks) (f : Frontier), (unseen prog f).card < fuel →
    Explored prog spot f (explore prog spot fuel pc marks f) ∧
      (explore prog spot fuel pc marks f).seen.testBit pc = true
  | 0, _, _, _, h => absurd h (Nat.not_lt_zero _)
  | fuel + 1, pc, marks, f, h => by
    unfold explore
    split
    · rename_i hseen
      exact ⟨Explored.refl f, hseen⟩
    rename_i hseen
    rw [Bool.not_eq_true] at hseen
    -- what is said of the step itself is of the one that stands there, so the others need no look
    cases hi : prog[pc]? with
    | none => exact (Explored.refl _).of_seeing (fun _ h => by rw [hi] at h; cases h) fun _ h => by rw [hi] at h; cases h
    | some inst =>
      have hfewer : (unseen prog (seeing f pc)).card < fuel := by
        have := card_unseen_seeing hseen hi
        omega
      have of_seeing {g : Frontier} (hg : Explored prog spot (seeing f pc) g)
          (hgoes : ∀ next ∈ inst.silent spot pc, g.seen.testBit next = true)
          (hwaits : inst.Waits → ∃ t ∈ g.threads, t.pc = pc) :
          Explored prog spot f g ∧ g.seen.testBit pc = true := by
        refine hg.of_seeing (fun i h => ?_) fun i h => ?_ <;> (rw [hi] at h; cases h)
        · exact hgoes
        · exact hwaits
      have follow {next : Nat} (more : Marks) := explored_explore fuel next more (seeing f pc) hfewer
      cases inst with
      | char s =>
        exact of_seeing ((Explored.refl _).push ⟨pc, marks⟩) (fun _ h => by cases h)
          fun _ => ⟨⟨pc, marks⟩, List.mem_cons_self, rfl⟩
      | accept =>
        exact of_seeing ((Explored.refl _).push ⟨pc, marks⟩) (fun _ h => by cases h)
          fun _ => ⟨⟨pc, marks⟩, List.mem_cons_self, rfl⟩
      | place p =>
        simp only []
        split
        · rename_i hp
          refine of_seeing (follow marks).1 (fun next h => ?_) (by simp [Inst.Waits])
          rw [Inst.silent, if_pos hp, List.mem_singleton] at h
          exact h ▸ (follow marks).2
        · rename_i hp
          refine of_seeing (Explored.refl _) (fun next h => ?_) (by simp [Inst.Waits])
          rw [Inst.silent, if_neg hp] at h
          cases h
      | mark slot =>
        refine of_seeing (follow _).1 (fun next h => ?_) (by simp [Inst.Waits])
        rw [Inst.silent, List.mem_singleton] at h
        exact h ▸ (follow _).2
      | jump target =>
        refine of_seeing (follow marks).1 (fun next h => ?_) (by simp [Inst.Waits])
        rw [Inst.silent, List.mem_singleton] at h
        exact h ▸ (follow marks).2
      | split a b =>
        have ha := explored_explore fuel a marks (seeing f pc) hfewer
        have hb := explored_explore fuel b marks _
          (Nat.lt_of_le_of_lt (Finset.card_le_card (unseen_subset ha.1)) hfewer)
        refine of_seeing (ha.1.trans hb.1) (fun next h => ?_) (by simp [Inst.Waits])
        rw [Inst.silent, List.mem_pair] at h
        rcases h with rfl | rfl
        · exact hb.1.seen ha.2
        · exact hb.2

/-- **Every step that was seen** has been followed. -/
structure Closed (prog : Array Inst) (spot : Spot) (f : Frontier) : Prop where
  goes : ∀ {q inst next}, f.seen.testBit q = true → prog[q]? = some inst → next ∈ inst.silent spot q →
    f.seen.testBit next = true
  waits : ∀ {q inst}, f.seen.testBit q = true → prog[q]? = some inst → inst.Waits → ∃ t ∈ f.threads, t.pc = q

theorem closed_empty : Closed prog spot {} where
  goes h := by simp at h
  waits h := by simp at h

theorem Closed.explored (hf : Closed prog spot f) (hfg : Explored prog spot f g) : Closed prog spot g where
  goes {q _ _} hg hi hnext := by
    cases hq : f.seen.testBit q with
    | true => exact hfg.seen (hf.goes hq hi hnext)
    | false => exact hfg.goes hg hq hi hnext
  waits {q _} hg hi hw := by
    cases hq : f.seen.testBit q with
    | true =>
      obtain ⟨t, ht, hpc⟩ := hf.waits hq hi hw
      exact ⟨t, hfg.threads ht, hpc⟩
    | false => exact hfg.waits hg hq hi hw

/-- The fuel of a search **suffices**. -/
theorem card_unseen_lt (prog : Array Inst) (f : Frontier) : (unseen prog f).card < prog.size + 1 := by
  have hle := Finset.card_filter_le (Finset.range prog.size) fun q => f.seen.testBit q = false
  rw [Finset.card_range] at hle
  exact Nat.lt_succ_of_le hle

end Explore

/-! ## 2. Ways that lead to acceptance -/

/-- The way **accepts, or passes over the next character** and still leads to acceptance. -/
def Arrives (prog : Array Inst) (cs : List Char) (i : Nat) (t : Thread) : Prop :=
  prog[t.pc]? = some .accept ∨ ∃ s c k, prog[t.pc]? = some (.char s) ∧ cs[i]? = some c ∧ s.has c = true ∧
    Reaches prog cs k (t.pc + 1) (i + 1)

section Search

variable {prog : Array Inst} {cs : List Char} {i k pc : Nat} {f : Frontier}

/-- Each way from a step that was seen **goes on from a way that waits**. -/
theorem Closed.waiting (hf : Closed prog (spotAt cs i) f) (hpc : f.seen.testBit pc = true)
    (h : Reaches prog cs k pc i) : ∃ t ∈ f.threads, Arrives prog cs i t := by
  induction h with
  | accept hacc =>
    obtain ⟨t, ht, rfl⟩ := hf.waits hpc hacc (Or.inl rfl)
    exact ⟨t, ht, Or.inl hacc⟩
  | silent hi hnext _ ih => exact ih hf (hf.goes hpc hi hnext)
  | char hi hc hs h =>
    obtain ⟨t, ht, rfl⟩ := hf.waits hpc hi (Or.inr ⟨_, rfl⟩)
    exact ⟨t, ht, Or.inr ⟨_, _, _, hi, hc, hs, h⟩⟩

/-- The way passes over the character. -/
def Passes (prog : Array Inst) (c : Char) (t : Thread) : Prop :=
  ∃ s, prog[t.pc]? = some (.char s) ∧ s.has c = true

/-- Where each of some ways is followed in its turn, **all of them are** in the end. -/
theorem closed_foldl {spot : Spot} {c : Char} {follow : Frontier → Thread → Frontier}
    (hfollow : ∀ f t, Closed prog spot f → Closed prog spot (follow f t) ∧
      (∀ q, f.seen.testBit q = true → (follow f t).seen.testBit q = true) ∧
      (Passes prog c t → (follow f t).seen.testBit (t.pc + 1) = true)) :
    ∀ (ts : List Thread) (f : Frontier), Closed prog spot f → Closed prog spot (ts.foldl follow f) ∧
      (∀ q, f.seen.testBit q = true → (ts.foldl follow f).seen.testBit q = true) ∧
      ∀ t ∈ ts, Passes prog c t → (ts.foldl follow f).seen.testBit (t.pc + 1) = true
  | [], _, hf => ⟨hf, fun _ h => h, fun _ h => absurd h List.not_mem_nil⟩
  | t :: ts, f, hf => by
    obtain ⟨hclosed, hseen, hpassed⟩ := hfollow f t hf
    obtain ⟨hall, hmore, hothers⟩ := closed_foldl hfollow ts (follow f t) hclosed
    exact ⟨hall, fun q hq => hmore q (hseen q hq),
      List.forall_mem_cons.2 ⟨fun h => hmore _ (hpassed h), hothers⟩⟩

/-- **Passing over a character** follows every way that can. -/
theorem closed_step (c : Char) (spot : Spot) (ts : List Thread) : Closed prog spot (step prog c spot ts) ∧
    ∀ t ∈ ts, Passes prog c t → (step prog c spot ts).seen.testBit (t.pc + 1) = true := by
  unfold step
  refine And.imp_right And.right (closed_foldl (fun f t hf => ?_) ts {} closed_empty)
  split
  · rename_i s hs
    split
    · have hfuel := card_unseen_lt prog f
      obtain ⟨hex, hseen⟩ := explored_explore (prog.size + 1) (t.pc + 1) t.marks f hfuel
      exact ⟨hf.explored hex, fun _ h => hex.seen h, fun _ => hseen⟩
    · rename_i hnot
      refine ⟨hf, fun _ h => h, fun ⟨s', hs', hhas⟩ => absurd hhas ?_⟩
      rw [hs] at hs'
      cases hs'
      exact hnot
  · rename_i hnot
    exact ⟨hf, fun _ h => h, fun ⟨s, hs, _⟩ => absurd hs (hnot s)⟩

/-- The ways at a position, with a new one. -/
theorem closed_begun (hf : Closed prog (spotAt cs i) f) (best : Option Marks) :
    Closed prog (spotAt cs i) (begun prog cs i best f) ∧
      (∀ q, f.seen.testBit q = true → (begun prog cs i best f).seen.testBit q = true) ∧
      (best = none → (begun prog cs i best f).seen.testBit 0 = true) := by
  cases best with
  | some marks => exact ⟨hf, fun _ h => h, nofun⟩
  | none =>
    obtain ⟨hex, hzero⟩ := explored_explore (prog.size + 1) 0 [] f (card_unseen_lt prog f)
    exact ⟨hf.explored hex, fun _ h => hex.seen h, fun _ => hzero⟩

/-- As long as nothing accepts, **all ways go on**. -/
theorem untilAccept_eq_none : ∀ {ts : List Thread}, (untilAccept prog ts).2 = none →
    (untilAccept prog ts).1 = ts ∧ ∀ t ∈ ts, prog[t.pc]? ≠ some .accept
  | [], _ => ⟨rfl, fun _ h => absurd h List.not_mem_nil⟩
  | t :: ts, h => by
    unfold untilAccept at h ⊢
    split at h
    · cases h
    · rename_i hnot
      obtain ⟨hkept, hnone⟩ := untilAccept_eq_none h
      exact ⟨congrArg (t :: ·) hkept, List.forall_mem_cons.2 ⟨fun hacc => hnot hacc, hnone⟩⟩

/-- **What was found is not lost** later on. -/
theorem isSome_searchFrom_of_best : ∀ (rest : List Char) (i : Nat) (best : Option Marks) (f : Frontier),
    cs.drop i = rest → best.isSome = true →
      (searchFrom prog i (spotAt cs i).before best f rest).isSome = true
  | [], i, best, f, hrest, hbest => by
    rw [searchFrom_nil hrest, Option.isSome_or, hbest, Bool.or_true]
  | c :: rest, i, best, f, hrest, hbest => by
    have hfound (ways : Option Marks) : (ways.or best).isSome = true := by
      rw [Option.isSome_or, hbest, Bool.or_true]
    rw [searchFrom_cons hrest]
    dsimp only
    split
    · exact hfound _
    · exact isSome_searchFrom_of_best rest (i + 1) _ _ (drop_succ_of_drop hrest) (hfound _)

/-- **A search passes over no way** that leads to acceptance: neither one from a step that was seen, nor one that begins
    later. -/
theorem isSome_searchFrom : ∀ (rest : List Char) (i : Nat) (f : Frontier), cs.drop i = rest → i ≤ cs.length →
    Closed prog (spotAt cs i) f →
    ((∃ pc k, f.seen.testBit pc = true ∧ Reaches prog cs k pc i) ∨
      ∃ j k, i ≤ j ∧ j ≤ cs.length ∧ Reaches prog cs k 0 j) →
      (searchFrom prog i (spotAt cs i).before none f rest).isSome = true
  | rest, i, f, hrest, hi, hf, h => by
    obtain ⟨hclosed, hseen, hzero⟩ := closed_begun hf none
    -- what leads to acceptance from here waits among the ways, or begins behind this position
    have hways : (∃ t ∈ (begun prog cs i none f).threads, Arrives prog cs i t) ∨
        ∃ j k, i + 1 ≤ j ∧ j ≤ cs.length ∧ Reaches prog cs k 0 j := by
      rcases h with ⟨pc, k, hpc, hreach⟩ | ⟨j, k, hij, hj, hreach⟩
      · exact Or.inl (hclosed.waiting (hseen pc hpc) hreach)
      · rcases Nat.eq_or_lt_of_le hij with rfl | hlt
        · exact Or.inl (hclosed.waiting (hzero rfl) hreach)
        · exact Or.inr ⟨j, k, hlt, hj, hreach⟩
    cases hfound : (untilAccept prog (begun prog cs i none f).threads.reverse).2 with
    | some marks =>
      cases rest with
      | nil => rw [searchFrom_nil hrest, hfound]; rfl
      | cons c rest =>
        rw [searchFrom_cons hrest]
        dsimp only
        rw [hfound]
        split
        · rfl
        · exact isSome_searchFrom_of_best rest (i + 1) _ _ (drop_succ_of_drop hrest) rfl
    | none =>
      obtain ⟨hkept, hnone⟩ := untilAccept_eq_none hfound
      cases rest with
      | nil =>
        have hlast : cs.length ≤ i := List.drop_eq_nil_iff.1 hrest
        rcases hways with ⟨t, ht, hacc | ⟨s, c, k, -, hc, -⟩⟩ | ⟨j, k, hij, hj, -⟩
        · exact absurd hacc (hnone t (List.mem_reverse.2 ht))
        · rw [List.getElem?_eq_none hlast] at hc
          cases hc
        · omega
      | cons c rest =>
        rw [searchFrom_cons hrest]
        dsimp only
        rw [hfound, hkept, Option.none_or, Option.isSome_none, Bool.and_false, if_neg Bool.false_ne_true]
        obtain ⟨hnext, hpassed⟩ := closed_step c (spotAt cs (i + 1)) (begun prog cs i none f).threads.reverse
        refine isSome_searchFrom rest (i + 1) _ (drop_succ_of_drop hrest) (lt_length_of_drop hrest) hnext ?_
        rcases hways with ⟨t, ht, hacc | ⟨s, c', k, hs, hc, hhas, hreach⟩⟩ | hlater
        · exact absurd hacc (hnone t (List.mem_reverse.2 ht))
        · rw [getElem?_of_drop hrest] at hc
          cases hc
          exact Or.inl ⟨t.pc + 1, k, hpassed t (List.mem_reverse.2 ht) ⟨s, hs, hhas⟩, hreach⟩
        · exact Or.inr hlater

/-! ## 3. Matches that are found -/

/-- Every step keeps a way's claim to have begun somewhere: **if it leads to acceptance, so does its beginning**. -/
theorem kept_begins : Kept prog cs 0 fun i pc _ =>
    ∃ j ≤ i, ∀ k, Reaches prog cs k pc i → ∃ l, Reaches prog cs l 0 j where
  start {i} _ _ := ⟨i, Nat.le_refl i, fun k h => ⟨k, h⟩⟩
  silent h hi _ hnext := by
    obtain ⟨j, hj, hreach⟩ := h
    exact ⟨j, hj, fun k hk => hreach (k + 1) (.silent hi hnext hk)⟩
  mark h hi := by
    obtain ⟨j, hj, hreach⟩ := h
    exact ⟨j, hj, fun k hk => hreach (k + 1) (.silent hi (List.mem_singleton.2 rfl) hk)⟩
  char h hi hc hs := by
    obtain ⟨j, hj, hreach⟩ := h
    exact ⟨j, Nat.le_succ_of_le hj, fun k hk => hreach (k + 1) (.char hi hc hs hk)⟩

/-- A way that has left its first step **has marked where it began**. -/
theorem kept_marked (hzero : prog[0]? = some (.mark 0)) : Kept prog cs 0 fun _ pc marks =>
    pc = 0 ∨ (marks.lookup 0).isSome = true where
  start _ _ := Or.inl rfl
  silent {_ pc next marks inst} h hi hne hnext := by
    rcases h with rfl | h
    · rw [hzero] at hi
      cases hi
      exact absurd rfl (hne 0)
    · exact Or.inr h
  mark {i pc slot marks} h hi := by
    refine Or.inr ?_
    by_cases hslot : 0 = slot
    · subst hslot
      rw [List.lookup_cons_self]
      rfl
    · have hne : (0 == slot) = false := beq_false_of_ne hslot
      rw [List.lookup_cons, hne]
      refine h.resolve_left fun hpc => hslot ?_
      rw [hpc, hzero] at hi
      cases hi
      rfl
  char h hi _ _ := by
    rcases h with rfl | h
    · rw [hzero] at hi
      cases hi
    · exact Or.inr h

end Search

theorem program_zero (n : Node) : n.program.toArray[0]? = some (.mark 0) := by
  rw [List.getElem?_toArray]
  rfl

/-- The program of a pattern finds a match **exactly if the pattern matches a part of the text**. -/
theorem isSome_findFrom?_iff {n : Node} {cs : List Char} :
    (findFrom? n.program.toArray cs 0).isSome = true ↔ ∃ i j, i ≤ cs.length ∧ n.Matches cs i j := by
  constructor
  · intro h
    obtain ⟨m, hm⟩ := Option.isSome_iff_exists.1 h
    obtain ⟨stop, pc, hle, hacc, i, hi, hreach⟩ := kept_begins.findFrom? hm
    obtain ⟨j, hmatch⟩ := reaches_program_iff.1 (hreach 0 (.accept hacc))
    exact ⟨i, j, Nat.le_trans hi hle, hmatch⟩
  · rintro ⟨i, j, hi, hmatch⟩
    obtain ⟨k, hreach⟩ := reaches_program_iff.2 ⟨j, hmatch⟩
    have hsome : (searchFrom n.program.toArray 0 (spotAt cs 0).before none {} (cs.drop 0)).isSome = true :=
      isSome_searchFrom (cs.drop 0) 0 {} rfl (Nat.zero_le _) closed_empty (Or.inr ⟨i, k, Nat.zero_le i, hi, hreach⟩)
    obtain ⟨marks, hmarks⟩ := Option.isSome_iff_exists.1 hsome
    -- a way that accepts has marked its beginning and its end
    have found {Q : (i pc : Nat) → Marks → Prop} (hQ : Kept n.program.toArray cs 0 Q) :
        ∃ j pc, j ≤ cs.length ∧ n.program.toArray[pc]? = some .accept ∧ Q j pc marks :=
      (hQ.searchFrom (cs.drop 0) 0 none {} rfl (Nat.le_refl 0) (Nat.zero_le _)
        (fun _ h => absurd h List.not_mem_nil) marks hmarks).resolve_left nofun
    obtain ⟨_, pc, -, hacc, hstart⟩ := found (kept_marked (program_zero n))
    obtain ⟨stop, _, -, hacc', -, hway⟩ := found (kept_onWay (endsMarked_program n) cs)
    obtain ⟨start, hstart⟩ := Option.isSome_iff_exists.1 <| hstart.resolve_left fun hpc => by
      rw [hpc, program_zero] at hacc
      cases hacc
    exact Option.isSome_iff_exists.2
      ⟨⟨start, stop, marks⟩, findFrom?_eq_some.2 ⟨Nat.zero_le _, hmarks, hstart, hway.ended hacc'⟩⟩

/-- **A text is accepted** exactly if the pattern matches a part of it. -/
theorem accepts_iff {source : String} {p : Pattern} (h : ofText? source = .ok p) {cs : List Char} :
    p.accepts cs = true ↔ ∃ i j, i ≤ cs.length ∧ p.node.Matches cs i j := by
  rw [accepts, (program_eq h).2, isSome_findFrom?_iff]

end TreeIndex.Pattern
