import TreeIndex.Proofs.Pattern.Meaning

/-!
# What all ways have in common

A search follows many ways at once. What holds of a way when it begins, and is kept by every step that it takes, holds
of the match that is found.

* `Kept`: a property of ways that **every step keeps**;
* `searchFrom_nil`, `searchFrom_cons`: a search at a position of a text, one character at a time;
* `findFrom?_eq_some`: a match that is found begins and ends where its marks say;
* `untilAccept_spec`: what goes on are ways that were there, and what is found comes from one that accepts;
* `Kept.explore`, `Kept.step`, `Kept.searchFrom`: so a property that is kept holds of all ways, and
  `Kept.findFrom?` of what is found.
-/

namespace TreeIndex.Pattern

/-! ## 1. Searches in a text -/

/-- The ways at a position, with **a new one** if nothing was found yet. -/
def begun (prog : Array Inst) (cs : List Char) (i : Nat) (best : Option Marks) (f : Frontier) : Frontier :=
  if best.isNone then explore prog (spotAt cs i) (prog.size + 1) 0 [] f else f

section Positions

variable {prog : Array Inst} {cs rest : List Char} {c : Char} {i : Nat} {best : Option Marks} {f : Frontier}

theorem after_spotAt (h : cs.drop i = rest) : (spotAt cs i).after = rest.head? := by
  rw [← h, List.head?_drop, spotAt]

theorem drop_succ_of_drop (h : cs.drop i = c :: rest) : cs.drop (i + 1) = rest := by
  rw [← List.tail_drop, h, List.tail_cons]

theorem getElem?_of_drop (h : cs.drop i = c :: rest) : cs[i]? = some c := by
  rw [← List.head?_drop, h, List.head?_cons]

theorem lt_length_of_drop (h : cs.drop i = c :: rest) : i < cs.length :=
  (List.getElem?_eq_some_iff.1 (getElem?_of_drop h)).1

/-- The search **at the end** of a text. -/
theorem searchFrom_nil (h : cs.drop i = []) : searchFrom prog i (spotAt cs i).before best f [] =
    (untilAccept prog (begun prog cs i best f).threads.reverse).2.or best := by
  have hspot : (⟨i, (spotAt cs i).before, none⟩ : Spot) = spotAt cs i := by
    rw [show (none : Option Char) = (spotAt cs i).after from (after_spotAt h).symm]
    rfl
  rw [searchFrom, hspot]
  rfl

/-- The search **at a character**. -/
theorem searchFrom_cons (h : cs.drop i = c :: rest) :
    searchFrom prog i (spotAt cs i).before best f (c :: rest) =
      let ways := untilAccept prog (begun prog cs i best f).threads.reverse
      if ways.1.isEmpty && (ways.2.or best).isSome then ways.2.or best
      else searchFrom prog (i + 1) (spotAt cs (i + 1)).before (ways.2.or best)
        (step prog c (spotAt cs (i + 1)) ways.1) rest := by
  have hspot : (⟨i, (spotAt cs i).before, some c⟩ : Spot) = spotAt cs i := by
    rw [show some c = (spotAt cs i).after from (after_spotAt h).symm]
    rfl
  have hbefore : (spotAt cs (i + 1)).before = some c := by
    rw [spotAt, if_neg (Nat.succ_ne_zero i), Nat.add_sub_cancel, getElem?_of_drop h]
  have hnext : (⟨i + 1, some c, rest.head?⟩ : Spot) = spotAt cs (i + 1) := by
    rw [← after_spotAt (drop_succ_of_drop h), ← hbefore]
    rfl
  rw [searchFrom, hspot, hnext, hbefore]
  rfl

end Positions

/-- What goes on are ways that were there, and what is found comes from one that accepts. -/
theorem untilAccept_spec {prog : Array Inst} : ∀ ts : List Thread,
    (∀ t ∈ (untilAccept prog ts).1, t ∈ ts) ∧
    ∀ marks, (untilAccept prog ts).2 = some marks →
      ∃ t ∈ ts, prog[t.pc]? = some .accept ∧ t.marks = marks
  | [] => ⟨fun _ h => h, nofun⟩
  | t :: ts => by
    obtain ⟨hkept, hfound⟩ := untilAccept_spec ts
    unfold untilAccept
    split
    · rename_i hacc
      refine ⟨fun _ h => absurd h List.not_mem_nil, fun marks h => ?_⟩
      exact ⟨t, List.mem_cons_self, hacc, Option.some.inj h⟩
    · refine ⟨fun u hu => ?_, fun marks h => ?_⟩
      · rcases List.mem_cons.1 hu with rfl | hu
        · exact List.mem_cons_self
        · exact List.mem_cons_of_mem _ (hkept u hu)
      · obtain ⟨u, hu, hm⟩ := hfound marks h
        exact ⟨u, List.mem_cons_of_mem _ hu, hm⟩

/-- A match begins and ends **where its marks say**. -/
theorem ofMarks?_eq_some {marks : Marks} {m : Match} : Match.ofMarks? marks = some m ↔
    marks.lookup 0 = some m.start ∧ marks.lookup 1 = some m.stop ∧ m.marks = marks := by
  unfold Match.ofMarks?
  simp only [Option.bind_eq_bind, Option.bind_eq_some_iff, Option.some_inj]
  constructor
  · rintro ⟨start, hstart, stop, hstop, rfl⟩
    exact ⟨hstart, hstop, rfl⟩
  · rintro ⟨hstart, hstop, rfl⟩
    exact ⟨_, hstart, _, hstop, rfl⟩

theorem findFrom?_eq_some {prog : Array Inst} {cs : List Char} {i : Nat} {m : Match} :
    findFrom? prog cs i = some m ↔ i ≤ cs.length ∧
      searchFrom prog i (spotAt cs i).before none {} (cs.drop i) = some m.marks ∧
        m.marks.lookup 0 = some m.start ∧ m.marks.lookup 1 = some m.stop := by
  unfold findFrom?
  split
  · rename_i hlt
    exact ⟨nofun, fun h => absurd h.1 (Nat.not_le_of_lt hlt)⟩
  · rename_i hle
    rw [and_iff_right (Nat.le_of_not_lt hle), Option.bind_eq_some_iff]
    simp only [ofMarks?_eq_some]
    constructor
    · rintro ⟨marks, hmarks, hstart, hstop, rfl⟩
      exact ⟨hmarks, hstart, hstop⟩
    · rintro ⟨hmarks, hstart, hstop⟩
      exact ⟨_, hmarks, hstart, hstop, rfl⟩

/-! ## 2. Properties that are kept -/

/-- A property of ways -- of the position, the address and the marks -- that holds where a way begins, from a position
    on, and that **every step keeps**. -/
structure Kept (prog : Array Inst) (cs : List Char) (first : Nat) (Q : (i pc : Nat) → Marks → Prop) : Prop where
  start : ∀ {i : Nat}, first ≤ i → i ≤ cs.length → Q i 0 []
  silent : ∀ {i pc next : Nat} {marks : Marks} {inst : Inst}, Q i pc marks → prog[pc]? = some inst →
    (∀ slot, inst ≠ .mark slot) → next ∈ inst.silent (spotAt cs i) pc → Q i next marks
  mark : ∀ {i pc slot : Nat} {marks : Marks}, Q i pc marks → prog[pc]? = some (.mark slot) →
    Q i (pc + 1) ((slot, i) :: marks)
  char : ∀ {i pc : Nat} {marks : Marks} {s : CharSet} {c : Char}, Q i pc marks → prog[pc]? = some (.char s) →
    cs[i]? = some c → s.has c = true → Q (i + 1) (pc + 1) marks

/-- The property holds of all ways at a position. -/
def AllWays (Q : (i pc : Nat) → Marks → Prop) (i : Nat) (ts : List Thread) : Prop :=
  ∀ t ∈ ts, Q i t.pc t.marks

namespace Kept

variable {prog : Array Inst} {cs : List Char} {first i : Nat} {Q : (i pc : Nat) → Marks → Prop}

theorem explore (hQ : Kept prog cs first Q) : ∀ (fuel pc : Nat) (marks : Marks) (f : Frontier),
    Q i pc marks → AllWays Q i f.threads → AllWays Q i (explore prog (spotAt cs i) fuel pc marks f).threads
  | 0, _, _, _, _, hf => hf
  | fuel + 1, pc, marks, f, h, hf => by
    unfold Pattern.explore
    split
    · exact hf
    · cases hi : prog[pc]? with
      | none => exact hf
      | some inst =>
        cases inst with
        | char s => exact List.forall_mem_cons.2 ⟨h, hf⟩
        | accept => exact List.forall_mem_cons.2 ⟨h, hf⟩
        | place p =>
          simp only []
          split
          · rename_i hp
            refine hQ.explore fuel _ _ _ (hQ.silent h hi (by simp) ?_) hf
            rw [Inst.silent, if_pos hp]
            exact List.mem_singleton.2 rfl
          · exact hf
        | mark slot => exact hQ.explore fuel _ _ _ (hQ.mark h hi) hf
        | jump target =>
          exact hQ.explore fuel _ _ _ (hQ.silent h hi (by simp) (List.mem_singleton.2 rfl)) hf
        | split a b =>
          refine hQ.explore fuel _ _ _ (hQ.silent h hi (by simp) (by simp [Inst.silent])) ?_
          exact hQ.explore fuel _ _ _ (hQ.silent h hi (by simp) (by simp [Inst.silent])) hf

theorem step (hQ : Kept prog cs first Q) {c : Char} (hc : cs[i]? = some c) {ts : List Thread}
    (hts : AllWays Q i ts) : AllWays Q (i + 1) (step prog c (spotAt cs (i + 1)) ts).threads := by
  refine List.foldlRecOn (motive := fun f : Frontier => AllWays Q (i + 1) f.threads) ts _
    (fun _ h => absurd h List.not_mem_nil) fun f hf t ht => ?_
  split
  · rename_i s hs
    split
    · rename_i hhas
      exact hQ.explore _ _ _ _ (hQ.char (hts t ht) hs hc hhas) hf
    · exact hf
  · exact hf

theorem begun (hQ : Kept prog cs first Q) (hfirst : first ≤ i) (hi : i ≤ cs.length) {f : Frontier}
    (hf : AllWays Q i f.threads) (best : Option Marks) : AllWays Q i (begun prog cs i best f).threads := by
  unfold Pattern.begun
  split
  · exact hQ.explore _ _ _ _ (hQ.start hfirst hi) hf
  · exact hf

/-- **What a search finds** has the property, where it accepts; or it was found before. -/
theorem searchFrom (hQ : Kept prog cs first Q) : ∀ (rest : List Char) (i : Nat) (best : Option Marks)
    (f : Frontier), cs.drop i = rest → first ≤ i → i ≤ cs.length → AllWays Q i f.threads → ∀ marks,
      searchFrom prog i (spotAt cs i).before best f rest = some marks →
        best = some marks ∨ ∃ j pc, j ≤ cs.length ∧ prog[pc]? = some .accept ∧ Q j pc marks
  | rest, i, best, f, hrest, hfirst, hi, hf, marks, h => by
    have hways := hQ.begun hfirst hi hf best
    have hfound (hmarks : (untilAccept prog (Pattern.begun prog cs i best f).threads.reverse).2.or best =
        some marks) : best = some marks ∨ ∃ j pc, j ≤ cs.length ∧ prog[pc]? = some .accept ∧ Q j pc marks := by
      rcases Option.or_eq_some_iff.1 hmarks with hmarks | ⟨-, hmarks⟩
      · obtain ⟨t, ht, hacc, rfl⟩ := (untilAccept_spec _).2 marks hmarks
        exact Or.inr ⟨i, t.pc, hi, hacc, hways t (List.mem_reverse.1 ht)⟩
      · exact Or.inl hmarks
    cases rest with
    | nil =>
      rw [searchFrom_nil hrest] at h
      exact hfound h
    | cons c rest =>
      rw [searchFrom_cons hrest] at h
      dsimp only at h
      split at h
      · exact hfound h
      · have hkept : AllWays Q i (untilAccept prog (Pattern.begun prog cs i best f).threads.reverse).1 :=
          fun t ht => hways t (List.mem_reverse.1 ((untilAccept_spec _).1 t ht))
        have hnext := hQ.searchFrom rest (i + 1) _ _ (drop_succ_of_drop hrest) (by omega)
          (lt_length_of_drop hrest) (hQ.step (getElem?_of_drop hrest) hkept) marks h
        exact hnext.elim hfound Or.inr

/-- **A match that is found** has the property, where it accepts. -/
theorem findFrom? (hQ : Kept prog cs first Q) {m : Match} (h : findFrom? prog cs first = some m) :
    ∃ j pc, j ≤ cs.length ∧ prog[pc]? = some .accept ∧ Q j pc m.marks := by
  obtain ⟨hle, hmarks, -⟩ := findFrom?_eq_some.1 h
  exact (hQ.searchFrom _ first none {} rfl (Nat.le_refl _) hle (fun _ h => absurd h List.not_mem_nil) m.marks
    hmarks).resolve_left nofun

end Kept

end TreeIndex.Pattern
