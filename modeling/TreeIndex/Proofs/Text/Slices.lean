import TreeIndex.Proofs.Text.Lines

/-!
# Lines by their numbers

A range of lines is cut out of the pieces of a text by two numbers. What it holds is said line by line.

* `chosen`: the text of the lines **whose numbers are chosen**, in their order; lines are numbered from one;
* `chosen_congr`: choices that agree on the numbers of lines choose the same text;
* `filter_zipIdx`: in a numbered list, the numbers of a range belong to one part of it;
* `toList_sliceLines`: so a range of lines is the text of the lines **with its numbers**;
* `chosen_append`: two ranges that meet are one range; `chosen_eq_nil_iff`: a range of numbers of lines is empty
  only if it has no number, since no line is empty.
-/

namespace TreeIndex.Text

/-! ## 1. Chosen lines -/

/-- The text of the lines **whose numbers are chosen**; lines are numbered from one. -/
def chosen (text : List Char) (choice : Nat → Prop) [DecidablePred choice] : List Char :=
  (((pieces text).zipIdx 1).filter fun l => choice l.2).flatMap Prod.fst

/-- Only **the numbers of lines** count. -/
theorem chosen_congr {text : List Char} {p q : Nat → Prop} [DecidablePred p] [DecidablePred q]
    (h : ∀ k < (pieces text).length, p (k + 1) ↔ q (k + 1)) : chosen text p = chosen text q := by
  rw [chosen, chosen]
  refine congrArg (List.flatMap Prod.fst) (List.filter_congr fun l hl => ?_)
  obtain ⟨line, n⟩ := l
  obtain ⟨hfirst, hlast, -⟩ := List.mem_zipIdx hl
  obtain ⟨k, rfl⟩ : ∃ k, n = k + 1 := ⟨n - 1, by omega⟩
  exact decide_eq_decide.2 (h k (by omega))

/-! ## 2. Ranges of lines -/

/-- In a numbered list, **the numbers of a range** belong to one part of it. -/
theorem filter_zipIdx {α : Type} (first stop : Nat) : ∀ (xs : List α) (n : Nat),
    ((xs.zipIdx n).filter fun l => first ≤ l.2 ∧ l.2 < stop).map Prod.fst =
      (xs.take (stop - n)).drop (first - n)
  | [], n => by simp
  | x :: xs, n => by
    have ih := filter_zipIdx first stop xs (n + 1)
    rw [List.zipIdx_cons]
    by_cases hstop : n < stop
    · have hmore : stop - n = stop - (n + 1) + 1 := by omega
      rw [hmore, List.take_succ_cons]
      by_cases hfirst : first ≤ n
      · have hnone : first - n = 0 := by omega
        have hnone' : first - (n + 1) = 0 := by omega
        rw [List.filter_cons_of_pos (by simp [hfirst, hstop]), List.map_cons, ih, hnone, hnone']
        rfl
      · have hone : first - n = first - (n + 1) + 1 := by omega
        rw [List.filter_cons_of_neg (by simp [hfirst]), ih, hone, List.drop_succ_cons]
    · have hnone : stop - n = 0 := by omega
      have hnone' : stop - (n + 1) = 0 := by omega
      rw [List.filter_cons_of_neg (by simp [hstop]), ih, hnone, hnone']
      simp

theorem chosen_range (text : List Char) (first stop : Nat) : chosen text (fun k => first ≤ k ∧ k < stop) =
    (((pieces text).take (stop - 1)).drop (first - 1)).flatten := by
  rw [chosen, ← filter_zipIdx, List.flatMap_def]

/-- A range of lines is **the text of the lines with its numbers**. -/
theorem toList_sliceLines (text : String) {first stop : Nat} (h : 1 ≤ first) :
    (sliceLines text first stop).toList = chosen text.toList fun k => first ≤ k ∧ k < stop := by
  have hlength : stop - 1 - (first - 1) = stop - first := by omega
  rw [chosen_range, List.drop_take, hlength, sliceLines, String.toList_ofList]

/-- Two ranges that meet **are one**. -/
theorem chosen_append (text : List Char) {first mid stop : Nat} (hfirst : first ≤ mid) (hmid : mid ≤ stop) :
    chosen text (fun k => first ≤ k ∧ k < mid) ++ chosen text (fun k => mid ≤ k ∧ k < stop) =
      chosen text fun k => first ≤ k ∧ k < stop := by
  rw [chosen_range, chosen_range, chosen_range, ← List.flatten_append]
  refine congrArg List.flatten ?_
  have hparts : ((pieces text).take (stop - 1)).take (mid - 1) = (pieces text).take (mid - 1) := by
    rw [List.take_take, Nat.min_eq_left (by omega)]
  have hdrop : first - 1 + (mid - 1 - (first - 1)) = mid - 1 := by omega
  rw [← hparts, List.drop_take]
  conv => lhs; rw [← hdrop, ← List.drop_drop]
  rw [Nat.add_sub_cancel_left, List.take_append_drop]

/-- A range of numbers of lines is empty **only if it has no number**. -/
theorem chosen_eq_nil_iff {text : List Char} {first stop : Nat} (h : 1 ≤ first)
    (hstop : stop ≤ (pieces text).length + 1) :
    chosen text (fun k => first ≤ k ∧ k < stop) = [] ↔ stop ≤ first := by
  rw [chosen_range, List.flatten_eq_nil_iff]
  constructor
  · intro hnil
    refine Nat.le_of_not_lt fun hlt => ?_
    have hline : ((pieces text).take (stop - 1))[first - 1]? = some (pieces text)[first - 1] := by
      rw [List.getElem?_take_of_lt (by omega), List.getElem?_eq_getElem (by omega)]
    have hmem : (pieces text)[first - 1] ∈ ((pieces text).take (stop - 1)).drop (first - 1) := by
      refine List.mem_of_getElem? (i := 0) ?_
      rw [List.getElem?_drop, Nat.add_zero, hline]
    exact ne_nil_of_mem_pieces (List.getElem_mem _) (hnil _ hmem)
  · intro hle line hline
    have hnone : ((pieces text).take (stop - 1)).drop (first - 1) = [] := by
      rw [List.drop_eq_nil_iff, List.length_take]
      omega
    rw [hnone] at hline
    cases hline

end TreeIndex.Text
