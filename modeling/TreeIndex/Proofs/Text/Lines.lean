import TreeIndex.Text.Lines

/-!
# Where lines begin

* `offset`: the position at which a line begins, lines counted from zero;
* `EndsLine`: a line ends with the text, or the text is empty;
* `le_offset_iff`: **a position and a line compare by newlines** -- the line begins at the position or behind it
  exactly if fewer newlines stand in front of the position than in front of the line, or just as many and the
  position begins a line itself.
-/

namespace TreeIndex.Text

/-- The position at which the line `k` begins. -/
def offset (text : List Char) (k : Nat) : Nat :=
  ((pieces text).take k).flatten.length

/-- A line ends with the text: it is empty, or its last character is a newline. -/
def EndsLine (text : List Char) : Prop :=
  ∀ c, text.getLast? = some c → c = '\n'

theorem pieces_newline (cs : List Char) : pieces ('\n' :: cs) = ['\n'] :: pieces cs := by
  rw [pieces, if_pos rfl]

theorem pieces_cons {c : Char} (h : c ≠ '\n') {cs p : List Char} {ps : List (List Char)}
    (hps : pieces cs = p :: ps) : pieces (c :: cs) = (c :: p) :: ps := by
  rw [pieces, if_neg h, hps]

theorem pieces_last {c : Char} (h : c ≠ '\n') {cs : List Char} (hps : pieces cs = []) :
    pieces (c :: cs) = [[c]] := by
  rw [pieces, if_neg h, hps]

theorem offset_zero (text : List Char) : offset text 0 = 0 := rfl

theorem offset_newline (cs : List Char) (k : Nat) : offset ('\n' :: cs) (k + 1) = offset cs k + 1 := by
  rw [offset, pieces_newline, List.take_succ_cons, List.flatten_cons, List.length_append, offset]
  exact Nat.add_comm _ _

theorem offset_cons {c : Char} (h : c ≠ '\n') {cs : List Char} {k : Nat}
    (hk : k + 1 < (pieces (c :: cs)).length) : offset (c :: cs) (k + 1) = offset cs (k + 1) + 1 := by
  cases hps : pieces cs with
  | nil =>
    rw [pieces_last h hps] at hk
    simp only [List.length_singleton] at hk
    omega
  | cons p ps =>
    rw [offset, offset, pieces_cons h hps, hps, List.take_succ_cons, List.take_succ_cons,
      List.flatten_cons, List.flatten_cons, List.cons_append, List.length_cons]

theorem newlines_append (xs ys : List Char) : newlines (xs ++ ys) = newlines xs + newlines ys :=
  List.count_append

theorem newlines_newline (cs : List Char) : newlines ('\n' :: cs) = newlines cs + 1 :=
  List.count_cons_self

theorem newlines_cons {c : Char} (h : c ≠ '\n') (cs : List Char) : newlines (c :: cs) = newlines cs :=
  List.count_cons_of_ne h

theorem endsLine_nil : EndsLine [] := nofun

theorem endsLine_cons_iff {c d : Char} {cs : List Char} : EndsLine (c :: d :: cs) ↔ EndsLine (d :: cs) := by
  rw [EndsLine, EndsLine, List.getLast?_cons_cons]

theorem endsLine_newline_iff {cs : List Char} : EndsLine ('\n' :: cs) ↔ EndsLine cs := by
  cases cs with
  | nil => exact ⟨fun _ => endsLine_nil, fun _ c h => (Option.some.inj h).symm⟩
  | cons d cs => exact endsLine_cons_iff

/-- A text without a newline ends a line only if it is empty. -/
theorem EndsLine.newlines_pos {c : Char} {cs : List Char} (h : EndsLine (c :: cs)) :
    0 < newlines (c :: cs) := by
  have hlast := h _ (List.getLast?_eq_some_getLast (List.cons_ne_nil c cs))
  refine List.count_pos_iff.2 ?_
  rw [← hlast]
  exact List.getLast_mem _

/-- **A position and a line compare by newlines.** -/
theorem le_offset_iff : ∀ {text : List Char} {e k : Nat}, e ≤ text.length → k < (pieces text).length →
    (e ≤ offset text k ↔ newlines (text.take e) < k ∨
      newlines (text.take e) = k ∧ EndsLine (text.take e))
  | text, 0, k, _, _ => by
    rw [List.take_zero]
    refine ⟨fun _ => ?_, fun _ => Nat.zero_le _⟩
    rcases Nat.eq_zero_or_pos k with rfl | hk
    · exact Or.inr ⟨rfl, endsLine_nil⟩
    · exact Or.inl hk
  | c :: cs, e + 1, 0, _, _ => by
    rw [offset_zero, List.take_succ_cons]
    refine ⟨fun h => absurd h (Nat.not_succ_le_zero e), fun h => ?_⟩
    rcases h with h | ⟨hzero, hends⟩
    · exact absurd h (Nat.not_lt_zero _)
    · have := hends.newlines_pos
      omega
  | c :: cs, e + 1, k + 1, he, hk => by
    rw [List.length_cons] at he
    rw [List.take_succ_cons]
    by_cases hc : c = '\n'
    · subst hc
      rw [pieces_newline, List.length_cons] at hk
      rw [offset_newline, newlines_newline, endsLine_newline_iff, Nat.succ_le_succ_iff,
        le_offset_iff (by omega) (by omega), Nat.succ_lt_succ_iff, Nat.succ_inj]
    · rw [offset_cons hc hk, newlines_cons hc, Nat.succ_le_succ_iff]
      have hk' : k + 1 < (pieces cs).length := by
        cases hps : pieces cs with
        | nil =>
          rw [pieces_last hc hps] at hk
          simp only [List.length_singleton] at hk
          omega
        | cons p ps =>
          rw [pieces_cons hc hps, List.length_cons] at hk
          exact hk
      rw [le_offset_iff (by omega) hk']
      -- the first character matters only where nothing follows it, and there is no newline
      cases hs : cs.take e with
      | nil =>
        have hzero : newlines [] = 0 := rfl
        rw [hzero]
        omega
      | cons d ds => rw [endsLine_cons_iff]

end TreeIndex.Text
