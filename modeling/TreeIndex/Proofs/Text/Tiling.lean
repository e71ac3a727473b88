import TreeIndex.Proofs.Text.Slices

/-!
# Slices that tile a text

Lines are numbered in three ways: by the pieces of a text, by its lines without their endings, and by the slices of
ranges of lines. The three agree.

* `pieces_eq_cons`: the first piece of a text, and what is cut from the rest of it;
* `pieces_take`, `pieces_drop`, `pieces_sliceLines`: joined pieces are cut **into the same pieces** again, so the pieces
  of a slice are the pieces with its numbers;
* `Ends`, `ends_chomp`: a line with its ending and without it;
* `Tiled`, `tiled`: slices that meet are one slice, all lines make the text, and a slice of one line is that line **with
  its ending**.
-/

namespace TreeIndex.Text

/-! ## 1. Pieces of pieces -/

/-- **The first piece** ends with a newline if anything follows it, and what follows it is cut as if it stood alone. -/
theorem pieces_eq_cons : ∀ {text p : List Char} {ps : List (List Char)}, pieces text = p :: ps →
    pieces ps.flatten = ps ∧ (p.getLast? = some '\n' ∨ ps = []) ∧
      ∀ rest, p.getLast? = some '\n' ∨ rest = [] → pieces (p ++ rest) = p :: pieces rest
  | c :: cs, p, ps, h => by
    by_cases hc : c = '\n'
    · subst hc
      rw [pieces_newline] at h
      obtain ⟨rfl, rfl⟩ := List.cons.inj h
      refine ⟨by rw [flatten_pieces], Or.inl rfl, fun rest _ => ?_⟩
      rw [List.singleton_append, pieces_newline]
    · cases hcs : pieces cs with
      | nil =>
        rw [pieces_last hc hcs] at h
        obtain ⟨rfl, rfl⟩ := List.cons.inj h
        refine ⟨rfl, Or.inr rfl, fun rest hrest => ?_⟩
        have hnil : rest = [] := hrest.resolve_left (by simpa using hc)
        rw [hnil, List.append_nil, pieces_last hc rfl, pieces_nil]
      | cons q qs =>
        rw [pieces_cons hc hcs] at h
        obtain ⟨rfl, rfl⟩ := List.cons.inj h
        obtain ⟨hqs, hlast, hrest⟩ := pieces_eq_cons hcs
        have hq : q ≠ [] := ne_nil_of_mem_pieces (hcs ▸ List.mem_cons_self)
        have hgetLast : (c :: q).getLast? = q.getLast? := by
          obtain ⟨d, ds, rfl⟩ := List.exists_cons_of_ne_nil hq
          exact List.getLast?_cons_cons
        rw [hgetLast]
        exact ⟨hqs, hlast, fun rest h => pieces_cons hc (hrest rest h)⟩

/-- The first pieces of a text, joined, are cut **into the same pieces**, -/
theorem pieces_take : ∀ (n : Nat) (text : List Char), pieces ((pieces text).take n).flatten = (pieces text).take n
  | 0, _ => rfl
  | n + 1, text => by
    cases htext : pieces text with
    | nil => rfl
    | cons p ps =>
      obtain ⟨hps, hlast, hjoined⟩ := pieces_eq_cons htext
      have ih := pieces_take n ps.flatten
      rw [hps] at ih
      have hrest : p.getLast? = some '\n' ∨ (ps.take n).flatten = [] := by
        refine hlast.imp_right fun hnil => ?_
        rw [hnil, List.take_nil, List.flatten_nil]
      rw [List.take_succ_cons, List.flatten_cons, hjoined _ hrest, ih]

/-- and so are the other ones. -/
theorem pieces_drop : ∀ (n : Nat) (text : List Char), pieces ((pieces text).drop n).flatten = (pieces text).drop n
  | 0, text => by rw [List.drop_zero, flatten_pieces]
  | n + 1, text => by
    cases htext : pieces text with
    | nil => rfl
    | cons p ps =>
      have ih := pieces_drop n ps.flatten
      rwa [(pieces_eq_cons htext).1] at ih

/-- The pieces of a slice are **the pieces with its numbers**. -/
theorem pieces_sliceLines (text : String) (first stop : Nat) : pieces (sliceLines text first stop).toList =
    ((pieces text.toList).drop (first - 1)).take (stop - first) := by
  rw [sliceLines, String.toList_ofList, ← pieces_drop (first - 1) text.toList, pieces_take]

/-- The slice of **one line** is its piece. -/
theorem getElem?_pieces {text : String} {k : Nat} (hk : 1 ≤ k) (hcount : k ≤ lineCount text) :
    (pieces text.toList)[k - 1]? = some (sliceLines text k (k + 1)).toList := by
  have hlt : k - 1 < (pieces text.toList).length := by
    rw [lineCount] at hcount
    omega
  have hone : k + 1 - k = 1 := by omega
  rw [sliceLines, hone, List.drop_eq_getElem_cons hlt, String.toList_ofList, List.take_succ_cons, List.take_zero,
    List.flatten_singleton, List.getElem?_eq_getElem hlt]

/-! ## 2. Endings of lines -/

/-- A line with its ending, and **without it**: a newline is an ending, also with a carriage return before it, and the
    last line may have none. -/
inductive Ends : List Char → List Char → Prop
  | newline {rest : List Char} (h : rest.getLast? ≠ some '\r') : Ends (rest ++ ['\n']) rest
  | carriageReturn (rest : List Char) : Ends (rest ++ ['\r', '\n']) rest
  | last {rest : List Char} (h : rest.getLast? ≠ some '\n') : Ends rest rest

/-- What is in front of a line **does not touch its ending**, if it is no carriage return in front of a newline. -/
theorem Ends.cons {c : Char} {line rest : List Char} (h : Ends line rest) (hnewline : line = [] → c ≠ '\n')
    (hreturn : line = ['\n'] → c ≠ '\r') : Ends (c :: line) (c :: rest) := by
  cases h with
  | newline hlast =>
    show Ends ((c :: rest) ++ ['\n']) (c :: rest)
    refine .newline ?_
    cases rest with
    | nil => simpa using hreturn rfl
    | cons d ds => rwa [List.getLast?_cons_cons]
  | carriageReturn => exact .carriageReturn (c :: rest)
  | last hlast =>
    refine .last ?_
    cases line with
    | nil => simpa using hnewline rfl
    | cons d ds => rwa [List.getLast?_cons_cons]

theorem ends_chomp (line : List Char) : Ends line (chomp line) := by
  fun_induction chomp line with
  | case1 => exact .last (by simp)
  | case2 =>
    show Ends ([] ++ ['\n']) []
    exact .newline (by simp)
  | case3 => exact .carriageReturn []
  | case4 c cs hnewline hreturn ih =>
    exact ih.cons (fun hnil hc => hnewline hc hnil) fun hcs hc => hreturn hc hcs

/-! ## 3. Tiles -/

/-- The slices of a text **tile it**, and they are numbered as its lines are. -/
structure Tiled (text : String) : Prop where
  /-- Two slices that meet are one slice. -/
  joined : ∀ a b c, 1 ≤ a → a ≤ b → b ≤ c → sliceLines text a b ++ sliceLines text b c = sliceLines text a c
  /-- All lines make the text. -/
  whole : sliceLines text 1 (lineCount text + 1) = text
  /-- The slice of one line is that line with its ending. -/
  line : ∀ k, 1 ≤ k → k ≤ lineCount text → ∃ line, (lines text)[k - 1]? = some line ∧
    Ends (sliceLines text k (k + 1)).toList line.toList

/-- **Slices tile every text.** -/
theorem tiled (text : String) : Tiled text where
  joined := fun a b c ha hb hc => by
    rw [← String.toList_inj, String.toList_append, toList_sliceLines text ha, toList_sliceLines text (by omega),
      toList_sliceLines text ha, chosen_append text.toList hb hc]
  whole := by
    rw [sliceLines, lineCount, Nat.sub_self, List.drop_zero, Nat.add_sub_cancel, List.take_length, flatten_pieces,
      String.ofList_toList]
  line := fun k hk hcount => by
    refine ⟨String.ofList (chomp (sliceLines text k (k + 1)).toList), ?_, ?_⟩
    · rw [lines, List.getElem?_map, getElem?_pieces hk hcount, Option.map_some]
    · rw [String.toList_ofList]
      exact ends_chomp _

end TreeIndex.Text
