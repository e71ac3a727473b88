/-!
# Lines of a text

A text is cut into lines in two ways that agree piece by piece.

* `pieces`: the cut that loses nothing -- every piece but the last ends with its newline
  (`flatten_pieces`), and no piece is empty (`ne_nil_of_mem_pieces`);
* `chomp`: a piece without its line ending, which is a newline or a carriage return before one. A
  carriage return that no newline follows is text;
* `lines`: the chomped pieces;
* `sliceLines`: the pieces of a range of line numbers, joined again.

Lines are numbered from one, and a range of lines excludes its end.
-/

namespace TreeIndex.Text

/-! ## 1. Cutting -/

/-- The text cut **after** every newline. -/
def pieces : List Char → List (List Char)
  | [] => []
  | c :: cs =>
    if c = '\n' then [c] :: pieces cs
    else match pieces cs with
      | [] => [[c]]
      | p :: ps => (c :: p) :: ps

@[simp] theorem pieces_nil : pieces [] = [] := rfl

/-- **Nothing is lost by cutting.** -/
theorem flatten_pieces : ∀ cs : List Char, (pieces cs).flatten = cs
  | [] => rfl
  | c :: cs => by
    have ih := flatten_pieces cs
    unfold pieces
    split
    · simp [ih]
    · split <;> simp_all

theorem ne_nil_of_mem_pieces : ∀ {cs p : List Char}, p ∈ pieces cs → p ≠ []
  | c :: cs, p, h => by
    unfold pieces at h
    split at h
    · rcases List.mem_cons.1 h with rfl | h
      · simp
      · exact ne_nil_of_mem_pieces h
    · split at h
      · simp_all
      · rename_i q qs hq
        rcases List.mem_cons.1 h with rfl | h
        · simp
        · have hp : p ∈ pieces cs := by simp [hq, h]
          exact ne_nil_of_mem_pieces hp

/-! ## 2. Line endings -/

/-- The piece without its line ending. -/
def chomp : List Char → List Char
  | [] => []
  | ['\n'] => []
  | ['\r', '\n'] => []
  | c :: cs => c :: chomp cs

/-- The lines of a text, without their endings. -/
def lines (text : String) : List String :=
  (pieces text.toList).map fun p => String.ofList (chomp p)

/-- How many lines the text has. -/
def lineCount (text : String) : Nat :=
  (pieces text.toList).length

@[simp] theorem length_lines (text : String) : (lines text).length = lineCount text := by
  simp [lines, lineCount]

/-- The text of the lines from `first` up to, but without, `stop`; endings are kept. Line 0 is
    line 1. -/
def sliceLines (text : String) (first stop : Nat) : String :=
  String.ofList (((pieces text.toList).drop (first - 1)).take (stop - first)).flatten

/-- How many newlines stand in the text. -/
def newlines (cs : List Char) : Nat :=
  cs.count '\n'

end TreeIndex.Text
