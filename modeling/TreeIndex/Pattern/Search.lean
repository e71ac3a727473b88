import TreeIndex.Pattern.Program

/-!
# Searching

All ways of a program through a text are followed side by side. Where two of them meet, the one that is
preferred goes on and the other ends.

* `Marks`: the positions that a way has marked; `Thread`: a way that waits at a step;
* `explore`: the ways that go on from a step without passing over a character;
* `step`, `search`: one character after the other. A match ends every way that is less preferred, and a way
  that begins further left is preferred to one that begins later;
* `find?`: the match that is found first; `findAll`: all matches from left to right, none overlapping the one
  before it. After an empty match the search goes on one character later, and an empty match right behind
  another one is passed over.

Positions count characters.
-/

namespace TreeIndex.Pattern

/-! ## 1. Ways -/

/-- Marked positions, the latest first. -/
abbrev Marks := List (Nat × Nat)

/-- A way that waits at a step. -/
structure Thread where
  pc : Nat
  marks : Marks

/-- A position with the characters on its two sides. -/
structure Spot where
  index : Nat
  before : Option Char
  after : Option Char

/-- The ways found so far, the most preferred last, and the steps that were seen, as bits of a number. -/
structure Frontier where
  seen : Nat := 0
  threads : List Thread := []

/-- **The ways that go on from a step** without passing over a character. A step that was seen belongs to a
    way that is preferred. `fuel` bounds how many steps one way takes. -/
def explore (prog : Array Inst) (spot : Spot) : Nat → Nat → Marks → Frontier → Frontier
  | 0, _, _, f => f
  | fuel + 1, pc, marks, f =>
    if f.seen.testBit pc then f
    else
      let f := { f with seen := f.seen ||| (1 <<< pc) }
      match prog[pc]? with
      | none => f
      | some (.char _) => { f with threads := ⟨pc, marks⟩ :: f.threads }
      | some .accept => { f with threads := ⟨pc, marks⟩ :: f.threads }
      | some (.place p) =>
        if p.holds spot.before spot.after then explore prog spot fuel (pc + 1) marks f else f
      | some (.mark slot) => explore prog spot fuel (pc + 1) ((slot, spot.index) :: marks) f
      | some (.jump target) => explore prog spot fuel target marks f
      | some (.split first second) =>
        explore prog spot fuel second marks (explore prog spot fuel first marks f)

/-! ## 2. One search -/

/-- The ways, the most preferred first, up to the first one that accepts; with the marks of that one. -/
def untilAccept (prog : Array Inst) : List Thread → List Thread × Option Marks
  | [] => ([], none)
  | t :: ts =>
    match prog[t.pc]? with
    | some .accept => ([], some t.marks)
    | _ =>
      let (kept, found) := untilAccept prog ts
      (t :: kept, found)

/-- The ways that pass over a character, at the position behind it. -/
def step (prog : Array Inst) (c : Char) (spot : Spot) (ts : List Thread) : Frontier :=
  ts.foldl (fun (f : Frontier) (t : Thread) =>
    match prog[t.pc]? with
    | some (.char s) =>
      if s.has c then explore prog spot (prog.size + 1) (t.pc + 1) t.marks f else f
    | _ => f) ({} : Frontier)

/-- The search from a position on. A new way begins at every position until some way has accepted. -/
def searchFrom (prog : Array Inst) (index : Nat) (before : Option Char) (best : Option Marks) (f : Frontier) :
    List Char → Option Marks
  | [] =>
    let spot := ⟨index, before, none⟩
    let f := if best.isNone then explore prog spot (prog.size + 1) 0 [] f else f
    let (_, found) := untilAccept prog f.threads.reverse
    found.or best
  | c :: cs =>
    let spot := ⟨index, before, some c⟩
    let f := if best.isNone then explore prog spot (prog.size + 1) 0 [] f else f
    let (kept, found) := untilAccept prog f.threads.reverse
    let best := found.or best
    if kept.isEmpty && best.isSome then best
    else
      let after := ⟨index + 1, some c, cs.head?⟩
      searchFrom prog (index + 1) (some c) best (step prog c after kept) cs

/-! ## 3. Matches -/

/-- A match: where it begins and ends, and what its way has marked. -/
structure Match where
  start : Nat
  stop : Nat
  marks : Marks

namespace Match

/-- The match whose marks are given. -/
def ofMarks? (marks : Marks) : Option Match := do
  let start ← marks.lookup 0
  let stop ← marks.lookup 1
  some ⟨start, stop, marks⟩

/-- Where a group begins and ends, if it took part. -/
def range? (m : Match) (group : Nat) : Option (Nat × Nat) := do
  let start ← m.marks.lookup (slotOf group)
  let stop ← m.marks.lookup (slotOf group + 1)
  some (start, stop)

end Match

/-- The part of a text between two positions. -/
def part (cs : List Char) (start stop : Nat) : List Char :=
  (cs.drop start).take (stop - start)

/-- The **leftmost** match that begins at a position or behind it, the preferred one of those. -/
def findFrom? (prog : Array Inst) (cs : List Char) (index : Nat) : Option Match :=
  if cs.length < index then none
  else
    let before := if index = 0 then none else cs[index - 1]?
    (searchFrom prog index before none {} (cs.drop index)).bind Match.ofMarks?

/-- The next match after one that ended at `last`: an empty match there is passed over. -/
def findNext? (prog : Array Inst) (cs : List Char) (index : Nat) (last : Option Nat) : Option Match :=
  match findFrom? prog cs index with
  | none => none
  | some m =>
    if m.start = m.stop ∧ last = some m.stop then findFrom? prog cs (index + 1) else some m

/-- Matches from a position on, at most `limit` of them. -/
def findAllFrom (prog : Array Inst) (cs : List Char) : Nat → Nat → Option Nat → List Match
  | 0, _, _ => []
  | limit + 1, index, last =>
    match findNext? prog cs index last with
    | none => []
    | some m => m :: findAllFrom prog cs limit m.stop (some m.stop)

/-- **All matches** of a program, from left to right. -/
def findAll (prog : Array Inst) (cs : List Char) : List Match :=
  findAllFrom prog cs (cs.length + 2) 0 none

end TreeIndex.Pattern
