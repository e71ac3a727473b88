import TreeIndex.Pattern.Node

/-!
# Programs

A pattern is matched by following all of its ways through the text at once. The ways are those of a program.

* `Inst`: one step; `Node.code`: the steps of a pattern, laid out from an address on;
* `program`: the whole pattern, which also marks where the match begins and ends.

The steps of a pattern are entered at their first address and left behind their last one.
-/

namespace TreeIndex.Pattern

/-- One step of a program; addresses count from zero. -/
inductive Inst where
  /-- Passes over a character of the set. -/
  | char (s : CharSet)
  /-- Goes on only at such a place. -/
  | place (p : Place)
  /-- Marks the position. -/
  | mark (slot : Nat)
  | jump (target : Nat)
  /-- Goes on at both addresses; the first is preferred. -/
  | split (first second : Nat)
  | accept
deriving Inhabited

/-- The slot in which a group's beginning is marked; its end goes into the next one. -/
def slotOf (group : Nat) : Nat :=
  2 * group

/-- Goes on at `body` and at `after`, in the order that greed demands. -/
def splitOf (greedy : Bool) (body after : Nat) : Inst :=
  if greedy then .split body after else .split after body

/-- **The steps of a pattern**, from the address `base` on. -/
def Node.code (base : Nat) : Node → List Inst
  | empty => []
  | set s => [.char s]
  | place p => [.place p]
  | group i _ body => .mark (slotOf i) :: (body.code (base + 1) ++ [.mark (slotOf i + 1)])
  | cat a b => a.code base ++ b.code (base + a.size)
  | alt a b =>
    .split (base + 1) (base + a.size + 2) ::
      (a.code (base + 1) ++ .jump (base + a.size + b.size + 2) :: b.code (base + a.size + 2))
  | opt greedy body =>
    splitOf greedy (base + 1) (base + body.size + 1) :: body.code (base + 1)
  | plus greedy body => body.code base ++ [splitOf greedy base (base + body.size + 1)]

/-- The layout takes as many addresses as the pattern has steps. -/
theorem Node.length_code (n : Node) : ∀ base, (n.code base).length = n.size := by
  induction n with
  | empty => intro base; rfl
  | set s => intro base; rfl
  | place p => intro base; rfl
  | group i name body ih => intro base; simp [code, size, ih]
  | cat a b iha ihb => intro base; simp [code, size, iha, ihb]
  | alt a b iha ihb => intro base; simp [code, size, iha, ihb]; omega
  | opt greedy body ih => intro base; simp [code, size, ih]
  | plus greedy body ih => intro base; simp [code, size, ih]

/-- **The program of a pattern**: it marks its beginning and its end as those of group zero. -/
def Node.program (n : Node) : List Inst :=
  .mark 0 :: (n.code 1 ++ [.mark 1, .accept])

end TreeIndex.Pattern
