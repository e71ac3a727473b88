import TreeIndex.Pattern.Search

/-!
# What patterns match

A pattern matches parts of a text, and its program finds its way exactly where the pattern matches.

* `spotAt`: a position of a text with the characters around it;
* `Node.Matches`: the pattern **matches a part of a text**, by its form alone, without a program;
* `Inst.silent`: where a step goes on without passing over a character; `Reaches`: a way leads from an address to
  acceptance, in so many steps;
* `Stands`: steps stand in a program from an address on;
* `Node.Matches.reaches`, `matches_of_reaches`: where the steps of a pattern stand, a way leads through them exactly
  over what the pattern matches. The second one is by induction on the pattern, and for a repetition on the number of
  steps;
* `reaches_program_iff`: **the program of a pattern accepts from a position on exactly if the pattern matches there**.
-/

namespace TreeIndex.Pattern

/-! ## 1. Parts of a text that match -/

/-- A position of a text, **with the characters around it**. -/
def spotAt (cs : List Char) (i : Nat) : Spot :=
  ⟨i, if i = 0 then none else cs[i - 1]?, cs[i]?⟩

/-- The pattern **matches the part** of a text between two positions. -/
inductive Node.Matches (cs : List Char) : Node → Nat → Nat → Prop
  | empty (i : Nat) : Matches cs .empty i i
  | set {s : CharSet} {i : Nat} {c : Char} (hc : cs[i]? = some c) (hs : s.has c = true) : Matches cs (.set s) i (i + 1)
  | place {p : Place} {i : Nat} (h : p.holds (spotAt cs i).before (spotAt cs i).after = true) :
      Matches cs (.place p) i i
  | group {index : Nat} {name : Option String} {body : Node} {i j : Nat} (h : Matches cs body i j) :
      Matches cs (.group index name body) i j
  | cat {a b : Node} {i j k : Nat} (ha : Matches cs a i j) (hb : Matches cs b j k) : Matches cs (.cat a b) i k
  | first {a b : Node} {i j : Nat} (h : Matches cs a i j) : Matches cs (.alt a b) i j
  | second {a b : Node} {i j : Nat} (h : Matches cs b i j) : Matches cs (.alt a b) i j
  | none {greedy : Bool} {body : Node} (i : Nat) : Matches cs (.opt greedy body) i i
  | some {greedy : Bool} {body : Node} {i j : Nat} (h : Matches cs body i j) : Matches cs (.opt greedy body) i j
  | once {greedy : Bool} {body : Node} {i j : Nat} (h : Matches cs body i j) : Matches cs (.plus greedy body) i j
  | more {greedy : Bool} {body : Node} {i j k : Nat} (h : Matches cs body i j)
      (hrest : Matches cs (.plus greedy body) j k) : Matches cs (.plus greedy body) i k

section Matches

variable {cs : List Char} {i j : Nat}

theorem empty_matches_iff : Node.empty.Matches cs i j ↔ j = i := by
  constructor
  · intro h
    cases h
    rfl
  · rintro rfl
    exact .empty j

theorem cat_matches_iff {a b : Node} : (Node.cat a b).Matches cs i j ↔ ∃ k, a.Matches cs i k ∧ b.Matches cs k j := by
  constructor
  · intro h
    cases h with
    | cat ha hb => exact ⟨_, ha, hb⟩
  · rintro ⟨k, ha, hb⟩
    exact .cat ha hb

theorem set_matches_iff {s : CharSet} :
    (Node.set s).Matches cs i j ↔ j = i + 1 ∧ ∃ c, cs[i]? = some c ∧ s.has c = true := by
  constructor
  · intro h
    cases h with
    | set hc hs => exact ⟨rfl, _, hc, hs⟩
  · rintro ⟨rfl, c, hc, hs⟩
    exact .set hc hs

theorem place_matches_iff {p : Place} :
    (Node.place p).Matches cs i j ↔ j = i ∧ p.holds (spotAt cs i).before (spotAt cs i).after = true := by
  constructor
  · intro h
    cases h with
    | place h => exact ⟨rfl, h⟩
  · rintro ⟨rfl, h⟩
    exact .place h

end Matches

/-! ## 2. Ways through a program -/

/-- Where a step goes on **without passing over a character**. -/
def Inst.silent (spot : Spot) (pc : Nat) : Inst → List Nat
  | .place p => if p.holds spot.before spot.after then [pc + 1] else []
  | .mark _ => [pc + 1]
  | .jump target => [target]
  | .split first second => [first, second]
  | .char _ => []
  | .accept => []

/-- In so many steps a way leads from an address, at a position of the text, **to acceptance**. -/
inductive Reaches (prog : Array Inst) (cs : List Char) : (steps pc i : Nat) → Prop
  | accept {pc i : Nat} (h : prog[pc]? = some .accept) : Reaches prog cs 0 pc i
  | silent {k pc i next : Nat} {inst : Inst} (hi : prog[pc]? = some inst)
      (hnext : next ∈ inst.silent (spotAt cs i) pc) (h : Reaches prog cs k next i) : Reaches prog cs (k + 1) pc i
  | char {k pc i : Nat} {s : CharSet} {c : Char} (hi : prog[pc]? = some (.char s)) (hc : cs[i]? = some c)
      (hs : s.has c = true) (h : Reaches prog cs k (pc + 1) (i + 1)) : Reaches prog cs (k + 1) pc i

/-- The steps **stand in the program**, from an address on. -/
def Stands (prog : Array Inst) (base : Nat) (code : List Inst) : Prop :=
  code <+: prog.toList.drop base

section Ways

variable {prog : Array Inst} {cs : List Char} {k pc i : Nat}

@[simp] theorem stands_nil (base : Nat) : Stands prog base [] :=
  List.nil_prefix

@[simp] theorem stands_cons {base : Nat} {x : Inst} {xs : List Inst} :
    Stands prog base (x :: xs) ↔ prog[base]? = some x ∧ Stands prog (base + 1) xs := by
  rw [Stands, Stands, ← Array.getElem?_toList]
  by_cases hlt : base < prog.toList.length
  · rw [List.drop_eq_getElem_cons hlt, List.cons_prefix_cons, List.getElem?_eq_getElem hlt, Option.some_inj, eq_comm]
  · rw [List.drop_eq_nil_of_le (Nat.le_of_not_lt hlt), List.getElem?_eq_none (Nat.le_of_not_lt hlt)]
    simp

@[simp] theorem stands_append {base : Nat} {xs ys : List Inst} :
    Stands prog base (xs ++ ys) ↔ Stands prog base xs ∧ Stands prog (base + xs.length) ys := by
  induction xs generalizing base with
  | nil => simp
  | cons x xs ih => rw [List.cons_append, stands_cons, ih, stands_cons, List.length_cons, and_assoc, Nat.add_right_comm,
      Nat.add_assoc]

/-- **How a way goes on** from a step that does not accept. -/
theorem Reaches.next {inst : Inst} (hi : prog[pc]? = some inst) (hne : inst ≠ .accept)
    (h : Reaches prog cs k pc i) :
    ∃ k', k = k' + 1 ∧ ((∃ next ∈ inst.silent (spotAt cs i) pc, Reaches prog cs k' next i) ∨
      ∃ s c, inst = .char s ∧ cs[i]? = some c ∧ s.has c = true ∧ Reaches prog cs k' (pc + 1) (i + 1)) := by
  cases h with
  | accept hacc =>
    rw [hi] at hacc
    exact absurd (Option.some.inj hacc) hne
  | silent hi' hnext h =>
    rw [hi] at hi'
    cases hi'
    exact ⟨_, rfl, Or.inl ⟨_, hnext, h⟩⟩
  | char hi' hc hs h =>
    rw [hi] at hi'
    cases hi'
    exact ⟨_, rfl, Or.inr ⟨_, _, rfl, hc, hs, h⟩⟩

/-- A mark goes on at the next address, -/
theorem Reaches.mark {slot : Nat} (hi : prog[pc]? = some (.mark slot)) (h : Reaches prog cs k pc i) :
    ∃ k', k = k' + 1 ∧ Reaches prog cs k' (pc + 1) i := by
  obtain ⟨k', rfl, ⟨next, hnext, h⟩ | ⟨_, _, hs, -⟩⟩ := h.next hi (by simp)
  · obtain rfl := List.mem_singleton.1 hnext
    exact ⟨k', rfl, h⟩
  · cases hs

/-- a jump at its target, -/
theorem Reaches.jump {target : Nat} (hi : prog[pc]? = some (.jump target)) (h : Reaches prog cs k pc i) :
    ∃ k', k = k' + 1 ∧ Reaches prog cs k' target i := by
  obtain ⟨k', rfl, ⟨next, hnext, h⟩ | ⟨_, _, hs, -⟩⟩ := h.next hi (by simp)
  · obtain rfl := List.mem_singleton.1 hnext
    exact ⟨k', rfl, h⟩
  · cases hs

theorem mem_silent_splitOf {spot : Spot} {greedy : Bool} {body after next : Nat} :
    next ∈ (splitOf greedy body after).silent spot pc ↔ next = body ∨ next = after := by
  cases greedy
  · simp [splitOf, Inst.silent, or_comm]
  · simp [splitOf, Inst.silent]

theorem splitOf_ne_accept {greedy : Bool} {body after : Nat} : splitOf greedy body after ≠ .accept := by
  cases greedy <;> simp [splitOf]

/-- and a split at **one of its two addresses**. -/
theorem Reaches.split {greedy : Bool} {body after : Nat} (hi : prog[pc]? = some (splitOf greedy body after))
    (h : Reaches prog cs k pc i) :
    ∃ k', k = k' + 1 ∧ (Reaches prog cs k' body i ∨ Reaches prog cs k' after i) := by
  obtain ⟨k', rfl, ⟨next, hnext, h⟩ | ⟨s, c, hs, -⟩⟩ := h.next hi splitOf_ne_accept
  · refine ⟨k', rfl, ?_⟩
    rcases mem_silent_splitOf.1 hnext with rfl | rfl
    · exact Or.inl h
    · exact Or.inr h
  · cases greedy <;> cases hs

/-! ## 3. Ways through the steps of a pattern -/

/-- Over what a pattern matches **a way leads through its steps**. -/
theorem Node.Matches.reaches {n : Node} {j : Nat} (h : n.Matches cs i j) : ∀ {base k : Nat},
    Stands prog base (n.code base) → Reaches prog cs k (base + n.size) j → ∃ k', Reaches prog cs k' base i := by
  induction h with
  | empty i => exact fun _ h => ⟨_, h⟩
  | set hc hs =>
    intro base k hcode h
    exact ⟨_, .char (stands_cons.1 hcode).1 hc hs h⟩
  | place hp =>
    intro base k hcode h
    exact ⟨_, .silent (stands_cons.1 hcode).1 (by rw [Inst.silent, if_pos hp]; exact List.mem_singleton.2 rfl) h⟩
  | group _ ih =>
    intro base k hcode h
    simp only [Node.code, stands_cons, stands_append, Node.length_code] at hcode
    obtain ⟨hopen, hbody, hclose, -⟩ := hcode
    obtain ⟨k', h⟩ := ih hbody (.silent hclose (List.mem_singleton.2 (by rw [Node.size]; omega)) h)
    exact ⟨_, .silent hopen (List.mem_singleton.2 rfl) h⟩
  | cat _ _ iha ihb =>
    intro base k hcode h
    simp only [Node.code, stands_append, Node.length_code] at hcode
    rw [Node.size, ← Nat.add_assoc] at h
    obtain ⟨k', h⟩ := ihb hcode.2 h
    exact iha hcode.1 h
  | @first a b _ _ _ ih =>
    intro base k hcode h
    simp only [Node.code, stands_cons, stands_append, Node.length_code] at hcode
    obtain ⟨hsplit, ha, hjump, -⟩ := hcode
    have htarget : base + a.size + b.size + 2 = base + (Node.alt a b).size := by rw [Node.size]; omega
    obtain ⟨k', h⟩ := ih ha (.silent hjump (List.mem_singleton.2 htarget.symm) h)
    exact ⟨_, .silent hsplit (by simp [Inst.silent]) h⟩
  | @second a b _ _ _ ih =>
    intro base k hcode h
    simp only [Node.code, stands_cons, stands_append, Node.length_code] at hcode
    obtain ⟨hsplit, -, -, hb⟩ := hcode
    have hbase : base + 1 + a.size + 1 = base + a.size + 2 := by omega
    rw [hbase] at hb
    rw [Node.size, show base + (a.size + b.size + 2) = base + a.size + 2 + b.size by omega] at h
    obtain ⟨k', h⟩ := ih hb h
    exact ⟨_, .silent hsplit (by simp [Inst.silent]) h⟩
  | none i =>
    intro base k hcode h
    simp only [Node.code, stands_cons] at hcode
    exact ⟨_, .silent hcode.1 (mem_silent_splitOf.2 (Or.inr rfl)) h⟩
  | some _ ih =>
    intro base k hcode h
    simp only [Node.code, stands_cons] at hcode
    rw [Node.size, Nat.add_comm _ 1, ← Nat.add_assoc] at h
    obtain ⟨k', h⟩ := ih hcode.2 h
    exact ⟨_, .silent hcode.1 (mem_silent_splitOf.2 (Or.inl rfl)) h⟩
  | once _ ih =>
    intro base k hcode h
    simp only [Node.code, stands_cons, stands_append, Node.length_code] at hcode
    exact ih hcode.1 (.silent hcode.2.1 (mem_silent_splitOf.2 (Or.inr rfl)) h)
  | more _ _ ih ihrest =>
    intro base k hcode h
    obtain ⟨k', h⟩ := ihrest hcode h
    simp only [Node.code, stands_cons, stands_append, Node.length_code] at hcode
    exact ih hcode.1 (.silent hcode.2.1 (mem_silent_splitOf.2 (Or.inl rfl)) h)

/-- **A way through the steps of a pattern** leads over what the pattern matches, and goes on behind them. -/
theorem matches_of_reaches (n : Node) : ∀ {base k i : Nat}, Stands prog base (n.code base) →
    Reaches prog cs k base i → ∃ j k', k' ≤ k ∧ n.Matches cs i j ∧ Reaches prog cs k' (base + n.size) j := by
  induction n with
  | empty => exact fun _ h => ⟨_, _, Nat.le_refl _, .empty _, h⟩
  | set s =>
    intro base k i hcode h
    obtain ⟨k', rfl, ⟨_, hnext, -⟩ | ⟨_, c, hs, hc, hhas, h⟩⟩ := h.next (stands_cons.1 hcode).1 (by simp)
    · cases hnext
    · cases hs
      exact ⟨_, _, Nat.le_succ _, .set hc hhas, h⟩
  | place p =>
    intro base k i hcode h
    obtain ⟨k', rfl, ⟨next, hnext, h⟩ | ⟨_, _, hs, -⟩⟩ := h.next (stands_cons.1 hcode).1 (by simp)
    · rw [Inst.silent] at hnext
      split at hnext
      · rename_i hp
        obtain rfl := List.mem_singleton.1 hnext
        exact ⟨_, _, Nat.le_succ _, .place hp, h⟩
      · cases hnext
    · cases hs
  | group index name body ih =>
    intro base k i hcode h
    simp only [Node.code, stands_cons, stands_append, Node.length_code] at hcode
    obtain ⟨hopen, hbody, hclose, -⟩ := hcode
    obtain ⟨k₁, rfl, hin⟩ := h.mark hopen
    obtain ⟨j, k₂, hk₂, hm, hout⟩ := ih hbody hin
    obtain ⟨k₃, rfl, hbehind⟩ := hout.mark hclose
    rw [show base + 1 + body.size + 1 = base + (body.size + 2) by omega] at hbehind
    exact ⟨j, k₃, by omega, .group hm, hbehind⟩
  | cat a b iha ihb =>
    intro base k i hcode h
    simp only [Node.code, stands_append, Node.length_code] at hcode
    obtain ⟨j, k₁, hk₁, ha, hmid⟩ := iha hcode.1 h
    obtain ⟨l, k₂, hk₂, hb, hbehind⟩ := ihb hcode.2 hmid
    rw [Nat.add_assoc] at hbehind
    exact ⟨l, k₂, Nat.le_trans hk₂ hk₁, .cat ha hb, hbehind⟩
  | alt a b iha ihb =>
    intro base k i hcode h
    simp only [Node.code, stands_cons, stands_append, Node.length_code] at hcode
    obtain ⟨hsplit, ha, hjump, hb⟩ := hcode
    have hfirst : prog[base]? = some (splitOf true (base + 1) (base + a.size + 2)) := hsplit
    obtain ⟨k₁, rfl, hin | hin⟩ := h.split hfirst
    · obtain ⟨j, k₂, hk₂, hm, hout⟩ := iha ha hin
      obtain ⟨k₃, rfl, hbehind⟩ := hout.jump hjump
      rw [show base + a.size + b.size + 2 = base + (a.size + b.size + 2) by omega] at hbehind
      exact ⟨j, k₃, by omega, .first hm, hbehind⟩
    · rw [show base + 1 + a.size + 1 = base + a.size + 2 by omega] at hb
      obtain ⟨j, k₂, hk₂, hm, hout⟩ := ihb hb hin
      rw [show base + a.size + 2 + b.size = base + (a.size + b.size + 2) by omega] at hout
      exact ⟨j, k₂, by omega, .second hm, hout⟩
  | opt greedy body ih =>
    intro base k i hcode h
    simp only [Node.code, stands_cons] at hcode
    obtain ⟨k₁, rfl, hin | hbehind⟩ := h.split hcode.1
    · obtain ⟨j, k₂, hk₂, hm, hbehind⟩ := ih hcode.2 hin
      rw [Nat.add_assoc, Nat.add_comm 1] at hbehind
      exact ⟨j, k₂, by omega, .some hm, hbehind⟩
    · exact ⟨i, k₁, by omega, .none i, hbehind⟩
  | plus greedy body ih =>
    intro base k
    induction k using Nat.strongRecOn with
    | ind k ihk =>
      intro i hcode h
      have hcode' := hcode
      simp only [Node.code, stands_cons, stands_append, Node.length_code] at hcode'
      obtain ⟨j, k₁, hk₁, hm, hout⟩ := ih hcode'.1 h
      obtain ⟨k₂, rfl, hagain | hbehind⟩ := hout.split hcode'.2.1
      · obtain ⟨l, k₃, hk₃, hrest, hbehind⟩ := ihk k₂ (by omega) hcode hagain
        exact ⟨l, k₃, by omega, .more hm hrest, hbehind⟩
      · exact ⟨j, k₂, by omega, .once hm, hbehind⟩

/-- **The program of a pattern** accepts from a position on exactly if the pattern matches there. -/
theorem reaches_program_iff {n : Node} :
    (∃ k, Reaches n.program.toArray cs k 0 i) ↔ ∃ j, n.Matches cs i j := by
  have hcode : Stands n.program.toArray 0 n.program := List.prefix_refl _
  rw [Node.program, stands_cons, stands_append, stands_cons, n.length_code] at hcode
  obtain ⟨hstart, hbody, hstop, haccept⟩ := hcode
  constructor
  · rintro ⟨k, h⟩
    obtain ⟨k', -, h⟩ := h.mark hstart
    obtain ⟨j, _, -, hm, -⟩ := matches_of_reaches n hbody h
    exact ⟨j, hm⟩
  · rintro ⟨j, hm⟩
    have hlast : Reaches n.program.toArray cs 1 (1 + n.size) j :=
      .silent hstop (List.mem_singleton.2 rfl) (.accept (stands_cons.1 haccept).1)
    obtain ⟨k, h⟩ := hm.reaches hbody hlast
    exact ⟨k + 1, .silent hstart (List.mem_singleton.2 rfl) h⟩

end Ways

end TreeIndex.Pattern
