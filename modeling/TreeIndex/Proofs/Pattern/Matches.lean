import TreeIndex.Pattern.Compiled
import TreeIndex.Proofs.Dictionary
import TreeIndex.Proofs.Outcome
import TreeIndex.Proofs.Pattern.Ways

/-!
# Matches from left to right

A search follows many ways at once; what the matches it finds have in common is a property of every single way.

* `Inst.targets`, `EndsMarked`: where a step leads; a program accepts only **right behind the step that marks
  the end** of the match. The program of every pattern is of this kind (`endsMarked_program`);
* `OnWay`: the invariant of a way -- its marks lie between the position where the search began and the present
  one, and a way that accepts has marked its end just now. Every step keeps it (`kept_onWay`);
* `Capture.LiesIn`, `Successive`: a match between two positions, and matches that follow each other. **All
  matches of a pattern in a text are such** (`successive_captures`).
-/

namespace TreeIndex.Pattern

/-! ## 1. Where a program leads -/

/-- The addresses at which a step goes on, apart from the next one. -/
def Inst.targets : Inst → List Nat
  | .jump target => [target]
  | .split first second => [first, second]
  | _ => []

/-- The program accepts only **right behind the step that marks the end** of a match. -/
structure EndsMarked (prog : Array Inst) : Prop where
  start : prog[0]? ≠ some .accept
  step : ∀ {pc next : Nat} {i : Inst}, prog[pc]? = some i → next = pc + 1 ∨ next ∈ i.targets →
    prog[next]? = some .accept → i = .mark 1

theorem accept_notMem_code (n : Node) : ∀ base, Inst.accept ∉ n.code base := by
  induction n with
  | empty => intro base h; cases h
  | set s => intro base h; simp [Node.code] at h
  | place p => intro base h; simp [Node.code] at h
  | group i name body ih => intro base; simp [Node.code, ih]
  | cat a b iha ihb => intro base; simp [Node.code, iha, ihb]
  | alt a b iha ihb => intro base; simp [Node.code, iha, ihb]
  | opt greedy body ih => intro base; cases greedy <;> simp [Node.code, splitOf, ih]
  | plus greedy body ih => intro base; cases greedy <;> simp [Node.code, splitOf, ih]

/-- **The steps of a pattern lead at most right behind the last one.** -/
theorem targets_code_le (n : Node) : ∀ {base : Nat} {i : Inst} {t : Nat},
    i ∈ n.code base → t ∈ i.targets → t ≤ base + n.size := by
  induction n with
  | empty => intro base i t h; cases h
  | set s =>
    intro base i t h ht
    simp only [Node.code, List.mem_singleton] at h
    subst h
    cases ht
  | place p =>
    intro base i t h ht
    simp only [Node.code, List.mem_singleton] at h
    subst h
    cases ht
  | group k name body ih =>
    intro base i t h ht
    simp only [Node.code, List.mem_cons, List.mem_append, List.not_mem_nil, or_false] at h
    simp only [Node.size]
    rcases h with rfl | h | rfl
    · cases ht
    · have := ih h ht
      omega
    · cases ht
  | cat a b iha ihb =>
    intro base i t h ht
    simp only [Node.code, List.mem_append] at h
    simp only [Node.size]
    rcases h with h | h
    · have := iha h ht
      omega
    · have := ihb h ht
      omega
  | alt a b iha ihb =>
    intro base i t h ht
    simp only [Node.code, List.mem_cons, List.mem_append] at h
    simp only [Node.size]
    rcases h with rfl | h | rfl | h
    · simp only [Inst.targets, List.mem_cons, List.not_mem_nil, or_false] at ht
      omega
    · have := iha h ht
      omega
    · simp only [Inst.targets, List.mem_singleton] at ht
      omega
    · have := ihb h ht
      omega
  | opt greedy body ih =>
    intro base i t h ht
    simp only [Node.code, List.mem_cons] at h
    simp only [Node.size]
    rcases h with rfl | h
    · cases greedy <;> simp [splitOf, Inst.targets] at ht <;> omega
    · have := ih h ht
      omega
  | plus greedy body ih =>
    intro base i t h ht
    simp only [Node.code, List.mem_append, List.mem_singleton] at h
    simp only [Node.size]
    rcases h with h | rfl
    · have := ih h ht
      omega
    · cases greedy <;> simp [splitOf, Inst.targets] at ht <;> omega

/-- A program accepts at its last address alone. -/
theorem program_accept {n : Node} {pc : Nat} (h : n.program.toArray[pc]? = some .accept) :
    pc = n.size + 2 := by
  rw [List.getElem?_toArray, Node.program] at h
  cases pc with
  | zero => cases h
  | succ k =>
    rw [List.getElem?_cons_succ] at h
    by_cases hk : k < (n.code 1).length
    · rw [List.getElem?_append_left hk] at h
      exact absurd (List.mem_of_getElem? h) (accept_notMem_code n 1)
    · rw [List.getElem?_append_right (by omega), n.length_code] at h
      rw [n.length_code] at hk
      have hlt := (List.getElem?_eq_some_iff.1 h).1
      simp only [List.length_cons, List.length_nil] at hlt
      obtain hd | hd : k - n.size = 0 ∨ k - n.size = 1 := by omega
      · rw [hd] at h
        cases h
      · omega

/-- **The program of every pattern** accepts only right behind the mark of its end. -/
theorem endsMarked_program (n : Node) : EndsMarked n.program.toArray where
  start h := by
    have := program_accept h
    omega
  step {pc next i} hi hnext hacc := by
    have hend := program_accept hacc
    subst hend
    rw [List.getElem?_toArray, Node.program] at hi
    cases pc with
    | zero =>
      cases hi
      rcases hnext with h | h
      · omega
      · cases h
    | succ k =>
      rw [List.getElem?_cons_succ] at hi
      by_cases hk : k < (n.code 1).length
      · rw [List.getElem?_append_left hk] at hi
        rw [n.length_code] at hk
        rcases hnext with h | h
        · omega
        · have := targets_code_le n (List.mem_of_getElem? hi) h
          omega
      · rw [List.getElem?_append_right (by omega), n.length_code] at hi
        rw [n.length_code] at hk
        have hlt := (List.getElem?_eq_some_iff.1 hi).1
        simp only [List.length_cons, List.length_nil] at hlt
        obtain hd | hd : k - n.size = 0 ∨ k - n.size = 1 := by omega
        · rw [hd] at hi
          cases hi
          rfl
        · rw [hd] at hi
          cases hi
          rcases hnext with h | h
          · omega
          · cases h

/-! ## 2. Ways -/

/-- What is known of a way at a step: its marks lie between `first` and the present position, and where it
    accepts it has marked its end **just now**. -/
structure OnWay (prog : Array Inst) (first now pc : Nat) (marks : Marks) : Prop where
  within : ∀ e ∈ marks, first ≤ e.2 ∧ e.2 ≤ now
  ended : prog[pc]? = some .accept → marks.lookup 1 = some now

section Ways

variable {prog : Array Inst} {first : Nat}

theorem onWay_start (hp : EndsMarked prog) (now : Nat) : OnWay prog first now 0 [] where
  within _ h := absurd h List.not_mem_nil
  ended h := absurd h hp.start

/-- A step that marks no end leads to where nothing is accepted. -/
theorem OnWay.go (hp : EndsMarked prog) {now later pc next : Nat} {marks : Marks} {i : Inst}
    (h : OnWay prog first now pc marks) (hi : prog[pc]? = some i) (hne : i ≠ .mark 1)
    (hnext : next = pc + 1 ∨ next ∈ i.targets) (hle : now ≤ later) :
    OnWay prog first later next marks where
  within e he := ⟨(h.within e he).1, Nat.le_trans (h.within e he).2 hle⟩
  ended hacc := absurd (hp.step hi hnext hacc) hne

theorem OnWay.mark (hp : EndsMarked prog) {now pc slot : Nat} {marks : Marks} (hfirst : first ≤ now)
    (h : OnWay prog first now pc marks) (hi : prog[pc]? = some (.mark slot)) :
    OnWay prog first now (pc + 1) ((slot, now) :: marks) where
  within e he := by
    rcases List.mem_cons.1 he with rfl | he
    · exact ⟨hfirst, Nat.le_refl _⟩
    · exact h.within e he
  ended hacc := by
    have hslot := hp.step hi (Or.inl rfl) hacc
    cases hslot
    exact List.lookup_cons_self

/-- What goes on without passing over a character goes on at the next address, **or where the step leads**. -/
theorem Inst.eq_or_mem_targets {i : Inst} {spot : Spot} {pc next : Nat} (h : next ∈ i.silent spot pc) :
    next = pc + 1 ∨ next ∈ i.targets := by
  cases i with
  | char s => cases h
  | accept => cases h
  | jump target => exact Or.inr h
  | split a b => exact Or.inr h
  | mark slot => exact Or.inl (List.mem_singleton.1 h)
  | place p =>
    rw [Inst.silent] at h
    split at h
    · exact Or.inl (List.mem_singleton.1 h)
    · cases h

/-- **Every step keeps** what is known of a way. -/
theorem kept_onWay (hp : EndsMarked prog) (cs : List Char) :
    Kept prog cs first fun now pc marks => first ≤ now ∧ OnWay prog first now pc marks where
  start hfirst _ := ⟨hfirst, onWay_start hp _⟩
  silent h hi hne hnext := ⟨h.1, h.2.go hp hi (hne 1) (Inst.eq_or_mem_targets hnext) (Nat.le_refl _)⟩
  mark h hi := ⟨h.1, h.2.mark hp h.1 hi⟩
  char h hi _ _ := ⟨Nat.le_succ_of_le h.1, h.2.go hp hi nofun (Or.inl rfl) (Nat.le_succ _)⟩

/-! ## 3. Matches -/

/-- The match lies between two positions. -/
structure Match.LiesIn (first last : Nat) (m : Match) : Prop where
  first_le : first ≤ m.start
  start_le : m.start ≤ m.stop
  stop_le : m.stop ≤ last

theorem liesIn_findFrom? (hp : EndsMarked prog) {cs : List Char} {m : Match}
    (h : findFrom? prog cs first = some m) : m.LiesIn first cs.length := by
  obtain ⟨stop, pc, hle, hacc, -, hway⟩ := (kept_onWay hp cs).findFrom? h
  obtain ⟨-, -, hstart, hstop⟩ := findFrom?_eq_some.1 h
  obtain rfl := Option.some.inj (hstop.symm.trans (hway.ended hacc))
  obtain ⟨_, _, hmarks, -⟩ := List.lookup_eq_some_iff.1 hstart
  have he := hway.within (0, m.start) (hmarks ▸ List.mem_append_right _ List.mem_cons_self)
  exact ⟨he.1, he.2, hle⟩

theorem liesIn_findNext? (hp : EndsMarked prog) {cs : List Char} {index : Nat} {last : Option Nat}
    {m : Match} (h : findNext? prog cs index last = some m) : m.LiesIn index cs.length := by
  unfold findNext? at h
  split at h
  · cases h
  · rename_i n hn
    split at h
    · have hm := liesIn_findFrom? hp h
      exact ⟨Nat.le_of_succ_le hm.first_le, hm.start_le, hm.stop_le⟩
    · cases h
      exact liesIn_findFrom? hp hn

end Ways

/-! ## 4. Captures -/

/-- What a match captured lies in a text, **from a position on**. -/
structure Capture.LiesIn (text : List Char) (first : Nat) (c : Capture) : Prop where
  first_le : first ≤ c.start
  start_le : c.start ≤ c.stop
  stop_le : c.stop ≤ text.length
  text_eq : c.text = part text c.start c.stop

/-- Matches that follow each other from a position on, **none overlapping the one before it**. -/
def Successive (text : List Char) : Nat → List Capture → Prop
  | _, [] => True
  | first, c :: cs => c.LiesIn text first ∧ Successive text c.stop cs

/-- Each of the matches lies in the text. -/
theorem Successive.liesIn {text : List Char} {c : Capture} : ∀ {cs : List Capture} {first : Nat},
    Successive text first cs → c ∈ cs → ∃ first, c.LiesIn text first
  | d :: cs, first, ⟨hd, hcs⟩, h => by
    rcases List.mem_cons.1 h with rfl | h
    · exact ⟨first, hd⟩
    · exact hcs.liesIn h

theorem successive_findAllFrom {p : Pattern} (hp : EndsMarked p.program) {cs : List Char} :
    ∀ (limit index : Nat) (last : Option Nat),
      Successive cs index ((findAllFrom p.program cs limit index last).map (p.captureOf cs))
  | 0, _, _ => trivial
  | limit + 1, index, last => by
    unfold findAllFrom
    split
    · exact trivial
    · rename_i m hm
      have h := liesIn_findNext? hp hm
      exact ⟨⟨h.first_le, h.start_le, h.stop_le, rfl⟩, successive_findAllFrom hp limit m.stop _⟩

theorem Term.ofText?_eq_ok {source : String} {t : Term} : Term.ofText? source = .ok t ↔
    (∃ c, pattern? (source.toList.length + 1) [] [] { rest := source.toList } = .ok (t, c) ∧ c.rest = []) ∧
      t.depth ≤ deepest := by
  unfold Term.ofText?
  dsimp only
  rw [Outcome.bind_eq_ok]
  constructor
  · rintro ⟨⟨s, c⟩, hread, h⟩
    dsimp only at h
    split at h
    · cases h
    · rename_i hrest
      split at h
      · cases h
      · rename_i hdepth
        cases h
        exact ⟨⟨c, hread, by simpa using hrest⟩, Nat.le_of_not_lt hdepth⟩
  · rintro ⟨⟨c, hread, hrest⟩, hdepth⟩
    refine ⟨⟨t, c⟩, hread, ?_⟩
    dsimp only
    rw [if_neg (by simp [hrest]), if_neg (Nat.not_lt_of_le hdepth)]

theorem Node.ofText?_eq_ok {source : String} {n : Node} : Node.ofText? source = .ok n ↔
    ∃ t f, Term.ofText? source = .ok t ∧ t.node? {} = .ok (n, f) ∧ n.size ≤ largest := by
  unfold Node.ofText?
  rw [Outcome.bind_eq_ok]
  constructor
  · rintro ⟨t, ht, h⟩
    obtain ⟨⟨m, f⟩, hm, h⟩ := Outcome.bind_eq_ok.1 h
    dsimp only at h
    split at h
    · cases h
    · rename_i hsize
      cases h
      exact ⟨t, f, ht, hm, Nat.le_of_not_lt hsize⟩
  · rintro ⟨t, f, ht, hn, hsize⟩
    refine ⟨t, ht, Outcome.bind_eq_ok.2 ⟨⟨n, f⟩, hn, ?_⟩⟩
    dsimp only
    rw [if_neg (Nat.not_lt_of_le hsize)]

/-- A pattern that was read has the program **of its node**. -/
theorem program_eq {source : String} {p : Pattern} (h : ofText? source = .ok p) :
    Node.ofText? source = .ok p.node ∧ p.program = p.node.program.toArray := by
  unfold ofText? at h
  cases hn : Node.ofText? source with
  | error e =>
    rw [hn] at h
    cases h
  | ok n =>
    rw [hn] at h
    cases h
    exact ⟨rfl, rfl⟩

/-- **All matches of a pattern in a text** are found from left to right, and none overlaps another one. -/
theorem successive_captures {p : Pattern} {source : String} (h : ofText? source = .ok p)
    (cs : List Char) : Successive cs 0 (p.captures cs) := by
  have hp : EndsMarked p.program := by
    rw [(program_eq h).2]
    exact endsMarked_program p.node
  exact successive_findAllFrom hp _ 0 none

/-- A match captures **one text under each name** of a group, if that group took part. -/
theorem groups_eq {p : Pattern} {cs : List Char} {c : Capture} (h : c ∈ p.captures cs) :
    c.groups = p.groupNames.map fun name => (name, c.named? name) := by
  obtain ⟨m, -, rfl⟩ := List.mem_map.1 h
  refine List.map_congr_left fun name hname => ?_
  let text (n : String) : Option String :=
    ((p.node.indexOf? n).bind m.range?).map fun r => String.ofList (part cs r.1 r.2)
  have hlookup : (p.groupNames.map fun n => (n, text n)).lookup name = some (text name) := by
    have h := Dictionary.lookup_filterMap (fun n => some (text n)) name p.groupNames
    rw [if_pos hname] at h
    rw [← h, ← List.filterMap_eq_map]
    rfl
  show (name, text name) = (name, ((p.groupNames.map fun n => (n, text n)).lookup name).join)
  rw [hlookup]
  rfl

end TreeIndex.Pattern
