import Mathlib.Data.List.TakeWhile
import TreeIndex.Proofs.Json.Grammar

/-!
# Reading JSON

A reader takes a part from the front of a text and gives it back together with the rest.

* `character?`, `quoted?`, `number?`, `field?`, `listed?`: the parts; `value?`: a value, in which values are nested
  at most so deep; `ofText?`: a whole text;
* `Reads`: a reader takes nothing but **what the grammar spells**, and all of it that is not too long;
* `character?_eq_some_iff`, `quoted?_eq_some_iff`: what is read between quote marks;
* `listed?_eq_some`, `listed?_append`, `reads_field?`: members and fields, if what they are made of is read;
* `spelled_of_value?`, `value?_append`: one level deeper; `reads_value?`: so, by induction on the depth, a value is read;
* `ofText?_eq_some_iff`: a text gives a value **exactly if it is well-formed** and spells it.
-/

namespace TreeIndex.Json

/-! ## 1. The reader -/

/-- What stands behind a character that must stand in front. -/
def after? (c : Char) : List Char → Option (List Char)
  | [] => none
  | d :: rest => if d = c then some rest else none

/-- What remains behind the blanks in front. -/
def skip (cs : List Char) : List Char :=
  cs.dropWhile isBlank

/-- The number that the first four characters write. -/
def digits? (cs : List Char) : Option (Nat × List Char) :=
  (unit? (cs.take 4)).map fun n => (n, cs.drop 4)

/-- The character that hexadecimal digits stand for. -/
def point? (cs : List Char) : Option (Char × List Char) :=
  (digits? cs).bind fun x =>
    if isHigh x.1 then
      (after? '\\' x.2).bind fun rest => (after? 'u' rest).bind fun rest => (digits? rest).bind fun y =>
        if isLow y.1 then some (paired x.1 y.1, y.2) else none
    else if isLow x.1 then none
    else some (Char.ofNat x.1, x.2)

/-- The character that is meant behind a backslash. -/
def escaped? : List Char → Option (Char × List Char)
  | [] => none
  | l :: rest => if l = 'u' then point? rest else (letters.lookup l).map fun c => (c, rest)

/-- A character between quote marks. -/
def character? : List Char → Option (Char × List Char)
  | [] => none
  | c :: rest =>
    if c = '\\' then escaped? rest
    else if c = '"' ∨ c.toNat < 0x20 then none
    else some (c, rest)

/-- The characters up to the next quote mark, if they are not too many. -/
def characters? : Nat → List Char → Option (List Char × List Char)
  | 0, _ => none
  | n + 1, cs =>
    match character? cs with
    | some x => (characters? n x.2).map fun y => (x.1 :: y.1, y.2)
    | none => (after? '"' cs).map fun rest => ([], rest)

/-- A text with its quote marks. -/
def quoted? (cs : List Char) : Option (String × List Char) :=
  (after? '"' cs).bind fun rest => (characters? cs.length rest).map fun x => (String.ofList x.1, x.2)

/-- A number, which has no zeros in front. -/
def number? (cs : List Char) : Option (Nat × List Char) :=
  let digits := cs.takeWhile Char.isDigit
  let n := Nat.ofDigitChars 10 digits 0
  if digits = Nat.toDigits 10 n then some (n, cs.dropWhile Char.isDigit) else none

section Lists

variable {α : Type} (one? : List Char → Option (α × List Char))

/-- At least one member, up to the bracket that closes. -/
def members? (close : Char) : Nat → List Char → Option (List α × List Char)
  | 0, _ => none
  | n + 1, cs =>
    (one? (skip cs)).bind fun x =>
      match after? ',' (skip x.2) with
      | some rest => (members? close n rest).map fun xs => (x.1 :: xs.1, xs.2)
      | none => (after? close (skip x.2)).map fun rest => ([x.1], rest)

/-- Any members, up to the bracket that closes. -/
def listed? (close : Char) (cs : List Char) : Option (List α × List Char) :=
  match after? close (skip cs) with
  | some rest => some ([], rest)
  | none => members? one? close cs.length cs

end Lists

/-- A name and a value. -/
def field? (one? : List Char → Option (Json × List Char)) (cs : List Char) : Option ((String × Json) × List Char) :=
  (quoted? cs).bind fun k => (after? ':' (skip k.2)).bind fun rest =>
    (one? (skip rest)).map fun v => ((k.1, v.1), v.2)

/-- A value, in which values are **nested at most so deep**. -/
def value? : Nat → List Char → Option (Json × List Char)
  | 0, _ => none
  | _ + 1, [] => none
  | n + 1, c :: rest =>
    if c = '"' then (quoted? (c :: rest)).map fun x => (text x.1, x.2)
    else if c = '[' then (listed? (value? n) ']' rest).map fun x => (array x.1, x.2)
    else if c = '\x7b' then (listed? (field? (value? n)) '\x7d' rest).map fun x => (object x.1, x.2)
    else (number? (c :: rest)).map fun x => (number x.1, x.2)

/-- **The value of a text**, around which only blanks may stand. -/
def ofText? (text : String) : Option Json :=
  (value? text.length (skip text.toList)).bind fun x => if skip x.2 = [] then some x.1 else none

/-! ## 2. Blanks and single characters -/

theorem after?_eq_some_iff {c : Char} {cs rest : List Char} : after? c cs = some rest ↔ cs = c :: rest := by
  cases cs with
  | nil => simp [after?]
  | cons d ds =>
    by_cases h : d = c <;> simp [after?, h]

@[simp] theorem after?_cons (c : Char) (rest : List Char) : after? c (c :: rest) = some rest :=
  after?_eq_some_iff.2 rfl

theorem after?_of_ne {c d : Char} (rest : List Char) (h : d ≠ c) : after? c (d :: rest) = none :=
  if_neg h

theorem skip_append {w : List Char} (hw : Blank w) (cs : List Char) : skip (w ++ cs) = skip cs :=
  List.dropWhile_append_of_pos hw

theorem skip_cons {c : Char} (hc : isBlank c = false) (rest : List Char) : skip (c :: rest) = c :: rest :=
  List.dropWhile_cons_of_neg (by simp [hc])

theorem skip_of_begins {cs : List Char} (h : Begins cs) (rest : List Char) : skip (cs ++ rest) = cs ++ rest := by
  obtain ⟨c, ds, rfl, hc, -⟩ := h
  exact skip_cons hc (ds ++ rest)

theorem exists_skip (cs : List Char) : ∃ w, Blank w ∧ cs = w ++ skip cs :=
  ⟨cs.takeWhile isBlank, fun _ => List.mem_takeWhile_imp, List.takeWhile_append_dropWhile.symm⟩

theorem skip_eq_nil_iff {cs : List Char} : skip cs = [] ↔ Blank cs :=
  List.dropWhile_eq_nil_iff

/-! ## 3. Texts -/

theorem digits?_eq_some_iff {cs rest : List Char} {n : Nat} :
    digits? cs = some (n, rest) ↔ ∃ ds, cs = ds ++ rest ∧ unit? ds = some n := by
  have hlength : ∀ {ds : List Char}, unit? ds = some n → ds.length = 4 := by
    intro ds h
    by_contra hne
    simp [unit?, hne] at h
  constructor
  · intro h
    obtain ⟨m, hm, heq⟩ := Option.map_eq_some_iff.1 h
    cases heq
    exact ⟨cs.take 4, (List.take_append_drop 4 cs).symm, hm⟩
  · intro ⟨ds, hcs, hds⟩
    have hfour := hlength hds
    have htake : cs.take 4 = ds := by rw [hcs, List.take_left' hfour]
    have hdrop : cs.drop 4 = rest := by rw [hcs, List.drop_left' hfour]
    rw [digits?, htake, hdrop, hds]
    rfl

theorem point?_eq_some_iff {cs rest : List Char} {c : Char} :
    point? cs = some (c, rest) ↔ ∃ ds, cs = ds ++ rest ∧ SpellsPoint c ds := by
  constructor
  · intro h
    obtain ⟨⟨n, behind⟩, hn, h⟩ := Option.bind_eq_some_iff.1 h
    obtain ⟨ds, hcs, hds⟩ := digits?_eq_some_iff.1 hn
    split at h
    · rename_i hhigh
      obtain ⟨afterSlash, hslash, h⟩ := Option.bind_eq_some_iff.1 h
      obtain ⟨afterU, hu, h⟩ := Option.bind_eq_some_iff.1 h
      obtain ⟨⟨m, afterPair⟩, hm, h⟩ := Option.bind_eq_some_iff.1 h
      obtain ⟨es, hes, hm⟩ := digits?_eq_some_iff.1 hm
      split at h
      · rename_i hlow
        simp only [Option.some.injEq, Prod.mk.injEq] at h
        obtain ⟨rfl, rfl⟩ := h
        have hbehind : behind = '\\' :: 'u' :: (es ++ afterPair) := by
          calc behind = '\\' :: afterSlash := after?_eq_some_iff.1 hslash
            _ = '\\' :: 'u' :: afterU := by rw [after?_eq_some_iff.1 hu]
            _ = '\\' :: 'u' :: (es ++ afterPair) := by rw [hes]
        exact ⟨ds ++ '\\' :: 'u' :: es, by simp [hcs, hbehind], .pair hds hhigh hm hlow⟩
      · cases h
    · rename_i hhigh
      split at h
      · cases h
      · rename_i hlow
        cases h
        exact ⟨ds, hcs, .unit hds (Bool.eq_false_iff.2 hhigh) (Bool.eq_false_iff.2 hlow)⟩
  · intro ⟨ds, hcs, hds⟩
    cases hds with
    | unit hn hhigh hlow => simp [point?, digits?_eq_some_iff.2 ⟨_, hcs, hn⟩, hhigh, hlow]
    | @pair ds es high low hn hhigh hm hlow =>
      have hfirst : digits? cs = some (high, '\\' :: 'u' :: (es ++ rest)) :=
        digits?_eq_some_iff.2 ⟨ds, by simp [hcs], hn⟩
      have hsecond : digits? (es ++ rest) = some (low, rest) := digits?_eq_some_iff.2 ⟨es, rfl, hm⟩
      simp [point?, hfirst, hsecond, hhigh, hlow]

theorem escaped?_eq_some_iff {cs rest : List Char} {c : Char} :
    escaped? cs = some (c, rest) ↔ ∃ ds, cs = ds ++ rest ∧ SpellsEscaped c ds := by
  constructor
  · intro h
    cases cs with
    | nil => cases h
    | cons l behind =>
      rw [escaped?] at h
      split at h
      · rename_i hl
        obtain ⟨ds, hds, hc⟩ := point?_eq_some_iff.1 h
        exact ⟨'u' :: ds, by rw [hl, hds, List.cons_append], .point hc⟩
      · obtain ⟨d, hd, heq⟩ := Option.map_eq_some_iff.1 h
        cases heq
        exact ⟨[l], rfl, .letter hd⟩
  · intro ⟨ds, hcs, hds⟩
    cases hds with
    | @letter l c hl =>
      have hne : l ≠ 'u' := by
        intro heq
        rw [heq] at hl
        cases hl
      simp [hcs, escaped?, hne, hl]
    | point hp => simpa [hcs, escaped?] using point?_eq_some_iff.2 ⟨_, rfl, hp⟩

/-- **A character is read as it is spelled.** -/
theorem character?_eq_some_iff {cs rest : List Char} {c : Char} :
    character? cs = some (c, rest) ↔ ∃ ds, cs = ds ++ rest ∧ SpellsChar c ds := by
  constructor
  · intro h
    cases cs with
    | nil => cases h
    | cons d behind =>
      rw [character?] at h
      split at h
      · rename_i hd
        obtain ⟨ds, hds, hc⟩ := escaped?_eq_some_iff.1 h
        exact ⟨'\\' :: ds, by rw [hd, hds, List.cons_append], .escaped hc⟩
      · rename_i hslash
        split at h
        · cases h
        · rename_i hplain
          cases h
          exact ⟨[c], rfl, .itself (fun hquote => hplain (.inl hquote)) hslash (by omega)⟩
  · intro ⟨ds, hcs, hds⟩
    cases hds with
    | itself hquote hslash hcontrol =>
      have hplain : ¬(c = '"' ∨ c.toNat < 0x20) := by
        simp only [hquote, false_or]
        omega
      simp [hcs, character?, hslash, hplain]
    | escaped he => simpa [hcs, character?] using escaped?_eq_some_iff.2 ⟨_, rfl, he⟩

theorem character?_quote (rest : List Char) : character? ('"' :: rest) = none := rfl

theorem SpellsChar.length_pos {c : Char} {cs : List Char} (h : SpellsChar c cs) : 0 < cs.length := by
  cases h <;> simp

theorem characters?_eq_some {rest s : List Char} : ∀ {n : Nat} {cs : List Char},
    characters? n cs = some (s, rest) → ∃ ds, cs = ds ++ '"' :: rest ∧ SpellsText s ds
  | 0, _, h => by cases h
  | n + 1, cs, h => by
    rw [characters?] at h
    split at h
    · rename_i x hx
      obtain ⟨⟨t, behind⟩, ht, heq⟩ := Option.map_eq_some_iff.1 h
      cases heq
      obtain ⟨ds, hds, hc⟩ := character?_eq_some_iff.1 hx
      obtain ⟨es, hes, ht⟩ := characters?_eq_some ht
      exact ⟨ds ++ es, by rw [hds, hes, List.append_assoc], .cons hc ht⟩
    · obtain ⟨behind, hquote, heq⟩ := Option.map_eq_some_iff.1 h
      cases heq
      exact ⟨[], after?_eq_some_iff.1 hquote, .nil⟩

theorem characters?_append {s ds : List Char} (h : SpellsText s ds) (rest : List Char) : ∀ {n : Nat},
    ds.length < n → characters? n (ds ++ '"' :: rest) = some (s, rest) := by
  induction h with
  | nil =>
    intro n hn
    obtain ⟨m, rfl⟩ := Nat.exists_eq_add_one_of_ne_zero (Nat.ne_of_gt hn)
    simp [characters?, character?_quote]
  | @cons c s cs ds hc _ ih =>
    intro n hn
    have hpos := hc.length_pos
    rw [List.length_append] at hn
    obtain ⟨m, rfl⟩ := Nat.exists_eq_add_one_of_ne_zero (by omega : n ≠ 0)
    have hfirst : character? (cs ++ ds ++ '"' :: rest) = some (c, ds ++ '"' :: rest) :=
      character?_eq_some_iff.2 ⟨cs, List.append_assoc cs ds _, hc⟩
    rw [characters?, hfirst]
    simp [ih (by omega : ds.length < m)]

/-- **A text is read as it is spelled.** -/
theorem quoted?_eq_some_iff {cs rest : List Char} {s : String} :
    quoted? cs = some (s, rest) ↔ ∃ ds, cs = ds ++ rest ∧ SpellsQuoted s ds := by
  constructor
  · intro h
    obtain ⟨behind, hquote, h⟩ := Option.bind_eq_some_iff.1 h
    obtain ⟨⟨t, behind'⟩, ht, heq⟩ := Option.map_eq_some_iff.1 h
    cases heq
    obtain ⟨ds, hds, ht⟩ := characters?_eq_some ht
    refine ⟨'"' :: ds ++ ['"'], ?_, ds, by rwa [String.toList_ofList], rfl⟩
    simp [after?_eq_some_iff.1 hquote, hds]
  · intro ⟨ds, hcs, es, hes, hds⟩
    have hopen : after? '"' cs = some (es ++ '"' :: rest) := after?_eq_some_iff.2 (by simp [hcs, hds])
    have hlength : es.length < cs.length := by
      simp only [hcs, hds, List.length_append, List.length_cons]
      omega
    simp [quoted?, hopen, characters?_append hes rest hlength]

/-! ## 4. Numbers -/

/-- The text does not go on with a digit. -/
def Stops (rest : List Char) : Prop :=
  ∀ c ∈ rest.head?, c.isDigit = false

theorem stops_append {w : List Char} {c : Char} (hw : Blank w) (hc : c.isDigit = false) (rest : List Char) :
    Stops (w ++ c :: rest) := by
  intro d hd
  cases w with
  | nil =>
    cases hd
    exact hc
  | cons b bs =>
    cases hd
    exact not_isDigit_of_isBlank (hw d List.mem_cons_self)

theorem number?_eq_some {cs rest : List Char} {n : Nat} (h : number? cs = some (n, rest)) :
    cs = Nat.toDigits 10 n ++ rest := by
  simp only [number?] at h
  split at h
  · rename_i hdigits
    cases h
    rw [← hdigits, List.takeWhile_append_dropWhile]
  · cases h

theorem number?_append (n : Nat) {rest : List Char} (h : Stops rest) :
    number? (Nat.toDigits 10 n ++ rest) = some (n, rest) := by
  have hall : ∀ c ∈ Nat.toDigits 10 n, c.isDigit = true := fun c hc =>
    Nat.isDigit_of_mem_toDigits (by decide) (by decide) hc
  have hnone : rest.takeWhile Char.isDigit = [] ∧ rest.dropWhile Char.isDigit = rest := by
    cases rest with
    | nil => exact ⟨rfl, rfl⟩
    | cons c rest =>
      have hc : c.isDigit = false := h c rfl
      simp [hc]
  have htake : (Nat.toDigits 10 n ++ rest).takeWhile Char.isDigit = Nat.toDigits 10 n := by
    rw [List.takeWhile_append_of_pos hall, hnone.1, List.append_nil]
  have hdrop : (Nat.toDigits 10 n ++ rest).dropWhile Char.isDigit = rest := by
    rw [List.dropWhile_append_of_pos hall, hnone.2]
  simp only [number?, htake, hdrop, Nat.ofDigitChars_ten_toDigits, if_true]

/-! ## 5. Lists -/

section Lists

variable {α : Type} {limit : Nat} {One : α → List Char → Prop} {one? : List Char → Option (α × List Char)}
  {close : Char}

/-- A reader takes nothing but **what is spelled**, and all of that up to a limit. -/
structure Reads (limit : Nat) (One : α → List Char → Prop) (one? : List Char → Option (α × List Char)) :
    Prop where
  spelled : ∀ {cs : List Char} {x : α} {rest : List Char}, one? cs = some (x, rest) →
    ∃ ds, cs = ds ++ rest ∧ One x ds
  read : ∀ {x : α} {ds rest : List Char}, One x ds → ds.length ≤ limit → Stops rest →
    one? (ds ++ rest) = some (x, rest)
  begins : ∀ {x : α} {ds : List Char}, One x ds → Begins ds

theorem members?_eq_some (hone : Reads limit One one?) {rest : List Char} : ∀ {n : Nat} {cs : List Char}
    {xs : List α}, members? one? close n cs = some (xs, rest) →
      xs ≠ [] ∧ ∃ ds, cs = ds ++ close :: rest ∧ Listed One xs ds
  | 0, _, _, h => by cases h
  | n + 1, cs, xs, h => by
    obtain ⟨⟨x, behind⟩, hread, h⟩ := Option.bind_eq_some_iff.1 h
    obtain ⟨ds, hds, hx⟩ := hone.spelled hread
    obtain ⟨w, hw, hcs⟩ := exists_skip cs
    obtain ⟨w', hw', hbehind⟩ := exists_skip behind
    split at h
    · rename_i next hcomma
      obtain ⟨⟨ys, behind'⟩, hys, heq⟩ := Option.map_eq_some_iff.1 h
      cases heq
      obtain ⟨hne, es, hes, hlisted⟩ := members?_eq_some hone hys
      obtain ⟨y, ys, rfl⟩ := List.exists_cons_of_ne_nil hne
      refine ⟨List.cons_ne_nil _ _, w ++ ds ++ w' ++ ',' :: es, ?_, .more hw hx hw' hlisted⟩
      rw [hcs, hds, hbehind, after?_eq_some_iff.1 hcomma, hes]
      simp
    · obtain ⟨behind', hclose, heq⟩ := Option.map_eq_some_iff.1 h
      cases heq
      refine ⟨List.cons_ne_nil _ _, w ++ ds ++ w', ?_, .last hw hx hw'⟩
      rw [hcs, hds, hbehind, after?_eq_some_iff.1 hclose]
      simp

theorem listed?_eq_some (hone : Reads limit One one?) {cs rest : List Char} {xs : List α}
    (h : listed? one? close cs = some (xs, rest)) : ∃ ds, cs = ds ++ close :: rest ∧ Listed One xs ds := by
  rw [listed?] at h
  split at h
  · rename_i hclose
    cases h
    obtain ⟨w, hw, hcs⟩ := exists_skip cs
    rw [after?_eq_some_iff.1 hclose] at hcs
    exact ⟨w, hcs, .empty hw⟩
  · exact (members?_eq_some hone h).2

/-- A comma or a bracket that closes is no blank and no digit. -/
theorem ends_of_mem {c : Char} (h : c ∈ [',', ']', '\x7d']) : isBlank c = false ∧ c.isDigit = false := by
  simp only [List.mem_cons, List.not_mem_nil, or_false] at h
  obtain rfl | rfl | rfl := h <;> decide

/-- A member is read **with what stands around it**. -/
theorem Reads.skip_append (hone : Reads limit One one?) {x : α} {w cs w' : List Char} {c : Char} (rest : List Char)
    (hw : Blank w) (hx : One x cs) (hw' : Blank w') (hlimit : cs.length ≤ limit) (hc : c ∈ [',', ']', '\x7d']) :
    one? (skip (w ++ (cs ++ (w' ++ c :: rest)))) = some (x, w' ++ c :: rest) := by
  have hstops : Stops (w' ++ c :: rest) := stops_append hw' (ends_of_mem hc).2 rest
  rw [Json.skip_append hw, skip_of_begins (hone.begins hx), hone.read hx hlimit hstops]

theorem members?_append (hone : Reads limit One one?) (hclose : close ∈ [']', '\x7d']) (rest : List Char)
    {xs : List α} {ds : List Char} (h : Listed One xs ds) (hxs : xs ≠ []) (hlimit : ds.length ≤ limit) :
    ∀ {n : Nat}, ds.length < n → members? one? close n (ds ++ close :: rest) = some (xs, rest) := by
  have hend : close ∈ [',', ']', '\x7d'] := List.mem_cons_of_mem _ hclose
  have hcomma : close ≠ ',' := by
    intro heq
    simp [heq] at hclose
  induction h with
  | empty => exact (hxs rfl).elim
  | @last x w cs w' hw hx hw' =>
    intro n hn
    obtain ⟨m, rfl⟩ := Nat.exists_eq_add_one_of_ne_zero (by omega : n ≠ 0)
    have hlength : cs.length ≤ limit := by
      simp only [List.length_append] at hlimit
      omega
    have hread := hone.skip_append rest hw hx hw' hlength hend
    simp [members?, hread, Json.skip_append hw', skip_cons (ends_of_mem hend).1, after?_of_ne rest hcomma]
  | @more x y ys w cs w' ds hw hx hw' _ ih =>
    -- the comma alone makes the text behind it shorter, and one turn of the reader is spent on the member
    intro n hn
    obtain ⟨m, rfl⟩ := Nat.exists_eq_add_one_of_ne_zero (by omega : n ≠ 0)
    simp only [List.length_append, List.length_cons] at hlimit hn
    have hread := hone.skip_append (ds ++ close :: rest) hw hx hw' (by omega) (List.mem_cons_self : ',' ∈ _)
    have hnext := ih (List.cons_ne_nil y ys) (by omega) (by omega : ds.length < m)
    simp [members?, hread, Json.skip_append hw', skip_cons (by decide : isBlank ',' = false), hnext]

theorem Listed.after?_skip (hone : Reads limit One one?) (hclose : close ∈ [']', '\x7d'])
    {xs : List α} {ds : List Char} (h : Listed One xs ds) (hxs : xs ≠ []) (rest : List Char) :
    after? close (skip (ds ++ rest)) = none := by
  have hnone : ∀ {x : α} {w cs : List Char} (es : List Char), Blank w → One x cs →
      after? close (skip (w ++ (cs ++ es))) = none := by
    intro x w cs es hw hx
    obtain ⟨c, behind, hcs, hblank, hc⟩ := hone.begins hx
    rw [skip_append hw, skip_of_begins (hone.begins hx), hcs]
    exact after?_of_ne _ fun heq => hc (heq ▸ hclose)
  cases h with
  | empty => exact (hxs rfl).elim
  | last hw hx => simpa using hnone _ hw hx
  | more hw hx => simpa using hnone _ hw hx

theorem listed?_append (hone : Reads limit One one?) (hclose : close ∈ [']', '\x7d']) (rest : List Char)
    {xs : List α} {ds : List Char} (h : Listed One xs ds) (hlimit : ds.length ≤ limit) :
    listed? one? close (ds ++ close :: rest) = some (xs, rest) := by
  by_cases hxs : xs = []
  · subst hxs
    cases h with
    | empty hw => simp [listed?, skip_append hw, skip_cons (ends_of_mem (List.mem_cons_of_mem _ hclose)).1]
  · rw [listed?, h.after?_skip hone hclose hxs]
    exact members?_append hone hclose rest h hxs hlimit (by simp)

end Lists

/-! ## 6. Values -/

theorem reads_field? {limit : Nat} {One : Json → List Char → Prop} {one? : List Char → Option (Json × List Char)}
    (hone : Reads limit One one?) : Reads limit (SpellsField One) (field? one?) where
  spelled := by
    intro cs f rest h
    obtain ⟨⟨k, afterName⟩, hk, h⟩ := Option.bind_eq_some_iff.1 h
    obtain ⟨afterColon, hcolon, h⟩ := Option.bind_eq_some_iff.1 h
    obtain ⟨⟨v, behind⟩, hv, heq⟩ := Option.map_eq_some_iff.1 h
    cases heq
    obtain ⟨ks, hks, hk⟩ := quoted?_eq_some_iff.1 hk
    obtain ⟨vs, hvs, hv⟩ := hone.spelled hv
    obtain ⟨w, hw, hname⟩ := exists_skip afterName
    obtain ⟨w', hw', hvalue⟩ := exists_skip afterColon
    refine ⟨ks ++ w ++ ':' :: w' ++ vs, ?_, .mk hk hw hw' hv⟩
    rw [hks, hname, after?_eq_some_iff.1 hcolon, hvalue, hvs]
    simp
  read := by
    intro f ds rest h hlimit hstops
    cases h with
    | @mk k v cs w w' es hk hw hw' hv =>
      have hname : quoted? (cs ++ (w ++ ':' :: (w' ++ (es ++ rest)))) = some (k, w ++ ':' :: (w' ++ (es ++ rest))) :=
        quoted?_eq_some_iff.2 ⟨cs, rfl, hk⟩
      have hcolon : skip (w ++ ':' :: (w' ++ (es ++ rest))) = ':' :: (w' ++ (es ++ rest)) := by
        rw [skip_append hw, skip_cons (by decide)]
      have hvalue : one? (skip (w' ++ (es ++ rest))) = some (v, rest) := by
        simp only [List.length_append] at hlimit
        rw [skip_append hw', skip_of_begins (hone.begins hv), hone.read hv (by omega) hstops]
      simp [field?, hname, hcolon, hvalue]
  begins := SpellsField.begins

theorem value?_of_isDigit {c : Char} (hc : c.isDigit = true) (n : Nat) (rest : List Char) :
    value? (n + 1) (c :: rest) = (number? (c :: rest)).map fun x => (number x.1, x.2) := by
  rw [value?, if_neg (ne_of_isDigit hc rfl), if_neg (ne_of_isDigit hc rfl), if_neg (ne_of_isDigit hc rfl)]

section Deeper

variable {n : Nat} (ih : Reads n Spells (value? n))
include ih

/-- One level deeper, nothing but values is read. -/
theorem spelled_of_value? {cs rest : List Char} {v : Json} (h : value? (n + 1) cs = some (v, rest)) :
    ∃ ds, cs = ds ++ rest ∧ Spells v ds := by
  cases cs with
  | nil => cases h
  | cons c cs =>
    rw [value?] at h
    split at h
    · obtain ⟨⟨s, behind⟩, hs, heq⟩ := Option.map_eq_some_iff.1 h
      cases heq
      obtain ⟨ds, hds, hs⟩ := quoted?_eq_some_iff.1 hs
      exact ⟨ds, hds, .text hs⟩
    split at h
    · rename_i hc
      obtain ⟨⟨vs, behind⟩, hvs, heq⟩ := Option.map_eq_some_iff.1 h
      cases heq
      obtain ⟨ds, hds, hvs⟩ := listed?_eq_some ih hvs
      exact ⟨'[' :: ds ++ [']'], by simp [hc, hds], .array hvs⟩
    split at h
    · rename_i hc
      obtain ⟨⟨fs, behind⟩, hfs, heq⟩ := Option.map_eq_some_iff.1 h
      cases heq
      obtain ⟨ds, hds, hfs⟩ := listed?_eq_some (reads_field? ih) hfs
      exact ⟨'\x7b' :: ds ++ ['\x7d'], by simp [hc, hds], .object hfs⟩
    · obtain ⟨⟨m, behind⟩, hm, heq⟩ := Option.map_eq_some_iff.1 h
      cases heq
      exact ⟨Nat.toDigits 10 m, number?_eq_some hm, .number m⟩

/-- One level deeper, every value is read whose text is **one character longer**. -/
theorem value?_append {v : Json} {ds rest : List Char} (h : Spells v ds) (hlimit : ds.length ≤ n + 1)
    (hstops : Stops rest) : value? (n + 1) (ds ++ rest) = some (v, rest) := by
  cases h with
  | @text s _ hs =>
    have hread : quoted? (ds ++ rest) = some (s, rest) := quoted?_eq_some_iff.2 ⟨ds, rfl, hs⟩
    obtain ⟨es, -, rfl⟩ := hs
    simp only [List.cons_append] at hread ⊢
    rw [value?, if_pos rfl, hread]
    rfl
  | number m =>
    have hread := number?_append m hstops
    obtain ⟨d, es, hes, hd⟩ := exists_digit m
    rw [hes, List.cons_append] at hread ⊢
    rw [value?_of_isDigit hd, hread]
    rfl
  | @array vs cs hvs =>
    -- between its brackets the text is shorter than the value, so the depth that is left is enough
    simp only [List.length_append, List.length_cons] at hlimit
    have hread := listed?_append ih (by decide : ']' ∈ _) rest hvs (by omega)
    simp [value?, hread]
  | @object fs cs hfs =>
    simp only [List.length_append, List.length_cons] at hlimit
    have hread := listed?_append (reads_field? ih) (by decide : '\x7d' ∈ _) rest hfs (by omega)
    simp [value?, hread]

end Deeper

/-- **A value is read as it is spelled**: by induction on the depth. -/
theorem reads_value? : ∀ n : Nat, Reads n Spells (value? n)
  | 0 =>
    { spelled := fun h => by cases h
      read := fun h hlimit _ => by
        obtain ⟨c, ds, rfl, -⟩ := h.begins
        simp at hlimit
      begins := Spells.begins }
  | n + 1 =>
    { spelled := spelled_of_value? (reads_value? n)
      read := value?_append (reads_value? n)
      begins := Spells.begins }

/-! ## 7. Whole texts -/

/-- **A text gives a value exactly if it is well-formed and spells it.** -/
theorem ofText?_eq_some_iff {text : String} {v : Json} : ofText? text = some v ↔ WellFormed text v := by
  constructor
  · intro h
    obtain ⟨⟨x, behind⟩, hx, h⟩ := Option.bind_eq_some_iff.1 h
    obtain ⟨cs, hcs, hx⟩ := (reads_value? text.length).spelled hx
    obtain ⟨w, hw, htext⟩ := exists_skip text.toList
    split at h
    · rename_i hbehind
      cases h
      exact ⟨w, cs, behind, by rw [htext, hcs, List.append_assoc], hw, hx, skip_eq_nil_iff.1 hbehind⟩
    · cases h
  · intro ⟨w, cs, w', htext, hw, hv, hw'⟩
    have hstops : Stops w' := fun c hc => not_isDigit_of_isBlank (hw' c (List.mem_of_head? hc))
    have hlength : cs.length ≤ text.length := by
      rw [← String.length_toList, htext]
      simp only [List.length_append]
      omega
    have hread : value? text.length (skip text.toList) = some (v, w') := by
      rw [htext, List.append_assoc, skip_append hw, skip_of_begins hv.begins]
      exact (reads_value? text.length).read hv hlength hstops
    simp [ofText?, hread, skip_eq_nil_iff.2 hw']

/-- A text may be spelled **in other ways** than it is written. -/
example : (ofText? " [ \"\\u0041\\ud83d\\ude00\" , 10 ]\n").map compact = some "[\"A😀\",10]" := by
  decide +kernel

end TreeIndex.Json
