import TreeIndex.Proofs.Extraction.Matcher
import TreeIndex.Proofs.Pattern.Matches
import TreeIndex.Proofs.Text.Lines

/-!
# Items, match by match

An extraction goes through a file once and counts newlines as it goes. What it finds can be said of every start
match on its own, without a count that is carried along:

* `lineOf`: the line on which a match begins;
* `CanEnd`, `FirstEnd`: the lines that can end the item of a match, and the first of them;
* `Captured`, `Binds`: what the groups of a match captured, and the end pattern that is bound from it;
* `Yields`, `Refuses`: **the item of a match**, or the fault that there is none;
* `lineBehind`: where the search for an ending line starts (`lineBehind_le_iff`);
* `Scan.Sound`: the invariant of the count -- it is the number of newlines up to where the file was read;
* `itemAt?_eq`: one match, and with it what a step does to the count;
* `itemOf?_eq_ok`, `itemOf?_eq_error`: the item that a match yields, or why it is refused;
* `extract_agrees`: an extraction yields one item for every match, in the order of the matches, or the fault
  of the first match that has none.
-/

namespace TreeIndex.ItemMatcher

open Pattern (Capture Successive)

/-! ## 1. What one match says -/

/-- The line on which a match begins, counted from one. -/
def lineOf (text : List Char) (c : Capture) : Nat :=
  1 + Text.newlines (text.take c.start)

/-- The line `n` **can end** the item of a match: it lies below the line on which the match begins, it begins
    where the match ends or behind that, and the end pattern matches it. -/
def CanEnd (stop : Pattern) (text : List Char) (c : Capture) (n : Nat) : Prop :=
  lineOf text c < n ∧ c.stop ≤ Text.offset text (n - 1) ∧
    ∃ line, (Text.pieces text)[n - 1]? = some line ∧ stop.accepts (Text.chomp line) = true

/-- The line `n` is **the first** that can end the item of a match. -/
def FirstEnd (stop : Pattern) (text : List Char) (c : Capture) (n : Nat) : Prop :=
  CanEnd stop text c n ∧ ∀ k < n, ¬ CanEnd stop text c k

/-- The dictionary holds what the groups of a match captured, under their names. -/
def Captured (c : Capture) (d : Dictionary String) : Prop :=
  ∀ key, d.get? key = c.named? key

/-- The end pattern that is **bound from a match**, built from the text it binds. -/
def Binds (m : ItemMatcher) (c : Capture) (stop : Pattern) : Prop :=
  ∃ captured text, Captured c captured ∧ m.stop.bind? captured = .ok text ∧
    Pattern.ofText? (Template.anchored text) = .ok stop

/-- **The item of a match.** -/
structure Yields (m : ItemMatcher) (f : SourceFile) (c : Capture) (i : Item) : Prop where
  file : i.file = f
  definition : i.definition = m.definition
  lineStart : i.lineStart = lineOf f.content.toList c
  lineEnd : ∃ stop, m.Binds c stop ∧ FirstEnd stop f.content.toList c i.lineEnd
  name : i.name = (c.named? "name").getD "_"
  properties : ∀ key, i.properties.get? key = if key = "name" then none else c.named? key

/-- Why a match **has no item**: its end cannot be bound, what is bound is no pattern, or no line ends it. -/
inductive Refuses (m : ItemMatcher) (f : SourceFile) (c : Capture) : Fault → Prop where
  | unbound {captured : Dictionary String} {tag : String} (hc : Captured c captured)
      (h : m.stop.bind? captured = .error tag) :
      Refuses m f c (.unboundTag tag m.stop.template f.path (lineOf f.content.toList c) captured)
  | broken {captured : Dictionary String} {text : String} {defect : Pattern.Defect}
      (hc : Captured c captured) (h : m.stop.bind? captured = .ok text)
      (hb : Pattern.ofText? (Template.anchored text) = .error defect) :
      Refuses m f c (.invalidPattern (Template.anchored text) m.definition.source)
  | endless {captured : Dictionary String} {stop : Pattern} (hc : Captured c captured)
      (h : m.Binds c stop) (hn : ∀ n, ¬ CanEnd stop f.content.toList c n) :
      Refuses m f c
        (.unterminated f.path (lineOf f.content.toList c) m.start.text stop.text captured)

theorem Captured.unique {c : Capture} {d e : Dictionary String} (hd : Captured c d)
    (he : Captured c e) : d = e :=
  Dictionary.eq_of_get? fun key => (hd key).trans (he key).symm

/-- **Nothing else is captured** than what the named groups of a match are. -/
theorem captured_properties {p : Pattern} {cs : List Char} {c : Capture} (h : c ∈ p.captures cs) :
    Captured c (properties c) := by
  intro key
  have hgroups := Pattern.groups_eq h
  have hentries : (c.groups.filterMap fun e => e.2.map fun text => (e.1, text)) =
      p.groupNames.filterMap fun name => (c.named? name).map fun text => (name, text) := by
    rw [hgroups, List.filterMap_map]
    rfl
  rw [properties, hentries, Dictionary.get?_ofList, ← List.filterMap_reverse,
    Dictionary.lookup_filterMap]
  split
  · rfl
  · rename_i hkey
    have hnone : c.groups.lookup key = none := by
      rw [hgroups, List.lookup_eq_none_iff]
      intro e he
      obtain ⟨name, hname, rfl⟩ := List.mem_map.1 he
      exact bne_iff_ne.2 fun heq => hkey (List.mem_reverse.2 (heq ▸ hname))
    rw [Capture.named?, hnone]
    rfl

/-! ## 2. The lines behind a match -/

/-- The first line that begins behind a match, lines counted from zero. -/
def lineBehind (text : List Char) (c : Capture) : Nat :=
  if c.text.getLast? = some '\n' then Text.newlines (text.take c.stop)
  else Text.newlines (text.take c.stop) + 1

section Lines

variable {text : List Char} {first : Nat} {c : Capture}

theorem take_stop (hc : c.LiesIn text first) : text.take c.stop = text.take c.start ++ c.text := by
  have hadd : c.stop = c.start + (c.stop - c.start) := by
    have := hc.start_le
    omega
  rw [hc.text_eq, Pattern.part]
  conv => lhs; rw [hadd]
  exact List.take_add

/-- **The lines that begin behind a match**, and below the line on which it begins. -/
theorem lineBehind_le_iff (hc : c.LiesIn text first) {k : Nat} (hk : k < (Text.pieces text).length) :
    lineBehind text c ≤ k ↔ lineOf text c < k + 1 ∧ c.stop ≤ Text.offset text k := by
  rw [Text.le_offset_iff hc.stop_le hk, lineBehind, lineOf, take_stop hc, Text.newlines_append]
  cases hlast : c.text.getLast? with
  | none =>
    -- an empty match: the line that it begins is its own
    rw [List.getLast?_eq_none_iff] at hlast
    rw [hlast, if_neg nofun, List.append_nil]
    have hzero : Text.newlines [] = 0 := rfl
    omega
  | some d =>
    have hne : c.text ≠ [] := fun h => by rw [h] at hlast; cases hlast
    have hends : Text.EndsLine (text.take c.start ++ c.text) ↔ d = '\n' := by
      rw [Text.EndsLine, List.getLast?_append, hlast, Option.some_or]
      exact ⟨fun h => h d rfl, fun h _ he => Option.some.inj he ▸ h⟩
    rw [hends]
    by_cases hd : d = '\n'
    · have hpos : 0 < Text.newlines c.text :=
        List.count_pos_iff.2 (hd ▸ List.mem_of_getLast? hlast)
      rw [if_pos (by rw [hd])]
      simp only [hd, and_true]
      omega
    · rw [if_neg (by simpa using hd)]
      simp only [hd, and_false, or_false]
      omega

theorem canEnd_succ_iff (hc : c.LiesIn text first) {stop : Pattern} {k : Nat} :
    CanEnd stop text c (k + 1) ↔ lineBehind text c ≤ k ∧
      ∃ line, ((Text.pieces text).map Text.chomp)[k]? = some line ∧ stop.accepts line = true := by
  have hline : (∃ line, ((Text.pieces text).map Text.chomp)[k]? = some line ∧ stop.accepts line = true) ↔
      ∃ line, (Text.pieces text)[k]? = some line ∧ stop.accepts (Text.chomp line) = true := by
    simp only [List.getElem?_map, Option.map_eq_some_iff]
    constructor
    · rintro ⟨_, ⟨line, hline, rfl⟩, hacc⟩
      exact ⟨line, hline, hacc⟩
    · rintro ⟨line, hline, hacc⟩
      exact ⟨_, ⟨line, hline, rfl⟩, hacc⟩
  rw [hline, CanEnd, Nat.add_sub_cancel, ← and_assoc]
  refine and_congr_left fun ⟨line, hl, _⟩ => ?_
  exact (lineBehind_le_iff hc (List.getElem?_eq_some_iff.1 hl).1).symm

/-- No item ends on the line zero: lines count from one. -/
theorem not_canEnd_zero {stop : Pattern} : ¬ CanEnd stop text c 0 :=
  fun h => Nat.not_lt_zero _ h.1

end Lines

theorem findLine?_eq_some {p : Pattern} {lines : List (List Char)} {first i : Nat} :
    findLine? p lines first = some i ↔
      (first ≤ i ∧ ∃ line, lines[i]? = some line ∧ p.accepts line = true) ∧
      ∀ k < i, ¬ (first ≤ k ∧ ∃ line, lines[k]? = some line ∧ p.accepts line = true) := by
  rw [findLine?, Option.map_eq_some_iff]
  simp only [List.findIdx?_eq_some_iff_getElem]
  constructor
  · rintro ⟨j, ⟨hj, hacc, hbefore⟩, rfl⟩
    rw [List.length_drop] at hj
    rw [List.getElem_drop] at hacc
    refine ⟨⟨Nat.le_add_right _ _, _, List.getElem?_eq_getElem (by omega), hacc⟩, ?_⟩
    rintro k hk ⟨hfirst, line, hline, hl⟩
    have hnot := hbefore (k - first) (by omega)
    obtain ⟨hlt, rfl⟩ := List.getElem?_eq_some_iff.1 hline
    rw [List.getElem_drop] at hnot
    simp only [Nat.add_sub_cancel' hfirst] at hnot
    exact hnot hl
  · rintro ⟨⟨hfirst, line, hline, hacc⟩, hbefore⟩
    obtain ⟨hlt, rfl⟩ := List.getElem?_eq_some_iff.1 hline
    refine ⟨i - first, ⟨by rw [List.length_drop]; omega, ?_, fun j hj => ?_⟩, by omega⟩
    · rw [List.getElem_drop]
      simp only [Nat.add_sub_cancel' hfirst]
      exact hacc
    · rw [List.getElem_drop]
      intro hl
      exact hbefore (first + j) (by omega)
        ⟨Nat.le_add_right _ _, _, List.getElem?_eq_getElem (by omega), hl⟩

theorem findLine?_eq_none {p : Pattern} {lines : List (List Char)} {first : Nat} :
    findLine? p lines first = none ↔
      ∀ k, ¬ (first ≤ k ∧ ∃ line, lines[k]? = some line ∧ p.accepts line = true) := by
  constructor
  · rintro h k ⟨hfirst, line, hline, hacc⟩
    rw [findLine?, Option.map_eq_none_iff, List.findIdx?_eq_none_iff] at h
    have hmem : line ∈ lines.drop first := by
      refine List.mem_of_getElem? (i := k - first) ?_
      rw [List.getElem?_drop, Nat.add_sub_cancel' hfirst]
      exact hline
    rw [h line hmem] at hacc
    cases hacc
  · intro h
    cases hs : findLine? p lines first with
    | none => rfl
    | some i => exact absurd (findLine?_eq_some.1 hs).1 (h i)

section Found

variable {text : List Char} {first : Nat} {c : Capture}

/-- The search **finds the first line** that can end the item. -/
theorem findLine?_eq_firstEnd (hc : c.LiesIn text first) {stop : Pattern} {k : Nat} :
    findLine? stop ((Text.pieces text).map Text.chomp) (lineBehind text c) = some k ↔
      FirstEnd stop text c (k + 1) := by
  rw [findLine?_eq_some, FirstEnd, canEnd_succ_iff hc]
  refine and_congr_right fun _ => ⟨fun h n hn => ?_, fun h n hn => ?_⟩
  · cases n with
    | zero => exact not_canEnd_zero
    | succ n => exact fun hend => h n (Nat.lt_of_succ_lt_succ hn) ((canEnd_succ_iff hc).1 hend)
  · exact fun hend => h (n + 1) (Nat.succ_lt_succ hn) ((canEnd_succ_iff hc).2 hend)

theorem findLine?_eq_none_iff (hc : c.LiesIn text first) {stop : Pattern} :
    findLine? stop ((Text.pieces text).map Text.chomp) (lineBehind text c) = none ↔
      ∀ n, ¬ CanEnd stop text c n := by
  rw [findLine?_eq_none]
  refine ⟨fun h n => ?_, fun h n hend => h (n + 1) ((canEnd_succ_iff hc).2 hend)⟩
  cases n with
  | zero => exact not_canEnd_zero
  | succ n => exact fun hend => h n ((canEnd_succ_iff hc).1 hend)

end Found

/-! ## 3. One match -/

/-- The count of newlines is right **up to where the file was read**. -/
def Scan.Sound (text : List Char) (s : Scan) : Prop :=
  s.newlines = Text.newlines (text.take s.offset)

/-- The item of a match, **without a count** that is carried along. -/
def itemOf? (m : ItemMatcher) (f : SourceFile) (c : Capture) : Except Fault Item := do
  let text := f.content.toList
  let captured := properties c
  let stop ← m.endPattern? f (lineOf text c) captured
  match findLine? stop ((Text.pieces text).map Text.chomp) (lineBehind text c) with
  | none => .error (.unterminated f.path (lineOf text c) m.start.text stop.text captured)
  | some index =>
    .ok ⟨(captured.get? "name").getD "_", f, m.definition, lineOf text c, index + 1,
      captured.erase "name"⟩

section Step

variable {m : ItemMatcher} {f : SourceFile} {c : Capture} {s : Scan}

/-- The newlines up to where a match begins. -/
theorem Scan.Sound.newlines_start {text : List Char} (hs : s.Sound text) (hc : c.LiesIn text s.offset) :
    s.newlines + Text.newlines (Pattern.part text s.offset c.start) =
      Text.newlines (text.take c.start) := by
  have hadd : c.start = s.offset + (c.start - s.offset) := by
    have := hc.first_le
    omega
  have htake : text.take c.start = text.take s.offset ++ Pattern.part text s.offset c.start := by
    rw [Pattern.part]
    conv => lhs; rw [hadd]
    exact List.take_add
  rw [htake, Text.newlines_append, hs]

/-- **A step of the extraction** finds the item of the match and keeps the count right. -/
theorem itemAt?_eq (hs : s.Sound f.content.toList) (hc : c.LiesIn f.content.toList s.offset) :
    m.itemAt? f f.content.toList ((Text.pieces f.content.toList).map Text.chomp) s c =
      (m.itemOf? f c).map fun i =>
        (i, ⟨c.stop, Text.newlines (f.content.toList.take c.stop)⟩) := by
  have hstop : Text.newlines (f.content.toList.take c.start) + Text.newlines c.text =
      Text.newlines (f.content.toList.take c.stop) := by
    rw [take_stop hc, Text.newlines_append]
  unfold itemAt? itemOf?
  simp only [hs.newlines_start hc, hstop, Nat.add_comm _ 1]
  rw [← lineOf]
  cases m.endPattern? f (lineOf f.content.toList c) (properties c) with
  | error fault => rfl
  | ok stop =>
    have hbehind : (if c.text.getLast? = some '\n' then
        Text.newlines (f.content.toList.take c.stop)
        else 1 + Text.newlines (f.content.toList.take c.stop)) = lineBehind f.content.toList c := by
      rw [lineBehind, Nat.add_comm 1]
    rw [hbehind]
    show (match findLine? stop _ _ with | none => _ | some index => _) =
      Except.map _ (match findLine? stop _ _ with | none => _ | some index => _)
    cases findLine? stop ((Text.pieces f.content.toList).map Text.chomp)
      (lineBehind f.content.toList c) with
    | none => rfl
    | some index => rfl

end Step

section Answer

variable {d : Definition} {m : ItemMatcher} {f : SourceFile} {c : Capture} {first : Nat}

theorem binds_iff {captured : Dictionary String} (hc : Captured c captured) {stop : Pattern} :
    m.Binds c stop ↔ ∃ text, m.stop.bind? captured = .ok text ∧
      Pattern.ofText? (Template.anchored text) = .ok stop := by
  constructor
  · rintro ⟨e, text, he, htext, hstop⟩
    cases hc.unique he
    exact ⟨text, htext, hstop⟩
  · rintro ⟨text, htext, hstop⟩
    exact ⟨captured, text, hc, htext, hstop⟩

/-- The end pattern that is used -- built in advance or not -- **is the one that the match binds**. -/
theorem endPattern?_eq_ok (hm : Compiled d m) {captured : Dictionary String}
    (hc : Captured c captured) {line : Nat} {stop : Pattern} :
    m.endPattern? f line captured = .ok stop ↔ m.Binds c stop := by
  rw [hm.endPattern?_eq, binds_iff hc]
  cases hbind : m.stop.bind? captured with
  | error tag => exact ⟨nofun, fun ⟨_, h, _⟩ => by cases h⟩
  | ok text =>
    simp only [build?_eq_ok, Except.ok.injEq]
    constructor
    · exact fun h => ⟨text, rfl, h⟩
    · rintro ⟨_, rfl, h⟩
      exact h

theorem itemOf?_eq_ok (hm : Compiled d m) (hcap : Captured c (properties c))
    (hc : c.LiesIn f.content.toList first) {i : Item} : m.itemOf? f c = .ok i ↔ m.Yields f c i := by
  rw [itemOf?, Outcome.bind_eq_ok]
  constructor
  · rintro ⟨stop, hstop, h⟩
    cases hline : findLine? stop ((Text.pieces f.content.toList).map Text.chomp)
      (lineBehind f.content.toList c) with
    | none =>
      rw [hline] at h
      cases h
    | some index =>
      rw [hline] at h
      cases h
      refine ⟨rfl, rfl, rfl, ⟨stop, (endPattern?_eq_ok hm hcap).1 hstop, ?_⟩, ?_, fun key => ?_⟩
      · exact (findLine?_eq_firstEnd hc).1 hline
      · exact congrArg (·.getD "_") (hcap "name")
      · rw [Dictionary.get?_erase, hcap]
  · intro h
    obtain ⟨stop, hstop, hend⟩ := h.lineEnd
    obtain ⟨k, hk⟩ : ∃ k, i.lineEnd = k + 1 :=
      Nat.exists_eq_succ_of_ne_zero fun hzero => not_canEnd_zero (hzero ▸ hend.1)
    refine ⟨stop, (endPattern?_eq_ok hm hcap).2 hstop, ?_⟩
    rw [hk] at hend
    rw [(findLine?_eq_firstEnd hc).2 hend]
    have hprops : (properties c).erase "name" = i.properties :=
      Dictionary.eq_of_get? fun key => by rw [Dictionary.get?_erase, hcap, h.properties]
    obtain ⟨name, file, definition, lineStart, lineEnd, props⟩ := i
    have hname : ((properties c).get? "name").getD "_" = name := by
      rw [hcap]
      exact h.name.symm
    simp only [Except.ok.injEq, Item.mk.injEq]
    exact ⟨hname, h.file.symm, h.definition.symm, h.lineStart.symm, hk.symm, hprops⟩

theorem itemOf?_eq_error (hm : Compiled d m) (hcap : Captured c (properties c))
    (hc : c.LiesIn f.content.toList first) {fault : Fault} :
    m.itemOf? f c = .error fault ↔ m.Refuses f c fault := by
  rw [itemOf?, Outcome.bind_eq_error]
  constructor
  · rintro (h | ⟨stop, hstop, h⟩)
    · rw [hm.endPattern?_eq] at h
      cases hbind : m.stop.bind? (properties c) with
      | error tag =>
        rw [hbind] at h
        cases h
        exact .unbound hcap hbind
      | ok text =>
        rw [hbind] at h
        obtain ⟨⟨defect, hdefect⟩, rfl⟩ := build?_eq_error.1 h
        exact .broken hcap hbind hdefect
    · cases hline : findLine? stop ((Text.pieces f.content.toList).map Text.chomp)
        (lineBehind f.content.toList c) with
      | none =>
        rw [hline] at h
        cases h
        exact .endless hcap ((endPattern?_eq_ok hm hcap).1 hstop) ((findLine?_eq_none_iff hc).1 hline)
      | some index =>
        rw [hline] at h
        cases h
  · intro h
    cases h with
    | unbound hc' hbind =>
      cases hc'.unique hcap
      refine Or.inl ?_
      rw [hm.endPattern?_eq, hbind]
    | broken hc' hbind hbroken =>
      cases hc'.unique hcap
      refine Or.inl ?_
      rw [hm.endPattern?_eq, hbind]
      exact build?_eq_error.2 ⟨⟨_, hbroken⟩, rfl⟩
    | endless hc' hstop hn =>
      cases hc'.unique hcap
      refine Or.inr ⟨_, (endPattern?_eq_ok hm hcap).2 hstop, ?_⟩
      rw [(findLine?_eq_none_iff hc).2 hn]

end Answer

/-! ## 4. All matches -/

/-- The items of successive matches, **match by match**. -/
theorem itemsFrom?_eq {m : ItemMatcher} {f : SourceFile} : ∀ {cs : List Capture} {s : Scan},
    s.Sound f.content.toList → Successive f.content.toList s.offset cs →
      m.itemsFrom? f f.content.toList ((Text.pieces f.content.toList).map Text.chomp) s cs =
        cs.mapM (m.itemOf? f)
  | [], _, _, _ => rfl
  | c :: cs, s, hs, ⟨hc, hcs⟩ => by
    rw [itemsFrom?, itemAt?_eq hs hc, Outcome.mapM_cons]
    cases m.itemOf? f c with
    | error fault => rfl
    | ok i =>
      have ih : m.itemsFrom? f f.content.toList ((Text.pieces f.content.toList).map Text.chomp)
          ⟨c.stop, Text.newlines (f.content.toList.take c.stop)⟩ cs = cs.mapM (m.itemOf? f) :=
        itemsFrom?_eq rfl hcs
      change (m.itemsFrom? f _ _ _ cs >>= _) = _
      rw [ih]
      rfl

theorem extract?_eq {d : Definition} {m : ItemMatcher} (hm : Compiled d m) (f : SourceFile) :
    m.extract? f = (m.start.captures f.content.toList).mapM (m.itemOf? f) := by
  obtain ⟨source, hsource⟩ := hm.start_ofText?
  exact itemsFrom?_eq rfl (Pattern.successive_captures hsource _)

/-- The items of matches that follow each other are **those the matches yield**, one for each. -/
theorem forall₂_itemOf?_iff {d : Definition} {m : ItemMatcher} (hm : Compiled d m) {f : SourceFile} :
    ∀ {cs : List Capture} {items : List Item}, (∀ c ∈ cs, c ∈ m.start.captures f.content.toList) →
      (List.Forall₂ (fun c i => m.itemOf? f c = .ok i) cs items ↔ List.Forall₂ (m.Yields f) cs items)
  | [], items, _ => by rw [List.forall₂_nil_left_iff, List.forall₂_nil_left_iff]
  | c :: cs, items, hmem => by
    have hc : c ∈ m.start.captures f.content.toList := hmem c List.mem_cons_self
    obtain ⟨source, hsource⟩ := hm.start_ofText?
    obtain ⟨first, hin⟩ := (Pattern.successive_captures hsource _).liesIn hc
    have ih {rest : List Item} : List.Forall₂ (fun c i => m.itemOf? f c = .ok i) cs rest ↔
        List.Forall₂ (m.Yields f) cs rest :=
      forall₂_itemOf?_iff hm fun e he => hmem e (List.mem_cons_of_mem c he)
    simp only [List.forall₂_cons_left_iff, itemOf?_eq_ok hm (captured_properties hc) hin, ih]

/-- An extraction succeeds **with the items that the matches yield**, one for each. -/
theorem extract?_eq_ok {d : Definition} {m : ItemMatcher} (hm : Compiled d m) {f : SourceFile} {items : List Item} :
    m.extract? f = .ok items ↔ List.Forall₂ (m.Yields f) (m.start.captures f.content.toList) items := by
  rw [extract?_eq hm, Outcome.mapM_eq_ok]
  exact forall₂_itemOf?_iff hm fun _ h => h

/-- The items of an extraction that succeeds, **each with the match it comes of**. -/
theorem yields_of_extract? {d : Definition} {m : ItemMatcher} (hm : Compiled d m) {f : SourceFile} {items : List Item}
    (h : m.extract? f = .ok items) :
    List.Forall₂ (fun c i => c ∈ m.start.captures f.content.toList ∧ m.Yields f c i)
      (m.start.captures f.content.toList) items :=
  (List.forall₂_and_left _ _).2 ⟨fun _ hc => hc, (extract?_eq_ok hm).1 h⟩

/-- An extraction that fails does so **for a match that has no item**. -/
theorem exists_refuses {d : Definition} {m : ItemMatcher} (hm : Compiled d m) {f : SourceFile} {fault : Fault}
    (h : m.extract? f = .error fault) : ∃ c ∈ m.start.captures f.content.toList, m.Refuses f c fault := by
  rw [extract?_eq hm] at h
  obtain ⟨before, c, after, _, hsplit, -, hc⟩ := Outcome.mapM_eq_error.1 h
  have hmem : c ∈ m.start.captures f.content.toList := by
    rw [hsplit]
    exact List.mem_append_right before List.mem_cons_self
  obtain ⟨source, hsource⟩ := hm.start_ofText?
  obtain ⟨first, hin⟩ := (Pattern.successive_captures hsource f.content.toList).liesIn hmem
  exact ⟨c, hmem, (itemOf?_eq_error hm (captured_properties hmem) hin).1 hc⟩

/-- **Extraction, match by match.** The start matches of a definition follow each other through the text; one
    item comes of each of them, in their order, or else the fault of the first that has none. -/
theorem extract_agrees {d : Definition} {m : ItemMatcher} (hm : ofDefinition? d = .ok m)
    (f : SourceFile) :
    Successive f.content.toList 0 (m.start.captures f.content.toList) ∧
    (∀ items, m.extract? f = .ok items ↔
      List.Forall₂ (m.Yields f) (m.start.captures f.content.toList) items) ∧
    ∀ fault, m.extract? f = .error fault ↔
      ∃ before c after items, m.start.captures f.content.toList = before ++ c :: after ∧
        List.Forall₂ (m.Yields f) before items ∧ m.Refuses f c fault := by
  have hc : Compiled d m := compiled_of_ofDefinition? hm
  obtain ⟨source, hsource⟩ := hc.start_ofText?
  have hsucc := Pattern.successive_captures hsource f.content.toList
  refine ⟨hsucc, fun items => ?_, fun fault => ?_⟩
  · rw [extract?_eq hc, Outcome.mapM_eq_ok]
    exact forall₂_itemOf?_iff hc fun _ h => h
  · rw [extract?_eq hc, Outcome.mapM_eq_error]
    -- what is said of the matches in front and of the one that fails differs; the split is the same
    refine exists_congr fun before => exists_congr fun c => exists_congr fun after =>
      exists_congr fun items => and_congr_right fun hsplit => ?_
    have hcmem : c ∈ m.start.captures f.content.toList := by
      rw [hsplit]
      exact List.mem_append_right before List.mem_cons_self
    obtain ⟨first, hin⟩ := hsucc.liesIn hcmem
    refine and_congr (forall₂_itemOf?_iff hc fun e he => ?_)
      (itemOf?_eq_error hc (captured_properties hcmem) hin)
    rw [hsplit]
    exact List.mem_append_left _ he

/-- Sections whose end repeats their name. -/
def sections : Definition :=
  ⟨"section", itemKind, .template "#BEGIN {name:[a-z]+}" (some "#END {name}"), ∅, [], ⟨"section.item.index"⟩⟩

/-- A file with two sections, of which the second is empty. -/
def sectionFile : SourceFile :=
  ⟨"notes", ⟨"notes.txt"⟩, default, "x\n#BEGIN foo\n#END bar\n#END foo\n#BEGIN bar\n#END bar"⟩

theorem extract_agrees_sections : ∃ m items, ofDefinition? sections = .ok m ∧
    List.Forall₂ (m.Yields sectionFile) (m.start.captures sectionFile.content.toList) items ∧
    items.map (fun i => (i.name, i.lineStart, i.lineEnd)) = [("foo", 2, 4), ("bar", 5, 6)] := by
  have hrun : (ofDefinition? sections >>= (·.extract? sectionFile)).toOption.map (·.map fun i =>
      (i.name, i.lineStart, i.lineEnd)) = some [("foo", 2, 4), ("bar", 5, 6)] := by
    decide +kernel
  cases hm : ofDefinition? sections with
  | error fault => rw [hm] at hrun; cases hrun
  | ok m =>
    rw [hm] at hrun
    change (m.extract? sectionFile).toOption.map _ = _ at hrun
    cases hitems : m.extract? sectionFile with
    | error fault => rw [hitems] at hrun; cases hrun
    | ok items =>
      rw [hitems] at hrun
      exact ⟨m, items, rfl, ((extract_agrees hm sectionFile).2.1 items).1 hitems, Option.some.inj hrun⟩

end TreeIndex.ItemMatcher
