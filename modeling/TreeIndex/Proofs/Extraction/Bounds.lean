import TreeIndex.Proofs.Extraction.Items

/-!
# Where items stand

The items of a definition stand in the order of the text, each of them within the lines of its file.

* `Successive.le_start`, `Successive.pairwise`: of two matches the second one begins where the first one ends, or
  behind that;
* `CanEnd.of_le`: a line that can end the item of a match **can end that of an earlier one**, by the same pattern,
  so the first such line moves only forward (`FirstEnd.le`);
* `Binds.unique_of_isStatic`: where nothing is bound late, all matches have the same end pattern;
* `InOrder`, `inOrder_of_extract?`: the lines of all items that an extraction finds.

Where an end is bound late nothing is said of the order of the last lines: an item within another one may end
before it.
-/

namespace TreeIndex

/-! ## 1. Two matches -/

namespace Pattern

/-- No match begins **in front of the position** from which matches follow each other. -/
theorem Successive.le_start {text : List Char} {c : Capture} : ∀ {cs : List Capture} {first : Nat},
    Successive text first cs → c ∈ cs → first ≤ c.start
  | d :: cs, first, ⟨hd, hcs⟩, h => by
    rcases List.mem_cons.1 h with rfl | h
    · exact hd.first_le
    · exact Nat.le_trans (Nat.le_trans hd.first_le hd.start_le) (hcs.le_start h)

/-- Of two matches the second one begins **where the first one ends**, or behind that. -/
theorem Successive.pairwise {text : List Char} : ∀ {cs : List Capture} {first : Nat},
    Successive text first cs → cs.Pairwise fun c d => c.stop ≤ d.start
  | [], _, _ => List.Pairwise.nil
  | _ :: _, _, ⟨_, hcs⟩ => List.pairwise_cons.2 ⟨fun _ hd => hcs.le_start hd, hcs.pairwise⟩

end Pattern

namespace ItemMatcher

open Pattern (Capture Successive)

section Lines

variable {text : List Char} {stop : Pattern} {c d : Capture} {n k : Nat}

/-- A match that begins later does not begin **on an earlier line**. -/
theorem lineOf_mono (h : c.start ≤ d.start) : lineOf text c ≤ lineOf text d :=
  Nat.add_le_add_left ((List.take_prefix_take_left h).sublist.count_le '\n') 1

theorem CanEnd.le_length (h : CanEnd stop text c n) : n ≤ (Text.pieces text).length := by
  obtain ⟨hline, -, _, hpiece, -⟩ := h
  have := (List.getElem?_eq_some_iff.1 hpiece).1
  omega

/-- A line that can end the item of a match **can end that of an earlier one**, by the same pattern. -/
theorem CanEnd.of_le (hstart : c.start ≤ d.start) (hstop : c.stop ≤ d.stop) (h : CanEnd stop text d n) :
    CanEnd stop text c n :=
  ⟨Nat.lt_of_le_of_lt (lineOf_mono hstart) h.1, Nat.le_trans hstop h.2.1, h.2.2⟩

/-- So the first line that ends an item **moves only forward** with the matches. -/
theorem FirstEnd.le (hstart : c.start ≤ d.start) (hstop : c.stop ≤ d.stop) (hc : FirstEnd stop text c n)
    (hd : FirstEnd stop text d k) : n ≤ k :=
  Nat.le_of_not_lt fun hlt => hc.2 k hlt (hd.1.of_le hstart hstop)

end Lines

/-- Where nothing is bound late, all matches have **the same end pattern**. -/
theorem Binds.unique_of_isStatic {m : ItemMatcher} (hm : m.stop.isStatic = true) {c d : Capture}
    {p q : Pattern} (hc : m.Binds c p) (hd : m.Binds d q) : p = q := by
  obtain ⟨_, text, -, htext, hp⟩ := hc
  obtain ⟨_, more, -, hmore, hq⟩ := hd
  rw [bind?_of_isStatic hm] at htext hmore
  cases htext
  cases hmore
  exact Except.ok.inj (hp.symm.trans hq)

/-! ## 2. All items -/

/-- Items **in the order of the text**, as a matcher finds them. -/
structure InOrder (m : ItemMatcher) (items : List Item) : Prop where
  /-- Each of them takes at least one line, and all its lines are lines of its file, that which ends it too. -/
  within : ∀ i ∈ items, 1 ≤ i.lineStart ∧ i.lineStart < i.lineEnd ∧ i.lineEnd ≤ Text.lineCount i.file.content
  /-- They begin one after the other, or on the same line. -/
  lineStart : items.Pairwise fun i j => i.lineStart ≤ j.lineStart
  /-- And where nothing is bound late they end so. -/
  lineEnd : m.stop.isStatic = true → items.Pairwise fun i j => i.lineEnd ≤ j.lineEnd

theorem Yields.within {m : ItemMatcher} {f : SourceFile} {c : Capture} {i : Item} (h : m.Yields f c i) :
    1 ≤ i.lineStart ∧ i.lineStart < i.lineEnd ∧ i.lineEnd ≤ Text.lineCount i.file.content := by
  obtain ⟨stop, -, hend⟩ := h.lineEnd
  rw [h.file, h.lineStart]
  exact ⟨Nat.le_add_right 1 _, hend.1.1, hend.1.le_length⟩

/-- **The items that an extraction finds** stand in the order of the text. -/
theorem inOrder_of_extract? {d : Definition} {m : ItemMatcher} (hm : ofDefinition? d = .ok m)
    {f : SourceFile} {items : List Item} (h : m.extract? f = .ok items) : InOrder m items := by
  have hc : Compiled d m := compiled_of_ofDefinition? hm
  have hyields := (extract?_eq_ok hc).1 h
  obtain ⟨source, hsource⟩ := hc.start_ofText?
  have hsucc := Pattern.successive_captures hsource f.content.toList
  -- of two matches the second one neither begins nor ends in front of the first one
  have hmatches : (m.start.captures f.content.toList).Pairwise fun c e =>
      c.start ≤ e.start ∧ c.stop ≤ e.stop := by
    refine hsucc.pairwise.imp_of_mem fun {c e} hc he hle => ?_
    obtain ⟨_, hcin⟩ := hsucc.liesIn hc
    obtain ⟨_, hein⟩ := hsucc.liesIn he
    exact ⟨Nat.le_trans hcin.start_le hle, Nat.le_trans hle hein.start_le⟩
  refine ⟨fun i hi => ?_, ?_, fun hstatic => ?_⟩
  · obtain ⟨c, -, hc⟩ := Outcome.exists_mem_of_forall₂ hyields hi
    exact hc.within
  · refine Outcome.pairwise_of_forall₂ hyields hmatches fun c e i j hle hi hj => ?_
    rw [hi.lineStart, hj.lineStart]
    exact lineOf_mono hle.1
  · refine Outcome.pairwise_of_forall₂ hyields hmatches fun c e i j hle hi hj => ?_
    obtain ⟨p, hp, hend⟩ := hi.lineEnd
    obtain ⟨q, hq, hend'⟩ := hj.lineEnd
    obtain rfl := hp.unique_of_isStatic hstatic hq
    exact hend.le hle.1 hle.2 hend'

/-- Calls, which end at a line with a closing bracket; what opens one may take its newline along. -/
def calls : Definition :=
  ⟨"call", itemKind, .template "{name:[a-z]}\\(\n?" (some "\\)"), ∅, [], ⟨"call.item.index"⟩⟩

/-- A file in which two calls begin on one line, and three end on one line. -/
def callFile : SourceFile :=
  ⟨"calls", ⟨"calls.txt"⟩, default, "a(b(\nc(\n)\nd(\n)"⟩

theorem inOrder_calls : ∃ m items, ofDefinition? calls = .ok m ∧ m.extract? callFile = .ok items ∧
    m.stop.isStatic = true ∧ InOrder m items ∧
    items.map (fun i => (i.name, i.lineStart, i.lineEnd)) = [("a", 1, 3), ("b", 1, 3), ("c", 2, 3), ("d", 4, 5)] := by
  have hrun : (ofDefinition? calls >>= fun m => (m.extract? callFile).map fun items => (m.stop.isStatic,
      items.map fun i => (i.name, i.lineStart, i.lineEnd))).toOption =
        some (true, [("a", 1, 3), ("b", 1, 3), ("c", 2, 3), ("d", 4, 5)]) := by
    decide +kernel
  obtain ⟨m, hm, hrun⟩ := Outcome.bind_eq_ok.1 (Outcome.toOption_eq_some.1 hrun)
  cases hitems : m.extract? callFile with
  | error fault =>
    rw [hitems] at hrun
    cases hrun
  | ok items =>
    rw [hitems] at hrun
    obtain ⟨hstatic, hlines⟩ := Prod.mk.inj (Except.ok.inj hrun)
    exact ⟨m, items, hm, hitems, hstatic, inOrder_of_extract? hm hitems, hlines⟩

end ItemMatcher

end TreeIndex
