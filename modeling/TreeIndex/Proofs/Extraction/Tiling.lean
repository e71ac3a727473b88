import TreeIndex.Proofs.Extraction.Bounds
import TreeIndex.Proofs.Text.Tiling

/-!
# Items between the other lines of a file

The source of an item is cut out of its file by line numbers, and so are the lines in front of it and behind it.

* `Item.Framed`: the source of an item **has a first line**, which its body follows, and with the lines in front of it
  and behind it, it is the whole file;
* `framed_of_within`: so it is wherever an item takes lines of its file;
* `tiled_of_extract?`: the slices of every file tile it, and **every item that is found** is framed.
-/

namespace TreeIndex

/-- An item between **the other lines of its file**. -/
structure Item.Framed (f : SourceFile) (i : Item) : Prop where
  nonempty : i.source ≠ ""
  /-- The body follows the first line of the source. -/
  first : ∃ line, (Text.pieces i.source.toList).head? = some line ∧ i.source.toList = line ++ i.body.toList
  /-- With what stands in front of it and behind it, the source is the whole file. -/
  content : f.content = f.sliceLines 1 i.lineStart ++ i.source ++ f.sliceLines i.lineEnd (f.lineCount + 1)

namespace Item

variable {f : SourceFile} {i : Item}

/-- **An item that takes lines of its file** is framed by the others. -/
theorem framed_of_within (hfile : i.file = f) (hstart : 1 ≤ i.lineStart) (hlt : i.lineStart < i.lineEnd)
    (hend : i.lineEnd ≤ f.lineCount) : i.Framed f := by
  have hcount : i.lineStart ≤ f.lineCount := by omega
  have hsource : i.source = f.sliceLines i.lineStart i.lineEnd := by
    rw [source, hfile]
  have hparts : i.source = f.sliceLines i.lineStart (i.lineStart + 1) ++ i.body := by
    rw [hsource, body, hfile]
    exact ((Text.tiled f.content).joined _ _ _ hstart (Nat.le_succ _) hlt).symm
  have hpiece : (Text.pieces f.content.toList)[i.lineStart - 1]? =
      some (f.sliceLines i.lineStart (i.lineStart + 1)).toList := Text.getElem?_pieces hstart hcount
  have hhead : (Text.pieces i.source.toList).head? = some (f.sliceLines i.lineStart (i.lineStart + 1)).toList := by
    rw [hsource, SourceFile.sliceLines, Text.pieces_sliceLines, List.head?_take, if_neg (by omega), List.head?_drop,
      hpiece]
  refine ⟨fun hempty => ?_, ⟨_, hhead, by rw [hparts, String.toList_append]⟩, ?_⟩
  · rw [hempty] at hhead
    cases hhead
  · have htiled := Text.tiled f.content
    have hfront := htiled.joined 1 i.lineStart i.lineEnd (Nat.le_refl 1) hstart (Nat.le_of_lt hlt)
    have hback := htiled.joined 1 i.lineEnd (f.lineCount + 1) (Nat.le_refl 1) (by omega) (by omega)
    rw [hsource, SourceFile.sliceLines, SourceFile.sliceLines, SourceFile.sliceLines, hfront, hback]
    exact htiled.whole.symm

end Item

/-- The slices of every file tile it, and **every item that is found** in a file is framed by its other lines. -/
theorem tiled_of_extract? (f : SourceFile) : Text.Tiled f.content ∧ ∀ (d : Definition) (m : ItemMatcher)
    (items : List Item), ItemMatcher.ofDefinition? d = .ok m → m.extract? f = .ok items → ∀ i ∈ items, i.Framed f := by
  refine ⟨Text.tiled f.content, fun d m items hm h i hi => ?_⟩
  have hyields := ItemMatcher.yields_of_extract? (ItemMatcher.compiled_of_ofDefinition? hm) h
  obtain ⟨c, -, -, hc⟩ := Outcome.exists_mem_of_forall₂ hyields hi
  obtain ⟨hstart, hlt, hend⟩ := hc.within
  rw [hc.file] at hend
  exact Item.framed_of_within hc.file hstart hlt hend

/-- A file with a call whose lines end with carriage returns, and **whose last line has no ending**. -/
def returnFile : SourceFile :=
  ⟨"returns", ⟨"returns.txt"⟩, default, "one\r\na(\r\ntwo\r\n)"⟩

theorem tiled_of_extract?_returns : ∃ m items, ItemMatcher.ofDefinition? ItemMatcher.calls = .ok m ∧
    m.extract? returnFile = .ok items ∧ (∀ i ∈ items, i.Framed returnFile) ∧
    items.map (fun i => (i.source, i.body)) = [("a(\r\ntwo\r\n", "two\r\n")] := by
  have hrun : (ItemMatcher.ofDefinition? ItemMatcher.calls >>= fun m => (m.extract? returnFile).map
      (·.map fun i => (i.source, i.body))).toOption = some [("a(\r\ntwo\r\n", "two\r\n")] := by
    decide +kernel
  obtain ⟨m, hm, hrun⟩ := Outcome.bind_eq_ok.1 (Outcome.toOption_eq_some.1 hrun)
  obtain ⟨items, hitems, htexts⟩ := Outcome.map_eq_ok hrun
  exact ⟨m, items, hm, hitems, (tiled_of_extract? returnFile).2 ItemMatcher.calls m items hm hitems, htexts⟩

end TreeIndex
