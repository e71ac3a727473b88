import TreeIndex.Proofs.Record.Identity

/-!
# What an id is the digest of

An id is the digest of bytes that say what a component is. Where no path holds the byte `0x1f` and no definition is
named with a colon, the names of components may hold anything: **the bytes still tell components apart**.

* `utf8_inj`, `mem_utf8_iff`: a text is known by its bytes, and the byte of an ASCII character stands among them
  only where the character stands in the text;
* `Component.hashed`, `id_ofComponent`: the bytes whose digest is the id of a component's record;
* `Component.Legible`: no byte `0x1f` in the path as it is shown, no colon in the name of the definition of an item;
* `hashed_eq_iff_alike`: the bytes of two legible components are equal **exactly if they are alike** -- of one kind,
  path and name, and items of one definition and first line;
* `hashed_eq_of_moved_separator`, `hashed_eq_of_moved_colons`: neither condition can be left out.
-/

namespace TreeIndex

/-! ## 1. The bytes of texts -/

/-- The bytes of a text are **those of its characters**, one after another. -/
theorem toList_utf8 (s : String) : s.toUTF8.toList = s.toList.flatMap String.utf8EncodeChar := by
  have hencoded : s.toUTF8 = s.toList.utf8Encode := String.utf8Encode_toList.symm
  rw [toList_eq_data_toList, hencoded, List.utf8Encode, List.data_toByteArray]

/-- A text is **known by its bytes**. -/
theorem utf8_inj {s t : String} : s.toUTF8.toList = t.toUTF8.toList ↔ s = t := by
  constructor
  · intro h
    rw [toList_eq_data_toList, toList_eq_data_toList] at h
    exact String.toByteArray_inj.1 (ByteArray.ext (Array.toList_inj.1 h))
  · intro h
    rw [h]

/-- An ASCII character takes **one byte**. -/
theorem utf8EncodeChar_of_ascii {c : Char} (h : c.toNat < 128) : String.utf8EncodeChar c = [c.val.toUInt8] :=
  String.utf8EncodeChar_eq_singleton (Char.utf8Size_eq_one_iff.2 (UInt32.le_iff_toNat_le.2 (Nat.le_of_lt_succ h)))

/-- That byte **is its number**. -/
theorem toNat_toUInt8_of_ascii {c : Char} (h : c.toNat < 128) : c.val.toUInt8.toNat = c.toNat := by
  rw [UInt32.toNat_toUInt8]
  exact Nat.mod_eq_of_lt (Nat.lt_trans h (by decide))

/-- Of any other character, **no byte is one of ASCII**. -/
theorem le_of_mem_utf8EncodeChar {x : Char} (h : 128 ≤ x.toNat) {b : UInt8}
    (hb : b ∈ String.utf8EncodeChar x) : 128 ≤ b.toNat := by
  have hval : x.val.toNat = x.toNat := rfl
  rw [String.utf8EncodeChar, hval, if_neg (by omega)] at hb
  -- two, three or four bytes: the first has 192 or more added to it, and all others 128
  split_ifs at hb <;> simp only [List.mem_cons, List.not_mem_nil, or_false] at hb
  · rcases hb with rfl | rfl <;> rw [UInt8.toNat_ofNat'] <;> omega
  · rcases hb with rfl | rfl | rfl <;> rw [UInt8.toNat_ofNat'] <;> omega
  · rcases hb with rfl | rfl | rfl | rfl <;> rw [UInt8.toNat_ofNat'] <;> omega

/-- The byte of an ASCII character stands in the bytes of a text **exactly if the character stands in the text**. -/
theorem mem_utf8_iff {c : Char} (hc : c.toNat < 128) {s : String} :
    c.val.toUInt8 ∈ s.toUTF8.toList ↔ c ∈ s.toList := by
  rw [toList_utf8, List.mem_flatMap]
  constructor
  · intro h
    obtain ⟨x, hx, hmem⟩ := h
    by_cases hascii : x.toNat < 128
    · rw [utf8EncodeChar_of_ascii hascii, List.mem_singleton] at hmem
      have hsame : c.toNat = x.toNat := by
        rw [← toNat_toUInt8_of_ascii hc, hmem, toNat_toUInt8_of_ascii hascii]
      exact Char.toNat_inj.1 hsame ▸ hx
    · have hlarge := le_of_mem_utf8EncodeChar (Nat.le_of_not_lt hascii) hmem
      rw [toNat_toUInt8_of_ascii hc] at hlarge
      omega
  · intro h
    refine ⟨c, h, ?_⟩
    rw [utf8EncodeChar_of_ascii hc]
    exact List.mem_singleton_self _

/-! ## 2. The bytes of components -/

namespace Component

variable {root root' : Path} {c c' : Component}

/-- **The bytes that are hashed** for a component, as it is seen from a root. -/
def hashed (root : Path) (c : Component) : List UInt8 :=
  (c.identityFrom root).toUTF8.toList

/-- The id of a component's record **is the digest of those bytes**, in base sixteen. -/
theorem id_ofComponent (root : Path) (c : Component) : (Record.ofComponent root c).id =
    String.ofList ((Digest.sha256 (c.hashed root)).flatMap Digest.wordText) :=
  rfl

/-- What a component is can be **read from its bytes**: the byte `0x1f` does not stand in its path as it is shown,
    and if it is an item, no colon stands in the name of its definition. -/
structure Legible (root : Path) (c : Component) : Prop where
  path : 0x1f ∉ (c.path.shownFrom root).toUTF8.toList
  definition : ∀ i, c = .item i → ':' ∉ i.definition.name.toList

theorem Legible.separator_notMem (h : c.Legible root) : '\x1f' ∉ (c.path.shownFrom root).toList :=
  fun hmem => h.path ((mem_utf8_iff (by decide)).2 hmem)

/-- A name without a colon **ends at the first one** behind it, so it does not begin another such name. -/
theorem Legible.foundApart (h : c.Legible root) (h' : c'.Legible root') : c.FoundApart c' := by
  have hends : ∀ d d' : Definition, ':' ∉ d.name.toList → ':' ∉ d'.name.toList →
      beginning d <+: beginning d' → d.name = d'.name := by
    intro d d' hd hd' hprefix
    obtain ⟨rest, hrest⟩ := hprefix
    rw [beginning, beginning, String.toList_append, String.toList_append, List.append_assoc] at hrest
    exact String.toList_injective (append_separator_inj hd hd' hrest).1
  intro i j hi hj hbegins
  have hname := h.definition i hi
  have hname' := h'.definition j hj
  rcases hbegins with hbegins | hbegins
  · exact hends i.definition j.definition hname hname' hbegins
  · exact (hends j.definition i.definition hname' hname hbegins).symm

/-- **The bytes tell components apart.** Whatever their names hold, and whichever roots they are seen from: the same
    bytes are hashed for two legible components exactly if they have one kind, one path as it is shown and one name,
    and for items also one name of the definition and one first line. -/
theorem hashed_eq_iff_alike (h : c.Legible root) (h' : c'.Legible root') :
    c.hashed root = c'.hashed root' ↔ Alike root root' c c' := by
  rw [hashed, hashed, utf8_inj]
  exact identityFrom_eq_iff_alike h.separator_notMem h'.separator_notMem (h.foundApart h')

/-- An item whose name holds all **that stands between the parts** of an identity, in a file of some folder. -/
def oddlyNamed (folder : String) : Component :=
  .item
    { name := "1\x1f::2:3"
      file := { name := "a", path := ⟨folder ++ "/a.txt"⟩, definition := default, content := "" }
      definition := { (default : Definition) with name := "part" }
      lineStart := 4
      lineEnd := 5
      properties := ∅ }

theorem legible_oddlyNamed (folder : String) (root : Path)
    (h : (oddlyNamed folder).path.shownFrom root = "a.txt") : (oddlyNamed folder).Legible root := by
  refine ⟨?_, ?_⟩
  · rw [h]
    exact fun hbyte => absurd ((mem_utf8_iff (c := '\x1f') (by decide)).1 hbyte) (by decide)
  · intro i hi
    have hnamed : i.definition.name = "part" := by
      rw [← item.inj hi]
    rw [hnamed]
    decide

/-- In two folders, each of them taken for the root, the item **has the same bytes**, and so it is alike. -/
theorem hashed_eq_iff_alike_oddlyNamed :
    (oddlyNamed "/work").Legible ⟨"/work"⟩ ∧ (oddlyNamed "/home/docs").Legible ⟨"/home/docs"⟩ ∧
      (oddlyNamed "/work").hashed ⟨"/work"⟩ = (oddlyNamed "/home/docs").hashed ⟨"/home/docs"⟩ ∧
      Alike ⟨"/work"⟩ ⟨"/home/docs"⟩ (oddlyNamed "/work") (oddlyNamed "/home/docs") := by
  have hwork := legible_oddlyNamed "/work" ⟨"/work"⟩ (by decide +kernel)
  have hhome := legible_oddlyNamed "/home/docs" ⟨"/home/docs"⟩ (by decide +kernel)
  have hidentities : (oddlyNamed "/work").identityFrom ⟨"/work"⟩ =
      (oddlyNamed "/home/docs").identityFrom ⟨"/home/docs"⟩ := by
    decide +kernel
  have hhashed := utf8_inj.2 hidentities
  exact ⟨hwork, hhome, hhashed, (hashed_eq_iff_alike hwork hhome).1 hhashed⟩

/-! ## 3. What takes both conditions -/

/-- A name **is not that name behind others**, with something between them. -/
theorem name_ne_append {name more between : String} (h : 0 < between.length) : name ≠ more ++ between ++ name := by
  intro heq
  have hlength := congrArg String.length heq
  rw [String.length_append, String.length_append] at hlength
  omega

/-- A separator that stands in a path **is mistaken for the one behind the path**: a project whose path holds one has
    the bytes of another project that has the rest of that path in its name. -/
theorem hashed_eq_of_moved_separator {p q : Project} {path more : String}
    (hpath : p.path.shownFrom root = path ++ unitSeparator ++ more) (hpath' : q.path.shownFrom root' = path)
    (hname : q.name = more ++ unitSeparator ++ p.name) :
    (project p).hashed root = (project q).hashed root' ∧ ¬ Alike root root' (project p) (project q) := by
  have hidentity : (project p).identityFrom root = identity .project (path ++ unitSeparator ++ more) p.name :=
    congrArg (identity .project · p.name) hpath
  have hidentity' : (project q).identityFrom root' = identity .project path (more ++ unitSeparator ++ p.name) :=
    congrArg₂ (identity .project) hpath' hname
  refine ⟨utf8_inj.2 ?_, fun h => name_ne_append (by decide) (Eq.trans h.name hname)⟩
  rw [hidentity, hidentity']
  simp only [identity, String.append_assoc]

/-- Colons that stand in the name of a definition **are mistaken for those behind the name**: an item that such a
    definition has found has the bytes of one with the rest of the definition's name in its own. -/
theorem hashed_eq_of_moved_colons {i j : Item} {more : String}
    (hpath : i.file.path.shownFrom root = j.file.path.shownFrom root')
    (hdefinition : i.definition.name = j.definition.name ++ "::" ++ more)
    (hname : j.name = more ++ "::" ++ i.name) (hline : i.lineStart = j.lineStart) :
    (item i).hashed root = (item j).hashed root' ∧ ¬ Alike root root' (item i) (item j) := by
  have hfull : qualifiedName (item i) = qualifiedName (item j) := by
    simp only [qualifiedName, hdefinition, hname, hline, String.append_assoc]
  refine ⟨utf8_inj.2 ?_, fun h => name_ne_append (by decide) (Eq.trans h.name hname)⟩
  exact congrArg₂ (identity .item) hpath hfull

end Component

end TreeIndex
