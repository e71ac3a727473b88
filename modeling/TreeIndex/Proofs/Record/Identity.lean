import TreeIndex.Proofs.Disk.Shown
import TreeIndex.Record
import TreeIndex.Scope

/-!
# What an identity tells apart

The identity of a component is one text, in which its kind, its path and its name are put behind each other.

* `identity_injective`: where no separator stands in the paths, **kind, path and name are read back** from it;
* `qualifiedName_item_injective`: the definition, the name and the first line of an item are read back from its
  name in full, if the name of neither definition, followed by two colons, begins with that of the other;
* `Component.Alike`: kind, path as it is shown and name agree, and for items the definition and the first line;
  `identityFrom_eq_iff_alike`: **that is what two equal identities say**, whichever roots they are seen from;
* `Component.Doubles`: the same component, and for items also the same definition and first line;
* `Scope.Separable`: no separator stands in a path as it is shown, and no name of a definition begins another;
* `Located`: the path of a component is the path to some location, so doubles are what is alike (`alike_iff_doubles`);
* `identityFrom_eq_iff`: so two components have one identity **exactly if they are doubles**;
* `nodup_identities_iff`: the identities of a scope differ if no two of its components are doubles, and then so
  do the ids, unless two identities have one digest (`nodup_ids_iff`).
-/

namespace TreeIndex

/-! ## 1. Texts with a separator -/

/-- What stands in front of the **first separator** is read back, and so is what stands behind it. -/
theorem append_separator_inj {α : Type} {sep : α} : ∀ {a b c d : List α}, sep ∉ a → sep ∉ b →
    a ++ sep :: c = b ++ sep :: d → a = b ∧ c = d
  | [], [], _, _, _, _, h => ⟨rfl, (List.cons.inj h).2⟩
  | [], y :: _, _, _, _, hb, h => absurd ((List.cons.inj h).1 ▸ List.mem_cons_self) hb
  | x :: _, [], _, _, ha, _, h => absurd ((List.cons.inj h).1 ▸ List.mem_cons_self) ha
  | x :: a, y :: b, c, d, ha, hb, h => by
    obtain ⟨hxy, h⟩ := List.cons.inj h
    obtain ⟨hab, hcd⟩ := append_separator_inj (fun hm => ha (List.mem_cons_of_mem x hm))
      (fun hm => hb (List.mem_cons_of_mem y hm)) h
    exact ⟨by rw [hxy, hab], hcd⟩

/-- What stands behind the **last separator** is read back, and so is what stands in front of it. -/
theorem append_last_separator_inj {α : Type} {sep : α} {a b c d : List α} (hc : sep ∉ c) (hd : sep ∉ d)
    (h : a ++ sep :: c = b ++ sep :: d) : a = b ∧ c = d := by
  have hreverse := congrArg List.reverse h
  simp only [List.reverse_append, List.reverse_cons, List.append_assoc, List.singleton_append] at hreverse
  obtain ⟨hcd, hab⟩ := append_separator_inj (fun hm => hc (List.mem_reverse.1 hm))
    (fun hm => hd (List.mem_reverse.1 hm)) hreverse
  exact ⟨List.reverse_injective hab, List.reverse_injective hcd⟩

/-- A number is written **without a colon**. -/
theorem colon_notMem_toString (n : Nat) : ':' ∉ (toString n).toList := by
  rw [Nat.toString_eq_repr, Nat.toList_repr]
  intro hmem
  have hdigit := Nat.isDigit_of_mem_toDigits (by decide) (by decide) hmem
  exact absurd hdigit (by decide)

/-! ## 2. Identities -/

/-- **Kind, path and name are read back** from an identity, if no separator stands in the paths. -/
theorem identity_injective {kind kind' : ComponentKind} {path path' name name' : String}
    (hpath : '\x1f' ∉ path.toList) (hpath' : '\x1f' ∉ path'.toList)
    (h : identity kind path name = identity kind' path' name') :
    kind = kind' ∧ path = path' ∧ name = name' := by
  have hkind : ∀ k : ComponentKind, '\x1f' ∉ k.name.toList := by
    intro k
    cases k <;> decide
  have hwritten : ∀ (k : ComponentKind) (p n : String), (identity k p n).toList =
      k.name.toList ++ '\x1f' :: (p.toList ++ '\x1f' :: n.toList) := by
    intro k p n
    simp only [identity, String.toList_append, List.append_assoc]
    rfl
  have hlist := congrArg String.toList h
  rw [hwritten, hwritten] at hlist
  obtain ⟨hk, hlist⟩ := append_separator_inj (hkind kind) (hkind kind') hlist
  obtain ⟨hp, hn⟩ := append_separator_inj hpath hpath' hlist
  refine ⟨?_, String.toList_injective hp, String.toList_injective hn⟩
  cases kind <;> cases kind' <;> first | rfl | exact absurd hk (by decide)

/-- The name of a definition **as it begins** the name in full of an item. -/
def beginning (definition : Definition) : List Char :=
  (definition.name ++ "::").toList

/-- The name in full of an item says its **definition, name and first line**, if neither of the names of two
    definitions begins with the other one. -/
theorem qualifiedName_item_injective {i j : Item}
    (hi : beginning i.definition <+: beginning j.definition → i.definition.name = j.definition.name)
    (hj : beginning j.definition <+: beginning i.definition → j.definition.name = i.definition.name)
    (h : qualifiedName (.item i) = qualifiedName (.item j)) :
    i.definition.name = j.definition.name ∧ i.name = j.name ∧ i.lineStart = j.lineStart := by
  have hwritten : ∀ k : Item, (qualifiedName (.item k)).toList =
      (beginning k.definition ++ k.name.toList) ++ ':' :: (toString k.lineStart).toList := by
    intro k
    simp only [qualifiedName, beginning, String.toList_append, List.append_assoc]
    rfl
  have hlist := congrArg String.toList h
  rw [hwritten, hwritten] at hlist
  obtain ⟨hnamed, hline⟩ := append_last_separator_inj (colon_notMem_toString _) (colon_notMem_toString _) hlist
  have hdefinition : i.definition.name = j.definition.name := by
    have hfirst : beginning i.definition <+: beginning j.definition ++ j.name.toList :=
      hnamed ▸ List.prefix_append _ _
    rcases List.prefix_or_prefix_of_prefix hfirst (List.prefix_append _ _) with hprefix | hprefix
    · exact hi hprefix
    · exact (hj hprefix).symm
  have hbeginning : beginning i.definition = beginning j.definition := by
    rw [beginning, hdefinition, beginning]
  rw [hbeginning] at hnamed
  refine ⟨hdefinition, String.toList_injective (List.append_cancel_left hnamed), ?_⟩
  rw [Nat.toString_eq_repr, Nat.toString_eq_repr, Nat.toList_repr, Nat.toList_repr] at hline
  rw [← Nat.ofDigitChars_ten_toDigits (n := i.lineStart), hline, Nat.ofDigitChars_ten_toDigits]

/-! ## 3. Components -/

namespace Component

/-- **The identity of a component**, as it is seen from a root. -/
def identityFrom (root : Path) (c : Component) : String :=
  identity c.kind (c.path.shownFrom root) (qualifiedName c)

/-- Where an item was found: by which definition, and on which line it starts. -/
def origin? (c : Component) : Option (String × Nat) :=
  c.item?.map fun i => (i.definition.name, i.lineStart)

/-- The same component: kind, name and path agree, and for items **the definition and the first line** do too. -/
def Doubles (c c' : Component) : Prop :=
  c.same c' = true ∧ c.origin? = c'.origin?

/-- The path of a component **is the path to some location**. -/
def Located (c : Component) : Prop :=
  ∃ loc : Disk.Location, c.path = Disk.pathTo loc ∧ ∀ name ∈ loc, Disk.isEntryName name = true

variable {root : Path} {c c' : Component}

/-- Components that are known by paths to locations have one path **if it is shown as one**. -/
theorem Located.shownFrom_eq_iff (hc : c.Located) (hc' : c'.Located) :
    c.path.shownFrom root = c'.path.shownFrom root ↔ c.path.steps = c'.path.steps := by
  obtain ⟨loc, hpath, hnames⟩ := hc
  obtain ⟨loc', hpath', hnames'⟩ := hc'
  rw [hpath, hpath']
  constructor
  · intro h
    rw [Disk.shownFrom_pathTo_injective root hnames hnames' h]
  · intro h
    rw [Disk.eq_of_steps_pathTo hnames hnames' h]

theorem exists_item (h : c.kind = .item) : ∃ i, c = .item i := by
  cases c with
  | item i => exact ⟨i, rfl⟩
  | file f => cases h
  | project p => cases h

theorem origin?_of_kind (h : c.kind ≠ .item) : c.origin? = none ∧ qualifiedName c = c.name := by
  cases c with
  | item i => exact absurd rfl h
  | file f => exact ⟨rfl, rfl⟩
  | project p => exact ⟨rfl, rfl⟩

/-- If both are items, **the name of neither definition**, followed by two colons, begins with that of the other. -/
def FoundApart (c c' : Component) : Prop :=
  ∀ i j, c = .item i → c' = .item j →
    beginning i.definition <+: beginning j.definition ∨ beginning j.definition <+: beginning i.definition →
    i.definition.name = j.definition.name

/-- The name in full **says the name, and of an item its definition and first line**, if no name of a definition is
    mistaken for the other one. -/
theorem qualifiedName_eq_iff (hkind : c.kind = c'.kind) (hdefinitions : c.FoundApart c') :
    qualifiedName c = qualifiedName c' ↔ c.name = c'.name ∧ c.origin? = c'.origin? := by
  by_cases hitem : c.kind = .item
  · obtain ⟨i, rfl⟩ := exists_item hitem
    obtain ⟨j, rfl⟩ := exists_item (hkind ▸ hitem)
    have hnamed := hdefinitions i j rfl rfl
    constructor
    · intro h
      obtain ⟨hdefinition, hname, hline⟩ := qualifiedName_item_injective (fun hi => hnamed (Or.inl hi))
        (fun hj => (hnamed (Or.inr hj)).symm) h
      exact ⟨hname, congrArg some (Prod.ext hdefinition hline)⟩
    · intro h
      have hname : i.name = j.name := h.1
      obtain ⟨hdefinition, hline⟩ := Prod.mk.inj (Option.some.inj h.2)
      rw [qualifiedName, qualifiedName, hdefinition, hname, hline]
  · obtain ⟨horigin, hplain⟩ := origin?_of_kind hitem
    obtain ⟨horigin', hplain'⟩ := origin?_of_kind (hkind ▸ hitem)
    rw [hplain, hplain', horigin, horigin']
    exact (and_iff_left rfl).symm

/-- Two components, each seen from a root of its own, are **alike in all that an identity is to say**. -/
structure Alike (root root' : Path) (c c' : Component) : Prop where
  kind : c.kind = c'.kind
  path : c.path.shownFrom root = c'.path.shownFrom root'
  name : c.name = c'.name
  origin : c.origin? = c'.origin?

/-- **Equal identities are those of alike components**, if no separator stands in the paths and no name of a
    definition is mistaken for the other one. -/
theorem identityFrom_eq_iff_alike {root' : Path} (hpath : '\x1f' ∉ (c.path.shownFrom root).toList)
    (hpath' : '\x1f' ∉ (c'.path.shownFrom root').toList) (hdefinitions : c.FoundApart c') :
    c.identityFrom root = c'.identityFrom root' ↔ Alike root root' c c' := by
  constructor
  · intro h
    obtain ⟨hkind, hshown, hfull⟩ := identity_injective hpath hpath' h
    obtain ⟨hname, horigin⟩ := (qualifiedName_eq_iff hkind hdefinitions).1 hfull
    exact ⟨hkind, hshown, hname, horigin⟩
  · intro h
    have hfull := (qualifiedName_eq_iff h.kind hdefinitions).2 ⟨h.name, h.origin⟩
    rw [identityFrom, identityFrom, h.kind, h.path, hfull]

/-- Of components that are known by paths to locations, those that are alike **are doubles**. -/
theorem alike_iff_doubles (hc : c.Located) (hc' : c'.Located) : Alike root root c c' ↔ c.Doubles c' := by
  have hpaths : c.path.shownFrom root = c'.path.shownFrom root ↔ c.path.steps = c'.path.steps :=
    hc.shownFrom_eq_iff hc'
  constructor
  · intro h
    exact ⟨same_iff.2 ⟨h.kind, h.name, hpaths.1 h.path⟩, h.origin⟩
  · intro h
    obtain ⟨hkind, hname, hsteps⟩ := same_iff.1 h.1
    exact ⟨hkind, hpaths.2 hsteps, hname, h.2⟩

end Component

/-! ## 4. Scopes -/

namespace Scope

/-- **No separator is mistaken**: none stands in a path as it is shown, and no name of a definition by which
    items were found begins another one. -/
structure Separable (s : Scope) (root : Path) : Prop where
  paths : ∀ c ∈ s, '\x1f' ∉ (c.path.shownFrom root).toList
  definitions : ∀ i j, Component.item i ∈ s → Component.item j ∈ s →
    beginning i.definition <+: beginning j.definition → i.definition.name = j.definition.name

variable {s : Scope} {root : Path}

/-- Two components have **one identity exactly if they are doubles**. -/
theorem identityFrom_eq_iff (hs : s.Separable root) (hlocated : ∀ c ∈ s, c.Located) {c c' : Component}
    (hc : c ∈ s) (hc' : c' ∈ s) : c.identityFrom root = c'.identityFrom root ↔ c.Doubles c' := by
  have hdefinitions : c.FoundApart c' := by
    intro i j hi hj hbegins
    subst hi hj
    rcases hbegins with hbegins | hbegins
    · exact hs.definitions i j hc hc' hbegins
    · exact (hs.definitions j i hc' hc hbegins).symm
  rw [Component.identityFrom_eq_iff_alike (hs.paths c hc) (hs.paths c' hc') hdefinitions]
  exact Component.alike_iff_doubles (hlocated c hc) (hlocated c' hc')

/-- The identities of a scope **differ if no two components are doubles**. -/
theorem nodup_identities_iff (hs : s.Separable root) (hlocated : ∀ c ∈ s, c.Located) :
    (s.map (Component.identityFrom root)).Nodup ↔ s.Pairwise fun c c' => ¬ c.Doubles c' := by
  rw [List.Nodup, List.pairwise_map]
  constructor
  · intro h
    exact h.imp_of_mem fun hc hc' hne hdoubles =>
      hne ((identityFrom_eq_iff hs hlocated hc hc').2 hdoubles)
  · intro h
    exact h.imp_of_mem fun hc hc' hne heq =>
      hne ((identityFrom_eq_iff hs hlocated hc hc').1 heq)

/-- **No two identities of the scope have one digest.** -/
def DigestsApart (s : Scope) (root : Path) : Prop :=
  ∀ c ∈ s, ∀ c' ∈ s, Digest.digestText (c.identityFrom root) = Digest.digestText (c'.identityFrom root) →
    c.identityFrom root = c'.identityFrom root

/-- Where no two identities have one digest, **ids differ exactly where identities do**. -/
theorem nodup_ids_iff (hs : s.DigestsApart root) :
    (s.map fun c => (Record.ofComponent root c).id).Nodup ↔ (s.map (Component.identityFrom root)).Nodup := by
  rw [List.Nodup, List.pairwise_map, List.pairwise_map]
  constructor
  · intro h
    exact h.imp fun hne heq => hne (congrArg Digest.digestText heq)
  · intro h
    exact h.imp_of_mem fun hc hc' hne heq => hne (hs _ hc _ hc' heq)

end Scope

/-! ## 5. Digests of given texts -/

/-- Bytes are listed **from some place on**, behind those that were listed before. -/
theorem toList_loop (bytes : ByteArray) : ∀ (n i : Nat) (listed : List UInt8), bytes.size = i + n →
    ByteArray.toList.loop bytes i listed = listed.reverse ++ bytes.data.toList.drop i
  | 0, i, listed, h => by
    have hdone : bytes.data.toList.drop i = [] := List.drop_eq_nil_of_le (Nat.le_of_eq h)
    rw [ByteArray.toList.loop, if_neg (by omega), hdone, List.append_nil]
  | n + 1, i, listed, h => by
    have hi : i < bytes.data.toList.length := by
      have hsize : bytes.size = bytes.data.toList.length := rfl
      omega
    have hget : bytes.get! i = bytes.data.toList[i] := getElem!_pos bytes.data i hi
    rw [ByteArray.toList.loop, if_pos (show i < bytes.size from hi),
      toList_loop bytes n (i + 1) _ (by omega), List.reverse_cons, List.append_assoc, hget,
      List.drop_eq_getElem_cons hi]
    rfl

/-- The bytes that are listed are **those that are held**. -/
theorem toList_eq_data_toList (bytes : ByteArray) : bytes.toList = bytes.data.toList :=
  toList_loop bytes bytes.size 0 [] (Nat.zero_add _).symm

/-- The digest of a text, **in a form that can be evaluated**: the loop that lists bytes cannot. -/
theorem digestText_eq (text : String) : Digest.digestText text =
    String.ofList ((Digest.sha256 text.toUTF8.data.toList).flatMap Digest.wordText) := by
  rw [Digest.digestText, toList_eq_data_toList]

end TreeIndex
