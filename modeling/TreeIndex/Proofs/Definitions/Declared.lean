import TreeIndex.Proofs.Definitions.Types
import TreeIndex.Proofs.Outcome

/-!
# Types as they are declared

A section declares a list of types, and endings under types. It is accepted exactly where the two match one to one.

* `distinct_eq_eraseDups`: what is left of a list is **its elements where they come first**;
* `Declares`, `ofConfig?_of_declares`: what a configuration declares, and when that is read;
* `Types.Reversed`: the endings turned round lose no type, and every ending has the type that declares it;
* `accepts_iff_oneToOne`: all of it for the section of a configuration.
-/

namespace TreeIndex

open Yaml (Mapping)

namespace Types

/-! ## 1. Lists without repetitions -/

theorem filter_distinct (p : String → Bool) : ∀ ts : List String, (distinct ts).filter p = distinct (ts.filter p)
  | [] => rfl
  | t :: ts => by
    have ih := filter_distinct p ts
    rw [distinct]
    cases ht : p t with
    | true =>
      rw [List.filter_cons_of_pos ht, List.filter_cons_of_pos ht, distinct, ← ih, List.filter_filter,
        List.filter_filter]
      simp only [Bool.and_comm]
    | false =>
      have hfalse : ¬ p t = true := by
        rw [ht]
        exact Bool.false_ne_true
      rw [List.filter_cons_of_neg hfalse, List.filter_cons_of_neg hfalse, List.filter_filter, ← ih]
      refine List.filter_congr fun u _ => ?_
      by_cases hu : u = t
      · rw [hu, ht]
        rfl
      · simp [hu]

/-- What is left of a list is **its elements where they come first**. -/
theorem distinct_eq_eraseDups : ∀ ts : List String, distinct ts = ts.eraseDups
  | [] => rfl
  | t :: ts => by
    have ih := distinct_eq_eraseDups (ts.filter fun u => !(u == t))
    have hsame : (fun u => u != t) = fun u => !(u == t) := rfl
    rw [distinct, List.eraseDups_cons, ← ih, hsame, filter_distinct]
termination_by ts => ts.length
decreasing_by
  rw [List.length_cons]
  exact Nat.lt_succ_of_le (List.length_filter_le _ _)

/-! ## 2. Sections -/

/-- The section of a configuration **declares** a list of types, and endings under types. -/
def Declares (config : Mapping) (declared : List String) (identifiers : Dictionary String) : Prop :=
  ∃ v entries, Mapping.get? config "index" = some v ∧
    SectionRecord.ofValue? v = .ok ⟨some declared, some entries⟩ ∧ identifiers = Dictionary.ofList entries

/-- What is declared **is read** exactly if nothing is wrong with it. -/
theorem ofConfig?_of_declares {config : Mapping} {declared : List String} {identifiers : Dictionary String}
    (h : Declares config declared identifiers) {t : Types} : ofConfig? config = .ok t ↔
      flaw? (distinct declared) identifiers = none ∧ t = ⟨distinct declared, identifiers⟩ := by
  obtain ⟨v, entries, hv, hrecord, rfl⟩ := h
  unfold ofConfig?
  rw [hv]
  dsimp only
  rw [hrecord]
  unfold ofRecord?
  dsimp only
  cases flaw? (distinct declared) (Dictionary.ofList entries) with
  | some cause => simp
  | none => simp [eq_comm]

/-- **The endings turned round**: they lose no type, and every ending has the type that declares it. -/
structure Reversed (t : Types) : Prop where
  perm : (t.byEnding.entries.map (·.2)).Perm t.names
  get?_iff : ∀ ending name, t.byEnding.get? ending = some name ↔ t.identifiers.get? name = some ending

theorem Matched.reversed {t : Types} (h : t.Matched) : t.Reversed := by
  refine ⟨?_, fun ending name => h.byEnding_iff⟩
  have hnodup : (t.byEnding.entries.map (·.2)).Nodup := by
    refine List.Nodup.map_on (fun a ha b hb hab => ?_) t.byEnding.nodup_entries
    obtain ⟨ending, name⟩ := a
    obtain ⟨ending', name'⟩ := b
    obtain rfl : name = name' := hab
    have hending := h.byEnding_iff.1 (Dictionary.mem_entries_iff.1 ha)
    have hending' := h.byEnding_iff.1 (Dictionary.mem_entries_iff.1 hb)
    rw [Option.some.inj (hending.symm.trans hending')]
  refine (List.perm_ext_iff_of_nodup hnodup h.nodup).2 fun name => ?_
  rw [h.mem_iff, List.mem_map]
  constructor
  · intro ⟨e, he, hname⟩
    exact ⟨e.1, h.byEnding_iff.1 (hname ▸ Dictionary.mem_entries_iff.1 he)⟩
  · intro ⟨ending, hending⟩
    exact ⟨(ending, name), Dictionary.mem_entries_iff.2 (h.byEnding_iff.2 hending), rfl⟩

/-- **Which declarations are accepted, and what is read of them**: types and endings that match one to one; the types
    are read without repetitions, each where it comes first, the endings as they are declared. -/
theorem accepts_iff_oneToOne {config : Mapping} {declared : List String} {identifiers : Dictionary String}
    (h : Declares config declared identifiers) :
    ((∃ t, ofConfig? config = .ok t) ↔ OneToOne declared identifiers) ∧
    ∀ t, ofConfig? config = .ok t →
      t.names = declared.eraseDups ∧ t.identifiers = identifiers ∧ t.Reversed := by
  constructor
  · rw [← oneToOne_distinct_iff, ← flaw?_eq_none_iff (nodup_distinct declared)]
    constructor
    · intro ⟨t, ht⟩
      exact ((ofConfig?_of_declares h).1 ht).1
    · intro hnone
      exact ⟨_, (ofConfig?_of_declares h).2 ⟨hnone, rfl⟩⟩
  · intro t ht
    obtain ⟨-, rfl⟩ := (ofConfig?_of_declares h).1 ht
    exact ⟨distinct_eq_eraseDups declared, rfl, (matched_of_ofConfig? ht).reversed⟩

/-- A configuration that declares two types, **one of them twice**. -/
def twiceDeclared : Mapping :=
  [(.text "index", .mapping
    [(.text "types", .sequence [.text "item", .text "file", .text "item"]),
     (.text "identifiers", .mapping [(.text "file", .text ".file.index"), (.text "item", .text ".item.index")])])]

/-- What it declares under its section. -/
def twiceDeclaredEndings : Dictionary String :=
  Dictionary.ofList [("file", ".file.index"), ("item", ".item.index")]

/-- **Each type is read once**, in the order of the declaration. -/
theorem accepts_iff_oneToOne_twiceDeclared :
    Declares twiceDeclared ["item", "file", "item"] twiceDeclaredEndings ∧
    OneToOne ["item", "file", "item"] twiceDeclaredEndings ∧
    ∃ t, ofConfig? twiceDeclared = .ok t ∧ t.names = ["item", "file"] ∧ t.identifiers = twiceDeclaredEndings ∧
      t.Reversed := by
  have hdeclares : Declares twiceDeclared ["item", "file", "item"] twiceDeclaredEndings :=
    ⟨_, _, rfl, rfl, rfl⟩
  obtain ⟨haccepts, hread⟩ := accepts_iff_oneToOne hdeclares
  have hrun : (ofConfig? twiceDeclared).toOption.map Types.names = some ["item", "file"] := by
    decide +kernel
  obtain ⟨t, ht, hnames⟩ := Option.map_eq_some_iff.1 hrun
  rw [Outcome.toOption_eq_some] at ht
  obtain ⟨-, hidentifiers, hreversed⟩ := hread t ht
  exact ⟨hdeclares, haccepts.1 ⟨t, ht⟩, t, ht, hnames, hidentifiers, hreversed⟩

end Types

end TreeIndex
