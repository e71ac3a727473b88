import TreeIndex.Definitions.Inheritance
import TreeIndex.Proofs.Outcome

/-!
# Definitions that were read

A root definition and a definition that inherits are told by what was read.

* `Identifier.Fits`, `identifier?_eq_ok`: what recognises items is **a pair of templates**, what recognises
  anything else **an ending that is not empty**; nothing else is ever read;
* `root?_eq_ok`, `effective?_eq_ok`, `Draft.onto?_eq_ok`: the parts of a definition.
-/

namespace TreeIndex

open Yaml (Value Mapping mergeMappings)

/-! ## 1. Identifiers -/

/-- What recognises the definitions of a type: **templates for items, an ending for everything else**. -/
def Identifier.Fits (kind : String) (i : Identifier) : Prop :=
  if kind = itemKind then ∃ start stop, i = .template start stop
  else ∃ text, text ≠ "" ∧ i = .suffix text

namespace Definition

variable {name kind : String} {config : Mapping} {source : Path} {d : Definition} {i : Identifier}

theorem suffixOf?_eq_ok {v : Value} (h : suffixOf? name kind v = .ok i) : ∃ text, text ≠ "" ∧ i = .suffix text := by
  unfold suffixOf? at h
  split at h
  · rename_i text
    split at h
    · cases h
    · rename_i hne
      refine ⟨text, fun he => hne ?_, (Except.ok.inj h).symm⟩
      rw [he]
      rfl
  · cases h

theorem templateOf?_eq_ok {v : Value} (h : templateOf? name v = .ok i) : ∃ start stop, i = .template start stop := by
  unfold templateOf? at h
  split at h
  · cases h
  · obtain ⟨start, -, h⟩ := Outcome.bind_eq_ok.1 h
    obtain ⟨stop, -, h⟩ := Outcome.bind_eq_ok.1 h
    exact ⟨start, stop, (Except.ok.inj h).symm⟩

/-- **What is read as an identifier** fits the type. -/
theorem identifier?_eq_ok (h : identifier? name kind config = .ok i) : Identifier.Fits kind i := by
  unfold identifier? at h
  unfold Identifier.Fits
  split at h
  · cases h
  · split at h
    · rename_i hitem
      rw [if_pos hitem]
      exact templateOf?_eq_ok h
    · rename_i hitem
      rw [if_neg hitem]
      exact suffixOf?_eq_ok h

/-! ## 2. Definitions -/

theorem inFile_eq_ok {β : Type} {r : Except ConfigurationCause β} {x : β} :
    inFile source r = .ok x ↔ r = .ok x := by
  cases r <;> simp [inFile]

theorem root?_eq_ok : root? kind config source = .ok d ↔
    ∃ tags, parseTags? config = .ok tags ∧ d = ⟨rootName, kind, .inherited, tags, config, source⟩ := by
  rw [root?, inFile_eq_ok, Outcome.bind_eq_ok]
  simp only [Except.ok.injEq, eq_comm]

theorem effective?_eq_ok : effective? name kind config source = .ok d ↔
    ∃ i tags, identifier? name kind config = .ok i ∧ parseTags? config = .ok tags ∧
      d = ⟨name, kind, i, tags, config, source⟩ := by
  rw [effective?, inFile_eq_ok, Outcome.bind_eq_ok]
  constructor
  · rintro ⟨i, hi, h⟩
    obtain ⟨tags, htags, h⟩ := Outcome.bind_eq_ok.1 h
    exact ⟨i, tags, hi, htags, (Except.ok.inj h).symm⟩
  · rintro ⟨i, tags, hi, htags, rfl⟩
    exact ⟨i, hi, Outcome.bind_eq_ok.2 ⟨tags, htags, rfl⟩⟩

end Definition

/-- **What inherits**: it says its identifier itself, and its configuration lies over that of its root. -/
theorem Draft.onto?_eq_ok {draft : Draft} {root d : Definition} : draft.onto? root = .ok d ↔
    draft.hasIdentifier = true ∧ ∃ i tags,
      Definition.identifier? draft.name draft.kind (mergeMappings root.config draft.config) = .ok i ∧
        Definition.parseTags? (mergeMappings root.config draft.config) = .ok tags ∧
          d = ⟨draft.name, draft.kind, i, tags, mergeMappings root.config draft.config, draft.path⟩ := by
  rw [Draft.onto?]
  split
  · rename_i h
    rw [Definition.effective?_eq_ok]
    simp only [h, true_and]
  · rename_i h
    exact ⟨nofun, fun hd => absurd hd.1 h⟩

end TreeIndex
