import TreeIndex.Proofs.Yaml.Equality
import TreeIndex.Yaml.Merge

/-!
# A mapping over another one

What stands in a mapping that lies over another one is told by what stands in the two.

* `same_iff_of_asText?`, `eq_of_same`: a key that is a text is equal **to itself only**; so what is found under it
  stands in the mapping (`mem_of_find?`);
* `overlay_eq_map`, `mem_onlyAbove_iff`: the two parts of a merged mapping;
* `find?_mergeMappings_of_same`: what stands under a key: the upper value **merged over the lower one**, or the only
  one; `get?_mergeMappings`: and under a text;
* `asMapping?_merge`: under the same tags two mappings merge into one; `merge_of_scalarText?`: nothing is left of
  a scalar.
-/

namespace TreeIndex.Yaml

/-! ## 1. Keys that are texts -/

namespace Value

theorem same_iff_of_asText? : ∀ {k k' : Value} {s : String}, k.asText? = some s → (k'.same k = true ↔ k' = k)
  | .text s, k', _, _ => by cases k' <;> simp [same]
  | .tagged t v, k', _, h => by
    have ih : ∀ w : Value, w.same v = true ↔ w = v := fun w => same_iff_of_asText? h
    cases k' with
    | tagged s w => simp [same, ih]
    | _ => simp [same]

theorem eq_of_same : ∀ {k k' : Value} {s : String}, k.asText? = some s → k.same k' = true → k = k'
  | .text s, k', _, _, h => by
    cases k' with
    | text t => simpa [same] using h
    | _ => simp [same] at h
  | .tagged t v, k', _, hk, h => by
    have ih : ∀ w : Value, v.same w = true → v = w := fun w => eq_of_same hk
    cases k' with
    | tagged s w =>
      simp only [same, Bool.and_eq_true, beq_iff_eq] at h
      rw [h.1, ih w h.2]
    | _ => simp [same] at h

end Value

namespace Mapping

variable {m : Mapping} {k v : Value} {s : String}

/-- What is found under a text **stands there**. -/
theorem mem_of_find? (hk : k.asText? = some s) (h : find? m k = some v) : (k, v) ∈ m := by
  obtain ⟨k', hmem, hsame⟩ := exists_mem_of_find? h
  obtain rfl := (Value.same_iff_of_asText? hk).1 hsame
  exact hmem

/-- Where something stands under a key, **something is found**. -/
theorem contains_of_mem (h : (k, v) ∈ m) : contains m k = true := by
  rw [contains, Option.isSome_iff_ne_none]
  intro hnone
  have hother := find?_eq_none_iff.1 hnone (k, v) h
  rw [Value.same_refl k] at hother
  cases hother

/-- Where something is found, **an equal key** stands. -/
theorem exists_mem_of_contains (h : contains m k = true) : ∃ k' v, (k', v) ∈ m ∧ k'.same k = true := by
  obtain ⟨v, hv⟩ := Option.isSome_iff_exists.1 h
  obtain ⟨k', hmem, hsame⟩ := exists_mem_of_find? hv
  exact ⟨k', v, hmem, hsame⟩

end Mapping

/-! ## 2. Values -/

/-- The tags **around** a value. -/
def Value.tags : Value → List String
  | .tagged t v => t :: v.tags
  | _ => []

/-- A scalar leaves **nothing of itself** under another value. -/
theorem merge_of_scalarText? {v w : Value} {s : String} (h : v.scalarText? = some s) : merge v w = w := by
  cases v with
  | mapping es => cases h
  | tagged t v => cases h
  | _ => simp [merge]

/-- Over a mapping, under the same tags, **only a mapping** makes one, and the two merge. -/
theorem asMapping?_merge {a : Mapping} : ∀ {v w : Value}, v.tags = w.tags → v.asMapping? = some a →
    (merge v w).asMapping? = w.asMapping?.map (mergeMappings a)
  | .mapping es, w, htags, hv => by
    obtain rfl := Option.some.inj hv
    cases w with
    | mapping fs =>
      rw [merge]
      rfl
    | tagged t w => cases htags
    | _ => simp [merge, Value.asMapping?, Value.untagged]
  | .tagged s v, .tagged t w, htags, hv => by
    obtain ⟨rfl, hinner⟩ := List.cons.inj htags
    rw [merge, if_pos rfl]
    exact asMapping?_merge hinner hv

/-! ## 3. Mappings -/

/-- What is left of a value under what stands over it. -/
def under (v : Value) (above : Option Value) : Value :=
  (above.map (merge v)).getD v

variable {below above : Mapping}

/-- The lower entries, each **under what stands over it**. -/
theorem overlay_eq_map (below above : Mapping) :
    overlay below above = below.map fun e => (e.1, under e.2 (Mapping.find? above e.1)) := by
  induction below with
  | nil => rw [overlay, List.map_nil]
  | cons e below ih =>
    obtain ⟨k, v⟩ := e
    rw [overlay, List.map_cons]
    split <;> rename_i h <;> rw [ih, h] <;> rfl

theorem mem_onlyAbove_iff {e : Value × Value} :
    e ∈ onlyAbove below above ↔ e ∈ above ∧ Mapping.contains below e.1 = false := by
  rw [onlyAbove, List.mem_filter, Bool.not_eq_true']

theorem find?_append (a b : Mapping) (key : Value) :
    Mapping.find? (a ++ b) key = (Mapping.find? a key).or (Mapping.find? b key) := by
  induction a with
  | nil => rfl
  | cons e a ih =>
    obtain ⟨k, v⟩ := e
    rw [List.cons_append, Mapping.find?, Mapping.find?]
    split
    · rfl
    · exact ih

/-- Under a key of the lower mapping stands its value, **under what the upper one holds for that key**; keys that equal
    it have to find the same there. -/
theorem find?_overlay {key : Value}
    (h : ∀ e ∈ below, e.1.same key = true → Mapping.find? above e.1 = Mapping.find? above key) :
    Mapping.find? (overlay below above) key =
      (Mapping.find? below key).map fun v => under v (Mapping.find? above key) := by
  rw [overlay_eq_map]
  induction below with
  | nil => rfl
  | cons e below ih =>
    obtain ⟨k, v⟩ := e
    obtain ⟨hk, h⟩ := List.forall_mem_cons.1 h
    rw [List.map_cons, Mapping.find?, Mapping.find?]
    split
    · rename_i hsame
      rw [hk hsame]
      rfl
    · exact ih h

/-- A key that the lower mapping lacks is looked up **in the upper one**. -/
theorem find?_onlyAbove {key : Value} (h : Mapping.find? below key = none) :
    Mapping.find? (onlyAbove below above) key = Mapping.find? above key := by
  have hbelow := Mapping.find?_eq_none_iff.1 h
  induction above with
  | nil => rfl
  | cons e above ih =>
    obtain ⟨k, v⟩ := e
    rw [onlyAbove, List.filter_cons]
    split
    · rw [Mapping.find?, Mapping.find?]
      split
      · rfl
      · exact ih
    · rename_i hcontains
      have hne : ¬ k.same key = true := by
        -- the lower mapping has a key that equals this one, which is not the key that is looked up
        intro hsame
        simp only [Bool.not_eq_true', Bool.not_eq_false] at hcontains
        obtain ⟨l, x, hl, hlk⟩ := Mapping.exists_mem_of_contains hcontains
        have hkey := hbelow _ hl
        rw [Value.same_trans hlk hsame] at hkey
        cases hkey
      rw [Mapping.find?, if_neg hne]
      exact ih

/-- **What stands under a key of a merged mapping**: the upper value over the lower one, or the only one. -/
theorem find?_mergeMappings_of_same {key : Value}
    (h : ∀ e ∈ below, e.1.same key = true → Mapping.find? above e.1 = Mapping.find? above key) :
    Mapping.find? (mergeMappings below above) key =
      ((Mapping.find? below key).map fun v => under v (Mapping.find? above key)).or (Mapping.find? above key) := by
  rw [mergeMappings, find?_append, find?_overlay h]
  cases hkey : Mapping.find? below key with
  | none => exact find?_onlyAbove hkey
  | some v => rfl

/-- **What stands under a text in a merged mapping.** -/
theorem get?_mergeMappings (below above : Mapping) (key : String) :
    Mapping.get? (mergeMappings below above) key =
      match Mapping.get? below key with
      | some v => some (under v (Mapping.get? above key))
      | none => Mapping.get? above key := by
  have hkey (e : Value × Value) (_ : e ∈ below) (hsame : e.1.same (.text key) = true) :
      Mapping.find? above e.1 = Mapping.find? above (.text key) := by
    rw [(Value.same_iff_of_asText? rfl).1 hsame]
  rw [Mapping.get?, find?_mergeMappings_of_same hkey, Mapping.get?, Mapping.get?]
  cases Mapping.find? below (.text key) <;> rfl

end TreeIndex.Yaml
