import TreeIndex.Proofs.Outcome
import TreeIndex.Proofs.Yaml.Equality
import TreeIndex.Yaml.Document

/-!
# What documents say is proper

A key that stands twice is refused while a document is read, so **every mapping of a document holds each of its keys
once**.

* `Gives`: what work that follows aliases gives, if it succeeds; `Gives.bind`, `gives_mapM`: one piece of work after
  the other;
* `distinctEntries?_eq_ok`: entries that are kept have different keys;
* `gives_value?`: by induction on the depth, every value of a document is proper; `proper_of_ofText?`: so is the
  value of a text.
-/

namespace TreeIndex.Yaml

/-! ## 1. Work that follows aliases -/

section Gives

variable {α β : Type} {P : α → Prop} {Q : β → Prop} {w : Following α}

/-- Whatever the work **gives** is of that kind. -/
def Gives (P : α → Prop) (w : Following α) : Prop :=
  ∀ left x rest, w left = .ok (x, rest) → P x

theorem gives_pure {x : α} (h : P x) : Gives P (pure x : Following α) := by
  intro left y rest hy
  cases hy
  exact h

theorem gives_throw (e : Malformed) : Gives P (throw e : Following α) := by
  intro left x rest h
  cases h

theorem gives_lift {x : Except Malformed α} (h : ∀ y, x = .ok y → P y) :
    Gives P (liftM x : Following α) := by
  intro left y rest hy
  cases x with
  | error e => cases hy
  | ok z =>
    cases hy
    exact h _ rfl

theorem Gives.bind {f : α → Following β} (h : Gives P w) (hf : ∀ x, P x → Gives Q (f x)) :
    Gives Q (w >>= f) := by
  intro left y rest hy
  obtain ⟨⟨x, middle⟩, hx, hy⟩ := Outcome.bind_eq_ok.1 hy
  exact hf x (h left x middle hx) middle y rest hy

/-- Work on every element of a list gives what it gives **on each of them**. -/
theorem gives_mapM {f : α → Following β} : ∀ {xs : List α}, (∀ x ∈ xs, Gives Q (f x)) →
    Gives (fun ys => ∀ y ∈ ys, Q y) (xs.mapM f)
  | [], _ => by
    rw [List.mapM_nil]
    exact gives_pure fun _ hy => absurd hy List.not_mem_nil
  | x :: xs, h => by
    rw [List.mapM_cons]
    obtain ⟨hx, hxs⟩ := List.forall_mem_cons.1 h
    exact hx.bind fun y hy => (gives_mapM hxs).bind fun ys hys => gives_pure (List.forall_mem_cons.2 ⟨hy, hys⟩)

end Gives

/-! ## 2. Entries -/

/-- Entries that are kept **have different keys**. -/
theorem distinctEntries?_eq_ok {entries made : Mapping} (h : distinctEntries? entries = .ok made) :
    made = entries ∧ Mapping.Distinct made := by
  suffices hall : ∀ (entries front made : Mapping), Mapping.Distinct front →
      entries.foldlM (fun made e => if Mapping.contains made e.1 then Except.error Malformed.duplicateKey
        else .ok (made ++ [e])) front = .ok made → made = front ++ entries ∧ Mapping.Distinct made by
    exact hall entries [] made List.Pairwise.nil h
  intro entries
  induction entries with
  | nil =>
    intro front made hfront h
    cases h
    exact ⟨(List.append_nil _).symm, hfront⟩
  | cons e entries ih =>
    intro front made hfront h
    rw [List.foldlM_cons] at h
    obtain ⟨next, hnext, h⟩ := Outcome.bind_eq_ok.1 h
    split at hnext
    · cases hnext
    · rename_i hnew
      cases hnext
      have hnone : Mapping.find? front e.1 = none := by
        rwa [Mapping.contains, Bool.not_eq_true, Option.isSome_eq_false_iff, Option.isNone_iff_eq_none] at hnew
      have hmore : Mapping.Distinct (front ++ [e]) := by
        refine List.pairwise_append.2 ⟨hfront, List.pairwise_singleton _ _, fun f hf g hg => ?_⟩
        rw [List.mem_singleton.1 hg]
        exact Mapping.find?_eq_none_iff.1 hnone f hf
      obtain ⟨rfl, hdistinct⟩ := ih (front ++ [e]) made hmore h
      exact ⟨by simp, hdistinct⟩

/-! ## 3. Scalars and tags -/

theorem proper_underTag {tag : Option String} {v : Value} (h : v.Proper) : (underTag tag v).Proper := by
  unfold underTag
  split
  · rw [Value.Proper]
    exact h
  · exact h

theorem proper_plainValue? {text : String} {v : Value} (h : plainValue? text = some v) : v.Proper := by
  unfold plainValue? at h
  split at h
  · cases h
    trivial
  split at h
  · cases h
    trivial
  split at h
  · cases h
    trivial
  · cases h
  split at h <;> cases h <;> trivial

theorem proper_plainOrText? {text : String} {style : Style} {v : Value} (h : plainOrText? text style = .ok v) :
    v.Proper := by
  unfold plainOrText? at h
  split at h
  · split at h
    · rename_i hv
      cases h
      exact proper_plainValue? hv
    · cases h
  · cases h
    trivial

theorem proper_kindValue? {tag text : String} {v : Value} (h : kindValue? tag text = .ok v) : v.Proper := by
  unfold kindValue? at h
  dsimp only at h
  split at h
  · rename_i w hw
    cases h
    split at hw
    · obtain ⟨b, -, rfl⟩ := Option.map_eq_some_iff.1 hw
      trivial
    split at hw
    · split at hw <;> cases hw
      trivial
    split at hw
    · obtain ⟨x, -, rfl⟩ := Option.map_eq_some_iff.1 hw
      trivial
    split at hw
    · split at hw <;> cases hw
      trivial
    · cases hw
      trivial
  · cases h

/-- A scalar has **no keys**. -/
theorem proper_scalarValue? {text : String} {style : Style} {tag : Option String} {v : Value}
    (h : scalarValue? text style tag = .ok v) : v.Proper := by
  unfold scalarValue? at h
  split at h
  · exact proper_plainOrText? h
  split at h
  · cases hw : plainOrText? text style with
    | error e =>
      rw [hw] at h
      cases h
    | ok w =>
      rw [hw] at h
      cases h
      rw [Value.Proper]
      exact proper_plainOrText? hw
  · exact proper_kindValue? h

/-! ## 4. Documents -/

/-- **Every value of a document is proper**, by induction on the depth of its collections. -/
theorem gives_value? (d : Document) : ∀ (depth : Nat) (node : Node Nat), Gives Value.Proper (d.value? depth node)
  | 0, node => by
    unfold Document.value?
    refine Gives.bind (P := fun _ => True) (fun _ _ _ _ => trivial) fun found _ => ?_
    split
    · exact gives_lift fun _ => proper_scalarValue?
    · exact gives_throw _
  | depth + 1, node => by
    unfold Document.value?
    refine Gives.bind (P := fun _ => True) (fun _ _ _ _ => trivial) fun found _ => ?_
    split
    · exact gives_lift fun _ => proper_scalarValue?
    · refine (gives_mapM fun item _ => gives_value? d depth item).bind fun items hitems => ?_
      refine gives_pure (proper_underTag ?_)
      rw [Value.Proper, properItems_iff]
      exact hitems
    · rename_i entries tag _
      have hentries : Gives (fun es : Mapping => ∀ e ∈ es, e.1.Proper ∧ e.2.Proper)
          (entries.mapM fun e => do
            let key ← d.value? depth e.1
            let value ← d.value? depth e.2
            return (key, value)) :=
        gives_mapM fun e _ => (gives_value? d depth e.1).bind fun k hk =>
          (gives_value? d depth e.2).bind fun v hv => gives_pure ⟨hk, hv⟩
      refine hentries.bind fun es hes => (gives_lift fun made hmade => ?_).bind fun made hmade =>
        gives_pure (proper_underTag (proper_mapping_iff.2 hmade))
      obtain ⟨rfl, hdistinct⟩ := distinctEntries?_eq_ok hmade
      exact ⟨hdistinct, hes⟩
    · exact gives_throw _

/-- **The value of a text is proper.** -/
theorem proper_of_ofText? {text : String} {v : Value} (h : Value.ofText? text = .ok v) : v.Proper := by
  obtain ⟨node, -, h⟩ := Outcome.bind_eq_ok.1 h
  split at h
  · cases h
    trivial
  · obtain ⟨d, -, h⟩ := Outcome.bind_eq_ok.1 h
    cases hrun : d.value? deepest d.root d.allowance with
    | error e =>
      rw [StateT.run', hrun] at h
      cases h
    | ok given =>
      rw [StateT.run', hrun] at h
      cases h
      exact gives_value? d deepest d.root d.allowance given.1 given.2 hrun

end TreeIndex.Yaml
