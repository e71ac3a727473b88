import Mathlib.Data.List.Perm.Subperm
import TreeIndex.Proofs.Outcome
import TreeIndex.Yaml.Value

/-!
# Equality of values

Two values may be equal without being the same text: the order of a mapping's entries does not matter, and both
zeros are one number. Among values that are proper -- every mapping holds each of its keys once -- this is an
equivalence.

* `Mapping.Distinct`, `Value.Proper`: the keys of a mapping, and of every mapping within a value, are **pairwise
  different**;
* `same_refl`, `same_trans`: every value equals itself, and what equals the same is equal;
* `same_symm`: equality goes both ways, **if one side is proper**: as many entries stand on both sides, and no two
  of them are matched by one (`length_le_of_match`, `exists_match_of_length`);
* `find?_eq_of_same`: so equal keys find the same, and a mapping finds what stands in it (`find?_eq_of_mem`).
-/

namespace TreeIndex

namespace Binary64

theorem same_iff {a b : Binary64} : a.same b = true ↔
    a = b ∨ (∃ s e, a = .finite s 0 e) ∧ ∃ s e, b = .finite s 0 e := by
  unfold same
  split
  · simp
  · rename_i hne
    rw [beq_iff_eq]
    refine ⟨Or.inl, ?_⟩
    rintro (h | ⟨⟨s, e, rfl⟩, s', e', rfl⟩)
    · exact h
    · exact (hne s e s' e' rfl rfl).elim

theorem same_refl (a : Binary64) : a.same a = true :=
  same_iff.2 (Or.inl rfl)

theorem same_symm {a b : Binary64} (h : a.same b = true) : b.same a = true :=
  same_iff.2 ((same_iff.1 h).imp Eq.symm And.symm)

theorem same_trans {a b c : Binary64} (h : a.same b = true) (h' : b.same c = true) : a.same c = true := by
  rcases same_iff.1 h with rfl | ⟨ha, hb⟩
  · exact h'
  · rcases same_iff.1 h' with rfl | ⟨-, hc⟩
    · exact same_iff.2 (Or.inr ⟨ha, hb⟩)
    · exact same_iff.2 (Or.inr ⟨ha, hc⟩)

end Binary64

namespace Yaml

/-! ## 1. What a value is equal to -/

namespace Value

section

variable {v : Value}

attribute [local simp] same sameItems sameEntries

theorem null_same_iff : null.same v = true ↔ v = null := by
  cases v <;> simp

theorem bool_same_iff {b : Bool} : (bool b).same v = true ↔ v = bool b := by
  cases v with
  | bool _ => simpa using eq_comm
  | _ => simp

theorem int_same_iff {n : Int} : (int n).same v = true ↔ v = int n := by
  cases v with
  | int _ => simpa using eq_comm
  | _ => simp

theorem text_same_iff {s : String} : (text s).same v = true ↔ v = text s := by
  cases v with
  | text _ => simpa using eq_comm
  | _ => simp

theorem float_same_iff {x : Binary64} : (float x).same v = true ↔ ∃ y, v = float y ∧ x.same y = true := by
  cases v <;> simp

theorem sequence_same_iff {xs : List Value} :
    (sequence xs).same v = true ↔ ∃ ys, v = sequence ys ∧ sameItems xs ys = true := by
  cases v <;> simp

theorem mapping_same_iff {es : Mapping} : (mapping es).same v = true ↔
    ∃ fs, v = mapping fs ∧ es.length = fs.length ∧ sameEntries es fs = true := by
  cases v <;> simp

theorem tagged_same_iff {t : String} {u : Value} :
    (tagged t u).same v = true ↔ ∃ w, v = tagged t w ∧ u.same w = true := by
  cases v with
  | tagged s w =>
    simp only [same, Bool.and_eq_true, beq_iff_eq, tagged.injEq, and_assoc, exists_and_left, exists_eq_left']
    exact and_congr_left fun _ => eq_comm
  | _ => simp

theorem sameItems_cons_iff {x : Value} {xs ys : List Value} :
    sameItems (x :: xs) ys = true ↔ ∃ z zs, ys = z :: zs ∧ x.same z = true ∧ sameItems xs zs = true := by
  cases ys <;> simp [and_assoc]

/-- Every entry stands among the others, **under an equal key with an equal value**. -/
theorem sameEntries_iff {es fs : Mapping} : sameEntries es fs = true ↔
    ∀ e ∈ es, ∃ f ∈ fs, e.1.same f.1 = true ∧ e.2.same f.2 = true := by
  induction es with
  | nil => simp
  | cons e es ih =>
    obtain ⟨k, v⟩ := e
    simp only [sameEntries, Bool.and_eq_true, ih, List.any_eq_true, List.forall_mem_cons]

end

/-! ## 2. Itself, and what equals the same -/

mutual

/-- Every value **equals itself**. -/
theorem same_refl : ∀ v : Value, v.same v = true
  | null => rfl
  | bool _ => bool_same_iff.2 rfl
  | int _ => int_same_iff.2 rfl
  | float x => float_same_iff.2 ⟨x, rfl, x.same_refl⟩
  | text _ => text_same_iff.2 rfl
  | sequence xs => sequence_same_iff.2 ⟨xs, rfl, sameItems_refl xs⟩
  | mapping es => mapping_same_iff.2 ⟨es, rfl, rfl, sameEntries_iff.2 fun e he =>
      ⟨e, he, same_refl_of_mem es e he⟩⟩
  | tagged _ v => tagged_same_iff.2 ⟨v, rfl, same_refl v⟩

theorem sameItems_refl : ∀ xs : List Value, sameItems xs xs = true
  | [] => rfl
  | x :: xs => sameItems_cons_iff.2 ⟨x, xs, rfl, same_refl x, sameItems_refl xs⟩

theorem same_refl_of_mem : ∀ (es : List (Value × Value)), ∀ e ∈ es, e.1.same e.1 = true ∧ e.2.same e.2 = true
  | [], _, he => absurd he List.not_mem_nil
  | (k, v) :: es, e, he => by
    rcases List.mem_cons.1 he with rfl | he
    · exact ⟨same_refl k, same_refl v⟩
    · exact same_refl_of_mem es e he

end

mutual

/-- What equals the same **is equal**. -/
theorem same_trans : ∀ {u v w : Value}, u.same v = true → v.same w = true → u.same w = true
  | null, _, _, h, h' => by
    obtain rfl := null_same_iff.1 h
    exact h'
  | bool _, _, _, h, h' => by
    obtain rfl := bool_same_iff.1 h
    exact h'
  | int _, _, _, h, h' => by
    obtain rfl := int_same_iff.1 h
    exact h'
  | text _, _, _, h, h' => by
    obtain rfl := text_same_iff.1 h
    exact h'
  | float x, _, _, h, h' => by
    obtain ⟨y, rfl, hxy⟩ := float_same_iff.1 h
    obtain ⟨z, rfl, hyz⟩ := float_same_iff.1 h'
    exact float_same_iff.2 ⟨z, rfl, Binary64.same_trans hxy hyz⟩
  | sequence xs, _, _, h, h' => by
    obtain ⟨ys, rfl, hxy⟩ := sequence_same_iff.1 h
    obtain ⟨zs, rfl, hyz⟩ := sequence_same_iff.1 h'
    exact sequence_same_iff.2 ⟨zs, rfl, sameItems_trans hxy hyz⟩
  | mapping es, _, _, h, h' => by
    obtain ⟨fs, rfl, hlen, hef⟩ := mapping_same_iff.1 h
    obtain ⟨gs, rfl, hlen', hfg⟩ := mapping_same_iff.1 h'
    refine mapping_same_iff.2 ⟨gs, rfl, hlen.trans hlen', sameEntries_iff.2 fun e he => ?_⟩
    obtain ⟨f, hf, hkf, hvf⟩ := sameEntries_iff.1 hef e he
    obtain ⟨g, hg, hkg, hvg⟩ := sameEntries_iff.1 hfg f hf
    obtain ⟨hk, hv⟩ := same_trans_of_mem es e he f g
    exact ⟨g, hg, hk hkf hkg, hv hvf hvg⟩
  | tagged _ u, _, _, h, h' => by
    obtain ⟨v, rfl, huv⟩ := tagged_same_iff.1 h
    obtain ⟨w, rfl, hvw⟩ := tagged_same_iff.1 h'
    exact tagged_same_iff.2 ⟨w, rfl, same_trans huv hvw⟩

theorem sameItems_trans : ∀ {xs ys zs : List Value},
    sameItems xs ys = true → sameItems ys zs = true → sameItems xs zs = true
  | [], ys, zs, h, h' => by
    cases ys with
    | nil => exact h'
    | cons y ys => simp [sameItems] at h
  | x :: xs, _, _, h, h' => by
    obtain ⟨y, ys, rfl, hxy, hxys⟩ := sameItems_cons_iff.1 h
    obtain ⟨z, zs, rfl, hyz, hyzs⟩ := sameItems_cons_iff.1 h'
    exact sameItems_cons_iff.2 ⟨z, zs, rfl, same_trans hxy hyz, sameItems_trans hxys hyzs⟩

theorem same_trans_of_mem : ∀ (es : List (Value × Value)), ∀ e ∈ es, ∀ f g : Value × Value,
    (e.1.same f.1 = true → f.1.same g.1 = true → e.1.same g.1 = true) ∧
      (e.2.same f.2 = true → f.2.same g.2 = true → e.2.same g.2 = true)
  | [], _, he, _, _ => absurd he List.not_mem_nil
  | (k, v) :: es, e, he, f, g => by
    rcases List.mem_cons.1 he with rfl | he
    · exact ⟨same_trans, same_trans⟩
    · exact same_trans_of_mem es e he f g

end

end Value

/-! ## 3. Proper values -/

/-- The keys of a mapping are **pairwise different**. -/
def Mapping.Distinct (m : Mapping) : Prop :=
  m.Pairwise fun e f => e.1.same f.1 = false

mutual

/-- Every mapping in a value **holds each of its keys once**. -/
def Value.Proper : Value → Prop
  | .sequence items => ProperItems items
  | .mapping entries => Mapping.Distinct entries ∧ ProperEntries entries
  | .tagged _ v => v.Proper
  | _ => True

/-- All items of a sequence are proper. -/
def ProperItems : List Value → Prop
  | [] => True
  | v :: vs => v.Proper ∧ ProperItems vs

/-- All keys of some entries are proper, and so are the values. -/
def ProperEntries : List (Value × Value) → Prop
  | [] => True
  | (k, v) :: es => k.Proper ∧ v.Proper ∧ ProperEntries es

end

theorem properItems_iff {vs : List Value} : ProperItems vs ↔ ∀ v ∈ vs, v.Proper := by
  induction vs with
  | nil => simp [ProperItems]
  | cons v vs ih => simp only [ProperItems, ih, List.forall_mem_cons]

theorem properEntries_iff {m : Mapping} : ProperEntries m ↔ ∀ e ∈ m, e.1.Proper ∧ e.2.Proper := by
  induction m with
  | nil => simp [ProperEntries]
  | cons e m ih =>
    obtain ⟨k, v⟩ := e
    simp only [ProperEntries, ih, List.forall_mem_cons, and_assoc]

theorem proper_mapping_iff {m : Mapping} :
    (Value.mapping m).Proper ↔ m.Distinct ∧ ∀ e ∈ m, e.1.Proper ∧ e.2.Proper := by
  rw [Value.Proper, properEntries_iff]

/-! ## 4. Both ways -/

section Match

variable {α β : Type} {R : α → β → Prop} {xs : List α} {ys : List β}

/-- Where everything on the left is matched and **no two by one**, the matches are among what stands on the right. -/
theorem exists_match_subperm (hxs : ∀ x ∈ xs, ∃ y ∈ ys, R x y)
    (honce : xs.Pairwise fun x x' => ∀ y, R x y → ¬ R x' y) :
    ∃ zs : List β, List.Forall₂ R xs zs ∧ zs.Subperm ys := by
  cases xs with
  | nil => exact ⟨[], .nil, List.nil_subperm⟩
  | cons x₀ xs =>
    obtain ⟨y₀, -, -⟩ := hxs x₀ List.mem_cons_self
    have : Nonempty β := ⟨y₀⟩
    choose! g hmem hg using hxs
    have hnodup : ((x₀ :: xs).map g).Nodup := by
      refine List.pairwise_map.2 (honce.imp_of_mem fun {x x'} hx hx' hxx' heq => ?_)
      exact hxx' (g x) (hg x hx) (heq ▸ hg x' hx')
    refine ⟨(x₀ :: xs).map g, List.forall₂_map_right_iff.2 (List.forall₂_same.2 hg), hnodup.subperm fun y hy => ?_⟩
    obtain ⟨x, hx, rfl⟩ := List.mem_map.1 hy
    exact hmem x hx

/-- So **at least as many** stand on the right. -/
theorem length_le_of_match (hxs : ∀ x ∈ xs, ∃ y ∈ ys, R x y)
    (honce : xs.Pairwise fun x x' => ∀ y, R x y → ¬ R x' y) : xs.length ≤ ys.length := by
  obtain ⟨zs, hall, hsub⟩ := exists_match_subperm hxs honce
  exact hall.length_eq ▸ hsub.length_le

/-- And where as many stand on both sides, everything on the right **is matched, too**. -/
theorem exists_match_of_length (hlen : xs.length = ys.length) (hxs : ∀ x ∈ xs, ∃ y ∈ ys, R x y)
    (honce : xs.Pairwise fun x x' => ∀ y, R x y → ¬ R x' y) : ∀ y ∈ ys, ∃ x ∈ xs, R x y := by
  obtain ⟨zs, hall, hsub⟩ := exists_match_subperm hxs honce
  have hperm : zs.Perm ys := hsub.perm_of_length_le (Nat.le_of_eq (hlen.symm.trans hall.length_eq))
  intro y hy
  exact Outcome.exists_mem_of_forall₂ hall (hperm.mem_iff.2 hy)

end Match

namespace Value

mutual

/-- Equality goes **both ways**, if the left side is proper. -/
theorem same_symm : ∀ {u v : Value}, u.Proper → u.same v = true → v.same u = true
  | null, _, _, h => by
    obtain rfl := null_same_iff.1 h
    exact h
  | bool _, _, _, h => by
    obtain rfl := bool_same_iff.1 h
    exact h
  | int _, _, _, h => by
    obtain rfl := int_same_iff.1 h
    exact h
  | text _, _, _, h => by
    obtain rfl := text_same_iff.1 h
    exact h
  | float x, _, _, h => by
    obtain ⟨y, rfl, hxy⟩ := float_same_iff.1 h
    exact float_same_iff.2 ⟨x, rfl, Binary64.same_symm hxy⟩
  | sequence xs, _, hproper, h => by
    obtain ⟨ys, rfl, hxy⟩ := sequence_same_iff.1 h
    rw [Proper] at hproper
    exact sequence_same_iff.2 ⟨xs, rfl, sameItems_symm hproper hxy⟩
  | mapping es, _, hproper, h => by
    obtain ⟨fs, rfl, hlen, hef⟩ := mapping_same_iff.1 h
    rw [Proper] at hproper
    obtain ⟨hdistinct, hproper⟩ := hproper
    have hsymm := same_symm_of_mem es hproper
    refine mapping_same_iff.2 ⟨es, rfl, hlen.symm, sameEntries_iff.2 ?_⟩
    have honce : es.Pairwise fun e e' => ∀ f : Value × Value,
        (e.1.same f.1 = true ∧ e.2.same f.2 = true) → ¬ (e'.1.same f.1 = true ∧ e'.2.same f.2 = true) := by
      refine hdistinct.imp_of_mem fun {e e'} _ he' hne f hf hf' => ?_
      have hback : f.1.same e'.1 = true := (hsymm e' he').1 _ hf'.1
      rw [same_trans hf.1 hback] at hne
      cases hne
    intro f hf
    obtain ⟨e, he, hk, hv⟩ := exists_match_of_length hlen (sameEntries_iff.1 hef) honce f hf
    exact ⟨e, he, (hsymm e he).1 _ hk, (hsymm e he).2 _ hv⟩
  | tagged _ u, _, hproper, h => by
    obtain ⟨v, rfl, huv⟩ := tagged_same_iff.1 h
    rw [Proper] at hproper
    exact tagged_same_iff.2 ⟨u, rfl, same_symm hproper huv⟩

theorem sameItems_symm : ∀ {xs ys : List Value}, ProperItems xs → sameItems xs ys = true → sameItems ys xs = true
  | [], ys, _, h => by
    cases ys with
    | nil => exact h
    | cons y ys => simp [sameItems] at h
  | x :: xs, _, hproper, h => by
    obtain ⟨y, ys, rfl, hxy, hxys⟩ := sameItems_cons_iff.1 h
    rw [ProperItems] at hproper
    exact sameItems_cons_iff.2 ⟨x, xs, rfl, same_symm hproper.1 hxy, sameItems_symm hproper.2 hxys⟩

theorem same_symm_of_mem : ∀ (es : List (Value × Value)), ProperEntries es → ∀ e ∈ es,
    (∀ v : Value, e.1.same v = true → v.same e.1 = true) ∧ ∀ v : Value, e.2.same v = true → v.same e.2 = true
  | [], _, _, he => absurd he List.not_mem_nil
  | (k, w) :: es, hproper, e, he => by
    rw [ProperEntries] at hproper
    rcases List.mem_cons.1 he with rfl | he
    · exact ⟨fun v => same_symm hproper.1, fun v => same_symm hproper.2.1⟩
    · exact same_symm_of_mem es hproper.2.2 e he

end

end Value

/-! ## 5. Look-ups under equal keys -/

namespace Mapping

variable {m : Mapping} {k key : Value}

/-- What is found stands there, **under an equal key**. -/
theorem exists_mem_of_find? {v : Value} (h : find? m key = some v) : ∃ k, (k, v) ∈ m ∧ k.same key = true := by
  induction m with
  | nil => cases h
  | cons e m ih =>
    obtain ⟨k, w⟩ := e
    rw [find?] at h
    split at h
    · rename_i hsame
      obtain rfl := Option.some.inj h
      exact ⟨k, List.mem_cons_self, hsame⟩
    · obtain ⟨l, hl, hsame⟩ := ih h
      exact ⟨l, List.mem_cons_of_mem _ hl, hsame⟩

theorem find?_eq_none_iff : find? m key = none ↔ ∀ e ∈ m, e.1.same key = false := by
  induction m with
  | nil => simp [find?]
  | cons e m ih =>
    obtain ⟨k, w⟩ := e
    rw [find?, List.forall_mem_cons]
    split
    · rename_i hsame
      simp [hsame]
    · rename_i hsame
      simp [ih, hsame]

/-- Equal keys **find the same**. -/
theorem find?_eq_of_same (hk : k.Proper) (h : k.same key = true) : find? m k = find? m key := by
  induction m with
  | nil => rfl
  | cons e m ih =>
    obtain ⟨l, w⟩ := e
    have hiff : l.same k = true ↔ l.same key = true :=
      ⟨fun hl => Value.same_trans hl h, fun hl => Value.same_trans hl (Value.same_symm hk h)⟩
    rw [find?, find?, ih]
    by_cases hl : l.same k = true
    · rw [if_pos hl, if_pos (hiff.1 hl)]
    · rw [if_neg hl, if_neg (mt hiff.2 hl)]

/-- What stands in a mapping **is found**, if its keys are different. -/
theorem find?_eq_of_mem (hm : m.Distinct) {v : Value} (h : (k, v) ∈ m) : find? m k = some v := by
  induction m with
  | nil => cases h
  | cons e m ih =>
    obtain ⟨l, w⟩ := e
    obtain ⟨hl, hm⟩ := List.pairwise_cons.1 hm
    rw [find?]
    rcases List.mem_cons.1 h with h | h
    · cases h
      rw [if_pos (Value.same_refl k)]
    · rw [if_neg (Bool.eq_false_iff.1 (hl _ h)), ih hm h]

end Mapping

end Yaml

end TreeIndex
