import Mathlib.Data.List.Forall2

/-!
# Outcomes

What is computed step by step succeeds only if every step does, and otherwise fails with the fault of the
first step that fails.

* `bind_eq_ok`, `bind_eq_error`, `ok_bind`, `map_eq_ok`, `map_eq_error`: two steps;
* `exists_mem_of_forall₂`, `pairwise_of_forall₂`, `pairwise_iff_of_forall₂`: lists whose elements belong together,
  one by one: each element has its counterpart, and one list stands in order where the other does;
* `mapM_eq_ok`, `eq_filterMap_of_mapM`: a list of steps succeeds with the results of its elements, one for each;
* `mapM_eq_error`: it fails with the fault of **its first element that fails**; all elements before that one
  have succeeded;
* `exists_of_mem_mapM`, `exists_mem_of_mapM`, `pairwise_mapM`: every result comes of an element, every element
  has a result, and results stand in order where their elements do;
* `exists_mapM_eq_ok`: if every element has a result, the list succeeds; `exists_mapM_iff`, `mapM_eq_error_iff`: whether
  it does, and where it fails, without its results;
* `mapM_congr`, `mapM_eq_map`: two lists of steps over the same elements, which are told by each other one by one.
-/

namespace TreeIndex.Outcome

variable {ε α β : Type}

/-! ## 1. Two steps -/

theorem bind_eq_ok {x : Except ε α} {f : α → Except ε β} {b : β} :
    (x >>= f) = .ok b ↔ ∃ a, x = .ok a ∧ f a = .ok b := by
  cases x with
  | error e =>
    refine ⟨nofun, ?_⟩
    rintro ⟨_, h, _⟩
    cases h
  | ok a =>
    refine ⟨fun h => ⟨a, rfl, h⟩, ?_⟩
    rintro ⟨_, h, hf⟩
    cases h
    exact hf

theorem bind_eq_error {x : Except ε α} {f : α → Except ε β} {e : ε} :
    (x >>= f) = .error e ↔ x = .error e ∨ ∃ a, x = .ok a ∧ f a = .error e := by
  cases x with
  | error e' =>
    constructor
    · intro h
      cases h
      exact Or.inl rfl
    · rintro (h | ⟨_, h, _⟩)
      · cases h
        rfl
      · cases h
  | ok a =>
    refine ⟨fun h => Or.inr ⟨a, rfl, h⟩, ?_⟩
    rintro (h | ⟨_, ha, h⟩)
    · cases h
    · cases ha
      exact h

theorem ok_bind (a : α) (f : α → Except ε β) : (Except.ok a >>= f) = f a := rfl

theorem map_eq_ok {x : Except ε α} {f : α → β} {b : β} (h : x.map f = .ok b) : ∃ a, x = .ok a ∧ f a = b := by
  cases x with
  | error e => cases h
  | ok a => exact ⟨a, rfl, Except.ok.inj h⟩

theorem map_eq_error {x : Except ε α} {f : α → β} {e : ε} : x.map f = .error e ↔ x = .error e := by
  cases x <;> simp [Except.map]

theorem toOption_eq_some {x : Except ε α} {a : α} : x.toOption = some a ↔ x = .ok a := by
  cases x <;> simp [Except.toOption]

/-! ## 2. Lists whose elements belong together -/

/-- An element of one list **belongs to one** of the other. -/
theorem exists_mem_of_forall₂ {P : α → β → Prop} {xs : List α} {ys : List β} (h : List.Forall₂ P xs ys)
    {y : β} (hy : y ∈ ys) : ∃ x ∈ xs, P x y := by
  induction h with
  | nil => cases hy
  | @cons x z xs zs hxz _ ih =>
    rcases List.mem_cons.1 hy with rfl | hy
    · exact ⟨x, List.mem_cons_self, hxz⟩
    · obtain ⟨w, hw, hwy⟩ := ih hy
      exact ⟨w, List.mem_cons_of_mem x hw, hwy⟩

section Pairwise

variable {P : α → β → Prop} {R : α → α → Prop} {S : β → β → Prop} {xs : List α} {ys : List β}

/-- One list stands in order **where the other does**. -/
theorem pairwise_of_forall₂ (h : List.Forall₂ P xs ys) (hR : xs.Pairwise R)
    (hS : ∀ x x' y y', R x x' → P x y → P x' y' → S y y') : ys.Pairwise S := by
  induction h with
  | nil => exact List.Pairwise.nil
  | @cons x y xs ys hxy hrest ih =>
    obtain ⟨hx, hR⟩ := List.pairwise_cons.1 hR
    refine List.pairwise_cons.2 ⟨fun z hz => ?_, ih hR⟩
    obtain ⟨w, hw, hwz⟩ := exists_mem_of_forall₂ hrest hz
    exact hS x w y z (hx w hw) hxy hwz

/-- Both lists stand in order, **or neither does**. -/
theorem pairwise_iff_of_forall₂ (h : List.Forall₂ P xs ys)
    (hRS : ∀ x x' y y', P x y → P x' y' → (R x x' ↔ S y y')) : xs.Pairwise R ↔ ys.Pairwise S := by
  constructor
  · intro hR
    exact pairwise_of_forall₂ h hR fun x x' y y' hr hxy hxy' => (hRS x x' y y' hxy hxy').1 hr
  · intro hS
    exact pairwise_of_forall₂ h.flip hS fun y y' x x' hs hxy hxy' => (hRS x x' y y' hxy hxy').2 hs

end Pairwise

/-! ## 3. Lists of steps -/

variable {f : α → Except ε β}

theorem mapM_nil : ([] : List α).mapM f = .ok [] := rfl

theorem mapM_cons (x : α) (xs : List α) :
    (x :: xs).mapM f = f x >>= fun y => xs.mapM f >>= fun ys => .ok (y :: ys) := by
  rw [List.mapM_cons]
  rfl

/-- A list of steps **succeeds** exactly with the results of its elements. -/
theorem mapM_eq_ok : ∀ {xs : List α} {ys : List β},
    xs.mapM f = .ok ys ↔ List.Forall₂ (fun x y => f x = .ok y) xs ys
  | [], ys => by
    rw [mapM_nil, List.forall₂_nil_left_iff, Except.ok.injEq]
    exact eq_comm
  | x :: xs, ys => by
    rw [mapM_cons, bind_eq_ok, List.forall₂_cons_left_iff]
    constructor
    · rintro ⟨y, hy, h⟩
      obtain ⟨zs, hzs, h⟩ := bind_eq_ok.1 h
      cases h
      exact ⟨y, zs, hy, mapM_eq_ok.1 hzs, rfl⟩
    · rintro ⟨y, zs, hy, hzs, rfl⟩
      exact ⟨y, hy, bind_eq_ok.2 ⟨zs, mapM_eq_ok.2 hzs, rfl⟩⟩

/-- The results are **those of the elements**, which all have one. -/
theorem eq_filterMap_of_mapM {xs : List α} {ys : List β} (h : xs.mapM f = .ok ys) :
    ys = xs.filterMap fun x => (f x).toOption := by
  have hall := mapM_eq_ok.1 h
  clear h
  induction hall with
  | nil => rfl
  | @cons x y xs ys hy _ ih =>
    have htop : (f x).toOption = some y := toOption_eq_some.2 hy
    rw [List.filterMap_cons, htop, ← ih]

/-- A list of steps **fails** exactly with the fault of its first element that fails. -/
theorem mapM_eq_error {e : ε} : ∀ {xs : List α},
    xs.mapM f = .error e ↔ ∃ before x after ys, xs = before ++ x :: after ∧
      List.Forall₂ (fun x y => f x = .ok y) before ys ∧ f x = .error e
  | [] => by
    rw [mapM_nil]
    refine ⟨nofun, ?_⟩
    rintro ⟨before, x, after, _, h, _⟩
    cases before <;> cases h
  | x :: xs => by
    rw [mapM_cons, bind_eq_error]
    constructor
    · rintro (h | ⟨y, hy, h⟩)
      · exact ⟨[], x, xs, [], rfl, .nil, h⟩
      · rcases bind_eq_error.1 h with h | ⟨_, _, h⟩
        · obtain ⟨before, z, after, ys, rfl, hys, hz⟩ := mapM_eq_error.1 h
          exact ⟨x :: before, z, after, y :: ys, rfl, .cons hy hys, hz⟩
        · cases h
    · rintro ⟨before, z, after, ys, h, hys, hz⟩
      cases before with
      | nil =>
        cases h
        exact Or.inl hz
      | cons w before =>
        cases h
        obtain ⟨y, zs, hy, hzs, -⟩ := List.forall₂_cons_left_iff.1 hys
        refine Or.inr ⟨y, hy, bind_eq_error.2 (Or.inl ?_)⟩
        exact mapM_eq_error.2 ⟨before, z, after, zs, rfl, hzs, hz⟩

/-- Every result **comes of an element**. -/
theorem exists_of_mem_mapM {xs : List α} {ys : List β} (h : xs.mapM f = .ok ys) {y : β} (hy : y ∈ ys) :
    ∃ x ∈ xs, f x = .ok y :=
  exists_mem_of_forall₂ (mapM_eq_ok.1 h) hy

/-- Every element **has a result**. -/
theorem exists_mem_of_mapM {xs : List α} {ys : List β} (h : xs.mapM f = .ok ys) {x : α} (hx : x ∈ xs) :
    ∃ y ∈ ys, f x = .ok y :=
  exists_mem_of_forall₂ (mapM_eq_ok.1 h).flip hx

/-- A list of steps of which **every one succeeds** succeeds. -/
theorem exists_mapM_eq_ok {xs : List α} (h : ∀ x ∈ xs, ∃ y, f x = .ok y) : ∃ ys, xs.mapM f = .ok ys := by
  cases hm : xs.mapM f with
  | ok ys => exact ⟨ys, rfl⟩
  | error e =>
    obtain ⟨before, x, after, _, rfl, -, hx⟩ := mapM_eq_error.1 hm
    obtain ⟨y, hy⟩ := h x (by simp)
    rw [hx] at hy
    cases hy

theorem exists_mapM_iff {xs : List α} : (∃ ys, xs.mapM f = .ok ys) ↔ ∀ x ∈ xs, ∃ y, f x = .ok y := by
  constructor
  · intro ⟨ys, hys⟩ x hx
    obtain ⟨y, -, hy⟩ := exists_mem_of_mapM hys hx
    exact ⟨y, hy⟩
  · exact exists_mapM_eq_ok

theorem mapM_eq_error_iff {e : ε} {xs : List α} : xs.mapM f = .error e ↔
    ∃ before x after, xs = before ++ x :: after ∧ (∀ b ∈ before, ∃ y, f b = .ok y) ∧ f x = .error e := by
  rw [mapM_eq_error]
  constructor
  · intro ⟨before, x, after, ys, hxs, hys, hx⟩
    exact ⟨before, x, after, hxs, exists_mapM_iff.1 ⟨ys, mapM_eq_ok.2 hys⟩, hx⟩
  · intro ⟨before, x, after, hxs, hbefore, hx⟩
    obtain ⟨ys, hys⟩ := exists_mapM_eq_ok hbefore
    exact ⟨before, x, after, ys, hxs, mapM_eq_ok.1 hys, hx⟩

/-- Results stand in order **where their elements do**. -/
theorem pairwise_mapM {R : α → α → Prop} {S : β → β → Prop}
    (hS : ∀ {x x' y y'}, R x x' → f x = .ok y → f x' = .ok y' → S y y') {xs : List α} {ys : List β}
    (hR : xs.Pairwise R) (h : xs.mapM f = .ok ys) : ys.Pairwise S :=
  pairwise_of_forall₂ (mapM_eq_ok.1 h) hR fun _ _ _ _ => hS

/-- Lists of steps that do the same with every element **do the same**. -/
theorem mapM_congr {g : α → Except ε β} : ∀ {xs : List α}, (∀ x ∈ xs, f x = g x) → xs.mapM f = xs.mapM g
  | [], _ => rfl
  | x :: xs, h => by
    obtain ⟨hx, hxs⟩ := List.forall_mem_cons.1 h
    rw [mapM_cons, mapM_cons, hx, mapM_congr hxs]

/-- Two lists of steps over the same elements: what one gives is **told by what the other gives**, if it is so of
    every element. -/
theorem mapM_eq_map {γ : Type} {g : α → Except ε γ} {t : β → γ} : ∀ {xs : List α} {ys : List β} {zs : List γ},
    xs.mapM f = .ok ys → xs.mapM g = .ok zs →
      (∀ x ∈ xs, ∀ y z, f x = .ok y → g x = .ok z → z = t y) → zs = ys.map t
  | [], _, _, hy, hz, _ => by
    obtain rfl := Except.ok.inj hy
    exact (Except.ok.inj hz).symm
  | x :: xs, _, _, hy, hz, h => by
    obtain ⟨hx, hxs⟩ := List.forall_mem_cons.1 h
    obtain ⟨y, ys, hfx, hys, rfl⟩ := List.forall₂_cons_left_iff.1 (mapM_eq_ok.1 hy)
    obtain ⟨z, zs, hgx, hzs, rfl⟩ := List.forall₂_cons_left_iff.1 (mapM_eq_ok.1 hz)
    rw [List.map_cons, hx y z hfx hgx, mapM_eq_map (mapM_eq_ok.2 hys) (mapM_eq_ok.2 hzs) hxs]

end TreeIndex.Outcome
