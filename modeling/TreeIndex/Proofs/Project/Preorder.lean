import Mathlib.Logic.Relation
import TreeIndex.Component

/-!
# Depth-first preorder

What a depth-first search lists: every project in front of what it leads to, **each path once**.

* `ListedIn`: a project of the same path is listed;
* `Preorder`: what a search lists of some pending projects, after those that are listed already. It is said **by
  recursion, without a stack**: a project, all below it, then all beside it;
* `Preorder.append`: what two lists of pending projects give one after the other, and `Preorder.of_filter`: a
  pending project that is listed may be left out -- together they are what turns a stack into this recursion;
* `Preorder.fresh`: no path is listed twice; `Preorder.closed`: whatever a listed project leads to is listed;
  `Preorder.reaches`: nothing else is;
* `Preorder.imp`: only what listed projects lead to matters;
* `Preorder.unique`: so **one list** is the preorder.
-/

namespace TreeIndex.Project

/-- A project of **the same path** is listed. -/
def ListedIn (listed : List Project) (p : Project) : Prop :=
  ∃ q ∈ listed, p.path.same q.path = true

/-- **Depth-first preorder.** `next p qs` says that `p` leads to `qs`, in this order; `Preorder next listed
    pending out` that `out` is what a search lists of the pending projects, after those listed already. -/
inductive Preorder (next : Project → List Project → Prop) :
    List Project → List Project → List Project → Prop where
  | nil {listed : List Project} : Preorder next listed [] []
  /-- What is listed is passed over. -/
  | listed {listed pending out : List Project} {p : Project} (hp : ListedIn listed p)
      (more : Preorder next listed pending out) : Preorder next listed (p :: pending) out
  /-- What is new comes first, then all below it, then all beside it. -/
  | new {listed qs pending below beside : List Project} {p : Project} (hp : ¬ ListedIn listed p)
      (hnext : next p qs) (hbelow : Preorder next (listed ++ [p]) qs below)
      (hbeside : Preorder next (listed ++ p :: below) pending beside) :
      Preorder next listed (p :: pending) (p :: (below ++ beside))

/-! ## 1. What is listed -/

theorem ListedIn.mono {listed more : List Project} {p : Project} (h : ListedIn listed p)
    (hsub : ∀ q ∈ listed, q ∈ more) : ListedIn more p := by
  obtain ⟨q, hq, hsame⟩ := h
  exact ⟨q, hsub q hq, hsame⟩

theorem listedIn_of_mem {listed : List Project} {p : Project} (h : p ∈ listed) : ListedIn listed p :=
  ⟨p, h, Path.same_refl p.path⟩

/-- Projects are told apart **by their paths**. -/
def Apart (p q : Project) : Prop :=
  p.path.same q.path = false

theorem Apart.symm {p q : Project} (h : Apart p q) : Apart q p := by
  rw [Apart, Bool.eq_false_iff] at h ⊢
  exact fun hqp => h (Path.same_iff.2 (Path.same_iff.1 hqp).symm)

theorem not_listedIn_iff {listed : List Project} {p : Project} :
    ¬ ListedIn listed p ↔ ∀ q ∈ listed, Apart p q := by
  simp [ListedIn, Apart]

namespace Preorder

variable {next : Project → List Project → Prop} {listed pending out : List Project}

/-! ## 2. Pending projects -/

/-- What two lists of pending projects give **one after the other**. -/
theorem append {a b : List Project} (h : Preorder next listed (a ++ b) out) :
    ∃ front back, out = front ++ back ∧ Preorder next listed a front ∧
      Preorder next (listed ++ front) b back := by
  generalize hab : a ++ b = pending at h
  induction h generalizing a with
  | nil =>
    obtain ⟨rfl, rfl⟩ := List.append_eq_nil_iff.1 hab
    exact ⟨[], [], rfl, .nil, .nil⟩
  | @listed listed pending out p hp more ih =>
    cases a with
    | nil =>
      cases hab
      exact ⟨[], out, rfl, .nil, by simpa using Preorder.listed hp more⟩
    | cons q a =>
      cases hab
      obtain ⟨front, back, rfl, hfront, hback⟩ := ih rfl
      exact ⟨front, back, rfl, .listed hp hfront, hback⟩
  | @new listed qs pending below beside p hp hnext hbelow hbeside _ ih =>
    cases a with
    | nil =>
      cases hab
      exact ⟨[], _, rfl, .nil, by simpa using Preorder.new hp hnext hbelow hbeside⟩
    | cons q a =>
      cases hab
      obtain ⟨front, back, rfl, hfront, hback⟩ := ih rfl
      refine ⟨p :: (below ++ front), back, by simp, .new hp hnext hbelow hfront, ?_⟩
      simpa using hback

/-- A pending project that is listed **may be left out**. -/
theorem of_filter {seen : Project → Bool} : ∀ {pending before out : List Project},
    (∀ p, seen p = true → ListedIn before p) →
      Preorder next before (pending.filter fun p => !seen p) out → Preorder next before pending out
  | [], _, _, _, h => h
  | p :: pending, before, out, hseen, h => by
    cases hp : seen p with
    | true =>
      rw [List.filter_cons_of_neg (by simp [hp])] at h
      exact .listed (hseen p hp) (of_filter hseen h)
    | false =>
      rw [List.filter_cons_of_pos (by simp [hp])] at h
      cases h with
      | listed hl more => exact .listed hl (of_filter hseen more)
      | new hn hnext hbelow hbeside =>
        refine .new hn hnext hbelow (of_filter (fun q hq => ?_) hbeside)
        exact (hseen q hq).mono fun r hr => List.mem_append_left _ hr

/-- Where everything that is pending is listed, **nothing more is listed**. -/
theorem of_listed : ∀ {front : List Project}, (∀ p ∈ front, ListedIn listed p) →
    Preorder next listed pending out → Preorder next listed (front ++ pending) out
  | [], _, h => h
  | _ :: _, hfront, h =>
    .listed (hfront _ List.mem_cons_self)
      (of_listed (fun p hp => hfront p (List.mem_cons_of_mem _ hp)) h)

/-! ## 3. What a preorder holds -/

/-- **No path is listed twice.** -/
theorem fresh (h : Preorder next listed pending out) :
    out.Pairwise Apart ∧ ∀ p ∈ out, ¬ ListedIn listed p := by
  induction h with
  | nil => exact ⟨List.Pairwise.nil, fun _ hp => absurd hp List.not_mem_nil⟩
  | listed _ _ ih => exact ih
  | @new listed qs pending below beside p hp _ _ _ ihbelow ihbeside =>
    obtain ⟨hbelow, hbelow'⟩ := ihbelow
    obtain ⟨hbeside, hbeside'⟩ := ihbeside
    have hfront : ∀ q ∈ below ++ beside, Apart p q := by
      intro q hq
      rcases List.mem_append.1 hq with hq | hq
      · have hnot := hbelow' q hq
        exact (not_listedIn_iff.1 hnot p (by simp)).symm
      · have hnot := hbeside' q hq
        exact (not_listedIn_iff.1 hnot p (by simp)).symm
    refine ⟨List.pairwise_cons.2 ⟨hfront, List.pairwise_append.2 ⟨hbelow, hbeside, ?_⟩⟩, ?_⟩
    · intro q hq r hr
      have hnot := hbeside' r hr
      exact (not_listedIn_iff.1 hnot q (by simp [hq])).symm
    · intro q hq
      rcases List.mem_cons.1 hq with rfl | hq
      · exact hp
      rcases List.mem_append.1 hq with hq | hq
      · exact fun hl => hbelow' q hq (hl.mono fun r hr => List.mem_append_left _ hr)
      · exact fun hl => hbeside' q hq (hl.mono fun r hr => List.mem_append_left _ hr)

/-- Whatever is pending is listed in the end, and so is **whatever a listed project leads to**. -/
theorem closed (h : Preorder next listed pending out) :
    (∀ p ∈ pending, ListedIn (listed ++ out) p) ∧
      ∀ p ∈ out, ∃ qs, next p qs ∧ ∀ q ∈ qs, ListedIn (listed ++ out) q := by
  induction h with
  | nil =>
    exact ⟨fun _ hp => absurd hp List.not_mem_nil, fun _ hp => absurd hp List.not_mem_nil⟩
  | @listed listed pending out p hp _ ih =>
    refine ⟨List.forall_mem_cons.2 ⟨?_, ih.1⟩, ih.2⟩
    exact hp.mono fun q hq => List.mem_append_left _ hq
  | @new listed qs pending below beside p _ hnext _ _ ihbelow ihbeside =>
    have hbelow : ∀ q, ListedIn (listed ++ [p] ++ below) q → ListedIn (listed ++ p :: (below ++ beside)) q := by
      intro q hq
      refine hq.mono fun r hr => ?_
      rw [List.append_assoc] at hr
      rcases List.mem_append.1 hr with hr | hr
      · exact List.mem_append_left _ hr
      · exact List.mem_append_right _ (List.mem_append_left beside hr)
    have hbeside : ∀ q, ListedIn (listed ++ p :: below ++ beside) q →
        ListedIn (listed ++ p :: (below ++ beside)) q := by
      intro q hq
      simpa using hq
    refine ⟨List.forall_mem_cons.2 ⟨?_, fun q hq => hbeside q (ihbeside.1 q hq)⟩, ?_⟩
    · exact listedIn_of_mem (by simp)
    · intro q hq
      rcases List.mem_cons.1 hq with rfl | hq
      · exact ⟨qs, hnext, fun r hr => hbelow r (ihbelow.1 r hr)⟩
      rcases List.mem_append.1 hq with hq | hq
      · obtain ⟨rs, hrs, hall⟩ := ihbelow.2 q hq
        exact ⟨rs, hrs, fun r hr => hbelow r (hall r hr)⟩
      · obtain ⟨rs, hrs, hall⟩ := ihbeside.2 q hq
        exact ⟨rs, hrs, fun r hr => hbeside r (hall r hr)⟩

/-- Whatever is listed is **reached from something pending**. -/
theorem reaches {leads : Project → Project → Prop} (hleads : ∀ p qs, next p qs → ∀ q ∈ qs, leads p q)
    (h : Preorder next listed pending out) :
    ∀ q ∈ out, ∃ p ∈ pending, Relation.ReflTransGen leads p q := by
  induction h with
  | nil => exact fun _ hq => absurd hq List.not_mem_nil
  | listed _ _ ih =>
    intro q hq
    obtain ⟨p, hp, hpq⟩ := ih q hq
    exact ⟨p, List.mem_cons_of_mem _ hp, hpq⟩
  | @new listed qs pending below beside p _ hnext _ _ ihbelow ihbeside =>
    intro q hq
    rcases List.mem_cons.1 hq with rfl | hq
    · exact ⟨q, List.mem_cons_self, .refl⟩
    rcases List.mem_append.1 hq with hq | hq
    · obtain ⟨r, hr, hrq⟩ := ihbelow q hq
      exact ⟨p, List.mem_cons_self, .head (hleads p qs hnext r hr) hrq⟩
    · obtain ⟨r, hr, hrq⟩ := ihbeside q hq
      exact ⟨r, List.mem_cons_of_mem _ hr, hrq⟩

/-- Where whatever is listed leads to the same, **the same is listed**. -/
theorem imp {next' : Project → List Project → Prop} (h : Preorder next listed pending out) :
    (∀ p ∈ out, ∀ qs, next p qs → next' p qs) → Preorder next' listed pending out := by
  induction h with
  | nil => exact fun _ => .nil
  | listed hp _ ih => exact fun himp => .listed hp (ih himp)
  | @new listed qs pending below beside p hp hnext _ _ ihbelow ihbeside =>
    intro himp
    refine .new hp (himp p List.mem_cons_self qs hnext) (ihbelow fun q hq => ?_) (ihbeside fun q hq => ?_)
    · exact himp q (List.mem_cons_of_mem p (List.mem_append_left beside hq))
    · exact himp q (List.mem_cons_of_mem p (List.mem_append_right below hq))

/-- **One list** is the preorder, if every project leads to one list. -/
theorem unique (hnext : ∀ p qs rs, next p qs → next p rs → qs = rs) (h : Preorder next listed pending out) :
    ∀ {other : List Project}, Preorder next listed pending other → other = out := by
  induction h with
  | nil =>
    intro other ho
    cases ho
    rfl
  | listed hp _ ih =>
    intro other ho
    cases ho with
    | listed _ more => exact ih more
    | new hn _ _ _ => exact absurd hp hn
  | new hp hqs _ _ ihbelow ihbeside =>
    intro other ho
    cases ho with
    | listed hl _ => exact absurd hl hp
    | new _ hrs hbelow hbeside =>
      obtain rfl := hnext _ _ _ hrs hqs
      obtain rfl := ihbelow hbelow
      rw [ihbeside hbeside]

end Preorder

end TreeIndex.Project
