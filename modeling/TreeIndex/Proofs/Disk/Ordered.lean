import TreeIndex.Proofs.Disk.Unfollowed
import TreeIndex.Proofs.Disk.Parent

/-!
# Walks in order

A walk comes by the files **in the order of their paths**, whatever links it goes through: what lies behind a link is
found under the path of the link, and so in its place.

* `Continues`: paths that continue one path by names of entries, in order;
* `continues_walkEntry`: what is found at an entry continues its path, if what is found behind a link does;
  `continues_filesBehind`: and it does;
* `pairwise_filesBeneath`: so the files beneath a path **stand in order**.
-/

namespace TreeIndex.Disk

/-- Paths that **continue one path** by names of entries, and stand in order. -/
structure Continues (p : Path) (paths : List Path) : Prop where
  names : ∀ q ∈ paths, ∃ rel, (∀ n ∈ rel, isEntryName n = true) ∧ q = p.descend rel
  ordered : paths.Pairwise Path.before

theorem continues_nil (p : Path) : Continues p [] :=
  ⟨fun _ hq => absurd hq List.not_mem_nil, List.Pairwise.nil⟩

theorem continues_self (p : Path) : Continues p [p] where
  names := fun _ hq => ⟨[], fun _ hn => absurd hn List.not_mem_nil, List.mem_singleton.1 hq⟩
  ordered := List.pairwise_singleton _ p

/-- Of two names of one folder, what continues **the earlier one** stands before what continues the later one. -/
theorem before_descend {p : Path} {name other : String} {rel more : List String} (hp : p.text ≠ "")
    (h : ∀ n ∈ name :: rel, isEntryName n = true) (h' : ∀ n ∈ other :: more, isEntryName n = true) (hlt : name < other) :
    (p.descend (name :: rel)).before (p.descend (other :: more)) := by
  rw [Path.before, steps_descend hp h, steps_descend hp h']
  exact lex_append p.steps (lex_map_name (.rel hlt))

section Walks

variable {through : List Location → Path → List Path} {prunes : String → Bool}

mutual

/-- What is found at an entry **continues its path**, if what is found behind a link does. -/
theorem continues_walkEntry (hthrough : ∀ above p, Continues p (through above p)) :
    ∀ (e : Entry) (above : List Location) (loc : Location) (p : Path), e.Tidy → p.text ≠ "" →
      Continues p (walkEntry through prunes above loc p e)
  | .file _, _, _, p, _, _ => continues_self p
  | .link _, above, _, p, _, _ => hthrough above p
  | .folder es, above, loc, p, htidy, hp => by
    rw [Entry.Tidy] at htidy
    obtain ⟨hnames, hordered⟩ := continues_walkEntries hthrough es (loc :: above) loc p htidy.1 htidy.2 hp
    refine ⟨fun q hq => ?_, hordered⟩
    obtain ⟨x, -, rel, hrel, hq⟩ := hnames q hq
    exact ⟨x.1 :: rel, hrel, hq⟩

theorem continues_walkEntries (hthrough : ∀ above p, Continues p (through above p)) :
    ∀ (es : List (String × Entry)) (above : List Location) (loc : Location) (p : Path), Ascending es →
      TidyEntries es → p.text ≠ "" →
      (∀ q ∈ walkEntries through prunes above loc p es, ∃ x ∈ es, ∃ rel,
        (∀ n ∈ x.1 :: rel, isEntryName n = true) ∧ q = p.descend (x.1 :: rel)) ∧
      (walkEntries through prunes above loc p es).Pairwise Path.before
  | [], _, _, _, _, _, _ => ⟨fun _ hq => absurd hq List.not_mem_nil, List.Pairwise.nil⟩
  | (name, e) :: es, above, loc, p, hasc, htidy, hp => by
    rw [TidyEntries] at htidy
    obtain ⟨hname, he, hes⟩ := htidy
    obtain ⟨hlt, hasc⟩ := List.pairwise_cons.1 hasc
    obtain ⟨hrest, hordered⟩ := continues_walkEntries hthrough es above loc p hasc hes hp
    have hchild := (child_ends (isSegment_of_isEntryName hname) hp).1
    have hfirst : Continues (p.child name)
        (if prunes name then [] else walkEntry through prunes above (loc ++ [name]) (p.child name) e) := by
      split
      · exact continues_nil _
      · exact continues_walkEntry hthrough e above (loc ++ [name]) (p.child name) he hchild
    have hhead (q : Path)
        (hq : q ∈ if prunes name then [] else walkEntry through prunes above (loc ++ [name]) (p.child name) e) :
        ∃ rel, (∀ n ∈ name :: rel, isEntryName n = true) ∧ q = p.descend (name :: rel) := by
      obtain ⟨rel, hrel, hq⟩ := hfirst.names q hq
      exact ⟨rel, List.forall_mem_cons.2 ⟨hname, hrel⟩, hq⟩
    rw [walkEntries]
    refine ⟨fun q hq => ?_, List.pairwise_append.2 ⟨hfirst.ordered, hordered, fun a ha b hb => ?_⟩⟩
    · rcases List.mem_append.1 hq with hq | hq
      · obtain ⟨rel, hrel, hq⟩ := hhead q hq
        exact ⟨(name, e), List.mem_cons_self, rel, hrel, hq⟩
      · obtain ⟨x, hx, rel, hrel, hq⟩ := hrest q hq
        exact ⟨x, List.mem_cons_of_mem _ hx, rel, hrel, hq⟩
    · obtain ⟨rel, hrel, rfl⟩ := hhead a ha
      obtain ⟨x, hx, more, hmore, rfl⟩ := hrest b hb
      exact before_descend hp hrel hmore (hlt x hx)

end

end Walks

section Links

variable (d : Disk)

/-- So does what is found **at a path where an entry lies**. -/
theorem continues_of_entry? {through : List Location → Path → List Path} {prunes : String → Bool} {p : Path}
    {loc : Location} {e : Entry} (hthrough : ∀ above p, Continues p (through above p)) (hentry : d.entry? p = .ok (loc, e))
    (above : List Location) : Continues p (walkEntry through prunes above loc p e) := by
  obtain ⟨htext, -⟩ := walk_of_entry? hentry
  exact continues_walkEntry hthrough e above loc p (d.tidy.at? (entry?_lands hentry).1) htext

/-- What is found behind a link **continues the path of the link**. -/
theorem continues_filesBehind (prunes : String → Bool) : ∀ (spare : Nat) (above : List Location) (p : Path),
    Continues p (d.filesBehind prunes spare above p)
  | 0, _, p => continues_nil p
  | spare + 1, above, p => by
    unfold filesBehind
    split
    · rename_i loc e hentry
      split
      · exact continues_nil p
      · exact d.continues_of_entry? (continues_filesBehind prunes spare) hentry above
    · exact continues_nil p

theorem continues_filesThrough (o : WalkOptions) (above : List Location) (p : Path) :
    Continues p (d.filesThrough o above p) := by
  unfold filesThrough
  split
  · exact continues_filesBehind d o.prunes _ above p
  · exact continues_nil p

theorem continues_filesBeneath (o : WalkOptions) (p : Path) : Continues p (d.filesBeneath o p) := by
  unfold filesBeneath
  split
  · split
    · exact continues_filesThrough d o [] p
    · split
      · rename_i loc es hentry
        have hwalk : Continues p (walkEntry (d.filesThrough o) o.prunes [] loc p (.folder es)) :=
          d.continues_of_entry? (continues_filesThrough d o) hentry []
        rwa [walkEntry] at hwalk
      · exact continues_nil p
  · rename_i loc e hne hplace
    have hentry := entry?_of_place? (fun target heq => hne target (heq ▸ rfl)) hplace
    exact d.continues_of_entry? (continues_filesThrough d o) hentry []
  · exact continues_nil p

/-- **The files beneath a path stand in order**, whatever links are gone through. -/
theorem pairwise_filesBeneath (o : WalkOptions) (p : Path) : (d.filesBeneath o p).Pairwise Path.before :=
  (continues_filesBeneath d o p).ordered

end Links

end TreeIndex.Disk
