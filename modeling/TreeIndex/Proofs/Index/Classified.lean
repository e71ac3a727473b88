import Mathlib.Data.List.Pairwise
import TreeIndex.Proofs.Index.Files

/-!
# The files that definitions recognise

Which files of a tree are indexed, by which definition, and under which name.

* `Definition.Claims`: a definition claims the names that end with its suffix;
* `ClassIn`: of the definitions that claim a name, **the one with the longest suffix**, and the first of those with the
  same; `answers_foldl`, `classOf?_eq_some_iff`: going through the definitions once, one always finds it;
* `ClassIn.perm`, `files?_perm`: where no suffix stands twice, **the order of the definitions does not matter**;
* `withoutEnding_spec`: what remains of a name without its suffix;
* `Covers`, `Describes`, `HoldsFiles`: which files definitions cover, what is said of each of them, and a list of
  files that says it of all;
* `files?_holds`: on a disk without links, if everything can be read, **the files of a tree** are such a list.
-/

namespace TreeIndex

/-! ## 1. The definition of a name -/

/-- The definition **claims a name**: it has a suffix, and the name ends with it. -/
def Definition.Claims (c : Definition) (suffix name : String) : Prop :=
  c.suffix? = some suffix ∧ suffix.toList <:+ name.toList

namespace Definitions

/-- Of some definitions, the one with **the longest suffix** that a name ends with, and the first of those that have
    this suffix. -/
structure ClassIn (cs : List Definition) (name suffix : String) (c : Definition) : Prop where
  claims : c.Claims suffix name
  longest : ∀ other ∈ cs, ∀ text, other.Claims text name → text.length ≤ suffix.length
  first : cs.find? (fun other => other.suffix? == some suffix) = some c

section Class

variable {cs : List Definition} {name suffix : String} {c b : Definition} {best : Option Definition}

theorem ClassIn.mem (h : ClassIn cs name suffix c) : c ∈ cs :=
  List.mem_of_find?_eq_some h.first

/-- **There is only one** such definition. -/
theorem ClassIn.unique {text : String} (h : ClassIn cs name suffix c) (h' : ClassIn cs name text b) :
    suffix = text ∧ c = b := by
  have hlength : suffix.length = text.length :=
    Nat.le_antisymm (h'.longest c h.mem suffix h.claims) (h.longest b h'.mem text h'.claims)
  have hsame : suffix = text := by
    -- both end the name, so they are the same if they are as long
    have hle : suffix.toList.length ≤ text.toList.length := hlength.le
    refine String.toList_injective ((List.suffix_of_suffix_length_le h.claims.2 h'.claims.2 hle).eq_of_length ?_)
    exact hlength
  subst hsame
  exact ⟨rfl, Option.some.inj (h.first.symm.trans h'.first)⟩

/-- One more definition, **no better**, changes nothing. -/
theorem ClassIn.append (h : ClassIn cs name suffix b)
    (hc : ∀ text, c.Claims text name → text.length ≤ suffix.length) : ClassIn (cs ++ [c]) name suffix b := by
  refine ⟨h.claims, fun other hother text htext => ?_, ?_⟩
  · rcases List.mem_append.1 hother with hother | hother
    · exact h.longest other hother text htext
    · rw [List.mem_singleton] at hother
      exact hc text (hother ▸ htext)
  · rw [List.find?_append, h.first, Option.some_or]

/-- One more definition **with a longer suffix** than all that claim the name is the one. -/
theorem classIn_append (hc : c.Claims suffix name)
    (hcs : ∀ other ∈ cs, ∀ text, other.Claims text name → text.length < suffix.length) :
    ClassIn (cs ++ [c]) name suffix c := by
  refine ⟨hc, fun other hother text htext => ?_, ?_⟩
  · rcases List.mem_append.1 hother with hother | hother
    · exact (hcs other hother text htext).le
    · obtain rfl := List.mem_singleton.1 hother
      rw [Option.some.inj (htext.1.symm.trans hc.1)]
  · have hnone : cs.find? (fun other => other.suffix? == some suffix) = none := by
      refine List.find?_eq_none.2 fun other hother hsuffix => ?_
      exact Nat.lt_irrefl _ (hcs other hother suffix ⟨beq_iff_eq.1 hsuffix, hc.2⟩)
    rw [List.find?_append, hnone, Option.none_or, List.find?_cons_of_pos (by rw [hc.1, beq_iff_eq])]

/-! ## 2. The search for it -/

/-- A text is its ending **and a front**, which takes bytes if it has characters. -/
theorem exists_front_of_suffix {a b : String} (h : a.toList <:+ b.toList) : ∃ front : String,
    b.length = front.length + a.length ∧ b.utf8ByteSize = front.utf8ByteSize + a.utf8ByteSize ∧
      (front.utf8ByteSize = 0 ↔ front.length = 0) := by
  obtain ⟨cs, hcs⟩ := h
  have hb : b = String.ofList cs ++ a := by
    rw [← String.toList_inj, String.toList_append, String.toList_ofList, hcs]
  refine ⟨String.ofList cs, by rw [hb, String.length_append], by rw [hb, String.utf8ByteSize_append], ?_⟩
  rw [String.utf8ByteSize_eq_zero_iff, String.length_eq_zero_iff]

/-- Of two endings of one name, **the longer one** takes more bytes. -/
theorem size_lt_iff {a b : String} (ha : a.toList <:+ name.toList) (hb : b.toList <:+ name.toList) :
    a.utf8ByteSize < b.utf8ByteSize ↔ a.length < b.length := by
  rcases List.suffix_or_suffix_of_suffix ha hb with h | h <;>
    obtain ⟨front, hlength, hsize, hfront⟩ := exists_front_of_suffix h <;>
    omega

theorem better_of_claims (h : c.Claims suffix name) :
    better name best c = if outdoes suffix best then some c else best := by
  rw [better, h.1]
  dsimp only
  rw [Disk.hasEnding_iff.2 h.2, Bool.true_and]

theorem better_of_claims_nothing (h : ∀ suffix, ¬ c.Claims suffix name) : better name best c = best := by
  unfold better
  split
  · rfl
  · rename_i suffix hsuffix
    have hending : hasEnding name suffix = false :=
      Bool.eq_false_iff.2 fun hending => h suffix ⟨hsuffix, Disk.hasEnding_iff.1 hending⟩
    rw [hending, Bool.false_and, if_neg Bool.false_ne_true]

theorem better_none (h : c.Claims suffix name) : better name none c = some c :=
  (better_of_claims h).trans (if_pos rfl)

theorem better_some {text : String} (h : c.Claims suffix name) (hb : b.Claims text name) :
    better name (some b) c = if text.length < suffix.length then some c else some b := by
  rw [better_of_claims h, outdoes, Option.bind_some, hb.1]
  dsimp only
  exact if_congr (decide_eq_true_iff.trans (size_lt_iff hb.2 h.2)) rfl rfl

/-- The **answer** to a name: none if no definition claims it, or else its definition. -/
def Answers (cs : List Definition) (name : String) (best : Option Definition) : Prop :=
  (best = none → ∀ c ∈ cs, ∀ suffix, ¬ c.Claims suffix name) ∧ ∀ c, best = some c → ∃ suffix, ClassIn cs name suffix c

/-- One step of the search keeps the answer **up to date**. -/
theorem Answers.better (h : Answers cs name best) (c : Definition) : Answers (cs ++ [c]) name (better name best c) := by
  obtain ⟨hnone, hsome⟩ := h
  by_cases hclaims : ∃ suffix, c.Claims suffix name
  · obtain ⟨suffix, hc⟩ := hclaims
    cases best with
    | none =>
      rw [better_none hc]
      refine ⟨fun h => absurd h (Option.some_ne_none c), fun found hfound => ⟨suffix, ?_⟩⟩
      obtain rfl := Option.some.inj hfound
      exact classIn_append hc fun other hother text htext => absurd htext (hnone rfl other hother text)
    | some b =>
      obtain ⟨text, hb⟩ := hsome b rfl
      rw [better_some hc hb.claims]
      split
      · rename_i hlonger
        refine ⟨fun h => absurd h (Option.some_ne_none c), fun found hfound => ⟨suffix, ?_⟩⟩
        obtain rfl := Option.some.inj hfound
        exact classIn_append hc fun other hother more hmore =>
          Nat.lt_of_le_of_lt (hb.longest other hother more hmore) hlonger
      · rename_i hshorter
        refine ⟨fun h => absurd h (Option.some_ne_none b), fun found hfound => ⟨text, ?_⟩⟩
        obtain rfl := Option.some.inj hfound
        refine hb.append fun more hmore => ?_
        rw [Option.some.inj (hmore.1.symm.trans hc.1)]
        exact Nat.not_lt.1 hshorter
  · have hc : ∀ suffix, ¬ c.Claims suffix name := fun suffix hc => hclaims ⟨suffix, hc⟩
    rw [better_of_claims_nothing hc]
    refine ⟨fun h other hother suffix hother' => ?_, fun b hb => ?_⟩
    · rcases List.mem_append.1 hother with hother | hother
      · exact hnone h other hother suffix hother'
      · exact hc suffix (List.mem_singleton.1 hother ▸ hother')
    · obtain ⟨text, hclass⟩ := hsome b hb
      exact ⟨text, hclass.append fun more hmore => absurd hmore (hc more)⟩

/-- **Going through the definitions once** gives the answer. -/
theorem answers_foldl (cs : List Definition) (name : String) :
    Answers cs name (cs.foldl (Definitions.better name) none) := by
  induction cs using List.reverseRecOn with
  | nil => exact ⟨fun _ c hc => absurd hc List.not_mem_nil, fun c h => by cases h⟩
  | append_singleton cs c ih =>
    rw [List.foldl_append]
    exact ih.better c

end Class

section ClassOf

variable {ds ds' : Definitions} {name suffix : String} {c : Definition}

/-- **The definition of a name**: there is one if any definition of files claims it. -/
theorem classOf?_eq_some_iff :
    ds.classOf? name = some c ↔ ∃ suffix, ClassIn (ds.ofKind fileKind) name suffix c := by
  obtain ⟨hnone, hsome⟩ := answers_foldl (ds.ofKind fileKind) name
  refine ⟨hsome c, fun ⟨suffix, hc⟩ => ?_⟩
  cases hbest : ds.classOf? name with
  | none => exact absurd hc.claims (hnone hbest c hc.mem suffix)
  | some b =>
    obtain ⟨text, hb⟩ := hsome b hbest
    rw [(hb.unique hc).2]

theorem exists_classIn (hmem : c ∈ ds.ofKind fileKind) (hc : c.Claims suffix name) :
    ∃ b text, ds.classOf? name = some b ∧ ClassIn (ds.ofKind fileKind) name text b := by
  obtain ⟨hnone, hsome⟩ := answers_foldl (ds.ofKind fileKind) name
  cases hbest : ds.classOf? name with
  | none => exact absurd hc (hnone hbest c hmem suffix)
  | some b =>
    obtain ⟨text, hb⟩ := hsome b hbest
    exact ⟨b, text, rfl, hb⟩

/-! ## 3. The order of the definitions -/

/-- Where no suffix stands twice, **a definition is told by its suffix**. -/
theorem eq_of_suffix? {cs : List Definition} (hnodup : (cs.filterMap Definition.suffix?).Nodup) {a b : Definition}
    (ha : a ∈ cs) (hb : b ∈ cs) (hsuffix : a.suffix? = some suffix) (hsame : b.suffix? = some suffix) : a = b := by
  by_contra hne
  have hapart := List.pairwise_filterMap.1 hnodup
  have : Std.Symm fun a b : Definition => ∀ s, a.suffix? = some s → ∀ t, b.suffix? = some t → s ≠ t :=
    ⟨fun a b h s hs t ht => (h t ht s hs).symm⟩
  exact hapart.forall ha hb hne suffix hsuffix suffix hsame rfl

/-- The definition of a name is the same **in another order**, where no suffix stands twice. -/
theorem ClassIn.perm {cs cs' : List Definition} (h : ClassIn cs name suffix c) (hperm : cs.Perm cs')
    (hnodup : (cs.filterMap Definition.suffix?).Nodup) : ClassIn cs' name suffix c := by
  refine ⟨h.claims, fun other hother => h.longest other (hperm.mem_iff.2 hother), ?_⟩
  have hsome : (cs'.find? fun other => other.suffix? == some suffix).isSome := by
    rw [List.find?_isSome]
    exact ⟨c, hperm.mem_iff.1 h.mem, by rw [h.claims.1, beq_iff_eq]⟩
  obtain ⟨b, hb⟩ := Option.isSome_iff_exists.1 hsome
  have hmem : b ∈ cs := hperm.mem_iff.2 (List.mem_of_find?_eq_some hb)
  have hsuffix : b.suffix? = some suffix := by
    have hfound := List.find?_some hb
    exact beq_iff_eq.1 hfound
  rw [hb, eq_of_suffix? hnodup hmem h.mem hsuffix h.claims.1]

section Reordered

variable (hperm : ds'.all.Perm ds.all)

include hperm

theorem perm_ofKind (kind : String) : (ds'.ofKind kind).Perm (ds.ofKind kind) :=
  hperm.filter _

theorem classOf?_perm (hnodup : (ds.suffixes fileKind).Nodup) (name : String) :
    ds'.classOf? name = ds.classOf? name := by
  have hfiles := perm_ofKind hperm fileKind
  have hnodup' : ((ds'.ofKind fileKind).filterMap Definition.suffix?).Nodup := (hfiles.filterMap _).nodup_iff.2 hnodup
  refine Option.ext fun c => ?_
  rw [classOf?_eq_some_iff, classOf?_eq_some_iff]
  exact ⟨fun ⟨suffix, h⟩ => ⟨suffix, h.perm hfiles hnodup'⟩, fun ⟨suffix, h⟩ => ⟨suffix, h.perm hfiles.symm hnodup⟩⟩

/-- A walk goes **the same way**, in whatever order the endings stand that it passes over. -/
theorem filesBeneath_perm (d : Disk) (s : Settings) (p : Path) :
    d.filesBeneath (ds'.walkOptions s) p = d.filesBeneath (ds.walkOptions s) p := by
  have hprunes : (ds'.walkOptions s).prunes = (ds.walkOptions s).prunes := by
    have hignored := (perm_ofKind hperm ignoreKind).filterMap Definition.suffix?
    exact funext fun name => hignored.any_eq
  unfold Disk.filesBeneath Disk.filesThrough
  rw [hprunes]
  rfl

/-- **Definitions in another order** find the same files, where no suffix stands twice. -/
theorem files?_perm (hroot : ds'.rootDir = ds.rootDir) (hnodup : (ds.suffixes fileKind).Nodup) (d : Disk)
    (s : Settings) : ds'.files? d s = ds.files? d s := by
  have hclass : ds'.classOf? = ds.classOf? := funext (classOf?_perm hperm hnodup)
  rw [files?, files?, classified_eq, classified_eq, hroot, hclass, filesBeneath_perm hperm]

end Reordered

end ClassOf

end Definitions

/-! ## 4. Names without suffixes -/

/-- **What remains of a name without its suffix**: what stands in front of it, or the name itself if nothing does. -/
theorem withoutEnding_spec {name suffix : String} (h : suffix.toList <:+ name.toList) :
    name = suffix ∧ withoutEnding name suffix = name ∨
      withoutEnding name suffix ≠ "" ∧ name = withoutEnding name suffix ++ suffix := by
  obtain ⟨stem, hstem⟩ := h
  have hname : name = String.ofList stem ++ suffix := by
    rw [← String.toList_inj, String.toList_append, String.toList_ofList, hstem]
  have hlength : name.length = stem.length + suffix.length := by
    rw [hname, String.length_append, String.length_ofList]
  unfold withoutEnding
  rw [Disk.hasEnding_iff.2 ⟨stem, hstem⟩, Bool.true_and]
  by_cases hnil : stem = []
  · subst hnil
    rw [if_neg (by simp [hlength])]
    exact Or.inl ⟨by rw [hname]; exact String.empty_append, rfl⟩
  · have hlonger : suffix.length < name.length := by
      have hpos := List.length_pos_of_ne_nil hnil
      omega
    have htake : name.toList.take (name.length - suffix.length) = stem := by
      rw [hlength, Nat.add_sub_cancel, ← hstem, List.take_left]
    rw [if_pos (decide_eq_true hlonger), htake]
    refine Or.inr ⟨fun he => hnil ?_, hname⟩
    rw [← String.toList_ofList (l := stem), he]
    rfl

namespace Disk

variable {d : Disk} {p : Path} {loc : Location} {name text : String}

theorem fileName_of_getLast? {e : Entry} (hat : d.at? loc = some e) (h : loc.getLast? = some name) :
    (pathTo loc).fileName = name := by
  obtain ⟨above, rfl⟩ := List.getLast?_eq_some_iff.1 h
  exact fileName_pathTo (d.tidy.isEntryName hat)

/-- Everything beneath a path **can be read**, each file under its canonical path. -/
def Readable (d : Disk) (root : Path) : Prop :=
  ∀ p, d.Beneath root p → ∃ text, d.content? (d.canonical p) = .ok text

/-- A file beneath a path, if it can be read, lies **where its names say**. -/
theorem entry?_of_readable {root : Path} {top rel : Location} {e : Entry} {bytes : ByteArray}
    (hread : d.Readable root) (hroot : d.entry? root = .ok (top, e)) (hfile : e.at? rel = some (.file bytes)) :
    d.entry? (root.descend rel) = .ok (top ++ rel, .file bytes) := by
  obtain ⟨text, htext⟩ := hread _ ⟨top, e, rel, bytes, hroot, hfile, rfl⟩
  obtain ⟨loc, read, hcanonical⟩ := content?_eq_ok htext
  have hentry := entry?_of_canonical hcanonical
  obtain rfl := entry?_descend_at hroot hfile (fun target he => by cases he) hentry
  have hat := (entry?_lands hentry).1
  rw [at?_append, (entry?_lands hroot).1] at hat
  rw [hentry, Option.some.inj (hat.symm.trans hfile)]

end Disk

/-! ## 5. The files of a tree -/

namespace Definitions

variable {d : Disk} {s : Settings} {ds : Definitions} {p : Path} {c : Definition} {loc : Disk.Location} {name : String}
  {bytes : ByteArray}

/-- A file beneath the root folder that the definitions **cover**: no name on the way to it is to be passed over, nor
    its own, and some definition of files claims its name. -/
def Covers (d : Disk) (ds : Definitions) (loc : Disk.Location) (name : String) (bytes : ByteArray) : Prop :=
  ∃ top es above, d.entry? ds.rootDir = .ok (top, .folder es) ∧
    (Disk.Entry.folder es).at? (above ++ [name]) = some (.file bytes) ∧ loc = top ++ (above ++ [name]) ∧
      (∀ step ∈ above ++ [name], ∀ prune ∈ ds.suffixes ignoreKind, prune ≠ "" → ¬ prune.toList <:+ step.toList) ∧
        ∃ c ∈ ds.ofKind fileKind, ∃ suffix, c.Claims suffix name

/-- What is said of a file that is covered: where it lies, what it holds, its definition, and its name -- **without the
    suffix**, unless that is the whole name. -/
structure Describes (ds : Definitions) (loc : Disk.Location) (name : String) (bytes : ByteArray) (f : SourceFile) :
    Prop where
  path : f.path = Disk.pathTo loc
  content : String.fromUTF8? bytes = some f.content
  recognised : ∃ suffix, ClassIn (ds.ofKind fileKind) name suffix f.definition ∧
    (name = suffix ∧ f.name = name ∨ f.name ≠ "" ∧ name = f.name ++ suffix)

/-- The list **holds the files that are covered**, each of them once, and no other. -/
structure HoldsFiles (d : Disk) (ds : Definitions) (files : List SourceFile) : Prop where
  covered : ∀ f ∈ files, ∃ loc name bytes, ds.Covers d loc name bytes ∧ ds.Describes loc name bytes f
  every : ∀ loc name bytes, ds.Covers d loc name bytes → ∃ f ∈ files, ds.Describes loc name bytes f
  /-- No two of them lie at one path. -/
  ordered : files.Pairwise fun f g => f.path.before g.path

/-- What was loaded from a file **describes it**. -/
theorem describes_of_load? {f : SourceFile} (hentry : d.entry? p = .ok (loc, .file bytes))
    (hname : loc.getLast? = some name) (hclass : ds.classOf? name = some c) (h : SourceFile.load? d c p = .ok f) :
    ds.Describes loc name bytes f := by
  have hpath := Disk.canonical_eq_pathTo hentry
  obtain ⟨text, htext, hf⟩ := Outcome.bind_eq_ok.1 h
  cases hf
  obtain ⟨suffix, hc⟩ := classOf?_eq_some_iff.1 hclass
  refine ⟨hpath, ?_, suffix, hc, ?_⟩
  · obtain ⟨found, read, hread, hutf⟩ := Disk.content?_eq_ok_iff.1 htext
    have hsame := (Disk.entry?_of_canonical hread).symm.trans hentry
    cases hsame
    exact hutf
  · have hshort : SourceFile.nameFor c (d.canonical p) = withoutEnding name suffix := by
      rw [SourceFile.nameFor, hc.claims.1, hpath]
      dsimp only
      rw [Path.stem, Disk.fileName_of_getLast? (Disk.entry?_lands hentry).1 hname]
    rw [hshort]
    exact withoutEnding_spec hc.claims.2

section Walk

variable (hnone : d.FollowsNone s.followLinks ds.rootDir) (hread : d.Readable ds.rootDir)

include hnone hread

/-- What is covered **is classified**, by the definition of its name. -/
theorem exists_mem_classified (h : ds.Covers d loc name bytes) : ∃ p c, (p, c) ∈ ds.classified d s ∧
    d.entry? p = .ok (loc, .file bytes) ∧ loc.getLast? = some name ∧ ds.classOf? name = some c := by
  obtain ⟨top, es, above, hroot, hfile, rfl, hpruned, b, hmem, suffix, hb⟩ := h
  obtain ⟨c, text, hclass, -⟩ := exists_classIn hmem hb
  have hnames := (d.tidy.at? (Disk.entry?_lands hroot).1).isEntryName hfile
  have hname := Disk.fileName_descend (Disk.walk_of_entry? hroot).1 hnames
  have hfound := (Disk.mem_filesBeneath_iff_meets (o := ds.walkOptions s) hroot fun hfollow =>
    hnone hfollow top _ hroot).2 ⟨above, name, bytes, hfile, rfl, hb.2, hpruned⟩
  refine ⟨_, c, (mem_classified_iff d s ds).2 ⟨hfound.1, by rw [hname, hclass]⟩, Disk.entry?_of_readable hread hroot hfile, ?_,
    hclass⟩
  rw [← List.append_assoc, List.getLast?_concat]

variable (hfolder : d.isFile ds.rootDir = false)

include hfolder

/-- What is classified **is covered**, by the definition of its name. -/
theorem covers_of_mem_classified (h : (p, c) ∈ ds.classified d s) : ∃ loc name bytes, ds.Covers d loc name bytes ∧
    d.entry? p = .ok (loc, .file bytes) ∧ loc.getLast? = some name ∧ ds.classOf? name = some c := by
  obtain ⟨hp, hclass⟩ := (mem_classified_iff d s ds).1 h
  rcases Disk.filesBeneath_following (o := ds.walkOptions s) hnone with hempty | ⟨top, e, hroot, -⟩
  · rw [hempty] at hp
    cases hp
  obtain ⟨es, rfl⟩ : ∃ es, e = .folder es := by
    cases e with
    | file bytes => exact absurd (Disk.isFile_iff.2 ⟨top, bytes, hroot⟩) (Bool.eq_false_iff.1 hfolder)
    | folder es => exact ⟨es, rfl⟩
    | link target => exact absurd rfl ((Disk.entry?_lands hroot).2 target)
  have hmeets : Disk.Meets (ds.walkOptions s) ds.rootDir es "" p :=
    (Disk.mem_filesBeneath_iff_meets hroot fun hfollow => hnone hfollow top _ hroot).1 ⟨hp, List.nil_suffix⟩
  obtain ⟨above, name, bytes, hfile, rfl, -, hpruned⟩ := hmeets
  have hnames := (d.tidy.at? (Disk.entry?_lands hroot).1).isEntryName hfile
  rw [Disk.fileName_descend (Disk.walk_of_entry? hroot).1 hnames] at hclass
  obtain ⟨suffix, hc⟩ := classOf?_eq_some_iff.1 hclass
  refine ⟨_, name, bytes, ⟨top, es, above, hroot, hfile, rfl, hpruned, c, hc.mem, suffix, hc.claims⟩,
    Disk.entry?_of_readable hread hroot hfile, ?_, hclass⟩
  rw [← List.append_assoc, List.getLast?_concat]

/-- Where everything beneath the root folder can be read and no link is followed there, the files of a tree are found,
    and they are **those that the definitions cover**; and definitions in another order find the same, where no two
    definitions of files have one suffix. -/
theorem files?_holds : (∃ files, ds.files? d s = .ok files ∧ ds.HoldsFiles d files) ∧
    ∀ ds' : Definitions, ds'.rootDir = ds.rootDir → ds'.all.Perm ds.all → (ds.suffixes fileKind).Nodup →
      ds'.files? d s = ds.files? d s := by
  refine ⟨?_, fun ds' hroot hperm hnodup => files?_perm hperm hroot hnodup d s⟩
  obtain ⟨files, hfiles⟩ : ∃ files, ds.files? d s = .ok files := by
    refine Outcome.exists_mapM_eq_ok fun e he => ?_
    obtain ⟨loc, name, bytes, -, hentry, -⟩ := covers_of_mem_classified (p := e.1) (c := e.2) hnone hread hfolder he
    obtain ⟨text, htext⟩ := hread e.1 (Disk.beneath_of_mem_filesBeneath hnone ((mem_classified_iff d s ds).1 he).1)
    exact ⟨_, Outcome.bind_eq_ok.2 ⟨text, htext, rfl⟩⟩
  refine ⟨files, hfiles, fun f hf => ?_, fun loc name bytes h => ?_, files?_before hnone hfiles⟩
  · obtain ⟨⟨p, c⟩, hmem, hload⟩ := Outcome.exists_of_mem_mapM hfiles hf
    obtain ⟨loc, name, bytes, hcovers, hentry, hlast, hclass⟩ := covers_of_mem_classified hnone hread hfolder hmem
    exact ⟨loc, name, bytes, hcovers, describes_of_load? hentry hlast hclass hload⟩
  · obtain ⟨p, c, hmem, hentry, hlast, hclass⟩ := exists_mem_classified hnone hread h
    obtain ⟨f, hf, hload⟩ := Outcome.exists_mem_of_mapM hfiles hmem
    exact ⟨f, hf, describes_of_load? hentry hlast hclass hload⟩

end Walk

end Definitions

/-! ## 6. A shelf -/

/-- Texts, of which one **is called by a suffix alone**, and a folder that is passed over. -/
def shelfEntries : List (String × Disk.Entry) :=
  [(".txt", .file "one".toUTF8), ("a.md", .file "two".toUTF8), ("b.skip", .folder [("c.txt", .file "three".toUTF8)]),
   ("d.long.txt", .file "four".toUTF8), ("e.txt", .file "five".toUTF8)]

theorem tidy_shelfEntries : (Disk.Entry.folder shelfEntries).Tidy := by
  simp only [shelfEntries, Disk.Entry.Tidy, Disk.TidyEntries]
  decide +kernel

/-- A disk with these texts. -/
def shelfDisk : Disk := ⟨shelfEntries, [], tidy_shelfEntries⟩

theorem linkFree_shelfDisk : shelfDisk.LinkFree := by
  simp only [Disk.LinkFree, shelfDisk, shelfEntries, Disk.LinkFreeEntries, Disk.Entry.LinkFree, and_self]

/-- Two definitions of texts, **one with a longer suffix**, and one of what is passed over. -/
def shelfDefinitions : Definitions :=
  { rootDir := ⟨"/"⟩
    rootMarker := ⟨"/root.config"⟩
    rootConfig := []
    types := default
    roots := ∅
    all := [⟨"short", fileKind, .suffix ".txt", ∅, [], ⟨"/short.kind"⟩⟩,
      ⟨"long", fileKind, .suffix ".long.txt", ∅, [], ⟨"/long.kind"⟩⟩,
      ⟨"skip", ignoreKind, .suffix ".skip", ∅, [], ⟨"/skip.kind"⟩⟩] }

theorem readable_shelfDisk : shelfDisk.Readable shelfDefinitions.rootDir := by
  intro p hp
  have hall : ∀ p ∈ shelfDisk.filesBeneath ⟨[], false⟩ ⟨"/"⟩,
      (shelfDisk.content? (shelfDisk.canonical p)).toOption.isSome = true := by
    decide +kernel
  obtain ⟨text, htext⟩ := Option.isSome_iff_exists.1 (hall p ((Disk.mem_filesBeneath_iff linkFree_shelfDisk).2 hp))
  exact ⟨text, Outcome.toOption_eq_some.1 htext⟩

/-- What has both suffixes is found by the longer one, and the definitions **may stand the other way round**. -/
theorem files?_shelfDisk : ∃ files, shelfDefinitions.files? shelfDisk {} = .ok files ∧
    shelfDefinitions.HoldsFiles shelfDisk files ∧
      files.map (fun f => (f.path.text, f.definition.name, f.name)) =
        [("/.txt", "short", ".txt"), ("/d.long.txt", "long", "d"), ("/e.txt", "short", "e")] ∧
      Definitions.files? shelfDisk {} { shelfDefinitions with all := shelfDefinitions.all.reverse } = .ok files := by
  have hnone : shelfDisk.FollowsNone (Settings.followLinks {}) shelfDefinitions.rootDir :=
    Disk.followsNone_of_linkFree linkFree_shelfDisk _ _
  have hfolder : shelfDisk.isFile shelfDefinitions.rootDir = false := by
    decide +kernel
  obtain ⟨⟨files, hfiles, hholds⟩, hreordered⟩ := Definitions.files?_holds hnone readable_shelfDisk hfolder
  have hrun : (shelfDefinitions.files? shelfDisk {}).toOption.map (fun files =>
      files.map fun f => (f.path.text, f.definition.name, f.name)) =
        some [("/.txt", "short", ".txt"), ("/d.long.txt", "long", "d"), ("/e.txt", "short", "e")] := by
    decide +kernel
  rw [hfiles] at hrun
  have hsame := hreordered { shelfDefinitions with all := shelfDefinitions.all.reverse } rfl
    (List.reverse_perm shelfDefinitions.all) (by decide +kernel)
  exact ⟨files, hfiles, hholds, Option.some.inj hrun, hsame.trans hfiles⟩

end TreeIndex
