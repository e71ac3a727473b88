import TreeIndex.Disk.Transfer
import TreeIndex.Proofs.Disk.Located

/-!
# Bytes that come so far

Bytes that are sent to a file are seen under each of its names. Wherever they stop, **no file without such a name
changes**.

* `Work.bind_of_ok`, `Work.bind_of_error`: work after work, and what stays changed after a failure;
* `keepsFiles_putAll`, `at?_putAll`: files that are filled one after the other;
* `Fits`: a disk on which other names are names of files, as they are still when files were written
  (`Fits.of_keepsFiles`);
* `Apart`, `notMem_names_of_apart`: files **apart from a path**, under whatever name;
* `Stores`: bytes that lie at a path, and nothing else changed;
* `Arrival`: how sending bytes goes; `arrival_of_writeTo`, `arrival_of_copyTo`: so goes writing, and so goes copying.
-/

namespace TreeIndex.Disk

/-! ## 1. Work after work -/

namespace Work

variable {ε α β : Type} {w : Work ε α} {next : α → Work ε β} {d d' : Disk}

theorem bind_of_ok {x : α} (hw : w d = (.ok x, d')) : (w >>= next) d = next x d' := by
  have hbind : (w >>= next) d = ExceptT.bindCont next (w d).1 (w d).2 := rfl
  rw [hbind, hw]
  rfl

/-- What was changed **before a failure** stays changed. -/
theorem bind_of_error {e : ε} (hw : w d = (.error e, d')) : (w >>= next) d = (.error e, d') := by
  have hbind : (w >>= next) d = ExceptT.bindCont next (w d).1 (w d).2 := rfl
  rw [hbind, hw]
  rfl

theorem read_of_eq {f : Disk → Except ε α} {r : Except ε α} (h : f d = r) : Work.read f d = (r, d) := by
  rw [Work.read, h]

end Work

/-! ## 2. Files that are filled -/

variable {d d' : Disk} {c : Circumstances} {p : Path} {loc : Location} {bytes : ByteArray}

theorem putAll_cons (d : Disk) (loc : Location) (locs : List Location) (bytes : ByteArray) :
    d.putAll (loc :: locs) bytes = (d.putFile loc bytes).putAll locs bytes :=
  rfl

theorem fileAt_putFile (htakes : d.Takes loc) (bytes : ByteArray) {locs : List Location}
    (h : ∀ other ∈ locs, d.FileAt other) (other : Location) (hother : other ∈ locs) :
    (d.putFile loc bytes).FileAt other :=
  (keepsFiles_putFile htakes bytes).fileAt other (h other hother)

/-- Files that are filled **change no other file**. -/
theorem keepsFiles_putAll (bytes : ByteArray) : ∀ {locs : List Location} {d : Disk}, (∀ loc ∈ locs, d.FileAt loc) →
    d.KeepsFiles (d.putAll locs bytes) locs
  | [], d, _ => .refl d
  | first :: locs, d, h => by
    obtain ⟨⟨old, hold⟩, hothers⟩ := List.forall_mem_cons.1 h
    have htakes := takes_of_file hold
    exact (keepsFiles_putFile htakes bytes).trans (keepsFiles_putAll bytes (fileAt_putFile htakes bytes hothers))

/-- Files that are filled, and those that hold the bytes already, **hold them then**. -/
theorem at?_putAll : ∀ {locs : List Location} {d : Disk}, (∀ loc ∈ locs, d.FileAt loc) →
    (loc ∈ locs ∨ d.at? loc = some (.file bytes)) → (d.putAll locs bytes).at? loc = some (.file bytes)
  | [], d, _, hloc => hloc.resolve_left List.not_mem_nil
  | first :: locs, d, h, hloc => by
    obtain ⟨⟨old, hold⟩, hothers⟩ := List.forall_mem_cons.1 h
    have htakes := takes_of_file hold
    rw [putAll_cons]
    refine at?_putAll (fileAt_putFile htakes bytes hothers) ?_
    by_cases heq : loc = first
    · exact Or.inr (heq ▸ at?_putFile htakes.1 bytes)
    · have hnot : loc ∉ [first] := fun hmem => heq (List.mem_singleton.1 hmem)
      rw [file_putFile_iff htakes bytes hnot]
      exact hloc.imp_left fun hmem => (List.mem_cons.1 hmem).resolve_left heq

/-! ## 3. Names of files -/

/-- Other names are names **of files on the disk**. -/
def Circumstances.Fits (c : Circumstances) (d : Disk) : Prop :=
  ∀ loc, ∀ other ∈ c.otherNames loc, d.FileAt other

theorem Circumstances.Describes.fits (h : c.Describes d) : c.Fits d := by
  intro loc other hother
  obtain ⟨bytes, -, hat⟩ := h.same loc other hother
  exact ⟨bytes, hat⟩

theorem Circumstances.Fits.of_keepsFiles {changed : List Location} (h : c.Fits d) (hkeeps : d.KeepsFiles d' changed) :
    c.Fits d' :=
  fun loc other hother => hkeeps.fileAt other (h loc other hother)

/-- The file at a location is **another one than the one at a path**. -/
def Apart (c : Circumstances) (d : Disk) (p : Path) (loc : Location) : Prop :=
  ∀ found e, d.entry? p = .ok (found, e) → loc ∉ c.names found

/-- Of two locations **neither names the file of the other**, if one does not. -/
theorem notMem_names_symm {other : Location} (hc : c.Describes d) (hne : other ≠ loc) (h : loc ∉ c.names other) :
    other ∉ c.names loc := by
  rw [Circumstances.names, List.mem_cons, not_or] at h ⊢
  exact ⟨hne, fun hother => h.2 (hc.symm loc other hother)⟩

/-- A disk on which **some bytes were stored** at a path: they lie there, and every file without a name of that file is
    the same. -/
structure Stores (c : Circumstances) (d d' : Disk) (p : Path) (bytes : ByteArray) : Prop where
  names : NamesFile p
  keeps : d.KeepsFiles d' (c.names (d.locate p))
  holds : d'.at? (d.locate p) = some (.file bytes)

/-- **How sending bytes to a path goes**: they are not taken and nothing changes, they stop after some, or all are
    stored. -/
inductive Arrival (c : Circumstances) (t : Transfer) (d : Disk) (p : Path) (bytes : ByteArray) :
    Except Failure Unit → Disk → Prop
  | closed (failure : Failure) : Arrival c t d p bytes (.error failure) d
  | stopped {count : Nat} {failure : Failure} {left : Disk} (ht : t = .stopped count failure)
      (hleft : Stores c d left p (bytes.extract 0 count)) : Arrival c t d p bytes (.error failure) left
  | whole {left : Disk} (hleft : Stores c d left p bytes) : Arrival c t d p bytes (.ok ()) left

section Paths

variable (hd : d.LinkFree) (hup : Step.up ∉ p.steps)

include hd hup

/-- A file apart from a path has **no name of the file that the path names**. -/
theorem notMem_names_of_apart (hc : c.Describes d) (hp : NamesFile p) (hat : d.at? loc = some (.file bytes))
    (hapart : Apart c d p loc) : loc ∉ c.names (d.locate p) := by
  intro hmem
  have hfile : d.FileAt (d.locate p) := by
    rcases List.mem_cons.1 hmem with hloc | hother
    · exact ⟨bytes, hloc ▸ hat⟩
    · obtain ⟨old, hold, -⟩ := hc.same _ _ hother
      exact ⟨old, hold⟩
  obtain ⟨old, hold⟩ := hfile
  exact hapart _ _ ((entry?_eq_file_iff hd hup).2 ⟨hp, rfl, hold⟩) hmem

/-- What was stored at a path **is found there**. -/
theorem Stores.entry? (h : Stores c d d' p bytes) : d'.entry? p = .ok (d'.locate p, .file bytes) := by
  refine (entry?_eq_file_iff (h.keeps.linkFree hd) hup).2 ⟨h.names, rfl, ?_⟩
  rw [h.keeps.locate_eq]
  exact h.holds

/-! ## 4. Bytes that are sent -/

theorem stores_of_target? (hfits : c.Fits d) (h : d.target? p = .ok loc) (bytes : ByteArray) :
    Stores c d (d.putAll (c.names loc) bytes) p bytes := by
  obtain ⟨hnames, rfl, htakes⟩ := target?_eq_ok hd hup h
  have hothers := fileAt_putFile htakes bytes (hfits (d.locate p))
  rw [Circumstances.names, putAll_cons]
  exact ⟨hnames, (keepsFiles_putFile htakes bytes).trans (keepsFiles_putAll bytes hothers),
    at?_putAll hothers (Or.inr (at?_putFile htakes.1 bytes))⟩

/-- **However far bytes come**, this is what they leave. -/
theorem arrival_of_send (hfits : c.Fits d) (h : d.target? p = .ok loc) (t : Transfer) (bytes : ByteArray) :
    Arrival c t d p bytes (send c t loc bytes d).1 (send c t loc bytes d).2 := by
  cases t with
  | whole => exact .whole (stores_of_target? hd hup hfits h bytes)
  | refused failure => exact .closed failure
  | stopped count failure => exact .stopped rfl (stores_of_target? hd hup hfits h (bytes.extract 0 count))

/-- **Bytes that are written** go one of these ways. -/
theorem arrival_of_writeTo (hfits : c.Fits d) (bytes : ByteArray) :
    Arrival c c.target d p bytes (writeTo c p bytes d).1 (writeTo c p bytes d).2 := by
  unfold writeTo
  cases h : d.target? p with
  | error failure =>
    rw [Work.bind_of_error (Work.read_of_eq h)]
    exact .closed failure
  | ok loc =>
    rw [Work.bind_of_ok (Work.read_of_eq h)]
    exact arrival_of_send hd hup hfits h c.target bytes

/-- **A file that is copied** goes one of these ways. A copy of a file to itself is empty. -/
theorem arrival_of_copyTo (hfits : c.Fits d) {source : Path} {found : Location} {old : ByteArray}
    (hsource : d.entry? source = .ok (found, .file old)) :
    Arrival c c.backup d p (if found ∈ c.names (d.locate p) then ByteArray.empty else old)
      (copyTo c source p d).1 (copyTo c source p d).2 := by
  have hregular : d.regular? source = .ok (found, old) := by
    rw [regular?, hsource]
  unfold copyTo
  rw [Work.bind_of_ok (Work.read_of_eq hregular)]
  cases h : d.target? p with
  | error failure =>
    dsimp only
    rw [Work.bind_of_error (Work.read_of_eq h)]
    exact .closed failure
  | ok loc =>
    dsimp only
    rw [Work.bind_of_ok (Work.read_of_eq h), ← (target?_eq_ok hd hup h).2.1]
    exact arrival_of_send hd hup hfits h c.backup _

end Paths

/-- Only **a file** is copied. -/
theorem copyTo_of_not_file {source : Path} (hsource : ∀ found old, d.entry? source ≠ .ok (found, .file old)) :
    ∃ failure, copyTo c source p d = (.error failure, d) := by
  have hregular : ∃ failure, d.regular? source = .error failure := by
    unfold regular?
    split
    · rename_i found old hentry
      exact absurd hentry (hsource found old)
    · exact ⟨_, rfl⟩
    · exact ⟨_, rfl⟩
  obtain ⟨failure, hregular⟩ := hregular
  exact ⟨failure, Work.bind_of_error (Work.read_of_eq hregular)⟩

end TreeIndex.Disk
