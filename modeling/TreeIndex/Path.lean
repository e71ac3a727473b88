/-!
# Paths

A path is the text it was written as. What it says is its steps: a slash repeated, a slash at the end and a
`.` inside say nothing, `..` is a step of its own.

* `Path`, `Path.steps`: the text and what it says; `Path.same`: two paths that say the same;
* `join`: a path seen from another one; `parent?`, `ancestors`, `fileName?`, `extension?`: its parts;
* `startsWith`: beneath another path, by whole steps; `stepsPrecede`: in front of another one, at the first step in
  which they differ;
* `relativeTo?`: the way from one path to another;
* `stem`: a file name without an ending, unless nothing would remain.
-/

namespace TreeIndex

/-! ## 1. Segments -/

/-- The text **between the slashes**; never an empty list. -/
def segments : List Char → List (List Char)
  | [] => [[]]
  | c :: cs =>
    if c = '/' then [] :: segments cs
    else match segments cs with
      | [] => [[c]]
      | s :: rest => (c :: s) :: rest

/-- Segments joined by slashes again. -/
def joinSegments : List (List Char) → List Char
  | [] => []
  | [s] => s
  | s :: rest => s ++ '/' :: joinSegments rest

theorem segments_ne_nil : ∀ cs : List Char, segments cs ≠ []
  | [] => by simp [segments]
  | c :: cs => by
    unfold segments
    split
    · simp
    · split <;> simp

/-- **Cutting at the slashes loses nothing.** -/
theorem joinSegments_segments : ∀ cs : List Char, joinSegments (segments cs) = cs
  | [] => rfl
  | c :: cs => by
    have ih := joinSegments_segments cs
    have hne := segments_ne_nil cs
    unfold segments
    split
    · rename_i hc
      subst hc
      cases hs : segments cs with
      | nil => exact absurd hs hne
      | cons s rest => simp [joinSegments, ← hs, ih]
    · cases hs : segments cs with
      | nil => exact absurd hs hne
      | cons s rest =>
        rw [hs] at ih
        cases rest with
        | nil => simpa [joinSegments] using ih
        | cons t ts => simpa [joinSegments] using ih

/-- A segment that says something: neither empty nor a single dot. -/
def saysSomething (segment : List Char) : Bool :=
  !(segment == [] || segment == ['.'])

/-! ## 2. Paths and their steps -/

/-- A path, **as it was written**. -/
structure Path where
  text : String
deriving DecidableEq, Inhabited

/-- One step of a path. -/
inductive Step where
  /-- The root of all folders, only in front. -/
  | root
  /-- The folder one is in, only in front. -/
  | here
  /-- The folder above. -/
  | up
  /-- An entry of the folder. -/
  | name (text : String)
deriving DecidableEq

namespace Step

/-- The step as it is written. -/
def text : Step → String
  | root => "/"
  | here => "."
  | up => ".."
  | name t => t

/-- The step that a segment says. -/
def ofSegment (segment : List Char) : Step :=
  if segment = ['.', '.'] then up else name (String.ofList segment)

/-- The kinds of steps in order. -/
def rank : Step → Nat
  | root => 0
  | here => 1
  | up => 2
  | name _ => 3

/-- The step is in front of another one: its kind is, or both are names and its text is. -/
def precedes : Step → Step → Bool
  | name s, name t => s < t
  | a, b => a.rank < b.rank

end Step

/-- Some steps are in front of other ones, **at the first step** in which they differ; and in front of what goes on
    after them. -/
def stepsPrecede : List Step → List Step → Bool
  | _, [] => false
  | [], _ :: _ => true
  | a :: as, b :: bs => if a = b then stepsPrecede as bs else a.precedes b

/-- How a path begins: at the root, with a dot, or with its first step. -/
inductive Lead where
  | root
  | here
  | bare
deriving DecidableEq

/-- The steps a beginning stands for. -/
def Lead.steps : Lead → List Step
  | root => [.root]
  | here => [.here]
  | bare => []

/-- The characters of a beginning. -/
def Lead.chars : Lead → List Char
  | root => ['/']
  | here => ['.']
  | bare => []

/-- A path's beginning and the characters after it. -/
def splitLead : List Char → Lead × List Char
  | '/' :: cs => (.root, cs)
  | ['.'] => (.here, [])
  | '.' :: '/' :: cs => (.here, '/' :: cs)
  | cs => (.bare, cs)

/-- A beginning and what follows it are the whole path. -/
theorem splitLead_append (cs : List Char) : (splitLead cs).1.chars ++ (splitLead cs).2 = cs := by
  unfold splitLead
  split <;> rfl

namespace Path

/-- The path as it was written. -/
instance : ToString Path := ⟨Path.text⟩

/-- The beginning of the path. -/
def lead (p : Path) : Lead :=
  (splitLead p.text.toList).1

/-- The segments after the beginning. -/
def tail (p : Path) : List (List Char) :=
  segments (splitLead p.text.toList).2

/-- **What the path says**, step by step. -/
def steps (p : Path) : List Step :=
  p.lead.steps ++ (p.tail.filter saysSomething).map Step.ofSegment

/-- Two paths that say the same, however they are written. -/
def same (p q : Path) : Bool :=
  p.steps == q.steps

theorem same_iff {p q : Path} : p.same q = true ↔ p.steps = q.steps := by
  simp [same]

theorem same_refl (p : Path) : p.same p = true :=
  same_iff.2 rfl

/-- The path starts at the root. -/
def isAbsolute (p : Path) : Bool :=
  p.lead == .root

/-- Beneath `base`, or `base` itself, **by whole steps**. -/
def startsWith (p base : Path) : Bool :=
  base.steps.isPrefixOf p.steps

/-! ## 3. Joining -/

/-- The path `q` **seen from** `p`: a path from the root stands for itself. -/
def join (p q : Path) : Path :=
  if q.isAbsolute then q
  else if p.text.isEmpty || p.text.toList.getLast? == some '/' then ⟨p.text ++ q.text⟩
  else ⟨p.text ++ "/" ++ q.text⟩

/-- The entry called `entry` of the folder `p`. -/
def child (p : Path) (entry : String) : Path :=
  p.join ⟨entry⟩

/-! ## 4. Parts -/

/-- Segments up to the last one that says something. -/
def dropSilent (ss : List (List Char)) : List (List Char) :=
  (ss.reverse.dropWhile fun s => !saysSomething s).reverse

/-- The path **without its last step**; the root and the empty path have no parent. -/
def parent? (p : Path) : Option Path :=
  match dropSilent p.tail with
  | [] => if p.lead = .here then some ⟨""⟩ else none
  | s :: rest =>
    some ⟨String.ofList (p.lead.chars ++ joinSegments (dropSilent (s :: rest).dropLast))⟩

/-- The path, its parent and so on, at most `limit` of them. -/
def ancestorsUpTo : Nat → Path → List Path
  | 0, _ => []
  | limit + 1, p =>
    match p.parent? with
    | none => [p]
    | some q => p :: ancestorsUpTo limit q

/-- The path, its parent and so on **to the end**: a parent is shorter than its path. -/
def ancestors (p : Path) : List Path :=
  ancestorsUpTo (p.text.length + 1) p

/-- The name a path ends with; none if it ends with `..` or at its beginning. -/
def fileName? (p : Path) : Option String :=
  match p.steps.getLast? with
  | some (.name t) => some t
  | _ => none

/-- The name a path ends with, or an empty text. -/
def fileName (p : Path) : String :=
  p.fileName?.getD ""

/-- What follows the last dot of a name, unless the dot comes first. -/
def extensionOf (name : List Char) : Option (List Char) :=
  let after := name.reverse.takeWhile (· ≠ '.')
  let before := name.reverse.drop (after.length + 1)
  if after.length < name.length ∧ before ≠ [] then some after.reverse else none

/-- What follows the last dot of the file name. -/
def extension? (p : Path) : Option String :=
  p.fileName?.bind fun name => (extensionOf name.toList).map String.ofList

/-- The folder a path lies in; empty if it has no parent. -/
def folder (p : Path) : Path :=
  p.parent?.getD ⟨""⟩

/-- The path with a text added at its end. -/
def addText (p : Path) (more : String) : Path :=
  ⟨p.text ++ more⟩

/-! ## 5. The way from one path to another -/

/-- The steps that lead from `base` to `goal`, once `made` is non-empty or the two have parted. A base
    that goes up leaves no way. -/
def stepsBetween : (goal base made : List Step) → Option (List Step)
  | [], [], made => some made
  | a :: rest, [], made => some (made ++ a :: rest)
  | [], _ :: base, made => stepsBetween [] base (made ++ [.up])
  | a :: goal, b :: base, made =>
    if made = [] ∧ a = b then stepsBetween goal base made
    else if b = .here then stepsBetween goal base (made ++ [a])
    else if b = .up then none
    else some (made ++ .up :: base.map (fun _ => .up) ++ a :: goal)

/-- The way **from `base` to the path**; none if one of them starts at the root and the other does
    not, or if the base goes up. A path from the root is its own way. -/
def relativeTo? (p base : Path) : Option Path :=
  if p.isAbsolute != base.isAbsolute then
    if p.isAbsolute then some p else none
  else
    (stepsBetween p.steps base.steps []).map fun steps =>
      steps.foldl (fun made step => made.child step.text) ⟨""⟩

/-- The text of the way from `root` to the path, or of the path itself if there is none. -/
def shownFrom (p root : Path) : String :=
  ((p.relativeTo? root).getD p).text

end Path

/-! ## 6. Endings of names -/

/-- The name ends with the text. -/
def hasEnding (name ending : String) : Bool :=
  ending.toList.isSuffixOf name.toList

/-- The name without the ending, **unless nothing would remain**. -/
def withoutEnding (name ending : String) : String :=
  if hasEnding name ending && ending.length < name.length then
    String.ofList (name.toList.take (name.length - ending.length))
  else name

/-- The file name of a path without the ending, unless nothing would remain. -/
def Path.stem (p : Path) (ending : String) : String :=
  withoutEnding p.fileName ending

end TreeIndex
