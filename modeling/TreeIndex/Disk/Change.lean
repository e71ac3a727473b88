import TreeIndex.Disk.Place

/-!
# Changes of a disk

* `put`, `putFile`, `putFolder`, `putLink`, `remove`: changes at a location;
* `makeFolder?`, `write?`: changes at the end of a path, each of which happens as a whole or not at all; bytes
  that come only so far are in `TreeIndex.Disk.Transfer`;
* `Work`: several changes, one after the other. What happened before a failure stays;
* `makeFoldersUnder`: a folder and those above it that are missing, where some may be refused;
  `makeFolders`: where none is.
-/

namespace TreeIndex.Disk

/-! ## 1. Changes at a location -/

/-- Puts something tidy at a location. -/
def put (d : Disk) (loc : Location) (new : Entry) (tidy : new.Tidy) : Disk :=
  match h : Entry.put new (.folder d.entries) loc with
  | .folder es => { d with entries := es, tidy := h ▸ tidy.put d.tidy }
  | _ => d

/-- Puts a file at a location. -/
def putFile (d : Disk) (loc : Location) (bytes : ByteArray) : Disk :=
  d.put loc (.file bytes) trivial

/-- Puts an empty folder at a location. -/
def putFolder (d : Disk) (loc : Location) : Disk :=
  d.put loc (.folder []) tidy_empty

/-- Puts a link at a location. -/
def putLink (d : Disk) (loc : Location) (target : String) : Disk :=
  d.put loc (.link target) trivial

/-- Removes what lies at a location. -/
def remove (d : Disk) (loc : Location) : Disk :=
  match h : (Entry.folder d.entries).remove loc with
  | .folder es => { d with entries := es, tidy := h ▸ d.tidy.remove }
  | _ => d

/-! ## 2. Changes at the end of a path -/

/-- The path without the slashes at its end. -/
def withoutSlashes (p : Path) : Path :=
  ⟨String.ofList (p.text.toList.reverse.dropWhile (· = '/')).reverse⟩

/-- A slash stands at the end. -/
def asksForFolder (p : Path) : Bool :=
  p.text.toList.getLast? == some '/'

/-- The root, with however many slashes. -/
def isRootText (p : Path) : Bool :=
  asksForFolder p && (withoutSlashes p).text.isEmpty

/-- Makes **one folder**, in a folder that is there already. -/
def makeFolder? (d : Disk) (p : Path) : Except Failure Disk :=
  if isRootText p then .error .alreadyThere
  else
    match d.place? false (withoutSlashes p) with
    | .error f => .error f
    | .ok (.found _ _) => .error .alreadyThere
    | .ok (.vacant folder name) => .ok (d.putFolder (folder ++ [name]))

/-- Where the bytes go that are **written to a path**: to the file that is there, or to a new one. -/
def target? (d : Disk) (p : Path) : Except Failure Location :=
  if isRootText p then .error .isADirectory
  else if asksForFolder p then
    match d.place? false (withoutSlashes p) with
    | .error f => .error f
    | .ok _ => .error .isADirectory
  else
    match d.place? true p with
    | .error f => .error f
    | .ok (.found loc (.file _)) => .ok loc
    | .ok (.found _ _) => .error .isADirectory
    | .ok (.vacant folder name) => .ok (folder ++ [name])

/-- **Writes bytes** to a path, all of them. -/
def write? (d : Disk) (p : Path) (bytes : ByteArray) : Except Failure Disk := do
  let loc ← d.target? p
  .ok (d.putFile loc bytes)

/-! ## 3. Several changes -/

/-- Changes **one after the other**; those before a failure stay. -/
abbrev Work (ε β : Type) := ExceptT ε (StateM Disk) β

/-- One change among several. -/
def Work.change {ε : Type} (f : Disk → Except ε Disk) : Work ε Unit := fun d =>
  match f d with
  | .ok changed => (.ok (), changed)
  | .error e => (.error e, d)

/-- Something read in between. -/
def Work.read {ε β : Type} (f : Disk → Except ε β) : Work ε β := fun d => (f d, d)

section Folders

-- folders that are not made, though they could be: the one above is closed to who asks, or the disk is full
variable (refuses : Path → Option Failure)

/-- Makes **one folder**, unless it is refused. -/
def makeFolderUnder? (d : Disk) (p : Path) : Except Failure Disk :=
  match d.makeFolder? p with
  | .error f => .error f
  | .ok changed =>
    match refuses p with
    | some f => .error f
    | none => .ok changed

/-- Makes the first of some folders after the others, **each of which is the one above**, where those are
    missing. A folder that is there already will do. -/
def makeFirst : List Path → Work Failure Unit
  | [] => fun d => (.ok (), d)
  | p :: above => fun d =>
    if p.text.isEmpty then (.ok (), d)
    else
      match makeFolderUnder? refuses d p with
      | .ok changed => (.ok (), changed)
      | .error .notFound =>
        match makeFirst above d with
        | (.error f, d) => (.error f, d)
        | (.ok (), d) =>
          match makeFolderUnder? refuses d p with
          | .ok changed => (.ok (), changed)
          | .error f => if d.isFolder p then (.ok (), d) else (.error f, d)
      | .error f => if d.isFolder p then (.ok (), d) else (.error f, d)

/-- Makes **a folder and those above it** that are missing. -/
def makeFoldersUnder (p : Path) : Work Failure Unit :=
  makeFirst refuses p.ancestors

end Folders

/-- Makes a folder and those above it, **none of which is refused**. -/
def makeFolders (p : Path) : Work Failure Unit :=
  makeFoldersUnder (fun _ => none) p

end TreeIndex.Disk
