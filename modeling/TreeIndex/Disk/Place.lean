import TreeIndex.Disk.Entry
import TreeIndex.Disk.Failure

/-!
# Disks and places

A disk is a folder of entries that paths lead into, and a folder to start from.

* `Disk`: the entries, which are tidy, and the location that a path starts from if it does not start at the
  root;
* `Place`: where a path leads -- to an entry, or to a name that its folder has not given yet;
* `place?`: the place of a path. `..` goes up from the folder that was reached, a link is gone through where
  it stands, and at most forty of them;
* `holds`, `isFile`, `isFolder`, `text?`: what lies at the end of a path;
* `canonical`: the path to the same entry through no link, or the path itself if it leads nowhere.
-/

namespace TreeIndex

/-! ## 1. Disks -/

/-- **Files and folders**, and where one stands among them. -/
structure Disk where
  entries : List (String × Disk.Entry)
  /-- The folder that paths start from. -/
  here : Disk.Location
  tidy : (Disk.Entry.folder entries).Tidy

namespace Disk

/-- A disk with nothing on it. -/
def empty : Disk := ⟨[], [], tidy_empty⟩

instance : Inhabited Disk := ⟨empty⟩

/-- What lies at a location. -/
def at? (d : Disk) (loc : Location) : Option Entry :=
  (Entry.folder d.entries).at? loc

/-- The same disk, seen from another folder. -/
def seenFrom (d : Disk) (loc : Location) : Disk :=
  { d with here := loc }

/-! ## 2. Courses -/

/-- The pieces of a path between its slashes. A slash at the end **asks for a folder**, as a dot does. -/
def pieces (text : List Char) : List String :=
  let names := ((segments text).filter fun s => !s.isEmpty).map String.ofList
  if text.getLast? = some '/' then names ++ ["."] else names

/-- Where a path starts, seen from a folder. -/
def origin (folder : Location) (text : List Char) : Location :=
  if text.head? = some '/' then [] else folder

/-- No name is longer than 255 bytes. -/
def isTooLong (name : String) : Bool :=
  255 < name.utf8ByteSize

/-! ## 3. Places -/

/-- Where a path **leads**. -/
inductive Place where
  | found (loc : Location) (entry : Entry)
  /-- The folder is there, the name in it is not. -/
  | vacant (folder : Location) (name : String)
deriving Inhabited

/-- Goes from a location through some pieces. `through` goes on behind a link, from its folder, with its text
    and the pieces that follow; a link at the end is gone through only if `last` is set. -/
def walkPieces (d : Disk) (last : Bool)
    (through : Location → List Char → List String → Except Failure Place) :
    Location → List String → Except Failure Place
  | loc, [] =>
    match d.at? loc with
    | some e => .ok (.found loc e)
    | none => .error .notFound
  | loc, piece :: rest =>
    match d.at? loc with
    | none => .error .notFound
    | some (.folder es) =>
      if piece = "." then walkPieces d last through loc rest
      else if piece = ".." then walkPieces d last through loc.dropLast rest
      else if isTooLong piece then .error .nameTooLong
      else
        match es.lookup piece with
        | none => if rest.isEmpty then .ok (.vacant loc piece) else .error .notFound
        | some (.link target) =>
          if rest.isEmpty && !last then .ok (.found (loc ++ [piece]) (.link target))
          else through loc target.toList rest
        | some _ => walkPieces d last through (loc ++ [piece]) rest
    | some _ => .error .notADirectory

/-- Goes from a folder along the text of a path or a link and through the pieces that follow, with a number
    of texts to spare. -/
def walkText (d : Disk) (last : Bool) : Nat → Location → List Char → List String → Except Failure Place
  | 0, _, _, _ => .error .tooManyLinks
  | spare + 1, folder, text, rest =>
    if text.isEmpty then .error .notFound
    else walkPieces d last (walkText d last spare) (origin folder text) (pieces text ++ rest)

/-- How many links a path may lead through. -/
def mostLinks : Nat := 40

/-- **The place of a path**; `last` says whether a link at its end is gone through. -/
def place? (d : Disk) (last : Bool) (p : Path) : Except Failure Place :=
  let text := p.text.toList
  if text.contains '\x00' then .error .nulInPath
  else walkText d last (mostLinks + 1) d.here text []

/-! ## 4. What lies at the end of a path -/

/-- The entry at the end of a path, with its location. -/
def entry? (d : Disk) (p : Path) : Except Failure (Location × Entry) :=
  match d.place? true p with
  | .ok (.found loc e) => .ok (loc, e)
  | .ok (.vacant _ _) => .error .notFound
  | .error f => .error f

/-- Something lies at the end of the path. -/
def holds (d : Disk) (p : Path) : Bool :=
  (d.entry? p).isOk

/-- A file lies at the end of the path. -/
def isFile (d : Disk) (p : Path) : Bool :=
  match d.entry? p with
  | .ok (_, .file _) => true
  | _ => false

/-- A folder lies at the end of the path. -/
def isFolder (d : Disk) (p : Path) : Bool :=
  match d.entry? p with
  | .ok (_, .folder _) => true
  | _ => false

/-- The bytes of the file at the end of a path. -/
def bytes? (d : Disk) (p : Path) : Except Failure ByteArray :=
  match d.entry? p with
  | .ok (_, .file bytes) => .ok bytes
  | .ok (_, .folder _) => .error .isADirectory
  | .ok (_, .link _) => .error .tooManyLinks
  | .error f => .error f

/-- **The text** of the file at the end of a path. -/
def text? (d : Disk) (p : Path) : Except Failure String := do
  let bytes ← d.bytes? p
  match String.fromUTF8? bytes with
  | some text => .ok text
  | none => .error .notText

/-- The path to a location. -/
def pathTo (loc : Location) : Path :=
  ⟨"/" ++ "/".intercalate loc⟩

/-- The path to the same entry **through no link**; a path that leads nowhere stays as it is. -/
def canonical (d : Disk) (p : Path) : Path :=
  match d.entry? p with
  | .ok (loc, _) => pathTo loc
  | .error _ => p

end Disk

end TreeIndex
