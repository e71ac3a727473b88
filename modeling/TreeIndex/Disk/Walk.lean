import TreeIndex.Disk.Place

/-!
# Walks

A walk visits everything beneath a path, siblings in the order of their names, and finds the files.

* `WalkOptions`: the endings of names that are passed over with everything beneath them, and whether links are
  gone through;
* `walkEntry`, `walkEntries`: the files of an entry that lies at a path;
* `filesBeneath`: the files beneath a path, or the path itself if it is a file. A link at the start is always
  gone through if it leads to a folder. Elsewhere a link that leads back to a folder above it, or nowhere, is
  passed over;
* `filesByEnding`: the same files, sorted by the endings of their names.
-/

namespace TreeIndex

/-- How a walk goes. -/
structure WalkOptions where
  /-- Names with these endings are passed over; an empty ending means nothing. -/
  prune : List String := []
  followLinks : Bool := false

/-- The name is passed over. -/
def WalkOptions.prunes (o : WalkOptions) (name : String) : Bool :=
  o.prune.any fun ending => !ending.isEmpty && hasEnding name ending

namespace Disk

/-! ## 1. Walks beneath an entry -/

mutual

/-- The files of an entry at a path, in the order of the names. `through` finds the files behind a link, below
    some folders; a name may be passed over. -/
def walkEntry (through : List Location → Path → List Path) (prunes : String → Bool)
    (above : List Location) (loc : Location) (p : Path) : Entry → List Path
  | .file _ => [p]
  | .link _ => through above p
  | .folder es => walkEntries through prunes (loc :: above) loc p es

/-- The files of the entries of a folder. -/
def walkEntries (through : List Location → Path → List Path) (prunes : String → Bool)
    (above : List Location) (loc : Location) (p : Path) : List (String × Entry) → List Path
  | [] => []
  | (name, e) :: es =>
    (if prunes name then [] else walkEntry through prunes above (loc ++ [name]) (p.child name) e)
      ++ walkEntries through prunes above loc p es

end

/-- The files behind a link, if it does not lead back to a folder above it; as many links may follow each
    other as there are folders to lead to. -/
def filesBehind (d : Disk) (prunes : String → Bool) : Nat → List Location → Path → List Path
  | 0, _, _ => []
  | spare + 1, above, p =>
    match d.entry? p with
    | .ok (loc, e) =>
      if above.contains loc then [] else walkEntry (filesBehind d prunes spare) prunes above loc p e
    | .error _ => []

/-! ## 2. Walks beneath a path -/

/-- The files behind a link within a walk. -/
def filesThrough (d : Disk) (o : WalkOptions) : List Location → Path → List Path :=
  if o.followLinks then filesBehind d o.prunes ((Entry.folder d.entries).folderCount + 1)
  else fun _ _ => []

/-- **The files beneath a path.** -/
def filesBeneath (d : Disk) (o : WalkOptions) (p : Path) : List Path :=
  match d.place? false p with
  | .ok (.found _ (.link _)) =>
    if o.followLinks then d.filesThrough o [] p
    else
      match d.entry? p with
      | .ok (loc, .folder es) => walkEntries (d.filesThrough o) o.prunes [loc] loc p es
      | _ => []
  | .ok (.found loc e) => walkEntry (d.filesThrough o) o.prunes [] loc p e
  | _ => []

/-- The paths whose names have an ending, each as often as the ending is asked for. -/
def bucket (endings : List String) (paths : List Path) (ending : String) : List Path :=
  (paths.filter fun p => hasEnding p.fileName ending).flatMap fun p =>
    List.replicate (endings.count ending) p

/-- **The files beneath a path by the endings** of their names. -/
def filesByEnding (d : Disk) (o : WalkOptions) (p : Path) (endings : List String) :
    Dictionary (List Path) :=
  let paths := d.filesBeneath o p
  Dictionary.ofList (endings.map fun ending => (ending, bucket endings paths ending))

end Disk

end TreeIndex
