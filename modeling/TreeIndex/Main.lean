import TreeIndex.CommandLine.Session
import TreeIndex.Disk.Change

/-!
# The program

A request is answered on a picture of the disk, which holds what the request can ask for.

* `kind?`, `bytesAt`, `namesIn`: what the system knows of a path;
* `reach`: the picture with the way to a path and what lies at its end; `explore`: the picture with everything
  beneath a path;
* `picture`: the root markers above the start, the tree of the nearest one, the user's defaults and the paths
  that the request names;
* `settle`: the answer, for which the picture grows by every dependency that it lacks;
* `main`: reads the words and the surroundings, and prints how the session ends.
-/

namespace TreeIndex.CommandLine

open IO.FS (FileType)

/-! ## 1. What the system knows -/

/-- What lies at a path; a link is not gone through. -/
def kind? (path : String) : IO (Option FileType) := do
  try
    let here ← IO.currentDir
    let m ← (here / path).symlinkMetadata
    return some m.type
  catch _ => return none

/-- The bytes of a file; none if it cannot be read. -/
def bytesAt (path : String) : IO ByteArray := do
  try IO.FS.readBinFile path catch _ => return ByteArray.empty

/-- The names in a folder. -/
def namesIn (path : String) : IO (List String) := do
  try
    let here ← IO.currentDir
    let found ← (here / path).readDir
    return found.toList.map (·.fileName)
  catch _ => return []

/-- The path at the end of a link. -/
def behindLink (path : String) : IO (Option String) := do
  try
    let found ← IO.FS.realPath path
    return some found.toString
  catch _ => return none

/-! ## 2. Pictures -/

/-- The text of the path to a location. -/
def textOf (loc : Disk.Location) : String :=
  (Disk.pathTo loc).text

/-- The picture with **the way to a path** from a location, and what lies at its end. -/
partial def reachFrom (d : Disk) (loc : Disk.Location) : List String → IO Disk
  | [] => return d
  | piece :: rest => do
    if piece = "." then reachFrom d loc rest
    else if piece = ".." then reachFrom d loc.dropLast rest
    else do
      let next := loc ++ [piece]
      let known := (d.at? next).isSome
      match ← kind? (textOf next) with
      | none => return d
      | some .dir => reachFrom (if known then d else d.putFolder next) next rest
      | some .symlink =>
        match ← behindLink (textOf next) with
        | none => return if known then d else d.putLink next piece
        | some target => do
          let d := if known then d else d.putLink next target
          reachFrom d [] (Disk.pieces target.toList ++ rest)
      | some _ => if known then return d else return d.putFile next (← bytesAt (textOf next))

/-- The picture with the way to a path, seen from where one stands. -/
def reach (d : Disk) (p : Path) : IO Disk :=
  reachFrom d (Disk.origin d.here p.text.toList) (Disk.pieces p.text.toList)

/-- The picture with **everything beneath** a location. -/
partial def explore (d : Disk) (loc : Disk.Location) : IO Disk := do
  let mut d := d
  for name in ← namesIn (textOf loc) do
    let next := loc ++ [name]
    d ← reachFrom d loc [name]
    if let some .dir ← kind? (textOf next) then d ← explore d next
  return d

/-- The paths that a command names. -/
def namedPaths : Command → List Path
  | .items (some file) _ => [⟨file⟩]
  | .beneath path => [⟨path⟩]
  | _ => []

/-- The picture that a request starts with. -/
def picture (here : Disk.Location) (home : Option Path) (r : Request) : IO Disk := do
  let mut d := Disk.empty.seenFrom here
  let start := r.start d
  let base := (r.options.baseConfig.map Path.mk).toList ++ (home.map defaultsPath).toList
  for p in Disk.pathTo here :: start :: base ++ namedPaths r.command do
    d ← reach d p
  let s := r.settings d home
  for p in (searchStart d (d.canonical start)).ancestors do
    d ← reach d (p.child s.markerName)
  match findMarker? d s start with
  | .ok marker =>
    match d.entry? marker.folder with
    | .ok (loc, _) => explore d loc
    | .error _ => return d
  | .error _ => return d

/-- The **answer** to a request. A dependency that the picture lacks is looked for once. -/
partial def settle (d : Disk) (around : Surroundings) (r : Request) (tried : List Path) : IO Outcome := do
  let answer := r.answer? d around
  match answer with
  | .error ⟨_, .discovery (.noDependency _ _ _ p)⟩ =>
    if tried.contains p then return .ofAnswer answer
    else do
      let d ← reach d p
      let d ← reach d (p.child (r.settings d around.home).markerName)
      settle d around r (p :: tried)
  | _ => return .ofAnswer answer

/-! ## 3. The program -/

/-- Whether the surroundings ask for colours, on a terminal or not. -/
def wantsColours (terminal : Bool) : IO Bool := do
  let forced ← IO.getEnv "CLICOLOR_FORCE"
  let refused ← IO.getEnv "NO_COLOR"
  let usual ← IO.getEnv "CLICOLOR"
  if forced.any (· != "0") then return true
  else return refused.isNone && usual.all (· != "0") && terminal

/-- What the program finds around it. -/
def surroundings : IO Surroundings := do
  let out ← IO.getStdout
  let home ← IO.getEnv "HOME"
  let base ← IO.getEnv "SOURCE_FRAMEWORK_BASE_CONFIG"
  let colours ← wantsColours (← out.isTty)
  return ⟨home.map Path.mk, base, colours⟩

/-- How the session with some words ends, on the disk of the system. -/
def outcomeOf (around : Surroundings) (words : List String) : IO Outcome := do
  match Request.ofWords? around.baseConfig words with
  | .error stop => return .ofStop stop
  | .ok r =>
    let here := (← IO.currentDir).toString
    let d ← picture (Disk.pieces here.toList) around.home r
    settle d around r []

end TreeIndex.CommandLine

open TreeIndex.CommandLine in
/-- **The program**: answers the words of the command line. -/
def main (words : List String) : IO UInt32 := do
  let outcome ← outcomeOf (← surroundings) words
  let out ← IO.getStdout
  let err ← IO.getStderr
  out.putStr outcome.printed
  err.putStr outcome.complaint
  return outcome.code.toUInt32
