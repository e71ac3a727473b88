import TreeIndex.Component

/-!
# Destinations

Where the content of a file is written.

* `TimeOfDay`: an hour, a minute and a second; `TimeOfDay.stamp`: the three with two digits each;
* `SourceFile.nameAt`: the name of a copy that is made at some time -- name, time and the suffix of the file's
  definition, or else its extension;
* `Destination`, `Destination.path`: a path, or a folder and a name that may both be left out.
-/

namespace TreeIndex

/-! ## 1. Times -/

/-- A time of day, to the second. -/
structure TimeOfDay where
  hour : Nat
  minute : Nat
  second : Nat
  valid : hour < 24 ∧ minute < 60 ∧ second < 60

namespace TimeOfDay

/-- The time of day with these numbers, if there is one. -/
def ofNumbers? (hour minute second : Nat) : Option TimeOfDay :=
  if h : hour < 24 ∧ minute < 60 ∧ second < 60 then some ⟨hour, minute, second, h⟩ else none

/-- A number below a hundred with two digits. -/
def twoDigits (n : Nat) : String :=
  if n < 10 then "0" ++ toString n else toString n

/-- Hour, minute and second, **two digits each**. -/
def stamp (t : TimeOfDay) : String :=
  twoDigits t.hour ++ "_" ++ twoDigits t.minute ++ "_" ++ twoDigits t.second

end TimeOfDay

/-! ## 2. Names -/

namespace SourceFile

/-- The suffix of the file's definition without the dots in front of it, if something remains. -/
def bareSuffix? (f : SourceFile) : Option String :=
  match f.definition.suffix? with
  | some suffix =>
    let bare := suffix.toList.dropWhile (· = '.')
    if bare.isEmpty then none else some (String.ofList bare)
  | none => none

/-- What the name of a copy ends with. -/
def copyExtension (f : SourceFile) : String :=
  (f.bareSuffix?.or f.path.extension?).getD ""

/-- The name of **a copy that is made at some time**, given by its stamp. -/
def nameAt (f : SourceFile) (stamp : String) : String :=
  f.name ++ "." ++ stamp ++ "." ++ f.copyExtension

end SourceFile

/-! ## 3. Destinations -/

/-- Where a file is written. -/
inductive Destination where
  | path (p : Path)
  /-- The file's own folder and a name with the time stand in for what is left out. -/
  | folder (dir : Option Path) (name : Option String)
deriving DecidableEq, Inhabited

/-- The **path** that a destination means for a file, at a time given by its stamp. -/
def Destination.pathFor (d : Destination) (f : SourceFile) (stamp : String) : Path :=
  match d with
  | path p => p
  | folder dir name => (dir.getD f.path.folder).child (name.getD (f.nameAt stamp))

end TreeIndex
