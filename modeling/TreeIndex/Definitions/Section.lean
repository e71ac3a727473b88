import TreeIndex.Fault
import TreeIndex.Yaml.Decode

/-!
# The section of types

A root configuration declares the types of definitions, and the ending of the file names that define each.

* `SectionRecord.ofValue?`: what the section says;
* `Types`: the declared types in their order and the ending of each;
* `Types.ofRecord?`, `Types.ofConfig?`: the types that a root configuration declares. Types and endings must
  match one to one, and no ending may be empty or shared.
-/

namespace TreeIndex

open Yaml

/-! ## 1. The section -/

/-- What the section **says**. -/
structure SectionRecord where
  types : Option (List String) := none
  identifiers : Option (List (String × String)) := none
deriving Inhabited

namespace SectionRecord

/-- Reads one field. -/
def set? (r : SectionRecord) (field : String) (v : Value) : Except Mismatch SectionRecord :=
  if field = "types" then do
    let types ← optional? (itemsOf? (textOf? .text)) v
    .ok { r with types := types }
  else do
    let identifiers ← optional? textsUnder? v
    .ok { r with identifiers := identifiers }

/-- What a value says as a section. -/
def ofValue? (v : Value) : Except Mismatch SectionRecord :=
  fieldsOf? "IndexSection" ["types", "identifiers"] set? {} v

end SectionRecord

/-! ## 2. Types -/

/-- The **declared types** and their endings. -/
structure Types where
  /-- The types in the order of their declaration. -/
  names : List String
  /-- The ending of the names of files that define a type. -/
  identifiers : Dictionary String
deriving Inhabited

namespace Types

/-- Each once, where it comes first. -/
def distinct : List String → List String
  | [] => []
  | t :: ts => t :: (distinct ts).filter fun u => u != t

/-- The first entry whose value stands under an earlier key already, with that key: both keys and the
    value. -/
def sharedAmong : (earlier : List (String × String)) → List (String × String) →
    Option (String × String × String)
  | _, [] => none
  | earlier, (key, text) :: rest =>
    match earlier.find? fun e => e.2 == text with
    | some e => some (e.1, key, text)
    | none => sharedAmong (earlier ++ [(key, text)]) rest

/-- Why types and endings do not match, if they do not. -/
def flaw? (names : List String) (identifiers : Dictionary String) : Option ConfigurationCause :=
  if names.length ≠ identifiers.size then some (.unequalTypes names identifiers.entries)
  else
    match names.find? fun t => !identifiers.contains t with
    | some t => some (.typeWithoutIdentifier t identifiers.keys)
    | none =>
      match identifiers.entries.find? fun e => e.2.isEmpty with
      | some e => some (.emptyIdentifier e.1)
      | none => (sharedAmong [] identifiers.entries).map fun s => .sharedIdentifier s.1 s.2.1 s.2.2

/-- The types that a section declares. -/
def ofRecord? (r : SectionRecord) : Except ConfigurationCause Types :=
  match r.types, r.identifiers with
  | some declared, some entries =>
    let names := distinct declared
    let identifiers := Dictionary.ofList entries
    match flaw? names identifiers with
    | some cause => .error cause
    | none => .ok ⟨names, identifiers⟩
  | _, _ => .error .sectionIncomplete

/-- **The types that a root configuration declares.** -/
def ofConfig? (config : Mapping) : Except ConfigurationCause Types :=
  match Mapping.get? config "index" with
  | none => .error .noIndexSection
  | some v =>
    match SectionRecord.ofValue? v with
    | .ok r => ofRecord? r
    | .error mismatch => .error (.sectionShape mismatch)

/-- The type of every ending. -/
def byEnding (t : Types) : Dictionary String :=
  Dictionary.ofList (t.identifiers.entries.map fun e => (e.2, e.1))

end Types

end TreeIndex
