import TreeIndex.Pattern.CharSet
import TreeIndex.Text.Class.Category
import TreeIndex.Text.Class.Script

/-!
# Classes of Unicode

A pattern can ask for a class of characters by the name of a general category, of a script or of a property.

* `looseName`: a name without what does not count in it;
* `categorySet?`, `scriptSet?`, `propertySet?`: the set under a name;
* `classSet?`: the set that a whole text names, and whether what lies outside it is meant.

NOT here: script extensions, ages, the parts that a text is segmented into, and properties besides those of
`TreeIndex.Text.properties`. Their names are unknown.
-/

namespace TreeIndex.Pattern

open TreeIndex.Text

/-! ## 1. Names -/

/-- A name without spaces, dashes, underscores and what is not ASCII, in lower case. An `is` in front does not count,
    unless nothing but a `c` follows it: that is another name. -/
def looseName (cs : List Char) : String :=
  let loose (cs : List Char) :=
    (cs.filter fun c => c ≠ ' ' && c ≠ '-' && c ≠ '_' && decide (c.toNat < 0x80)).map Char.toLower
  match cs with
  | i :: s :: rest =>
    if i.toLower = 'i' && s.toLower = 's' then
      if loose rest = ['c'] then "isc" else String.ofList (loose rest)
    else String.ofList (loose cs)
  | _ => String.ofList (loose cs)

/-- The class under a name. -/
def classNamed? (classes : List CharClass) (name : String) : Option CharClass :=
  classes.find? fun k => k.names.contains name

/-! ## 2. Sets -/

/-- The characters in a general category, or in several under one name. -/
def categorySet? (name : String) : Option CharSet :=
  let assigned := categories.flatMap CharClass.ranges
  let unassigned := CharSet.complement (.ranges assigned)
  match name with
  | "any" => some .everything
  | "assigned" => some (.ranges assigned)
  | "ascii" => some .ascii
  | "cn" => some unassigned
  | "unassigned" => some unassigned
  | "c" => some (.union (.ranges (categoryRanges ["cc", "cf", "co"])) unassigned)
  | "other" => some (.union (.ranges (categoryRanges ["cc", "cf", "co"])) unassigned)
  | _ => (classNamed? (categories ++ categoryGroups) name).map fun k => .ranges k.ranges

/-- The characters of a script. -/
def scriptSet? (name : String) : Option CharSet :=
  (classNamed? scripts name).map fun k => .ranges k.ranges

/-- The characters with a property. -/
def propertySet? (name : String) : Option CharSet :=
  match name with
  | "whitespace" => some .blank
  | "wspace" => some .blank
  | "space" => some .blank
  | _ => (classNamed? properties name).map fun k => .ranges k.ranges

/-- The set under a name alone: of a property, a category or a script. -/
def loneSet? (name : List Char) : Option CharSet :=
  let name := looseName name
  ((propertySet? name).or (categorySet? name)).or (scriptSet? name)

/-- The set of the characters for which something has a value. -/
def valuedSet? (name value : List Char) : Option CharSet :=
  match looseName name with
  | "gc" => categorySet? (looseName value)
  | "generalcategory" => categorySet? (looseName value)
  | "sc" => scriptSet? (looseName value)
  | "script" => scriptSet? (looseName value)
  | _ => none

/-- What stands in front of a mark and behind it. -/
def cut? (mark : List Char) : List Char → Option (List Char × List Char)
  | [] => none
  | c :: cs =>
    if mark.isPrefixOf (c :: cs) then some ([], (c :: cs).drop mark.length)
    else (cut? mark cs).map fun (front, rest) => (c :: front, rest)

/-- **The set that a text names**, by one name or by a name and a value, and whether what lies outside it is meant. -/
def classSet? (cs : List Char) : Option (CharSet × Bool) :=
  match cut? ['!', '='] cs with
  | some (name, value) => (valuedSet? name value).map fun s => (s, true)
  | none =>
    match (cut? [':'] cs).or (cut? ['='] cs) with
    | some (name, value) => (valuedSet? name value).map fun s => (s, false)
    | none => (loneSet? cs).map fun s => (s, false)

end TreeIndex.Pattern
