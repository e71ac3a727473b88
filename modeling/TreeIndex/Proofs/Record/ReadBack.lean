import TreeIndex.Proofs.Dictionary
import TreeIndex.Proofs.Json.Written
import TreeIndex.Record

/-!
# Records are read back

What is written for records says all that is in them.

* `required?`, `optional?`, `orElse?`: fields that must stand in an object, and fields that may be missing;
  `Record.ofJson?`, `readRecords?`: a record and a list of them, read from JSON;
* `lookup_optional`, `lookup_unlessEmpty`: a field that is left out if there is nothing to say;
  `Record.nodup_names`: no name stands twice in a record;
* `Record.ofJson?_json`: **a record is read back**, whichever of its fields are missing;
* `RecordsWritten`, `recordsWritten`: the text of any records is one array on a line of its own, is read back and is
  the text of no others.
-/

namespace TreeIndex

/-! ## 1. Reading values -/

namespace Json

/-- The text that a value is. -/
def textOf? : Json → Option String
  | text s => some s
  | _ => none

/-- The number that a value is. -/
def numberOf? : Json → Option Nat
  | number n => some n
  | _ => none

/-- The items that a value has. -/
def itemsOf? : Json → Option (List Json)
  | array vs => some vs
  | _ => none

/-- The fields that a value has, if **no name stands twice**. -/
def fieldsOf? : Json → Option (List (String × Json))
  | object fs => if (fs.map Prod.fst).Nodup then some fs else none
  | _ => none

section Fields

variable {α : Type} (fs : List (String × Json)) (name : String) (read? : Json → Option α)

/-- A field that must be there. -/
def required? : Option α :=
  (fs.lookup name).bind read?

/-- A field in place of which **something else** is taken if it is missing. -/
def orElse? (absent : α) : Option α :=
  match fs.lookup name with
  | some v => read? v
  | none => some absent

/-- A field that may be missing. -/
def optional? : Option (Option α) :=
  orElse? fs name (fun v => (read? v).map some) none

end Fields

end Json

/-- The kind of a name. -/
def ComponentKind.ofName? (name : String) : Option ComponentKind :=
  [file, item, project].find? (·.name == name)

/-- A key and the text under it. -/
def Dictionary.entryOf? (f : String × Json) : Option (String × String) :=
  f.2.textOf?.map fun s => (f.1, s)

/-- A dictionary of texts. -/
def Dictionary.ofJson? (v : Json) : Option (Dictionary String) := do
  return ofList (← (← v.fieldsOf?).mapM entryOf?)

/-- A dependency, read from JSON. -/
def Dependency.ofJson? (v : Json) : Option Dependency := do
  let fs ← v.fieldsOf?
  return { name := ← Json.required? fs "name" Json.textOf?
           path := ⟨← Json.required? fs "path" Json.textOf?⟩ }

/-- **A record**, read from JSON. -/
def Record.ofJson? (v : Json) : Option Record := do
  let fs ← v.fieldsOf?
  return { id := ← Json.required? fs "id" Json.textOf?
           kind := ← Json.required? fs "kind" fun v => v.textOf?.bind ComponentKind.ofName?
           name := ← Json.required? fs "name" Json.textOf?
           path := ← Json.required? fs "path" Json.textOf?
           definition := ← Json.optional? fs "definition" Json.textOf?
           indexType := ← Json.optional? fs "index_type" Json.textOf?
           lineStart := ← Json.optional? fs "line_start" Json.numberOf?
           lineEnd := ← Json.optional? fs "line_end" Json.numberOf?
           properties := ← Json.orElse? fs "properties" Dictionary.ofJson? ∅
           dependencies := ← Json.orElse? fs "dependencies"
             (fun v => v.itemsOf?.bind fun vs => vs.mapM Dependency.ofJson?) [] }

/-- **Records**, read from the text of one array. -/
def readRecords? (text : String) : Option (List Record) := do
  let vs ← (← Json.ofText? text).itemsOf?
  vs.mapM Record.ofJson?

/-! ## 2. Fields -/

/-- What is read **one by one** as it was written is read as a whole. -/
theorem mapM_map_of_read {α β : Type} {write : α → β} {read? : β → Option α}
    (h : ∀ x, read? (write x) = some x) : ∀ xs : List α, (xs.map write).mapM read? = some xs
  | [] => rfl
  | x :: xs => by
    rw [List.map_cons, List.mapM_cons, h, mapM_map_of_read h xs]
    rfl

namespace Json

variable {α : Type} {fs : List (String × Json)} {name : String} {read? : Json → Option α}

theorem fieldsOf?_object (h : (fs.map Prod.fst).Nodup) : (object fs).fieldsOf? = some fs :=
  if_pos h

theorem required?_of_lookup {v : Json} {x : α} (h : fs.lookup name = some v) (hread : read? v = some x) :
    required? fs name read? = some x := by
  rw [required?, h, Option.bind_some, hread]

theorem optional?_of_lookup {write : α → Json} {value : Option α} (hread : ∀ x, read? (write x) = some x)
    (h : fs.lookup name = value.map write) : optional? fs name read? = some value := by
  rw [optional?, orElse?, h]
  cases value with
  | none => rfl
  | some x => simp [hread]

theorem orElse?_of_lookup {v : Json} {x absent : α} {isEmpty : Bool} (hread : read? v = some x)
    (hempty : isEmpty = true → absent = x) (h : fs.lookup name = if isEmpty then none else some v) :
    orElse? fs name read? absent = some x := by
  rw [orElse?, h]
  cases isEmpty with
  | true => simp [hempty rfl]
  | false => simp [hread]

end Json

theorem ComponentKind.ofName?_name (k : ComponentKind) : ofName? k.name = some k := by
  cases k <;> decide

/-- **A dictionary is read back.** -/
theorem Dictionary.ofJson?_object (d : Dictionary String) :
    ofJson? (.object (d.entries.map fun e => (e.1, .text e.2))) = some d := by
  have hnames : ((d.entries.map fun e => (e.1, Json.text e.2)).map Prod.fst).Nodup := by
    rw [List.map_map]
    exact d.nodup_keys
  have hentry : ∀ e : String × String, entryOf? (e.1, .text e.2) = some e := fun _ => rfl
  rw [ofJson?, Json.fieldsOf?_object hnames]
  simp [-List.mapM_map, mapM_map_of_read hentry d.entries, ofList_entries]

theorem Dependency.ofJson?_dependencyJson (d : Dependency) : ofJson? (Record.dependencyJson d) = some d := by
  rfl

namespace Record

theorem lookup_optional {α : Type} (name : String) (value : Option α) (write : α → Json) (key : String) :
    (optional name value write).lookup key = if key = name then value.map write else none := by
  cases value with
  | none => simp [optional]
  | some x => rw [optional, Dictionary.lookup_cons_eq, List.lookup_nil, Option.map_some]

theorem lookup_unlessEmpty (name : String) (isEmpty : Bool) (value : Json) (key : String) :
    (unlessEmpty name isEmpty value).lookup key = if key = name then if isEmpty then none else some value else none := by
  cases isEmpty with
  | true => simp [unlessEmpty]
  | false => simp [unlessEmpty, Dictionary.lookup_cons_eq]

/-- An object **says of a record** what is in it, in any order. -/
structure Says (fs : List (String × Json)) (r : Record) : Prop where
  id : fs.lookup "id" = some (.text r.id)
  kind : fs.lookup "kind" = some (.text r.kind.name)
  name : fs.lookup "name" = some (.text r.name)
  path : fs.lookup "path" = some (.text r.path)
  definition : fs.lookup "definition" = r.definition.map .text
  indexType : fs.lookup "index_type" = r.indexType.map .text
  lineStart : fs.lookup "line_start" = r.lineStart.map .number
  lineEnd : fs.lookup "line_end" = r.lineEnd.map .number
  properties : fs.lookup "properties" =
    if r.properties.isEmpty then none else some (.object (r.properties.entries.map fun e => (e.1, .text e.2)))
  dependencies : fs.lookup "dependencies" =
    if r.dependencies.isEmpty then none else some (.array (r.dependencies.map dependencyJson))

/-- The fields that are written for a record. -/
def fields (r : Record) : List (String × Json) :=
  match r.json with
  | .object fs => fs
  | _ => []

theorem json_eq_object (r : Record) : r.json = .object r.fields := rfl

theorem says_fields (r : Record) : Says r.fields r := by
  constructor <;> simp [fields, json, List.lookup_append, Dictionary.lookup_cons_eq, lookup_optional, lookup_unlessEmpty]

/-- The names of the fields, **in the order in which they are written**. -/
def fieldNames : List String :=
  ["id", "kind", "name", "path", "definition", "index_type", "line_start", "line_end", "properties", "dependencies"]

theorem names_optional {α : Type} (name : String) (value : Option α) (write : α → Json) :
    ((optional name value write).map Prod.fst).Sublist [name] := by
  cases value with
  | none => exact List.nil_sublist _
  | some x => exact List.Sublist.refl _

theorem names_unlessEmpty (name : String) (isEmpty : Bool) (value : Json) :
    ((unlessEmpty name isEmpty value).map Prod.fst).Sublist [name] := by
  cases isEmpty with
  | true => exact List.nil_sublist _
  | false => exact List.Sublist.refl _

theorem names_sublist (r : Record) : (r.fields.map Prod.fst).Sublist fieldNames := by
  simp only [fields, json, List.map_append, List.append_assoc]
  exact (List.Sublist.refl _).append <| (names_optional _ _ _).append <| (names_optional _ _ _).append <|
    (names_optional _ _ _).append <| (names_optional _ _ _).append <| (names_unlessEmpty _ _ _).append <|
    names_unlessEmpty _ _ _

/-- **No name stands twice** in a record. -/
theorem nodup_names (r : Record) : (r.fields.map Prod.fst).Nodup :=
  r.names_sublist.nodup (by decide)

/-! ## 3. Records -/

/-- A record is read from an object that **says it all**. -/
theorem ofJson?_of_says {fs : List (String × Json)} {r : Record} (hnodup : (fs.map Prod.fst).Nodup)
    (h : Says fs r) : ofJson? (.object fs) = some r := by
  have htext : ∀ {name s : String}, fs.lookup name = some (.text s) → Json.required? fs name Json.textOf? = some s :=
    fun hname => Json.required?_of_lookup hname rfl
  have hkind : (Json.required? fs "kind" fun v => v.textOf?.bind ComponentKind.ofName?) = some r.kind :=
    Json.required?_of_lookup h.kind (ComponentKind.ofName?_name r.kind)
  have hdefinition : Json.optional? fs "definition" Json.textOf? = some r.definition :=
    Json.optional?_of_lookup (fun _ => rfl) h.definition
  have hindexType : Json.optional? fs "index_type" Json.textOf? = some r.indexType :=
    Json.optional?_of_lookup (fun _ => rfl) h.indexType
  have hlineStart : Json.optional? fs "line_start" Json.numberOf? = some r.lineStart :=
    Json.optional?_of_lookup (fun _ => rfl) h.lineStart
  have hlineEnd : Json.optional? fs "line_end" Json.numberOf? = some r.lineEnd :=
    Json.optional?_of_lookup (fun _ => rfl) h.lineEnd
  have hproperties : Json.orElse? fs "properties" Dictionary.ofJson? ∅ = some r.properties := by
    refine Json.orElse?_of_lookup (Dictionary.ofJson?_object r.properties) ?_ h.properties
    intro hempty
    exact (Dictionary.ext_entries (List.isEmpty_iff.1 hempty)).symm
  have hdependencies : (Json.orElse? fs "dependencies" (fun v => v.itemsOf?.bind fun vs =>
      vs.mapM Dependency.ofJson?) []) = some r.dependencies := by
    refine Json.orElse?_of_lookup ?_ ?_ h.dependencies
    · exact mapM_map_of_read Dependency.ofJson?_dependencyJson r.dependencies
    · intro hempty
      exact (List.isEmpty_iff.1 hempty).symm
  simp [ofJson?, Json.fieldsOf?_object hnodup, htext h.id, htext h.name, htext h.path, hkind, hdefinition, hindexType,
    hlineStart, hlineEnd, hproperties, hdependencies]

/-- **A record is read back.** -/
theorem ofJson?_json (r : Record) : ofJson? r.json = some r := by
  rw [json_eq_object]
  exact ofJson?_of_says r.nodup_names r.says_fields

end Record

/-! ## 4. Lists of records -/

/-- Records **one by one**, with a comma in front of all but the first of the text. -/
def oneByOne (first : Bool) : List Record → String
  | [] => ""
  | r :: rs => (if first then "" else ",") ++ r.json.compact ++ oneByOne false rs

theorem intercalate_eq_oneByOne : ∀ rs : List Record,
    ",".intercalate (rs.map fun r => r.json.compact) = oneByOne true rs
  | [] => rfl
  | [r] => by simp [oneByOne]
  | r :: r' :: rs => by
    have ih := intercalate_eq_oneByOne (r' :: rs)
    rw [List.map_cons] at ih
    rw [List.map_cons, List.map_cons, String.intercalate_cons_cons, ih]
    simp [oneByOne, String.append_assoc]

theorem writeRecords_eq_oneByOne (rs : List Record) : writeRecords rs = "[" ++ oneByOne true rs ++ "]\n" := by
  have hclose : "]\n" = "]" ++ "\n" := rfl
  rw [writeRecords, Json.compact, Json.compactItems_eq_map, List.map_map, ← intercalate_eq_oneByOne, hclose,
    ← String.append_assoc]
  rfl

/-- What the text that is written for records **says, as JSON and as records**. -/
structure RecordsWritten (rs : List Record) : Prop where
  /-- Every record stands between the brackets, and a comma between any two. -/
  framed : writeRecords rs = "[" ++ oneByOne true rs ++ "]\n"
  /-- It is one array on a line of its own, with an item for every record. -/
  array : ∃ text, writeRecords rs = text ++ "\n" ∧ Json.Spells (.array (rs.map Record.json)) text.toList
  /-- It follows the grammar of JSON in no other way. -/
  only : ∀ v, Json.WellFormed (writeRecords rs) v ↔ v = .array (rs.map Record.json)
  /-- All records are read back from it, in order. -/
  readBack : readRecords? (writeRecords rs) = some rs
  /-- It is written for no other records. -/
  injective : ∀ others, writeRecords others = writeRecords rs → others = rs

theorem ofText?_writeRecords (rs : List Record) :
    Json.ofText? (writeRecords rs) = some (.array (rs.map Record.json)) :=
  Json.ofText?_compact (.array (rs.map Record.json))

theorem readRecords?_writeRecords (rs : List Record) : readRecords? (writeRecords rs) = some rs := by
  rw [readRecords?, ofText?_writeRecords]
  exact mapM_map_of_read Record.ofJson?_json rs

/-- **Any records are read back** from what is written for them, whichever of their fields are missing and whatever
    their texts hold. -/
theorem recordsWritten (rs : List Record) : RecordsWritten rs where
  framed := writeRecords_eq_oneByOne rs
  array := ⟨(Json.array (rs.map Record.json)).compact, rfl, Json.spells_compact _⟩
  only := fun v => by
    rw [← Json.ofText?_eq_some_iff, ofText?_writeRecords, Option.some.injEq, eq_comm]
  readBack := readRecords?_writeRecords rs
  injective := fun others heq => by
    have hread := readRecords?_writeRecords others
    rw [heq, readRecords?_writeRecords rs] at hread
    exact (Option.some.inj hread).symm

end TreeIndex
