import TreeIndex.Fault

/-!
# Definitions

A definition says how the files or the items of one sort are recognised.

* `Identifier`: a file name's ending, a pair of templates, or nothing -- a root definition only supplies
  defaults;
* `Definition`: its name, its type, its identifier, its tags and its configuration;
* `root?`, `effective?`: a root definition and a definition that inherited from one;
* `suffix?`, `isMeantBy`, `shown`: its ending, whether a query means it, and its text;
* `fragments`: the dictionary for its templates -- every scalar of the configuration, overridden by the tags.
-/

namespace TreeIndex

open Yaml (Value Mapping)

/-! ## 1. Names -/

/-- The name of root definitions. -/
def rootName : String := "root"

/-- The type of definitions of files. -/
def fileKind : String := "file"

/-- The type of definitions of items. -/
def itemKind : String := "item"

/-- The type of definitions of what is passed over. -/
def ignoreKind : String := "ignore"

/-- The tag that stands in for a missing end template. -/
def endDefaultTag : String := "end_default"

/-! ## 2. Definitions -/

/-- How the files or the items of a definition are recognised. -/
inductive Identifier where
  /-- Root definitions recognise nothing. -/
  | inherited
  /-- The ending of a file name. -/
  | suffix (text : String)
  /-- A start template, and an end template that may be missing. -/
  | template (start : String) (stop : Option String)
deriving DecidableEq, Inhabited

/-- An identifier in words. -/
def Identifier.shown : Identifier → String
  | inherited => "(inherited)"
  | suffix text => text
  | template start (some stop) => start ++ " ... " ++ stop
  | template start none => start ++ " ... (default end)"

/-- How **the files or items of one sort** are recognised. -/
structure Definition where
  name : String
  kind : String
  identifier : Identifier
  parseTags : Dictionary String
  config : Mapping
  source : Path
deriving Inhabited

namespace Definition

/-- The definition is a root definition. -/
def isRoot (d : Definition) : Bool :=
  d.name == rootName

/-- The ending of file names. -/
def suffix? (d : Definition) : Option String :=
  match d.identifier with
  | .suffix text => some text
  | _ => none

/-- What the configuration holds under a key. -/
def get? (d : Definition) (key : String) : Option Value :=
  Mapping.get? d.config key

/-- The query is the name or the type of the definition. -/
def isMeantBy (d : Definition) (query : String) : Bool :=
  d.name == query || d.kind == query

/-- A definition in words. -/
def shown (d : Definition) : String :=
  d.name ++ " [" ++ d.kind ++ "] " ++ d.identifier.shown

/-- The scalars of a configuration under the keys that are texts. -/
def scalars (config : Mapping) : Dictionary String :=
  Dictionary.ofList (config.filterMap fun e => do
    let key ← e.1.asText?
    let text ← e.2.scalarText?
    some (key, text))

/-- The **fragments** for the templates of the definition. -/
def fragments (d : Definition) : Dictionary String :=
  (scalars d.config).overlay d.parseTags

/-! ## 3. Reading a configuration -/

/-- The name of a tag; the end template's default has two spellings. -/
def tagName (tag : String) : String :=
  if tag = "endDefault" then endDefaultTag else tag

/-- One entry of the tags. -/
def tagEntry? (e : Value × Value) : Except ConfigurationCause (String × String) :=
  match e.1.asText?, e.2.scalarText? with
  | some tag, some fragment => .ok (tagName tag, fragment)
  | _, _ => .error (.tagEntry e.1)

/-- The **tags** of a configuration: a mapping from tags to fragments, under either of two keys. -/
def parseTags? (config : Mapping) : Except ConfigurationCause (Dictionary String) :=
  match Mapping.firstOf? config ["parseTags", "parse_tags"] with
  | none => .ok ∅
  | some value =>
    match value.asMapping? with
    | none => .error .tagsShape
    | some entries => (entries.mapM tagEntry?).map Dictionary.ofList

/-- A suffix: a text that is not empty. -/
def suffixOf? (name kind : String) (value : Value) : Except ConfigurationCause Identifier :=
  match value with
  | .text text => if text.isEmpty then .error (.suffixShape kind name value) else .ok (.suffix text)
  | _ => .error (.suffixShape kind name value)

/-- The start template of a mapping. -/
def startOf? (name : String) (m : Mapping) : Except ConfigurationCause String :=
  match Mapping.get? m "start" with
  | some (.text start) => .ok start
  | other => .error (.startShape name other)

/-- The end template of a mapping; null and an empty text are none. -/
def stopOf? (name : String) (m : Mapping) : Except ConfigurationCause (Option String) :=
  match Mapping.get? m "end" with
  | none => .ok none
  | some .null => .ok none
  | some (.text stop) => if stop.isEmpty then .ok none else .ok (some stop)
  | some other => .error (.endShape name other)

/-- A pair of templates. -/
def templateOf? (name : String) (value : Value) : Except ConfigurationCause Identifier :=
  match value.asMapping? with
  | none => .error (.templateShape name)
  | some m => do
    let start ← startOf? name m
    let stop ← stopOf? name m
    .ok (.template start stop)

/-- The **identifier** of a configuration: templates for items, a suffix for everything else. -/
def identifier? (name kind : String) (config : Mapping) : Except ConfigurationCause Identifier :=
  match Mapping.get? config "identifier" with
  | none => .error (.noIdentifier kind name)
  | some value => if kind = itemKind then templateOf? name value else suffixOf? name kind value

/-- A fault of a configuration file. -/
def inFile {β : Type} (file : Path) (r : Except ConfigurationCause β) : Except Fault β :=
  match r with
  | .ok x => .ok x
  | .error cause => .error (.configuration file cause)

/-- **A root definition**; its identifier is not looked at. -/
def root? (kind : String) (config : Mapping) (source : Path) : Except Fault Definition :=
  inFile source do
    let parseTags ← parseTags? config
    .ok ⟨rootName, kind, .inherited, parseTags, config, source⟩

/-- **A definition** from a configuration that has inherited already. -/
def effective? (name kind : String) (config : Mapping) (source : Path) : Except Fault Definition :=
  inFile source do
    let identifier ← identifier? name kind config
    let parseTags ← parseTags? config
    .ok ⟨name, kind, identifier, parseTags, config, source⟩

end Definition

end TreeIndex
