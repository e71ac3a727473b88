import TreeIndex.Dictionary
import TreeIndex.Path
import TreeIndex.Disk.Failure
import TreeIndex.Yaml.Decode

/-!
# Faults

Everything that can go wrong has one type, and every fault knows its cause.

* `Category`: the broad kinds of faults;
* `ConfigurationCause`, `DiscoveryCause`, `EmptyCause`: the causes of those kinds that have many;
* `Fault`: what went wrong, and where; `Fault.category`, `Fault.variant`, `Fault.message`: its kind, its name
  and its words;
* `Fault.cause?`: the words of a fault's own cause, where it stems from the disk or from a document.

The words of a pattern's or a document's syntax are not fixed here: such a message ends in front of them.
-/

namespace TreeIndex

/-! ## 1. Categories and causes -/

/-- The broad kinds of faults. -/
inductive Category where
  | configuration
  | discovery
  | extraction
  | scope
  | conflict
  | lifecycle
  | io
deriving DecidableEq

/-- The name of a category. -/
def Category.name : Category → String
  | configuration => "Configuration"
  | discovery => "Discovery"
  | extraction => "Extraction"
  | scope => "Scope"
  | conflict => "Conflict"
  | lifecycle => "Lifecycle"
  | io => "Io"

/-- Why a configuration file is refused. -/
inductive ConfigurationCause where
  /-- The tags are no mapping. -/
  | tagsShape
  /-- A tag is no text, or its fragment no scalar. -/
  | tagEntry (key : Yaml.Value)
  | noIdentifier (kind name : String)
  /-- An identifier must be a suffix, which is a text that is not empty. -/
  | suffixShape (kind name : String) (found : Yaml.Value)
  /-- The identifier of items must be a mapping. -/
  | templateShape (name : String)
  | startShape (name : String) (found : Option Yaml.Value)
  | endShape (name : String) (found : Yaml.Value)
  | notAMapping (found : Yaml.Value)
  | rootNotAMapping (found : Yaml.Value)
  | noIndexSection
  | sectionShape (mismatch : Yaml.Mismatch)
  | sectionIncomplete
  /-- The types and the identifiers are not equally many. -/
  | unequalTypes (types : List String) (identifiers : List (String × String))
  | typeWithoutIdentifier (kind : String) (declared : List String)
  | emptyIdentifier (kind : String)
  | sharedIdentifier (first second identifier : String)
  /-- Items are found by item definitions alone. -/
  | noItems (kind name : String)
  | noTemplates (name : String)
  | noEnd (name : String)
  | unnamedProject
deriving Inhabited

/-- Why something is not found. -/
inductive DiscoveryCause where
  | noMarker (marker : String) (start : Path)
  | severalRoots (kind : String) (paths : List Path)
  | noChildren (kind suffix : String) (root : Path)
  | missingRoots (names : List String)
  | noDependency (dependency project : String) (config candidate : Path)
deriving Inhabited

/-- Why a scope is too small. -/
inductive EmptyCause where
  | noComponents
  | noneExpectedOne
  | nothingNamed (name : String)
  | nothingAt (path : Path)
  | noRootProject
deriving Inhabited

/-! ## 2. Faults -/

/-- **What went wrong**, and where. -/
inductive Fault where
  | configuration (file : Path) (cause : ConfigurationCause)
  | unresolvedTag (tag template : String) (file : Path)
  | invalidPattern (pattern : String) (file : Path)
  | discovery (cause : DiscoveryCause)
  | unboundTag (tag template : String) (file : Path) (line : Nat) (captures : Dictionary String)
  | unterminated (file : Path) (line : Nat) (start stop : String) (properties : Dictionary String)
  | emptyScope (cause : EmptyCause)
  | ambiguousScope (count : Nat) (contents : String)
  | conflict (path : Path)
  | alreadyIndexed (root : Path)
  | notIndexed (state : String)
  | io (path : Path) (failure : Disk.Failure)
  /-- A file holds no document. -/
  | malformed (path : Path)
  /-- A document does not have the shape of a record. -/
  | mismatched (path : Path) (mismatch : Yaml.Mismatch)
deriving Inhabited

namespace Fault

/-- The kind of a fault. -/
def category : Fault → Category
  | configuration .. => .configuration
  | unresolvedTag .. => .configuration
  | invalidPattern .. => .configuration
  | discovery .. => .discovery
  | unboundTag .. => .extraction
  | unterminated .. => .extraction
  | emptyScope .. => .scope
  | ambiguousScope .. => .scope
  | conflict .. => .conflict
  | alreadyIndexed .. => .lifecycle
  | notIndexed .. => .lifecycle
  | io .. => .io
  | malformed .. => .io
  | mismatched .. => .io

/-- The name of a fault. -/
def variant : Fault → String
  | configuration .. => "Configuration"
  | unresolvedTag .. => "UnresolvedTag"
  | invalidPattern .. => "InvalidPattern"
  | discovery .. => "Discovery"
  | unboundTag .. => "UnboundTag"
  | unterminated .. => "Unterminated"
  | emptyScope .. => "EmptyScope"
  | ambiguousScope .. => "AmbiguousScope"
  | conflict .. => "Conflict"
  | alreadyIndexed .. => "AlreadyIndexed"
  | notIndexed .. => "NotIndexed"
  | io .. => "Io"
  | malformed .. => "Yaml"
  | mismatched .. => "Yaml"

end Fault

/-! ## 3. Words -/

/-- Texts as a list of quoted texts. -/
def quotedList (texts : List String) : String :=
  Text.listed (texts.map Text.quoted)

/-- A dictionary of texts with everything quoted. -/
def quotedEntries (d : Dictionary String) : String :=
  Text.keyed (d.entries.map fun e => (Text.quoted e.1, Text.quoted e.2))

/-- The cause of a configuration fault in words. -/
def ConfigurationCause.message : ConfigurationCause → String
  | tagsShape => "parseTags must be a mapping of tag name to regex fragment"
  | tagEntry key =>
    "parseTags entry " ++ key.shown ++ " must map a tag name to a regex string"
  | noIdentifier kind name => s!"{kind} index '{name}' has no identifier"
  | suffixShape kind name found =>
    s!"{kind} index '{name}' needs a string identifier naming the file suffix (e.g. .script.py), found "
      ++ found.shown
  | templateShape name =>
    s!"item index '{name}' needs identifier: \x7bstart: <template>, end: <template>\x7d"
  | startShape name found =>
    s!"item index '{name}' needs a string identifier.start, found " ++ Yaml.Value.shownOption found
  | endShape name found =>
    s!"item index '{name}' identifier.end must be a string, found " ++ found.shown
  | notAMapping found => "expected a YAML mapping at the top level, found " ++ found.shown
  | rootNotAMapping found => "root config must be a mapping, found " ++ found.shown
  | noIndexSection => "missing index section in root config"
  | sectionShape mismatch =>
    "index section must hold types: [..] and identifiers: \x7btype: suffix\x7d: " ++ mismatch.message
  | sectionIncomplete => "index section needs both types and identifiers"
  | unequalTypes types identifiers =>
    let detail := "types " ++ quotedList types ++ " vs identifiers "
      ++ Text.listed (identifiers.map fun e => Text.paired (Text.quoted e.1) (Text.quoted e.2))
    if types.length < identifiers.length then
      "no index types declared for some identifiers: " ++ detail
    else "no identifiers declared for some index types: " ++ detail
  | typeWithoutIdentifier kind declared =>
    s!"index type '{kind}' has no identifier; identifiers are declared for " ++ quotedList declared
  | emptyIdentifier kind => s!"index type '{kind}' has an empty identifier"
  | sharedIdentifier first second identifier =>
    s!"index types '{first}' and '{second}' share the identifier '{identifier}'; every type needs its own"
  | noItems kind name => s!"cannot extract items with {kind} index '{name}'"
  | noTemplates name => s!"item index '{name}' has no start/end identifier"
  | noEnd name =>
    s!"item index '{name}' has no identifier.end and no end_default parse tag "
      ++ "(usually declared in root.item.index)"
  | unnamedProject => "project config has no 'name'"

/-- The cause of a discovery fault in words. -/
def DiscoveryCause.message : DiscoveryCause → String
  | noMarker marker start =>
    s!"no root config: could not find {marker} searching upwards from " ++ start.text ++ "\n"
      ++ s!"If this is a new project, create {marker} at the project root with\n"
      ++ "index:\n  types: [file, item]\n"
      ++ "  identifiers: \x7bfile: .file.index, item: .item.index\x7d\n"
      ++ "and a root definition (root.file.index, root.item.index) for every type."
  | severalRoots kind paths =>
    s!"multiple root definitions for index type '{kind}':\n"
      ++ "\n".intercalate (paths.map (·.text))
  | noChildren kind suffix root =>
    s!"no index config files found for type '{kind}': create at least one <name>{suffix} "
      ++ "next to your sources (root definition at " ++ root.text ++ ")"
  | missingRoots names =>
    "missing root definitions: every index type needs a base config named root to inherit from; create:\n"
      ++ "\n".intercalate names
  | noDependency dependency project config candidate =>
    s!"dependency '{dependency}' of project '{project}' (" ++ config.text ++ "): no config at "
      ++ candidate.text

/-- The cause of an empty scope in words. -/
def EmptyCause.message : EmptyCause → String
  | noComponents => "no components in scope"
  | noneExpectedOne => "expected one component, found none"
  | nothingNamed name => s!"nothing named '{name}'"
  | nothingAt path => "nothing indexed at " ++ path.text
  | noRootProject => "no root project"

/-- **A fault in words.** -/
def Fault.message : Fault → String
  | configuration file cause => "configuration error in " ++ file.text ++ ": " ++ cause.message
  | unresolvedTag tag template file =>
    s!"unresolved tag '{tag}' in template '{template}' (" ++ file.text
      ++ "): add it to parseTags or use \x7b" ++ tag ++ ":REGEX\x7d"
  | invalidPattern pattern file => s!"invalid pattern '{pattern}' (" ++ file.text ++ ")"
  | discovery cause => "discovery error: " ++ cause.message
  | unboundTag tag template file line captures =>
    s!"cannot bind tag '{tag}' of end template '{template}' in " ++ file.text
      ++ s!" line {line}: captured " ++ quotedEntries captures
  | unterminated file line start stop properties =>
    "no end of item found in " ++ file.text ++ s!" for match at line {line} with properties "
      ++ quotedEntries properties ++ s!"\nstart pattern: {start}\nend pattern: {stop}"
  | emptyScope cause => "empty scope: " ++ cause.message
  | ambiguousScope count contents =>
    s!"ambiguous scope: expected one component, found {count}:\n{contents}"
  | conflict path => path.text ++ " already exists; pass overwrite to replace it"
  | alreadyIndexed root =>
    "source tree rooted at " ++ root.text ++ " is already indexed; call refresh() for fresh data"
  | notIndexed state => s!"indexer is {state}, not indexed"
  | io path failure => "IO error at " ++ path.text ++ ": " ++ failure.message
  | malformed path => "YAML error in " ++ path.text
  | mismatched path mismatch => "YAML error in " ++ path.text ++ ": " ++ mismatch.message

/-- The words of the fault that lies **behind** another one. -/
def Fault.cause? : Fault → Option String
  | io _ failure => some failure.message
  | mismatched _ mismatch => some mismatch.message
  | _ => none

end TreeIndex
