import TreeIndex.Path
import TreeIndex.Yaml.Document

/-!
# Settings

How the configuration of a tree is found and read.

* `Settings`: the name of the file that marks a root, a file with a user's defaults, and whether links are
  followed; `markerName`: the name of the root marker;
* `Settings.ofText?`: settings from a document. Unknown keys are passed over, a key that is known stands once
  at most, and the text of a scalar is taken as it is written.
-/

namespace TreeIndex

open Yaml

/-- How the configuration of a tree is **found and read**. -/
structure Settings where
  configSuffix : String := ".config"
  rootName : String := "root"
  /-- A user's defaults, merged beneath the root marker of a project. -/
  baseConfig : Option Path := none
  followLinks : Bool := false
deriving DecidableEq, Inhabited

namespace Settings

/-- The file name of a root marker. -/
def markerName (s : Settings) : String :=
  s.rootName ++ s.configSuffix

/-! ## 1. Fields -/

/-- The text of a scalar as it is written. -/
def textField? (d : Document) (node : Yaml.Node Nat) : Following String := do
  match ← d.follow? node with
  | .scalar text _ _ _ => return text
  | _ => throw .shape

/-- A truth value, written plainly, or literally under its tag. -/
def boolField? (d : Document) (node : Yaml.Node Nat) : Following Bool := do
  match ← d.follow? node with
  | .scalar text style tag _ =>
    if style = .plain || (style = .literal && tag = some (kindTag "bool")) then
      match boolOf? text with
      | some b => return b
      | none => throw .shape
    else throw .shape
  | _ => throw .shape

/-- A path, or nothing if null is written. -/
def pathField? (d : Document) (node : Yaml.Node Nat) : Following (Option Path) := do
  match ← d.follow? node with
  | .scalar text style tag _ =>
    let saysNull := text.isEmpty || isNullText text
    if style ≠ .plain then return some ⟨text⟩
    else
      match tag with
      | none => return if saysNull then none else some ⟨text⟩
      | some tag =>
        if tag = kindTag "null" then if saysNull then return none else throw .shape
        else return some ⟨text⟩
  | _ => throw .shape

/-- Reads one field. -/
def setField? (d : Document) (s : Settings) (name : String) (value : Yaml.Node Nat) : Following Settings := do
  if name = "config_suffix" then
    let text ← textField? d value
    return { s with configSuffix := text }
  else if name = "root_name" then
    let text ← textField? d value
    return { s with rootName := text }
  else if name = "base_config" then
    let path ← pathField? d value
    return { s with baseConfig := path }
  else if name = "follow_links" then
    let b ← boolField? d value
    return { s with followLinks := b }
  else return s

/-- The keys that are known. -/
def fields : List String :=
  ["config_suffix", "root_name", "base_config", "follow_links"]

/-- Reads the entries of a mapping one after the other. -/
def readFields? (d : Document) :
    List String → Settings → List (Yaml.Node Nat × Yaml.Node Nat) → Following Settings
  | _, s, [] => return s
  | seen, s, (key, value) :: rest => do
    let name ← textField? d key
    if !fields.contains name then readFields? d seen s rest
    else if seen.contains name then throw .duplicateKey
    else do
      let s ← setField? d s name value
      readFields? d (name :: seen) s rest

/-! ## 2. Documents -/

/-- **Settings from a document**; a text that holds nothing leaves everything as it is. -/
def ofText? (text : String) : Except Malformed Settings := do
  match ← document? text with
  | none => .ok {}
  | some node => do
    let d ← Document.ofNode? node
    if d.root.isNothing then .ok {}
    else
      match d.root with
      | .mapping entries _ _ => (readFields? d [] {} entries).run' d.allowance
      | _ => .error .shape

end Settings

end TreeIndex
