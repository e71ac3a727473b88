import TreeIndex.Yaml.Value

/-!
# Layers

A value may lie over another one and change it in part.

* `merge`: mappings merge key by key, at every depth, and so do values under one tag; every other value of
  the upper layer replaces what lies below;
* `mergeMappings`: the keys of the lower layer in their order, then those that only the upper one has.
-/

namespace TreeIndex.Yaml

/-- The entries of the upper mapping whose keys the lower one lacks. -/
def onlyAbove (below above : Mapping) : Mapping :=
  above.filter fun e => !Mapping.contains below e.1

mutual

/-- A value **under another one**. -/
def merge : Value → Value → Value
  | .mapping below, .mapping above => .mapping (overlay below above ++ onlyAbove below above)
  | .tagged s v, .tagged t w => if s = t then .tagged t (merge v w) else .tagged t w
  | _, above => above

/-- The entries of the lower mapping, each under what the upper one holds for its key. -/
def overlay : Mapping → Mapping → Mapping
  | [], _ => []
  | (k, v) :: rest, above =>
    match Mapping.find? above k with
    | some w => (k, merge v w) :: overlay rest above
    | none => (k, v) :: overlay rest above

end

/-- A mapping **under another one**. -/
def mergeMappings (below above : Mapping) : Mapping :=
  overlay below above ++ onlyAbove below above

end TreeIndex.Yaml
