import Biomes.DecisionTree
import Biomes.Graph.Basic
import Biomes.Record

/-!
# Findings of a compilation

Authoring defects do not stop a compilation; they are noted.  A finding says what was met and
where; `Finding.record` puts it into words.
-/

namespace Biomes

/-- Something that a compilation notes. -/
inductive Finding where
  /-- A reference leads back to a node on the path; it is not followed. -/
  | loopsBack (node : NodeId) (depth : Nat)
  /-- A reference leads to no node. -/
  | missingNode (node : NodeId) (depth : Nat)
  /-- A leaf is reached on a branch without a name; it gets no biome. -/
  | unnamedLeaf (node : NodeId) (depth : Nat)
  /-- A leaf is reached when all biome numbers are given out; it gets no biome. -/
  | idsExhausted (node : NodeId)
  /-- A biome gets the name that an earlier one has. -/
  | nameReused (name : String) (previous latest : BiomeId)
  /-- Nothing is attached to an output of a water switch. -/
  | idleShore (node : NodeId) (name : String)
  /-- Nothing is attached to an output of a switch by ranges. -/
  | idlePart (node : NodeId) (axis : Axis) (output : Nat)
  /-- The axis of a part has no length, so that the part has no share of it. -/
  | emptySpan (node : NodeId) (axis : Axis) (name : String) (output : Nat)
  /-- The shares of an axis do not add up to one. -/
  | unevenCoverage (axis : Axis) (total : Float32)
  /-- The compilation is done. -/
  | built (biomes : Nat)
  /-- The tree that was built. -/
  | drawn (tree : DecisionTree)
  deriving Repr

namespace Finding

/-- How serious a finding is. -/
def level : Finding → Level
  | .loopsBack .. | .missingNode .. | .unnamedLeaf .. | .idsExhausted .. | .nameReused ..
  | .emptySpan .. | .unevenCoverage .. => .warn
  | .idleShore .. | .idlePart .. | .built .. => .debug
  | .drawn .. => .trace

/-- A finding in words. -/
def message : Finding → String
  | .loopsBack n _ => s!"switch graph loops back to node {n.number}, branch dropped"
  | .missingNode n _ => s!"switch graph references missing node {n.number}"
  | .unnamedLeaf n _ =>
    s!"biome leaf {n.number} has no named switch branch above it, leaf dropped"
  | .idsExhausted _ => "biome id space exhausted, leaf dropped"
  | .nameReused _ i j =>
    s!"biome name used twice ({i.text} and {j.text}), name lookup resolves to the latter"
  | .idleShore _ name => s!"nothing attached to {name} output of water switch"
  | .idlePart _ a _ => s!"nothing attached to {a.name} switch output"
  | .emptySpan _ a name _ => s!"{a.name} switch range '{name}' has an empty absolute span"
  | .unevenCoverage a total =>
    s!"switch ranges on {a.name} cover {shown total} of the axis instead of 1"
  | .built _ => "built switch tree"
  | .drawn t => "switch tree:\n" ++ t.dump

/-- The data of a finding, by name. -/
def fields : Finding → List (String × FieldValue)
  | .loopsBack n d | .missingNode n d | .unnamedLeaf n d => [("node", node n), ("depth", .count d)]
  | .idsExhausted n | .idleShore n _ => [("node", node n)]
  | .nameReused name _ _ => [("name", .text name)]
  | .idlePart n _ output | .emptySpan n _ _ output => [("node", node n), ("output", .count output)]
  | .unevenCoverage a total => [("axis", .text a.name), ("total", .quantity total)]
  | .built n => [("biomes", .count n)]
  | .drawn _ => []
where
  node (n : NodeId) : FieldValue := .count n.index

/-- Whether a finding says how long the compilation took. -/
def isTimed : Finding → Bool
  | .built _ => true
  | _ => false

/-- The record of a finding. -/
def record (f : Finding) : Record :=
  { level := f.level, target := "biome_switch::tree", message := f.message, fields := f.fields,
    isTimed := f.isTimed }

end Finding

end Biomes
