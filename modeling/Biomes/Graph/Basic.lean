import Biomes.Axis
import Biomes.Biome

/-!
# Switch graphs

A switch graph is authored node by node.  A switch splits places by one axis and sends each part to
the nodes attached to one of its outputs; a leaf stands for a biome; a relay passes everything on
to its targets.  Nodes refer to each other by number, so an authored graph may hold cycles, shared
nodes and references to nodes that do not exist.
-/

namespace Biomes

/-- The number of a node. -/
structure NodeId where
  number : UInt32
  deriving DecidableEq, Repr, Inhabited

namespace NodeId

/-- The number of the node at a position. -/
def ofIndex (i : Nat) : NodeId := ⟨UInt32.ofNat i⟩

/-- The position that a number stands for. -/
def index (n : NodeId) : Nat := n.number.toNat

@[simp] theorem ofIndex_index (n : NodeId) : ofIndex n.index = n := by
  cases n; simp [ofIndex, index]

end NodeId

/-- A part of a switch's axis.  Places above `min` and up to `max` belong to it. -/
structure SubRange where
  name : String
  min : Float32
  max : Float32
  /-- The ends of the whole axis, against which the part is measured. -/
  axisMin : Float32
  axisMax : Float32
  colour : Colour
  attached : Array NodeId
  deriving DecidableEq, Repr, Inhabited

/-- A split by one axis. -/
inductive Switch where
  /-- By the presence of water: output `0` is dry land, output `1` is under water. -/
  | shore (dry wet : Array NodeId)
  /-- By the parts of an axis: output `i` is the `i`-th part. -/
  | ranges (axis : Axis) (parts : Array SubRange)
  deriving DecidableEq, Repr

/-- A node of a switch graph. -/
inductive Node where
  | switch (s : Switch)
  /-- A leaf, with the biome that the latest compilation gave it. -/
  | leaf (biome : Option Biome)
  | relay (targets : Array NodeId)
  deriving DecidableEq, Repr

instance : Inhabited Node := ⟨.leaf none⟩

/-- Nodes, each numbered by its position. -/
structure Graph where
  nodes : Array Node
  deriving DecidableEq, Repr, Inhabited

namespace Graph

/-- The graph without nodes. -/
def empty : Graph := ⟨#[]⟩

/-- The number of nodes. -/
def size (g : Graph) : Nat := g.nodes.size

/-- The node with a number. -/
def node? (g : Graph) (n : NodeId) : Option Node := g.nodes[n.index]?

theorem node?_eq_none_iff {g : Graph} {n : NodeId} : g.node? n = none ↔ g.size ≤ n.index :=
  Array.getElem?_eq_none_iff

theorem index_lt_of_node? {g : Graph} {n : NodeId} {v : Node} (h : g.node? n = some v) :
    n.index < g.size :=
  (Array.getElem?_eq_some_iff.mp h).1

/-- Adds a node, and answers its number. -/
def add (g : Graph) (v : Node) : Graph × NodeId :=
  let n := NodeId.ofIndex g.size
  (⟨g.nodes.push v⟩, n)

/-- Replaces a node.  Where there is none, nothing changes. -/
def replace (g : Graph) (n : NodeId) (v : Node) : Graph := ⟨g.nodes.setIfInBounds n.index v⟩

@[simp] theorem size_replace (g : Graph) (n : NodeId) (v : Node) : (g.replace n v).size = g.size :=
  Array.size_setIfInBounds

/-- Writes a biome into a leaf.  Any other node stays as it is. -/
def writeLeaf (g : Graph) (n : NodeId) (b : Biome) : Graph :=
  match g.node? n with
  | some (.leaf _) => g.replace n (.leaf (some b))
  | _ => g

@[simp] theorem size_writeLeaf (g : Graph) (n : NodeId) (b : Biome) :
    (g.writeLeaf n b).size = g.size := by
  unfold writeLeaf
  split
  · exact size_replace g n _
  · rfl

/-- The biome that the latest compilation gave a leaf. -/
def leafBiome? (g : Graph) (n : NodeId) : Option Biome :=
  match g.node? n with
  | some (.leaf b) => b
  | _ => none

end Graph

end Biomes
