import Biomes.Compile.Search

/-!
# Classifiers

A classifier is a compiled graph: the decision tree, the tables of its biomes, and the coverage of
the axes.  `Classifier.build` compiles a graph from a root, writes the biomes back into the leaves
they were bound to, and reports its findings.  A build replaces everything but the tolerance.
-/

namespace Biomes

/-- A compiled switch graph. -/
structure Classifier where
  tree : DecisionTree
  table : BiomeTable
  names : NameTable
  coverage : Coverage
  /-- How far the coverage of an axis may stray from one without a finding. -/
  tolerance : Float32
  built : Bool
  deriving Repr, Inhabited

/-- What a build leaves behind. -/
structure Build where
  classifier : Classifier
  graph : Graph
  findings : Array Finding
  deriving Repr, Inhabited

namespace Classifier

/-- The usual tolerance. -/
def defaultTolerance : Float32 := 1e-4

/-- A classifier before its first build: it knows no biome. -/
def unbuilt (tolerance : Float32) : Classifier :=
  { tree := .bare, table := .empty, names := .empty, coverage := .none, tolerance, built := false }

/-- The biome of a place. -/
def classify (c : Classifier) (p : Point) : Option BiomeId := c.tree.classify p

/-- The biomes in the order of their numbers. -/
def biomes (c : Classifier) : Array Biome := c.table.toArray

/-- The biome with a number. -/
def biome? (c : Classifier) (i : BiomeId) : Option Biome := c.table.get? i

/-- The latest biome with a name. -/
def biomeNamed? (c : Classifier) (name : String) : Option Biome :=
  (c.names.get? name).bind c.table.get?

/-- The tree as a text. -/
def dump (c : Classifier) : String := c.tree.dump

/-- Takes over a compiled tree with its draft, and reports on both. -/
def finish (c : Classifier) (tree : DecisionTree) (d : Draft) : Build :=
  let uneven := (d.coverage.gaps c.tolerance).map fun x => Finding.unevenCoverage x.1 x.2
  { classifier :=
      { c with tree, table := d.table, names := d.names, coverage := d.coverage, built := true }
    graph := d.graph
    findings := d.findings ++ uneven ++ #[.built d.table.toArray.size, .drawn tree] }

/-- Compiles the graph that can be reached from a root. -/
def build (c : Classifier) (g : Graph) (root : NodeId) : Build :=
  let (shoot, search) := ((Search.start g).visit root .start 0 .empty).1
  c.finish (shoot.toTree .start) search.draft

@[simp] theorem built_build (c : Classifier) (g : Graph) (root : NodeId) :
    (c.build g root).classifier.built = true := rfl

end Classifier

end Biomes
