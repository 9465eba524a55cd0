import Biomes.Branch

/-!
# Decision trees

A decision tree says how a place is classified: from the start branch, the first child whose branch
accepts the place is taken, again and again, until a node with a biome is reached.  There is no
going back: if no child accepts, the place has no biome.
-/

namespace Biomes

/-- A node: the branch that leads to it, the biome that ends the descent, and the nodes below. -/
inductive DecisionTree where
  | node (branch : Branch) (biome : Option BiomeId) (children : List DecisionTree)
  deriving Repr

namespace DecisionTree

def branch : DecisionTree → Branch
  | .node b _ _ => b

def biome : DecisionTree → Option BiomeId
  | .node _ i _ => i

def children : DecisionTree → List DecisionTree
  | .node _ _ ts => ts

instance : Inhabited DecisionTree := ⟨.node .start none []⟩

/-- The tree of a compilation that met nothing. -/
def bare : DecisionTree := .node .start none []

/-- Whether the branch to a node accepts a place. -/
def accepts (t : DecisionTree) (p : Point) : Bool := t.branch.test.accepts p

mutual

/-- The biome of a place, in the part of the tree below a node. -/
def classify (p : Point) : DecisionTree → Option BiomeId
  | .node _ (some i) _ => some i
  | .node _ none ts => classifyFirst p ts

/-- The biome of a place, below the first of some nodes that accepts it. -/
def classifyFirst (p : Point) : List DecisionTree → Option BiomeId
  | [] => none
  | t :: ts => if t.accepts p then t.classify p else classifyFirst p ts

end

/-- One line that shows a node: two blanks for each node above it, its branch and its biome. -/
def line (depth : Nat) (branch : Branch) (biome : Option BiomeId) : String :=
  let arrow := match biome with
    | some i => " => " ++ i.text
    | none => ""
  String.ofList (List.replicate (2 * depth) ' ') ++ branch.text ++ arrow

mutual

/-- Appends the lines of a node and of the nodes below it. -/
def pushLines (depth : Nat) (lines : Array String) : DecisionTree → Array String
  | .node b i ts => pushAllLines (depth + 1) (lines.push (line depth b i)) ts

/-- Appends the lines of several nodes, one after the other. -/
def pushAllLines (depth : Nat) (lines : Array String) : List DecisionTree → Array String
  | [] => lines
  | t :: ts => pushAllLines depth (t.pushLines depth lines) ts

end

/-- A line for each node, a node before the nodes below it. -/
def lines (t : DecisionTree) : Array String := t.pushLines 0 #[]

/-- The lines of a tree as a text; each ends in a line break. -/
def dump (t : DecisionTree) : String := t.lines.foldl (fun s l => s ++ l ++ "\n") ""

end DecisionTree

end Biomes
