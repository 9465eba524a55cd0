import Biomes.Biome

/-!
# Biome maps

A biome map is a square grid of cells, each with a biome or without one.  Cells are addressed by
`x` and `y` below the side length; cell `(x, y)` is stored at `x * side + y`.  The cells are kept in
a vector, and there is no map with more cells than a vector holds (`vectorLimit`).
-/

namespace Biomes

/-- Sizes and numbers of cells are machine words; this is the first number that is too large. -/
def wordLimit : Nat := UInt64.size

/-- A vector takes up at most `2 ^ 63 - 1` bytes, and a cell of a map takes up four of them, as a
sample does; this is the first number of cells that is too large.  Memory may give out long before
that, of which nothing is said here. -/
def vectorLimit : Nat := 0x2000000000000000

theorem vectorLimit_lt_wordLimit : vectorLimit < wordLimit := by decide

/-- A square grid of biomes. -/
structure BiomeMap where
  /-- Cells along each side. -/
  side : Nat
  /-- World distance between neighbouring cells. -/
  step : Float32
  /-- The cells, row by row. -/
  cells : Array (Option BiomeId)
  deriving Repr, Inhabited

/-- A cell outside a map. -/
structure OutsideMap where
  x : Nat
  y : Nat
  side : Nat
  deriving DecidableEq, Repr

/-- The wording of a look-up outside a map. -/
def OutsideMap.message (e : OutsideMap) : String :=
  s!"cell ({e.x}, {e.y}) outside {e.side}x{e.side} grid"

namespace BiomeMap

/-- The map on which no cell has a biome.  It can be made only with fewer cells than `vectorLimit`;
whoever makes one sees to that, as `Classifier.chart` does. -/
def blank (side : Nat) (step : Float32) : BiomeMap :=
  ⟨side, step, Array.replicate (side * side) none⟩

/-- Where a cell is stored. -/
def index (m : BiomeMap) (x y : Nat) : Except OutsideMap Nat :=
  if x < m.side ∧ y < m.side then .ok (x * m.side + y) else .error ⟨x, y, m.side⟩

/-- The biome of a cell. -/
def get (m : BiomeMap) (x y : Nat) : Except OutsideMap (Option BiomeId) :=
  (m.index x y).map fun i => m.cells[i]?.join

/-- The number of a cell's biome, or `-1`. -/
def number (m : BiomeMap) (x y : Nat) : Except OutsideMap Int :=
  (m.get x y).map fun
    | some b => b.index
    | none => -1

/-- Gives a cell a biome, or takes it away. -/
def set (m : BiomeMap) (x y : Nat) (b : Option BiomeId) : Except OutsideMap BiomeMap :=
  (m.index x y).map fun i => { m with cells := m.cells.setIfInBounds i b }

end BiomeMap

end Biomes
