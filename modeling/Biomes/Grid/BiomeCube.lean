import Biomes.Grid.BiomeMap

/-!
# Biome cubes

A biome cube is the volumetric counterpart of a biome map.  Its side length may be any machine
word, so that the number of cells may exceed one; the cells are stored only as far as they have
been written.
-/

namespace Biomes

/-- A cube of biomes. -/
structure BiomeCube where
  side : UInt64
  step : Float32
  /-- The leading cells in storage order; those behind them have no biome. -/
  cells : Array (Option BiomeId)
  deriving Repr, Inhabited

/-- A cell outside a cube. -/
structure OutsideCube where
  x : Nat
  y : Nat
  z : Nat
  side : UInt64
  deriving DecidableEq, Repr

/-- The wording of a look-up outside a cube. -/
def OutsideCube.message (e : OutsideCube) : String :=
  s!"cell ({e.x}, {e.y}, {e.z}) outside {e.side}x{e.side}x{e.side} cube"

/-- A product that must be a machine word. -/
def mulWord? (a b : Nat) : Option Nat := if a * b < wordLimit then some (a * b) else none

/-- A sum that must be a machine word. -/
def addWord? (a b : Nat) : Option Nat := if a + b < wordLimit then some (a + b) else none

namespace BiomeCube

/-- The cube on which no cell has a biome. -/
def blank (side : UInt64) (step : Float32) : BiomeCube := ⟨side, step, #[]⟩

/-- The number of cells, if it is a machine word. -/
def cellCount? (c : BiomeCube) : Option Nat := do
  let area ← mulWord? c.side.toNat c.side.toNat
  mulWord? area c.side.toNat

/-- Where a cell is stored, if that is a machine word. -/
def index? (c : BiomeCube) (x y z : Nat) : Option Nat := do
  let row ← mulWord? x c.side.toNat
  let line ← addWord? row y
  let plane ← mulWord? line c.side.toNat
  addWord? plane z

/-- The biome of a cell. -/
def get (c : BiomeCube) (x y z : Nat) : Except OutsideCube (Option BiomeId) :=
  if x < c.side.toNat ∧ y < c.side.toNat ∧ z < c.side.toNat then
    .ok ((c.index? x y z).bind fun i => c.cells[i]?.join)
  else .error ⟨x, y, z, c.side⟩

end BiomeCube

end Biomes
