import Biomes.Colour

/-!
# Biomes

A biome is what a place is classified as.  Biomes of one classifier are numbered from zero in the
order in which they were met.
-/

namespace Biomes

/-- The number of a biome. -/
structure BiomeId where
  number : UInt16
  deriving DecidableEq, Repr, Inhabited

namespace BiomeId

/-- How many biomes can be told apart. -/
def capacity : Nat := 65536

/-- The number of the biome at a position. -/
def ofIndex (i : Nat) : BiomeId := ⟨UInt16.ofNat i⟩

/-- The position of a biome in its classifier's table. -/
def index (b : BiomeId) : Nat := b.number.toNat

/-- The number that a count stands for, unless all numbers are given out. -/
def ofCount? (k : Nat) : Option BiomeId := if k < capacity then some (ofIndex k) else none

/-- How a biome's number is shown. -/
def text (b : BiomeId) : String := s!"#{b.number}"

theorem ofIndex_index (b : BiomeId) : ofIndex b.index = b := by
  cases b; simp [ofIndex, index]

theorem index_lt (b : BiomeId) : b.index < capacity := b.number.toNat_lt

theorem index_ofIndex {i : Nat} (h : i < capacity) : (ofIndex i).index = i :=
  UInt16.toNat_ofNat_of_lt' h

end BiomeId

/-- A biome's number, its name and the colour it is previewed in. -/
structure Biome where
  id : BiomeId
  name : String
  colour : Colour
  deriving DecidableEq, Repr, Inhabited

end Biomes
