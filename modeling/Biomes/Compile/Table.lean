import Biomes.Biome

/-!
# Tables of biomes

A compilation keeps two tables: the biomes by number, and the numbers by name.  What is entered
under a key takes the place of what was there.
-/

namespace Biomes

/-- Biomes by number.  Slot `i` holds the biome with the number `i`; numbers past the last slot have
none. -/
structure BiomeTable where
  slots : Array (Option Biome)
  deriving Repr, Inhabited

namespace BiomeTable

/-- The table without biomes. -/
def empty : BiomeTable := ⟨#[]⟩

/-- The biome with a number. -/
def get? (t : BiomeTable) (i : BiomeId) : Option Biome := t.slots[i.index]?.join

/-- Enters a biome under its number. -/
def insert (t : BiomeTable) (b : Biome) : BiomeTable :=
  let i := b.id.index
  if i < t.slots.size then ⟨t.slots.setIfInBounds i (some b)⟩
  else ⟨(t.slots ++ Array.replicate (i - t.slots.size) none).push (some b)⟩

/-- The biomes in the order of their numbers. -/
def toArray (t : BiomeTable) : Array Biome := t.slots.filterMap id

end BiomeTable

/-- The numbers of biomes by name, the latest entry first. -/
structure NameTable where
  entries : List (String × BiomeId)
  deriving Repr, Inhabited

namespace NameTable

/-- The table without names. -/
def empty : NameTable := ⟨[]⟩

/-- The number that is entered under a name. -/
def get? (t : NameTable) (name : String) : Option BiomeId := t.entries.lookup name

/-- Enters a number under a name. -/
def insert (t : NameTable) (name : String) (i : BiomeId) : NameTable :=
  ⟨(name, i) :: t.entries.filter (·.1 != name)⟩

end NameTable

end Biomes
