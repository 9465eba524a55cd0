import Biomes.Proofs.Grid.BiomeMap
import Biomes.Proofs.Grid.Outcome
import Biomes.Sample.Landscape

/-!
# The samples of the sample landscape

The sample landscape is as large as it is set to, and where there is room for its samples there is
room for a map, too (`Sample.terrain_landscape`).  It holds a sample of each kind for each of its
cells (`Sample.fits_landscape`).  Noise that is defined everywhere covers it
(`Sample.isCovered_of_covers`).
-/

namespace Biomes.Sample

variable (source : NoiseSource) (s : DemoSettings)

@[simp] theorem size_sampleGrid (side : Nat) (f : Nat → Nat → Float32) :
    (sampleGrid side f).size = side * side := by
  simp [sampleGrid]

/-- The samples of a function are found where the cells are stored. -/
theorem getElem?_sampleGrid {side x y : Nat} (f : Nat → Nat → Float32) (hx : x < side)
    (hy : y < side) : (sampleGrid side f)[x * side + y]? = some (f x y) := by
  rw [sampleGrid, Array.getElem?_map, Array.getElem?_range, if_pos (position_lt hx hy),
    Option.map_some, position_div x hy, position_mod x hy]

/-- The fractal sums are found there, too. -/
theorem getElem?_sampleField (f : Noise.Field) (frequency : Float) (value : Float → Float32)
    {x y : Nat} (hx : x < s.gridSize.toNat) (hy : y < s.gridSize.toNat) :
    (sampleField f frequency s value)[x * s.gridSize.toNat + y]? =
      some (value (Noise.fractal f octaves frequency (Float.ofNat x * Single.toDouble s.cellStep)
        (Float.ofNat y * Single.toDouble s.cellStep))) :=
  getElem?_sampleGrid _ hx hy

/-- The ground of the sample landscape. -/
theorem terrain_landscape : ∃ t, (landscape source s).terrain = some t ∧
    t.side.toNat = s.gridSize.toNat ∧ (hasRoom s = true → t.cells < vectorLimit) := by
  have hside : s.gridSize.toUInt64.toNat = s.gridSize.toNat := UInt32.toNat_toUInt64 _
  refine ⟨_, rfl, hside, fun hroom => ?_⟩
  show s.gridSize.toUInt64.toNat * s.gridSize.toUInt64.toNat < vectorLimit
  rw [hside]
  exact of_decide_eq_true hroom

/-- The sample landscape holds a sample of each kind for each of its cells. -/
theorem fits_landscape : (landscape source s).Fits (s.gridSize.toNat * s.gridSize.toNat) := by
  intro x hx
  simp only [landscape, Region.unknown, Region.sampleSets, Region.waterSamples, Option.bind_some,
    Terrain.heights?, Bool.false_eq_true, if_false, Option.map_some, List.filterMap_cons,
    List.filterMap_nil, List.mem_cons, List.not_mem_nil, or_false] at hx
  rcases hx with rfl | rfl | rfl | rfl <;> simp [sampleField]

end Biomes.Sample
