import Biomes.Axis
import Biomes.Grid.BiomeCube

/-!
# Regions

A region is a square piece of land: the terrain, the samples taken on it, and the maps drawn of
it.  Samples are stored like the cells of a biome map.  Where temperature or wetness was not
sampled they count as zero; without water samples, and on waterless land, everything is dry.
-/

namespace Biomes

/-- The ground that is mapped. -/
inductive Terrain where
  /-- A height for every cell. -/
  | heightField (side : UInt64) (step : Float32) (heights : Array Float32)
  /-- A volume, of which only the dimensions are known; every cell counts as height zero. -/
  | volume (side : UInt64) (step : Float32)
  deriving Repr, Inhabited

namespace Terrain

/-- Cells along each side. -/
def side : Terrain → UInt64
  | .heightField side _ _ => side
  | .volume side _ => side

/-- World distance between neighbouring cells. -/
def step : Terrain → Float32
  | .heightField _ step _ => step
  | .volume _ step => step

/-- The sampled heights, if there are any. -/
def heights? : Terrain → Option (Array Float32)
  | .heightField _ _ heights => some heights
  | .volume _ _ => none

end Terrain

/-- A square piece of land with its maps. -/
structure Region where
  terrain : Option Terrain
  /-- Water stands above the ground where this is positive. -/
  waterHeight : Option (Array Float32)
  /-- There is no water, whatever the samples say. -/
  isWaterless : Bool
  temperature : Option (Array Float32)
  wetness : Option (Array Float32)
  air3d : Option (Array Float32)
  wind3d : Option (Array Float32)
  wetness3d : Option (Array Float32)
  temperature3d : Option (Array Float32)
  map : Option BiomeMap
  cube : Option BiomeCube
  /-- The biomes on the latest map, in the order in which they first occur. -/
  present : Array BiomeId
  deriving Repr

namespace Region

/-- A region of which nothing is known. -/
def unknown : Region :=
  { terrain := none, waterHeight := none, isWaterless := false, temperature := none,
    wetness := none, air3d := none, wind3d := none, wetness3d := none, temperature3d := none,
    map := none, cube := none, present := #[] }

instance : Inhabited Region := ⟨unknown⟩

/-- Whether any volumetric samples were taken. -/
def isVolumetric (r : Region) : Bool :=
  r.air3d.isSome || r.wind3d.isSome || r.wetness3d.isSome || r.temperature3d.isSome

/-- The water samples that a map reads: on waterless land there are none. -/
def waterSamples (r : Region) : Option (Array Float32) :=
  if r.isWaterless then none else r.waterHeight

/-- The samples that a map reads, by name, in the order in which they are checked. -/
def sampleSets (r : Region) : List (String × Array Float32) :=
  [("heights", r.terrain.bind (·.heights?)),
    ("water_height", r.waterSamples),
    ("temperature", r.temperature),
    ("wetness", r.wetness)].filterMap fun (name, samples) => samples.map (name, ·)

/-- Whether each of the samples that a map reads holds one value for each cell. -/
def Fits (r : Region) (cells : Nat) : Prop := ∀ s ∈ r.sampleSets, s.2.size = cells

namespace Fits

variable {r : Region} {cells : Nat}

theorem heights (h : r.Fits cells) : ∀ xs ∈ r.terrain.bind (·.heights?), xs.size = cells :=
  fun xs hxs => h ("heights", xs) (by simp_all [sampleSets])

theorem water (h : r.Fits cells) : ∀ xs ∈ r.waterSamples, xs.size = cells :=
  fun xs hxs => h ("water_height", xs) (by simp_all [sampleSets])

theorem temperature (h : r.Fits cells) : ∀ xs ∈ r.temperature, xs.size = cells :=
  fun xs hxs => h ("temperature", xs) (by simp_all [sampleSets])

theorem wetness (h : r.Fits cells) : ∀ xs ∈ r.wetness, xs.size = cells :=
  fun xs hxs => h ("wetness", xs) (by simp_all [sampleSets])

end Fits

section

variable {cells : Nat} (samples : Option (Array Float32)) (h : ∀ xs ∈ samples, xs.size = cells)
  (i : Fin cells)

/-- The sample of a cell, for which a set that was taken must have a value; a set that was not taken
reads as zero. -/
def sampleAt : Float32 :=
  match samples with
  | none => 0
  | some xs =>
    have hi : i < xs.size := by rw [h xs rfl]; exact i.isLt
    xs[i]

/-- Whether the water of a cell stands above the ground.  It does not if no samples were taken. -/
def wetAt : Bool :=
  match samples with
  | none => false
  | some xs =>
    have hi : i < xs.size := by rw [h xs rfl]; exact i.isLt
    0 < xs[i]

end

/-- The place that a cell stands for. -/
def pointAt (r : Region) {cells : Nat} (fits : r.Fits cells) (i : Fin cells) : Point :=
  .sample (wetAt _ fits.water i) (sampleAt _ fits.heights i) (sampleAt _ fits.temperature i)
    (sampleAt _ fits.wetness i)

end Region

end Biomes
