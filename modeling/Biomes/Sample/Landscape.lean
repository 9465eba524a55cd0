import Biomes.Grid.Region
import Biomes.Noise.Fractal
import Biomes.Settings.Basic
import Biomes.Single

/-!
# The sample landscape

A square landscape whose heights, temperatures and wetness are fractal sums of seeded noise.  Each
of the three has a seed of its own, derived from the landscape's; the source of the noise is a
parameter.  There is a landscape only if a vector holds a sample for each of its cells, and the
noise covers them all.
-/

namespace Biomes.Sample

/-- A source of noise: a field for every seed. -/
abbrev NoiseSource := UInt32 → Noise.Field

/-- Folds a seed into 32 bits, so that both of its halves count. -/
def foldSeed (s : UInt64) : UInt32 := (s ^^^ (s >>> 32)).toUInt32

/-- The seed of the heights. -/
def heightSeed (s : UInt64) : UInt32 := foldSeed s

/-- The seed of the temperatures. -/
def temperatureSeed (s : UInt64) : UInt32 := foldSeed (s + 0x5EED)

/-- The seed of the wetness. -/
def wetnessSeed (s : UInt64) : UInt32 := foldSeed (s + 0xD1CE)

/-- How many octaves are summed for every field. -/
def octaves : Nat := 5

/-- A sum between `-1` and `1` as a share between `0` and `1`. -/
def share (v : Float) : Float32 := Single.ofDouble ((v + 1) * 0.5)

/-- The samples of a function on a square grid, in storage order. -/
def sampleGrid (side : Nat) (f : Nat → Nat → Float32) : Array Float32 :=
  (Array.range (side * side)).map fun i => f (i / side) (i % side)

/-- How often the heights repeat their pattern per unit of distance, at the coarsest. -/
def heightFrequency : Float := 0.02

/-- The coarsest frequency of the temperatures. -/
def temperatureFrequency : Float := 0.01

/-- The coarsest frequency of the wetness. -/
def wetnessFrequency : Float := 0.015

/-- The samples of a fractal sum on a square grid. -/
def sampleField (f : Noise.Field) (frequency : Float) (s : DemoSettings) (value : Float → Float32) :
    Array Float32 :=
  let step := Single.toDouble s.cellStep
  sampleGrid s.gridSize.toNat fun x y =>
    value (Noise.fractal f octaves frequency (Float.ofNat x * step) (Float.ofNat y * step))

/-- The sample landscape.  Water stands up to the water level. -/
def landscape (source : NoiseSource) (s : DemoSettings) : Region :=
  let heights := sampleField (source (heightSeed s.seed)) heightFrequency s fun v =>
    share v * s.maxHeight.value
  { Region.unknown with
    terrain := some (.heightField s.gridSize.toUInt64 s.cellStep heights)
    waterHeight := some (heights.map fun h => s.waterLevel.value - h)
    temperature :=
      some (sampleField (source (temperatureSeed s.seed)) temperatureFrequency s Single.ofDouble)
    wetness := some (sampleField (source (wetnessSeed s.seed)) wetnessFrequency s share) }

/-- Whether a vector holds a sample for each cell of the sample landscape. -/
def hasRoom (s : DemoSettings) : Bool := s.gridSize.toNat * s.gridSize.toNat < vectorLimit

/-- Whether a field covers every cell of a square grid, at the frequencies of a fractal sum. -/
def coversGrid (f : Noise.Field) (frequency : Float) (s : DemoSettings) : Bool :=
  let side := s.gridSize.toNat
  let step := Single.toDouble s.cellStep
  Nat.all (side * side) fun i _ =>
    Noise.coversOctaves f (Float.ofNat (i / side) * step) (Float.ofNat (i % side) * step) octaves
      frequency

/-- Whether there is noise for all cells of the sample landscape. -/
def isCovered (source : NoiseSource) (s : DemoSettings) : Bool :=
  coversGrid (source (heightSeed s.seed)) heightFrequency s &&
  coversGrid (source (temperatureSeed s.seed)) temperatureFrequency s &&
  coversGrid (source (wetnessSeed s.seed)) wetnessFrequency s

end Biomes.Sample
