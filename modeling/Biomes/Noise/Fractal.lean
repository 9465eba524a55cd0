import Biomes.Noise.Simplex

/-!
# Fractal sums

A fractal sum adds finer and finer copies of a field, each with twice the frequency and half the
amplitude of the one before, and divides by the sum of the amplitudes.
-/

namespace Biomes.Noise

/-- A sum of weighted samples, with the sum of the weights. -/
structure WeightedSum where
  total : Float
  weight : Float
  deriving Repr, Inhabited

/-- Adds octaves of a field at a point, from a frequency and an amplitude on. -/
def addOctaves (f : Field) (x y : Float) :
    Nat → (frequency amplitude : Float) → WeightedSum → WeightedSum
  | 0, _, _, s => s
  | octaves + 1, frequency, amplitude, s =>
    addOctaves f x y octaves (frequency * 2) (amplitude * 0.5)
      ⟨s.total + f.value (x * frequency) (y * frequency) * amplitude, s.weight + amplitude⟩

/-- Whether a field covers a point at every frequency that octaves of it have. -/
def coversOctaves (f : Field) (x y : Float) : Nat → (frequency : Float) → Bool
  | 0, _ => true
  | octaves + 1, frequency =>
    f.covers (x * frequency) (y * frequency) && coversOctaves f x y octaves (frequency * 2)

/-- The fractal sum of a field, at a point. -/
def fractal (f : Field) (octaves : Nat) (frequency x y : Float) : Float :=
  let s := addOctaves f x y octaves frequency 1 ⟨0, 0⟩
  s.total / s.weight

end Biomes.Noise
