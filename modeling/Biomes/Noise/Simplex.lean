import Biomes.Noise.Permutation

/-!
# Simplex noise in the plane

The plane is cut into triangles by skewing the grid of squares along its diagonals.  Every corner
of a triangle has a gradient, taken from a seeded permutation, and the noise at a point is the sum
of what the three corners around it contribute.  The squares are numbered with 64-bit numbers, so
that there is no noise further out.
-/

namespace Biomes.Noise

/-- A function on a part of the plane. -/
structure Field where
  /-- Whether the function is defined at the point `(x, y)`. -/
  covers (x y : Float) : Bool
  /-- The value at the point `(x, y)`, if the function is defined there. -/
  value (x y : Float) : Float

instance : Inhabited Field := ⟨⟨fun _ _ => true, fun _ _ => 0⟩⟩

/-- A vector of the plane. -/
structure Vec where
  x : Float
  y : Float
  deriving Repr, Inhabited

/-- How far the grid of squares is skewed: `(√3 - 1) / 2`. -/
def skewFactor : Float := (Float.sqrt 3 - 1) / 2

/-- How far it is skewed back: `(1 - 1 / √3) / 2`. -/
def unskewFactor : Float := (1 - 1 / Float.sqrt 3) / 2

/-- A coordinate without its fraction. -/
def wholePart (v : Float) : Int :=
  if v < 0 then -((-v).toUInt64.toNat : Int) else v.toUInt64.toNat

/-- The number of the grid line before a coordinate.  On a line, the line before it counts for
coordinates that are not positive. -/
def gridLine (v : Float) : Int :=
  if v ≤ 0 then wholePart v - 1 else wholePart v

/-- Whether the grid line before a coordinate has a 64-bit number. -/
def isOnGrid (v : Float) : Bool := -9223372036854775808 ≤ v && v < 9223372036854775808

/-- Half the square root of two. -/
def diagonal : Float := 0.7071067811865476

/-- The gradient that a byte stands for: one of eight unit vectors. -/
def gradient (b : UInt8) : Vec :=
  match b % 8 with
  | 0 => ⟨1, 0⟩
  | 1 => ⟨-1, 0⟩
  | 2 => ⟨0, 1⟩
  | 3 => ⟨0, -1⟩
  | 4 => ⟨diagonal, diagonal⟩
  | 5 => ⟨-diagonal, diagonal⟩
  | 6 => ⟨diagonal, -diagonal⟩
  | _ => ⟨-diagonal, -diagonal⟩

/-- What a corner contributes to a point: the slope along its gradient, which fades to nothing at
the distance `√½`. -/
def contribution (offset slope : Vec) : Float :=
  let t := 1 - (offset.x * offset.x + offset.y * offset.y) * 2
  if 0 < t then
    let t2 := t * t
    let t4 := t2 * t2
    (2 * t2 + t4) * (offset.x * slope.x + offset.y * slope.y)
  else 0

/-- Whether there is simplex noise at a point: the skewed grid reaches it. -/
def simplexCovers (x y : Float) : Bool :=
  let skew := (x + y) * skewFactor
  isOnGrid (x + skew) && isOnGrid (y + skew)

/-- Simplex noise with a permutation, at a point. -/
def simplex (p : Permutation) (x y : Float) : Float :=
  let skew := (x + y) * skewFactor
  let i := gridLine (x + skew)
  let j := gridLine (y + skew)
  let fi := Float.ofInt i
  let fj := Float.ofInt j
  let unskew := (fi + fj) * unskewFactor
  let first : Vec := ⟨x - (fi - unskew), y - (fj - unskew)⟩
  let (di, dj, step) : Int × Int × Vec :=
    if first.y < first.x then (1, 0, ⟨1, 0⟩) else (0, 1, ⟨0, 1⟩)
  let second : Vec :=
    ⟨first.x - step.x + unskewFactor, first.y - step.y + unskewFactor⟩
  let third : Vec :=
    ⟨first.x - 1 + 2 * unskewFactor, first.y - 1 + 2 * unskewFactor⟩
  contribution first (gradient (p.scatter i j)) +
    contribution second (gradient (p.scatter (i + di) (j + dj))) +
    contribution third (gradient (p.scatter (i + 1) (j + 1)))

/-- Simplex noise with a seed. -/
def seeded (seed : UInt32) : Field :=
  let p := Permutation.ofSeed seed
  ⟨simplexCovers, simplex p⟩

end Biomes.Noise
