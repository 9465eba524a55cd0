import Biomes.Single

/-!
# Closed intervals

Intervals of one axis with both ends included.  `meets` is symmetric, and `gapWidth` is a signed
distance: positive between disjoint intervals, zero where they touch, negative where they share a
part.
-/

namespace Biomes

/-- The closed interval from `min` to `max`. -/
structure Interval where
  min : Float32
  max : Float32
  deriving DecidableEq, Repr, Inhabited

namespace Interval

/-- Whether a value lies in the interval, ends included. -/
def contains (i : Interval) (v : Float32) : Bool := i.min ≤ v && v ≤ i.max

/-- Whether two intervals have a point in common. -/
def meets (a b : Interval) : Bool := a.min ≤ b.max && b.min ≤ a.max

theorem meets_comm (a b : Interval) : a.meets b = b.meets a := Bool.and_comm ..

/-- The width of the space between two intervals, negative where they overlap. -/
def gapWidth (a b : Interval) : Float32 :=
  Single.greater a.min b.min - Single.lesser a.max b.max

/-- The smallest interval around both. -/
def hull (a b : Interval) : Interval := ⟨Single.lesser a.min b.min, Single.greater a.max b.max⟩

end Interval

end Biomes
