import Biomes.Axis

/-!
# Coverage of the axes

For each axis the share of its length that the authored ranges take up, added up in the order in
which the ranges are met.  A fully tiled axis adds up to one; less means a gap, more an overlap.
-/

namespace Biomes

/-- The share of each axis that is taken up. -/
abbrev Coverage := PerAxis Float32

namespace Coverage

/-- Nothing is taken up. -/
def none : Coverage := PerAxis.const 0

/-- Adds a share to an axis. -/
def add (c : Coverage) (a : Axis) (share : Float32) : Coverage := c.set a (c.get a + share)

/-- Whether a total shows that its axis is in use and not tiled: it is not zero, and it strays from
one by more than the tolerance. -/
def isGap (tolerance total : Float32) : Bool := total != 0 && tolerance < (total - 1).abs

/-- The axes that are in use and not tiled, with their totals. -/
def gaps (c : Coverage) (tolerance : Float32) : List (Axis × Float32) :=
  c.entries.filter fun (_, total) => isGap tolerance total

end Coverage

end Biomes
