import Biomes.Axis
import Biomes.Colour
import Biomes.Interval
import Biomes.Decimal.Float

/-!
# Cells of the range catalog

A cell is a named range over several axes: on every axis it has a constraint, which is either
switched off and then accepts everything, or asks for a value in a closed interval.
-/

namespace Biomes

/-- What a cell asks of one axis. -/
structure Constraint extends Interval where
  enabled : Bool
  deriving DecidableEq, Repr, Inhabited

namespace Constraint

/-- The constraint that accepts everything. -/
def free : Constraint := { min := 0, max := 0, enabled := false }

/-- A value between two bounds, both included. -/
def within (min max : Float32) : Constraint := { min, max, enabled := true }

/-- A flag with the given reading. -/
def flag (b : Bool) : Constraint := if b then within 1 1 else within 0 0

/-- Whether a constraint accepts a value. -/
def accepts (c : Constraint) (v : Float32) : Bool := !c.enabled || c.toInterval.contains v

/-- Two constraints leave room for each other unless both are on and their intervals are apart. -/
def compatible (c d : Constraint) : Bool :=
  !(c.enabled && d.enabled) || c.toInterval.meets d.toInterval

/-- Whether two constraints ask for the same.  Bounds are compared as numbers: the zeros are the
same, and a `NaN` is never the same. -/
def same (c d : Constraint) : Bool := c.enabled == d.enabled && c.min == d.min && c.max == d.max

theorem compatible_comm (c d : Constraint) : c.compatible d = d.compatible c := by
  simp only [compatible, Bool.and_comm c.enabled, Interval.meets_comm c.toInterval]

end Constraint

/-- A constraint on every axis. -/
abbrev Constraints := PerAxis Constraint

namespace Constraints

/-- No axis is constrained. -/
def none : Constraints := PerAxis.const .free

/-- Whether every constraint accepts the point's value. -/
def accept (cs : Constraints) (p : Point) : Bool :=
  Axis.all.all fun a => (cs.get a).accepts (p.get a)

/-- Whether two sets of constraints overlap: no axis that both constrain keeps them apart. -/
def overlap (cs ds : Constraints) : Bool :=
  Axis.all.all fun a => (cs.get a).compatible (ds.get a)

theorem overlap_comm (cs ds : Constraints) : cs.overlap ds = ds.overlap cs := by
  simp only [overlap, fun a => Constraint.compatible_comm (cs.get a) (ds.get a)]

/-- The constraints that are switched on, with their axes. -/
def active (cs : Constraints) : List (Axis × Constraint) := cs.entries.filter (·.2.enabled)

end Constraints

/-- A named range, with its neighbours in the catalog. -/
structure Cell where
  name : String
  weight : Float32
  colour : Colour
  id : UInt16
  constraints : Constraints
  /-- Positions of linked cells, in the order in which the links were made. -/
  links : Array Nat
  deriving DecidableEq, Repr, Inhabited

namespace Cell

/-- A cell without weight, colour, number and links. -/
def plain (name : String) (constraints : Constraints) : Cell :=
  { name, weight := 0, colour := .black, id := 0, constraints, links := #[] }

/-- The rank of a cell among its competitors.  An axis that the cell constrains and whose span,
as a vector, has a length counts `max - min / length`, exactly in this order of operations; every
other axis counts one. -/
def rank (c : Cell) (spans : PerAxis Interval) : Float32 :=
  Single.sum <| c.constraints.entries.map fun (a, k) =>
    let span := spans.get a
    let length := Single.hypot span.min span.max
    if k.enabled && Single.isNonzero length then k.max - k.min / length else 1

/-- The gap widths to another cell, added up over the axes that the first cell constrains. -/
def gapWidth (c d : Cell) : Float32 :=
  Single.sum <| c.constraints.active.map fun (a, k) =>
    k.toInterval.gapWidth (d.constraints.get a).toInterval

/-- One line that shows a cell's name and its constraints. -/
def text (c : Cell) : String :=
  c.name ++ " =" ++ String.join (c.constraints.active.map fun (a, k) =>
    s!" {a.name}: {shown k.min}->{shown k.max}")

end Cell

end Biomes
