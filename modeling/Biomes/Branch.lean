import Biomes.Axis
import Biomes.Biome
import Biomes.Decimal.Float

/-!
# Branches of a decision

A branch is one way to go on from a decision: a test on the place, and the name and colour that a
biome at its end will have.
-/

namespace Biomes

/-- A test on one axis of a place. -/
inductive Test where
  /-- The test of the start branch, which nothing passes. -/
  | never
  /-- The axis, read as a flag, is as given. -/
  | flag (axis : Axis) (value : Bool)
  /-- The axis lies above `min` and not above `max`. -/
  | within (axis : Axis) (min max : Float32)
  deriving DecidableEq, Repr, Inhabited

/-- Whether a place passes a test. -/
def Test.accepts : Test → Point → Bool
  | .never, _ => false
  | .flag axis value, p => p.flag axis == value
  | .within axis min max, p => min < p.get axis && p.get axis ≤ max

/-- A place above one bound and not above another. -/
theorem Test.accepts_within {a : Axis} {min max : Float32} {p : Point} :
    (Test.within a min max).accepts p = true ↔ min < p.get a ∧ p.get a ≤ max := by
  rw [Test.accepts, Bool.and_eq_true, decide_eq_true_iff, decide_eq_true_iff]

/-- One way to go on from a decision. -/
structure Branch where
  test : Test
  name : String
  colour : Colour
  deriving DecidableEq, Repr, Inhabited

namespace Branch

/-- The nameless branch on which every compilation starts. -/
def start : Branch := ⟨.never, "", .black⟩

/-- How a branch is shown. -/
def text (b : Branch) : String :=
  match b.test with
  | .never => "non-initialized switch"
  | .flag axis value => s!"[{axis.name}]: {value} ({b.name})"
  | .within axis min max => s!"[{axis.name}]: {shown min} -> {shown max} ({b.name})"

end Branch

end Biomes
