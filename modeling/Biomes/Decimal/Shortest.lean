import Biomes.Decimal.Power

/-!
# The shortest decimal of a binary number

A binary floating point number `m · 2^q` stands for all reals that round to it: an interval that
reaches half way to its neighbours, with its ends included iff `m` is even.  `shortest` gives the
decimal that is usually written for the number: on the coarsest power-of-ten grid that has a point
in the interval, the grid point nearest to `m · 2^q`; of two equally near ones, the larger.

All comparisons are made between natural numbers, over one common denominator.
-/

namespace Biomes.Decimal

/-- The positive decimal `digits · 10^exponent`. -/
structure Scaled where
  digits : Nat
  exponent : Int
  deriving DecidableEq, Repr

/-- A positive value and the interval around it, as fractions with one denominator. -/
structure Reach where
  lower : Nat
  value : Nat
  upper : Nat
  denominator : Nat
  /-- The ends belong to the interval. -/
  closed : Bool
  deriving DecidableEq, Repr

namespace Reach

/-- The reals that round to `m · 2^q`.  The number below a power of two is only half as far away
as the number above it: then `narrow` is set. -/
def ofBinary (m : Nat) (q : Int) (narrow : Bool) : Reach :=
  let unit := twoPow (q - 2)
  { lower := (4 * m - if narrow then 1 else 2) * unit
    value := 4 * m * unit
    upper := (4 * m + 2) * unit
    denominator := twoPow (2 - q)
    closed := m % 2 == 0 }

/-- The interval divided by `10^g`: a grid with step `10^g` becomes the whole numbers. -/
def onGrid (r : Reach) (g : Int) : Reach :=
  { lower := r.lower * tenPow (-g)
    value := r.value * tenPow (-g)
    upper := r.upper * tenPow (-g)
    denominator := r.denominator * tenPow g
    closed := r.closed }

/-- Whether a whole number lies in the interval. -/
def holds (r : Reach) (n : Nat) : Bool :=
  let x := n * r.denominator
  if r.closed then r.lower ≤ x && x ≤ r.upper else r.lower < x && x < r.upper

/-- Of the whole numbers in the interval the one nearest to the value, and the larger of two. -/
def nearest? (r : Reach) : Option Nat :=
  let below := r.value / r.denominator
  let above := below + 1
  match r.holds below, r.holds above with
  | true, true => if 2 * r.value < (below + above) * r.denominator then some below else some above
  | true, false => some below
  | false, true => some above
  | false, false => none

end Reach

/-- Goes from the grid `10^g` to finer ones, at most `steps` of them, until one has a point in the
interval. -/
def firstHit (r : Reach) (g : Int) : Nat → Scaled
  | 0 => ⟨0, g⟩
  | steps + 1 =>
    match (r.onGrid g).nearest? with
    | some n => ⟨n, g⟩
    | none => firstHit r (g - 1) steps

/-- The number of decimal digits of `n`. -/
def width (n : Nat) : Nat := (Nat.toDigits 10 n).length

/-- The shortest decimal of `m · 2^q`.  The search starts above the value; it ends at the latest
on the grid on which the value itself lies. -/
def shortest (m : Nat) (q : Int) (narrow : Bool) : Scaled :=
  let r := Reach.ofBinary m q narrow
  let top : Int := width (r.value / r.denominator) + 1
  firstHit r top ((top - min q 0).toNat + 1)

end Biomes.Decimal
