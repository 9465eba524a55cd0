import Biomes.Decimal.Power

/-!
# Decimals with a fixed number of places

`roundDiv` rounds a quotient of natural numbers to the nearest whole number; a half goes to the
even neighbour.  `fixedPlaces` writes `m · 2^q` with a given number of digits after the point,
rounded in this way from the exact value.
-/

namespace Biomes.Decimal

/-- The whole number nearest to `num / den`; a half goes to the even neighbour. -/
def roundDiv (num den : Nat) : Nat :=
  let whole := num / den
  let twice := 2 * (num % den)
  if twice < den then whole
  else if twice = den then whole + whole % 2
  else whole + 1

/-- `m · 2^q` counted in units of `10^(-places)`, rounded. -/
def unitsOf (m : Nat) (q : Int) (places : Nat) : Nat :=
  roundDiv (m * twoPow q * tenPow places) (twoPow (-q))

/-- A number of units of `10^(-places)`, with exactly `places` digits after the point. -/
def pointed (units places : Nat) : String :=
  let digits := Nat.toDigits 10 units
  let padded := List.replicate (places + 1 - digits.length) '0' ++ digits
  let whole := padded.length - places
  let tail := padded.drop whole
  String.ofList (padded.take whole) ++ if tail.isEmpty then "" else "." ++ String.ofList tail

/-- The text of `m · 2^q` with a fixed number of places. -/
def fixedPlaces (m : Nat) (q : Int) (places : Nat) : String := pointed (unitsOf m q places) places

end Biomes.Decimal
