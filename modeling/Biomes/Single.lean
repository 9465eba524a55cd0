/-!
# Single precision arithmetic

The few operations on single precision numbers that the core library does not have: conversions
that can be computed with in proofs, extrema that pass over `NaN`, the length of a vector, and left
to right sums.
-/

namespace Biomes.Single

open Float.Model (Format UnpackedFloat)

/-! ### Conversions -/

/-- A number rounded to a format: to the nearest number with the format's precision, and of two
equally near ones to the even one. -/
def round (f : Format) : UnpackedFloat → UnpackedFloat
  | .finite s m q _ => .round f s m q
  | x => x

/-- The single precision number nearest to a double precision one. -/
def ofDouble (x : Float) : Float32 := .ofModel (.pack (round .binary32 x.toModel.unpack))

/-- A single precision number in double precision, which changes nothing. -/
def toDouble (x : Float32) : Float := .ofModel (.pack (round .binary64 x.toModel.unpack))

/-! ### Extrema, lengths and sums -/

/-- The smaller of two numbers; a `NaN` is passed over. -/
def lesser (a b : Float32) : Float32 :=
  if a.isNaN then b else if b.isNaN then a else if b < a then b else a

/-- The larger of two numbers; a `NaN` is passed over. -/
def greater (a b : Float32) : Float32 :=
  if a.isNaN then b else if b.isNaN then a else if a < b then b else a

/-- The length of the vector `(a, b)`, computed in double precision and rounded once.  It is
infinite as soon as one component is, even beside a `NaN`. -/
def hypot (a b : Float32) : Float32 :=
  if a.isInf || b.isInf then 1 / 0
  else
    let x := toDouble a
    let y := toDouble b
    ofDouble (x * x + y * y).sqrt

/-- The sum from left to right.  It starts from `-0`, which leaves every number as it is. -/
def sum (xs : List Float32) : Float32 := xs.foldl (· + ·) (-0)

/-- Whether a number differs from zero; a `NaN` does. -/
def isNonzero (x : Float32) : Bool := x != 0

end Biomes.Single
