import Biomes.Decimal.Layout
import Biomes.Decimal.Rounded

/-!
# Texts of floating point numbers

The decimal texts of single and double precision numbers.  A number is unpacked into sign, integer
and power of two; the infinities are `inf` and `-inf`, and there is one `NaN` without a sign.
-/

namespace Biomes.Decimal

open Float.Model (UnpackedFloat Format)

/-- A sign followed by a text. -/
def signed (s : UnpackedFloat.Sign) (text : List Char) : String :=
  match s with
  | .negative => String.ofList ('-' :: text)
  | .positive => String.ofList text

/-- The number below `m · 2^q` is nearer than the one above it: `m` is the least integer with all
its bits in use, and there are smaller exponents. -/
def isNarrow (f : Format) (m : Nat) (q : Int) : Bool :=
  m == twoPow f.mantissaBitsWithoutImplicit &&
    q != 1 - ((f.exponentBias : Int) + f.mantissaBitsWithoutImplicit)

/-- The shortest text of an unpacked number of a format. -/
def shortestText (f : Format) (l : Layout) : UnpackedFloat → String
  | .notANumber => "NaN"
  | .infinity s => signed s ['i', 'n', 'f']
  | .zero s => signed s l.zero
  | .finite s m q _ => signed s (l.write (shortest m q (isNarrow f m q)))

/-- The text of an unpacked number with a fixed number of places. -/
def fixedText (places : Nat) : UnpackedFloat → String
  | .notANumber => "NaN"
  | .infinity s => signed s ['i', 'n', 'f']
  | .zero s => signed s (pointed 0 places).toList
  | .finite s m q _ => signed s (fixedPlaces m q places).toList

end Biomes.Decimal

namespace Biomes

/-- The shortest text of a single precision number. -/
def singleText (l : Decimal.Layout) (x : Float32) : String :=
  Decimal.shortestText .binary32 l x.toModel.unpack

/-- The shortest text of a double precision number. -/
def doubleText (l : Decimal.Layout) (x : Float) : String :=
  Decimal.shortestText .binary64 l x.toModel.unpack

/-- How a quantity is shown: positionally, with the fewest digits that read back. -/
def shown (x : Float32) : String := singleText .positional x

end Biomes
