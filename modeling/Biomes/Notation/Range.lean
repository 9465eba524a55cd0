import Biomes.Notation.Quoted

/-!
# Numbers of any kind, and ranges

Where the type is not known, a number is an integer, a quantity or a byte.  A range is made of two
points with a number on either side, each of which may be missing; with an equals sign behind the
points the upper one may not.
-/

namespace Biomes.Notation

/-! ### Numbers -/

/-- Passes over digits.  What can be read as an integer or as a quantity is an integer; digits that
are too large for any integer type are a quantity. -/
def skipDigits (cs : List Char) : Option (List Char) :=
  let digits := (sign cs).2
  let skipQuantity := (quantityOf quantityTypes cs).map (·.2)
  if (digits.takeWhile isIntegerChar).length < (quantityRun digits).length then skipQuantity
  else (skipInteger cs).or skipQuantity

/-- Passes over a number: a byte, or digits. -/
def skipNumber (cs : List Char) : Option (List Char) :=
  if startsByte cs then skipByte cs else skipDigits cs

/-- Whether a number or the points of a range come next, as far as the first characters tell. -/
def startsNumber (cs : List Char) : Bool :=
  cs.head?.any (fun c => c.isDigit || c == '+' || c == '-' || c == '.') || startsByte cs ||
    (quantityWord quantityTypes cs).isSome

/-! ### Ranges -/

/-- Passes over what follows the points of a range. -/
def skipUpper (cs : List Char) : Option (List Char) :=
  match afterChar? '=' cs with
  | some rest => skipNumber rest
  | none => if startsNumber cs then skipNumber cs else some cs

/-- Passes over a number, or a range of numbers. -/
def skipRange (cs : List Char) : Option (List Char) :=
  match afterText? ['.', '.'] cs with
  | some rest => skipUpper rest
  | none => do
    let rest ← skipNumber cs
    match afterText? ['.', '.'] rest with
    | some upper => skipUpper upper
    | none => some rest

end Biomes.Notation
