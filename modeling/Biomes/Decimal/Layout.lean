import Biomes.Decimal.Shortest

/-!
# How a decimal is laid out

A `Layout` says when a decimal is written positionally, and when with an exponent.  `Layout.write`
writes a positive decimal; `Layout.zero` is the text of zero.
-/

namespace Biomes.Decimal

/-- The decisions of a written form. -/
structure Layout where
  /-- A whole number carries `.0`. -/
  pointed : Bool
  /-- Where `x` is written with an exponent: for `x < 10^low` and for `x ≥ 10^high`. -/
  exponentOutside : Option (Int × Int)
  deriving DecidableEq, Repr

/-- Digits and a point only, whole numbers without a point. -/
def Layout.positional : Layout := ⟨false, none⟩

/-- Whole numbers carry `.0`; below `10^(-4)` and from `10^16` on an exponent is used. -/
def Layout.general : Layout := ⟨true, some (-4, 16)⟩

namespace Layout

/-- Digits with the point after the first `places` of them, filled up with zeros on both sides. -/
def positionalText (l : Layout) (digits : List Char) (places : Int) : List Char :=
  let count : Int := digits.length
  if places ≤ 0 then '0' :: '.' :: List.replicate (-places).toNat '0' ++ digits
  else if places < count then digits.take places.toNat ++ '.' :: digits.drop places.toNat
  else digits ++ List.replicate (places - count).toNat '0' ++ if l.pointed then ['.', '0'] else []

/-- Digits with the point after the first one, and the exponent of that digit. -/
def exponentText (digits : List Char) (exponent : Int) : List Char :=
  let tail := digits.drop 1
  digits.take 1 ++ (if tail.isEmpty then [] else '.' :: tail) ++ 'e' :: (toString exponent).toList

/-- Whether a decimal whose leading digit stands at `10^lead` is written with an exponent. -/
def usesExponent (l : Layout) (lead : Int) : Bool :=
  match l.exponentOutside with
  | none => false
  | some (low, high) => lead < low || high ≤ lead

/-- The text of a positive decimal. -/
def write (l : Layout) (d : Scaled) : List Char :=
  let digits := Nat.toDigits 10 d.digits
  let places := digits.length + d.exponent
  if l.usesExponent (places - 1) then exponentText digits (places - 1)
  else l.positionalText digits places

/-- The text of zero. -/
def zero (l : Layout) : List Char := if l.pointed then ['0', '.', '0'] else ['0']

end Layout

end Biomes.Decimal
