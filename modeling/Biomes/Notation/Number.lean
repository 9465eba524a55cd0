import Biomes.Notation.Blank
import Biomes.Quantity

/-!
# Numbers of the settings notation

Integers are decimal, or marked as binary, octal or hexadecimal; quantities are decimal, with a
point and an exponent as needed.  Both may hold underscores after the first digit, and may name
their type at the end.
-/

namespace Biomes.Notation

/-- A sign in front of a number: whether it is a minus, and what follows. -/
def sign : List Char → Bool × List Char
  | '+' :: cs => (false, cs)
  | '-' :: cs => (true, cs)
  | cs => (false, cs)

/-- The value of a digit in any base up to sixteen. -/
def digitValue? (c : Char) : Option Nat :=
  if '0' ≤ c ∧ c ≤ '9' then some (c.toNat - '0'.toNat)
  else if 'a' ≤ c ∧ c ≤ 'f' then some (c.toNat - 'a'.toNat + 10)
  else if 'A' ≤ c ∧ c ≤ 'F' then some (c.toNat - 'A'.toNat + 10)
  else none

/-! ### Integers -/

/-- The characters that the digits of an integer are made of. -/
def isIntegerChar (c : Char) : Bool := (digitValue? c).isSome || c == '_'

/-- The number that digits and underscores stand for in a base. -/
def digitsValue? (base : Nat) (cs : List Char) : Option Nat :=
  cs.foldlM (fun n c =>
    if c == '_' then some n
    else do
      let d ← digitValue? c
      if d < base then return n * base + d else none) 0

/-- The base that an integer is marked with, and what follows the mark. -/
def baseMark (cs : List Char) : Nat × List Char :=
  match cs with
  | '0' :: 'b' :: rest => (2, rest)
  | '0' :: 'o' :: rest => (8, rest)
  | '0' :: 'x' :: rest => (16, rest)
  | _ => (10, cs)

/-- Reads an integer without its sign. -/
def magnitude : Reader Nat := fun cs => do
  let (base, cs) := baseMark cs
  let digits := cs.takeWhile isIntegerChar
  if digits.isEmpty || digits.head? == some '_' then none
  let n ← digitsValue? base digits
  return (n, cs.drop digits.length)

/-- The integers that fit a type: its name, and the largest magnitudes below and above zero. -/
structure IntegerType where
  name : String
  below : Nat
  above : Nat

/-- The type of unsigned integers with a number of bits. -/
def IntegerType.unsigned (bits : Nat) : IntegerType :=
  ⟨s!"u{bits}", 0, Nat.pow 2 bits - 1⟩

/-- The type of signed integers with a number of bits. -/
def IntegerType.signed (bits : Nat) : IntegerType :=
  ⟨s!"i{bits}", Nat.pow 2 (bits - 1), Nat.pow 2 (bits - 1) - 1⟩

/-- The integer types that can be named. -/
def integerTypes : List IntegerType :=
  [8, 16, 32, 64].flatMap fun bits => [.signed bits, .unsigned bits]

/-- Whether a signed magnitude fits a type. -/
def IntegerType.fits (t : IntegerType) (negative : Bool) (n : Nat) : Bool :=
  if negative then n ≤ t.below else n ≤ t.above

/-- The type named next, with what follows its name. -/
def typeMark? (cs : List Char) : Option (IntegerType × List Char) :=
  integerTypes.findSome? fun t => (afterWord? t.name cs).map (t, ·)

/-- Reads an integer of a type: its sign and its magnitude. -/
def integer (t : IntegerType) : Reader (Bool × Nat) := fun cs => do
  let (negative, cs) := sign cs
  let (n, rest) ← magnitude cs
  if !t.fits negative n then none
  match typeMark? rest with
  | some (marked, rest) => if marked.name == t.name then return ((negative, n), rest) else none
  | none => return ((negative, n), rest)

/-- Passes over an integer of any type. -/
def skipInteger (cs : List Char) : Option (List Char) :=
  (integerTypes.findSome? fun t => integer t cs).map (·.2)

/-! ### Quantities -/

/-- The characters that a quantity is made of. -/
def isQuantityChar (c : Char) : Bool :=
  c.isDigit || c == 'e' || c == 'E' || c == '.' || c == '+' || c == '-' || c == '_'

/-- The characters at the front that a quantity may be made of.  Two points in a row end it, as they
are the mark of a range. -/
def quantityRun : List Char → List Char
  | [] => []
  | '.' :: '.' :: _ => []
  | c :: cs => if isQuantityChar c then c :: quantityRun cs else []

/-- The characters without underscores.  An underscore may follow a digit or an exponent mark,
and a sign or an underscore behind one of these, but not a point. -/
def dropUnderscores (allowed : Bool) : List Char → Option (List Char)
  | [] => some []
  | c :: cs =>
    if c == '_' then if allowed then dropUnderscores true cs else none
    else
      let allowed := c.isDigit || c == 'e' || c == 'E' || (allowed && c != '.')
      (dropUnderscores allowed cs).map (c :: ·)

/-- A decimal number: `digits · 10^exponent`, with a sign. -/
structure DecimalNumber where
  negative : Bool
  digits : Nat
  exponent : Int

/-- The number that decimal digits stand for. -/
def decimalValue (cs : List Char) : Nat := cs.foldl (fun n c => 10 * n + (c.toNat - '0'.toNat)) 0

/-- An exponent: an optional sign and at least one digit. -/
def exponent? (cs : List Char) : Option Int :=
  let (negative, digits) := sign cs
  if digits.isEmpty || !digits.all Char.isDigit then none
  else
    let n : Int := decimalValue digits
    some (if negative then -n else n)

/-- A whole text as a decimal number: digits with at most one point among or around them, and an
optional exponent. -/
def decimal? (cs : List Char) : Option DecimalNumber := do
  let (negative, cs) := sign cs
  let whole := cs.takeWhile Char.isDigit
  let cs := cs.drop whole.length
  let (part, cs) := match cs with
    | '.' :: rest =>
      let part := rest.takeWhile Char.isDigit
      (part, rest.drop part.length)
    | _ => ([], cs)
  if whole.isEmpty && part.isEmpty then none
  let e ← match cs with
    | [] => some 0
    | c :: rest => if c == 'e' || c == 'E' then exponent? rest else none
  return ⟨negative, decimalValue (whole ++ part), e - part.length⟩

/-- The single precision number nearest to a decimal one. -/
def DecimalNumber.toSingle (d : DecimalNumber) : Float32 :=
  let x := match d.exponent with
    | .ofNat e => Float32.ofScientific d.digits false e
    | .negSucc e => Float32.ofScientific d.digits true (e + 1)
  if d.negative then -x else x

/-- The quantities that are written as words. -/
def quantityWords : List (String × Quantity) :=
  [("inf", .number (1 / 0)), ("+inf", .number (1 / 0)), ("-inf", .number (-1 / 0)),
    ("NaN", .number (0 / 0)), ("+NaN", .number (0 / 0)), ("-NaN", .minusNaN)]

/-- Reads a quantity that is written as a word, which may name its type. -/
def quantityWord (types : List String) : Reader Quantity := fun cs =>
  quantityWords.findSome? fun (w, x) =>
    ("" :: types).findSome? fun t => (afterWord? (w ++ t) cs).map (x, ·)

/-- Reads a quantity whose type, if it is named, is one of the given ones. -/
def quantityOf (types : List String) : Reader Quantity := fun cs =>
  match quantityWord types cs with
  | some r => some r
  | none => do
    let run := quantityRun cs
    let d ← decimal? (← dropUnderscores false run)
    let rest := cs.drop run.length
    return (.number d.toSingle, (types.findSome? fun t => afterWord? t rest).getD rest)

/-- Reads a single precision quantity. -/
def quantity : Reader Quantity := quantityOf ["f32"]

/-- The types of quantities that can be named. -/
def quantityTypes : List String := ["f32", "f64"]

end Biomes.Notation
