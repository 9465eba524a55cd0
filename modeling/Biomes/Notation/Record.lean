import Biomes.Notation.Value
import Biomes.Decimal.Float

/-!
# Records of the settings notation

A `Format` reads and writes values of a type.  A record is written as its fields in brackets, one
to a line, each followed by a comma; it is read with its fields in any order, missing ones keep
their default, unknown ones are passed over, and no known one may be given twice.
-/

namespace Biomes.Notation

/-- How values of a type are read, under the extensions in force, and how they are written at a
level of indentation. -/
structure Format (α : Type) where
  read : Extensions → Reader α
  write : (level : Nat) → α → List Char

namespace Format

/-- Truth values. -/
def bool : Format Bool where
  read _ cs :=
    match afterWord? "true" cs with
    | some rest => some (true, rest)
    | none => (afterWord? "false" cs).map (false, ·)
  write _ b := (if b then "true" else "false").toList

/-- Unsigned integers of a number of bits. -/
def unsigned (bits : Nat) : Format Nat where
  read _ cs := (integer (.unsigned bits) cs).map fun ((_, n), rest) => (n, rest)
  write _ n := Nat.toDigits 10 n

/-- A format for values that correspond to those of another. -/
def imap {α β : Type} (f : Format α) (forth : α → β) (back : β → α) : Format β where
  read ext cs := (f.read ext cs).map fun (a, rest) => (forth a, rest)
  write level b := f.write level (back b)

/-- Unsigned integers of 32 bits. -/
def word32 : Format UInt32 := (unsigned 32).imap UInt32.ofNat UInt32.toNat

/-- Unsigned integers of 64 bits. -/
def word64 : Format UInt64 := (unsigned 64).imap UInt64.ofNat UInt64.toNat

/-- Quantities, written with the fewest digits that read back. -/
def quantity : Format Quantity where
  read _ := Notation.quantity
  write _
    | .number x => (singleText .general x).toList
    | .minusNaN => "-NaN".toList

/-- Single precision numbers. -/
def single : Format Float32 := quantity.imap Quantity.value .number

/-- Texts. -/
def text : Format String where
  read _ := quoted
  write _ s := writeQuoted s

end Format

/-! ### Fields -/

/-- A named part of a record of type `σ`. -/
structure Field (σ : Type) where
  name : String
  /-- Reads the part's value into a record. -/
  read : Extensions → σ → Reader σ
  write : (level : Nat) → σ → List Char

/-- The field that holds a part of a record in a format. -/
def Field.of {σ α : Type} (name : String) (f : Format α) (get : σ → α) (set : σ → α → σ) :
    Field σ where
  name
  read ext s cs := (f.read ext cs).map fun (a, rest) => (set s a, rest)
  write level s := f.write level (get s)

/-- The blanks at the start of a line. -/
def margin (level : Nat) : List Char := List.replicate (4 * level) ' '

/-- The line of a field. -/
def writeField {σ : Type} (level : Nat) (s : σ) (f : Field σ) : List Char :=
  margin level ++ f.name.toList ++ [':', ' '] ++ f.write level s ++ [',', '\n']

/-! ### Records -/

/-- Reads one field into a record, with the names of the known fields read so far. -/
def readField {σ : Type} (fields : List (Field σ)) (budget : Nat) (ext : Extensions) :
    σ × List String → Reader (σ × List String) := fun (s, seen) cs => do
  let (key, cs) ← name cs
  let cs ← skipBlanks (← afterChar? ':' (← skipBlanks cs))
  match fields.find? (·.name == key) with
  | none => return ((s, seen), ← skipValue ext budget cs)
  | some f =>
    if seen.contains key then none
    let (s, cs) ← f.read ext s cs
    return ((s, key :: seen), cs)

/-- What follows the name of a record type.  The name must be right; it may be left out, unless an
extension asks for it. -/
def afterTitle (title : String) (ext : Extensions) (cs : List Char) : Option (List Char) :=
  if cs.head?.any Text.continuesIdentifier then do
    let (t, rest) ← name cs
    if t == title then return rest else none
  else if ext.namedRecords then none
  else some cs

/-- The format of a record with a type name, fields and defaults; unknown fields nest within a
budget. -/
def Format.record {σ : Type} (title : String) (fields : List (Field σ)) (default : σ)
    (budget : Nat) : Format σ where
  read ext cs := do
    let cs ← afterChar? '(' (← skipBlanks (← afterTitle title ext cs))
    let ((s, _), cs) ←
      entries (readField fields budget ext) ')' (cs.length + 1) true (default, []) cs
    return (s, ← afterChar? ')' (← skipBlanks cs))
  write level s :=
    ['(', '\n'] ++ fields.flatMap (writeField (level + 1) s) ++ margin level ++ [')']

/-! ### Whole texts -/

/-- Reads a text that holds attributes and one value, with blanks and comments around them. -/
def Format.parse {α : Type} (f : Format α) (text : String) : Option α := do
  let cs ← skipBlanks text.toList
  let (ext, cs) ← attributes (cs.length + 1) .none cs
  let (a, rest) ← f.read ext cs
  if (← skipBlanks rest).isEmpty then return a else none

/-- The text of a value. -/
def Format.print {α : Type} (f : Format α) (a : α) : String := String.ofList (f.write 0 a)

end Biomes.Notation
