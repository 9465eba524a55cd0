import Biomes.Notation.Number
import Biomes.Text.Plain

/-!
# Quoted text of the settings notation

`writeQuoted` puts a text between quotes; quotes, backslashes and everything that is not shown as
itself are written as escapes.  `quoted` reads such a text, and also a raw text without escapes.
In a text that is read, a backslash at the end of a line joins it with the next one.

Single characters stand in apostrophes.  Bytes, and texts of bytes, are marked by a `b`.
-/

namespace Biomes.Notation

/-! ### Writing -/

/-- How a character is written between quotes. -/
def escape (c : Char) : List Char :=
  if c = '\x00' then ['\\', '0']
  else if c = '\t' then ['\\', 't']
  else if c = '\r' then ['\\', 'r']
  else if c = '\n' then ['\\', 'n']
  else if c = '\'' ∨ c = '"' ∨ c = '\\' then ['\\', c]
  else if Text.isPlain c then [c]
  else ['\\', 'u', '\x7b'] ++ Nat.toDigits 16 c.toNat ++ ['\x7d']

/-- A text between quotes. -/
def writeQuoted (s : String) : List Char := '"' :: s.toList.flatMap escape ++ ['"']

/-! ### Reading -/

/-- Reads two hexadecimal digits. -/
def hexByte : Reader Nat
  | a :: b :: cs => do return (16 * (← digitValue? a) + (← digitValue? b), cs)
  | _ => none

/-- The character that bytes stand for, if they are the encoding of one. -/
def charOfBytes? (bytes : List Nat) : Option Char := do
  let s ← String.fromUTF8? ⟨(bytes.map UInt8.ofNat).toArray⟩
  match s.toList with
  | [c] => some c
  | _ => none

/-- Reads a character that is given by its bytes, at most `more` of them behind those read so
far. -/
def bytesChar (bytes : List Nat) : Nat → Reader Char
  | more, cs =>
    match charOfBytes? bytes with
    | some c => some (c, cs)
    | none =>
      match more with
      | 0 => none
      | more + 1 => do
        let (b, cs) ← hexByte (← afterText? ['\\', 'x'] cs)
        bytesChar (bytes ++ [b]) more cs

/-- Reads a code point in braces: one to six hexadecimal digits. -/
def codePoint : Reader Char := fun cs => do
  let cs ← afterChar? '\x7b' cs
  let digits := (cs.take 6).takeWhile (· != '\x7d')
  if digits.isEmpty then none
  let n ← digits.foldlM (fun n c => do return 16 * n + (← digitValue? c)) 0
  let rest ← afterChar? '\x7d' (cs.drop digits.length)
  if h : n.isValidChar then return (Char.ofNatAux n h, rest) else none

/-- Reads what follows the backslash of an escape.  A single character has at most one byte
escape; in a text, up to four make up a character. -/
def escaped (single : Bool) : Reader Char
  | 'n' :: cs => some ('\n', cs)
  | 't' :: cs => some ('\t', cs)
  | 'r' :: cs => some ('\r', cs)
  | '0' :: cs => some ('\x00', cs)
  | '\\' :: cs => some ('\\', cs)
  | '"' :: cs => some ('"', cs)
  | '\'' :: cs => some ('\'', cs)
  | 'x' :: cs => do
    let (b, cs) ← hexByte cs
    bytesChar [b] (if single then 0 else 3) cs
  | 'u' :: cs => codePoint cs
  | _ => none

/-- The blanks that are left out where a line is joined with the next one. -/
def isMarginBlank (c : Char) : Bool := c == ' ' || c == '\t' || c == '\n' || c == '\r'

/-- What follows a line break behind a backslash, and the margin of the next line. -/
def afterBreak? : List Char → Option (List Char)
  | '\n' :: cs | '\r' :: '\n' :: cs => some (cs.dropWhile isMarginBlank)
  | _ => none

/-- Reads the characters of a text up to the closing quote.  Each round takes a character at
least. -/
def quotedChars : Nat → Reader (List Char)
  | 0, _ => none
  | _ + 1, [] => none
  | _ + 1, '"' :: cs => some ([], cs)
  | n + 1, '\\' :: cs =>
    match afterBreak? cs with
    | some cs => quotedChars n cs
    | none => do
      let (c, cs) ← escaped false cs
      let (text, cs) ← quotedChars n cs
      return (c :: text, cs)
  | n + 1, c :: cs => do
    let (text, cs) ← quotedChars n cs
    return (c :: text, cs)

/-- Reads the characters of a raw text up to its end mark. -/
def rawChars (mark : List Char) : Reader (List Char)
  | [] => none
  | c :: cs =>
    match afterText? mark (c :: cs) with
    | some rest => some ([], rest)
    | none => (rawChars mark cs).map fun (text, rest) => (c :: text, rest)

/-- Reads a raw text behind its mark: between quotes and any number of `#`. -/
def rawText : Reader (List Char) := fun cs => do
  let hashes := cs.takeWhile (· == '#')
  let cs ← afterChar? '"' (cs.drop hashes.length)
  rawChars ('"' :: hashes) cs

/-- Reads a text in quotes: with escapes, or raw. -/
def quoted : Reader String
  | '"' :: cs => (quotedChars (cs.length + 1) cs).map fun (text, rest) => (String.ofList text, rest)
  | 'r' :: cs => (rawText cs).map fun (text, rest) => (String.ofList text, rest)
  | _ => none

/-! ### Characters and bytes -/

/-- Passes over a character in apostrophes. -/
def skipCharacter (cs : List Char) : Option (List Char) := do
  let cs ← afterChar? '\'' cs
  match cs with
  | '\\' :: cs => do
    let (_, cs) ← escaped true cs
    afterChar? '\'' cs
  | _ :: cs => afterChar? '\'' cs
  | [] => none

/-- Passes over what follows the backslash of an escape among bytes, where two hexadecimal digits
make any byte. -/
def skipByteEscape : List Char → Option (List Char)
  | 'x' :: cs => (hexByte cs).map (·.2)
  | cs => (escaped false cs).map (·.2)

/-- Whether a byte comes next. -/
def startsByte (cs : List Char) : Bool := (afterText? ['b', '\''] cs).isSome

/-- Passes over a byte: a character of one byte, or an escape other than a code point. -/
def skipByte (cs : List Char) : Option (List Char) := do
  let cs ← afterText? ['b', '\''] cs
  match cs with
  | '\\' :: 'u' :: _ => none
  | '\\' :: cs => (skipByteEscape cs).bind (afterChar? '\'')
  | c :: cs => if c.utf8Size = 1 then afterChar? '\'' cs else none
  | [] => none

/-- Passes over the bytes of a text up to the closing quote.  Each round takes a character at
least. -/
def skipByteChars : Nat → List Char → Option (List Char)
  | 0, _ => none
  | _ + 1, [] => none
  | _ + 1, '"' :: cs => some cs
  | n + 1, '\\' :: cs => ((afterBreak? cs).or (skipByteEscape cs)).bind (skipByteChars n)
  | n + 1, _ :: cs => skipByteChars n cs

/-- Passes over a text of bytes: with escapes, or raw. -/
def skipByteText : List Char → Option (List Char)
  | 'b' :: '"' :: cs => skipByteChars (cs.length + 1) cs
  | 'b' :: 'r' :: cs => (rawText cs).map (·.2)
  | _ => none

/-! ### Missing quotes -/

/-- Whether a text has no closing quote; `escape` passes over what follows a backslash.  Each round
takes a character at least. -/
def lacksQuote (escape : List Char → Option (List Char)) : (rounds : Nat) → List Char → Bool
  | 0, _ => false
  | _ + 1, [] => true
  | _ + 1, '"' :: _ => false
  | n + 1, '\\' :: cs =>
    match (afterBreak? cs).or (escape cs) with
    | some cs => lacksQuote escape n cs
    | none => !cs.contains '"'
  | n + 1, _ :: cs => lacksQuote escape n cs

/-- Whether a raw text starts behind its mark, and does not end. -/
def lacksMark (cs : List Char) : Bool :=
  (afterChar? '"' (cs.dropWhile (· == '#'))).isSome && (rawText cs).isNone

/-- Whether a text, or a text of bytes, starts here and does not end. -/
def isUnclosed : List Char → Bool
  | '"' :: cs => lacksQuote (fun cs => (escaped false cs).map (·.2)) (cs.length + 1) cs
  | 'b' :: '"' :: cs => lacksQuote skipByteEscape (cs.length + 1) cs
  | 'r' :: cs | 'b' :: 'r' :: cs => lacksMark cs
  | _ => false

end Biomes.Notation
