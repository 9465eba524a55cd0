import Biomes.Text.Identifier

/-!
# Blanks, words, entries and identifiers of the settings notation

Settings are written in a notation of nested records.  A reader takes the characters that remain
and gives its result with those that follow; there is no result if the text is not well formed.

Between two tokens there may be blanks and comments: from `//` to the end of the line, or from
`/*` to the matching `*/`.
-/

namespace Biomes.Notation

/-- A reader takes a result from the front of a text. -/
abbrev Reader (α : Type) := List Char → Option (α × List Char)

/-! ### Blanks and comments -/

/-- The blank characters. -/
def isBlank (c : Char) : Bool :=
  c == ' ' || c == '\t' || c == '\n' || c == '\r' || c == '\x0b' || c == '\x0c' ||
    c == '\u0085' || c == '\u200e' || c == '\u200f' || c == '\u2028' || c == '\u2029'

/-- What the characters between two tokens belong to. -/
inductive Between where
  | blank
  /-- A comment up to the end of the line. -/
  | line
  /-- A bracketed comment inside a number of others. -/
  | block (around : Nat)

/-- What follows the blanks and comments; none if a comment is left open, or a slash is left
over. -/
def skipBetween : Between → List Char → Option (List Char)
  | .blank, [] => some []
  | .blank, '/' :: '/' :: cs => skipBetween .line cs
  | .blank, '/' :: '*' :: cs => skipBetween (.block 0) cs
  | .blank, c :: cs =>
    if isBlank c then skipBetween .blank cs else if c == '/' then none else some (c :: cs)
  | .line, [] => some []
  | .line, c :: cs => skipBetween (if c == '\n' then .blank else .line) cs
  | .block _, [] => none
  | .block n, '/' :: '*' :: cs => skipBetween (.block (n + 1)) cs
  | .block n, '*' :: '/' :: cs =>
    match n with
    | 0 => skipBetween .blank cs
    | m + 1 => skipBetween (.block m) cs
  | .block n, _ :: cs => skipBetween (.block n) cs

/-- What follows the blanks and comments at the front. -/
def skipBlanks (cs : List Char) : Option (List Char) := skipBetween .blank cs

/-! ### Characters and words -/

/-- What follows a character, if it comes next. -/
def afterChar? (c : Char) : List Char → Option (List Char)
  | [] => none
  | d :: cs => if d = c then some cs else none

/-- What follows a text, if it comes next. -/
def afterText? : List Char → List Char → Option (List Char)
  | [], cs => some cs
  | w :: ws, cs => (afterChar? w cs).bind (afterText? ws)

/-- What follows a word, if it comes next and no identifier goes on there. -/
def afterWord? (w : String) (cs : List Char) : Option (List Char) :=
  match afterText? w.toList cs with
  | some rest => if rest.head?.any Text.continuesIdentifier then none else some rest
  | none => none

/-! ### Entries -/

/-- Whether a comma comes next, and what follows it and the blanks around it. -/
def comma : Reader Bool := fun cs => do
  let cs ← skipBlanks cs
  match afterChar? ',' cs with
  | some cs => return (true, ← skipBlanks cs)
  | none => return (false, cs)

/-- Entries separated by commas, up to the closing bracket, which is left.  A comma may follow the
last entry.  Each round takes a character at least. -/
def entries {σ : Type} (entry : σ → Reader σ) (close : Char) : Nat → Bool → σ → Reader σ
  | 0, _, _, _ => none
  | rounds + 1, afterComma, s, cs => do
    let cs ← skipBlanks cs
    if cs.head? = some close then return (s, cs)
    if !afterComma then none
    let (s, cs) ← entry s cs
    let (afterComma, cs) ← comma cs
    entries entry close rounds afterComma s cs

/-! ### Identifiers -/

/-- The characters of a raw identifier, which is marked by `r#`. -/
def isRawPart (c : Char) : Bool :=
  c == '.' || c == '+' || c == '-' || Text.continuesIdentifier c

/-- Whether a quoted text starts here that begins with a letter. -/
def startsMarkedQuote (cs : List Char) : Bool :=
  ["r\"", "r#\"", "r##", "b\"", "b'", "br\"", "br#"].any fun mark =>
    (afterText? mark.toList cs).isSome

/-- Reads an identifier, raw or not. -/
def identifier : Reader String := fun cs =>
  if startsMarkedQuote cs then none
  else
    match afterText? ['r', '#'] cs with
    | some raw =>
      let name := raw.takeWhile isRawPart
      if name.isEmpty then none else some (String.ofList name, raw.drop name.length)
    | none =>
      match cs with
      | [] => none
      | c :: _ =>
        if Text.startsIdentifier c then
          let name := cs.takeWhile Text.continuesIdentifier
          some (String.ofList name, cs.drop name.length)
        else none

/-- Reads the name of a field or of a record type: an identifier that does not run on with
characters which only a raw identifier may hold. -/
def name : Reader String := fun cs => do
  let (id, rest) ← identifier cs
  if (afterText? ['r', '#'] cs).isSome then return (id, rest)
  else if rest.head?.any isRawPart then none
  else return (id, rest)

end Biomes.Notation
