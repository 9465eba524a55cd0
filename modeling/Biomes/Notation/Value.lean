import Biomes.Notation.Attribute
import Biomes.Notation.Range

/-!
# Values of any kind

Settings that are not known are passed over, whatever well-formed value they hold: a number or a
range, a word, a text, a character, an option, a list, a table, a tuple or a record.  Values nest
within a budget: each bracket takes one from it, and so does each entry within.
-/

namespace Biomes.Notation

/-- Passes over something in a text. -/
abbrev Skipper := List Char → Option (List Char)

/-- Passes over a bracketed list of entries; the opening bracket comes next. -/
def skipBracketed (opening close : Char) (entry : Skipper) : Skipper := fun cs => do
  let cs ← afterChar? opening cs
  let skip (_ : Unit) (cs : List Char) := (entry cs).map fun cs => ((), cs)
  let (_, cs) ← entries skip close (cs.length + 1) true () cs
  afterChar? close (← skipBlanks cs)

/-- Passes over an entry with a key. -/
def skipKeyed (key value : Skipper) : Skipper := fun cs => do
  let cs ← skipBlanks (← key cs)
  let cs ← skipBlanks (← afterChar? ':' cs)
  value cs

/-- Whether the brackets that come next hold named fields. -/
def holdsFields (cs : List Char) : Bool :=
  let looked := do
    let cs ← skipBlanks (← afterChar? '(' cs)
    let (_, cs) ← identifier cs
    afterChar? ':' (← skipBlanks cs)
  looked.isSome

/-- Passes over an entry with a name. -/
def skipNamed (entry : Skipper) : Skipper := skipKeyed (fun cs => (name cs).map (·.2)) entry

/-- Passes over a tuple or a record, or over nothing if no bracket comes next. -/
def skipShape (nests : Bool) (entry : Skipper) : Skipper := fun cs =>
  if (afterChar? '(' cs).isNone then some cs
  else if !nests then none
  else if holdsFields cs then skipBracketed '(' ')' (skipNamed entry) cs
  else skipBracketed '(' ')' entry cs

/-! ### What an option holds -/

/-- What stands between the brackets of an option. -/
inductive Content where
  /-- Nothing: an empty tuple without its brackets. -/
  | nothing
  /-- One value. -/
  | value
  /-- Entries that the brackets of a tuple are left out of. -/
  | entries
  /-- Fields that the brackets of a record are left out of. -/
  | fields

/-- What follows a quoted token, if one comes next, and the blanks behind it; none if its closing
quote is missing. -/
def afterQuote (cs : List Char) : Option (List Char) :=
  let cs := (skipCharacter cs).getD cs
  if isUnclosed cs then none
  else skipBlanks ((((quoted cs).map (·.2)).or (skipByteText cs)).getD cs)

/-- Whether a comma with something behind it comes before the bracket that closes those open
around the text; `depth` of them are inner ones.  Each round takes a character at least. -/
def findsComma : (rounds depth : Nat) → List Char → Option Bool
  | 0, _, _ => none
  | rounds + 1, depth, cs => do
    match ← afterQuote (← skipBlanks cs) with
    | [] => none
    | c :: cs =>
      if c == '(' || c == '[' || c == '\x7b' then findsComma rounds (depth + 1) cs
      else if c == ')' || c == ']' || c == '\x7d' then
        match depth with
        | 0 => return false
        | depth + 1 => findsComma rounds depth cs
      else if c == ',' && depth == 0 then return (← skipBlanks cs).head? != some ')'
      else findsComma rounds depth cs

/-- Whether several entries follow, or one value. -/
def Content.ofComma (several : Bool) : Content := if several then .entries else .value

/-- What the brackets of an option hold if those of a tuple or a record may be left out. -/
def content (cs : List Char) : Option Content :=
  if cs.head? = some ')' then some .nothing
  else
    match identifier cs with
    | none => (findsComma (cs.length + 1) 0 cs).map .ofComma
    | some (_, rest) => do
      let rest ← skipBlanks rest
      if rest.head? = some ':' then return .fields
      else (findsComma (rest.length + 1) 0 rest).map .ofComma

/-- Passes over entries up to a closing bracket, which is left. -/
def skipEntries (entry : Skipper) : Skipper := fun cs =>
  let skip (_ : Unit) (cs : List Char) := (entry cs).map fun cs => ((), cs)
  (entries skip ')' (cs.length + 1) true () cs).map (·.2)

/-- Passes over what an option holds.  With `unwraps` that may be the inside of a tuple or a
record, if values may nest further where it is not empty. -/
def skipContent (unwraps nests : Bool) (value entry : Skipper) : Skipper := fun cs =>
  match if unwraps then content cs else some .value with
  | some .nothing => some cs
  | some .value => value cs
  | some .entries => if nests then skipEntries entry cs else none
  | some .fields => if nests then skipEntries (skipNamed entry) cs else none
  | none => none

/-- Passes over an option behind its word.  `bare` passes over a value without brackets. -/
def skipOption (content bare : Skipper) : Skipper := fun cs => do
  let cs ← skipBlanks cs
  match afterChar? '(' cs with
  | some cs => do
    let (_, cs) ← comma (← content (← skipBlanks cs))
    afterChar? ')' cs
  | none => bare cs

/-! ### Values -/

/-- The words that are values of their own. -/
def valueWords : List String := ["true", "false", "None"]

/-- Passes over a value.  `nests` says whether it may open a bracket, `option` passes over an
option behind its word, and `entry` over an entry of a bracket. -/
def skipValueWith (nests : Bool) (option entry : Skipper) : Skipper := fun cs =>
  match valueWords.findSome? fun w => afterWord? w cs with
  | some rest => some rest
  | none =>
    match afterWord? "Some" cs, afterText? ['(', ')'] cs with
    | some rest, _ => option rest
    | none, some rest => some rest
    | none, none =>
      if startsNumber cs || (afterText? ['.', '.'] cs).isSome then skipRange cs
      else
        match identifier cs with
        | some (_, rest) => (skipBlanks rest).bind (skipShape nests entry)
        | none =>
          match cs with
          | '(' :: _ => skipShape nests entry cs
          | '[' :: _ => if nests then skipBracketed '[' ']' entry cs else none
          | '\x7b' :: _ =>
            if nests then skipBracketed '\x7b' '\x7d' (skipKeyed entry entry) cs else none
          | '"' :: _ | 'r' :: _ => (quoted cs).map (·.2)
          | 'b' :: _ => skipByteText cs
          | '\'' :: _ => skipCharacter cs
          | _ => none

/-- Passes over a value for which a number of levels are left.  It takes up one, an entry within
its brackets two, and what an option holds one. -/
def skipLevels (ext : Extensions) : (levels : Nat) → Skipper
  | 0 => fun _ => none
  | 1 => skipValueWith false (fun _ => none) fun _ => none
  | 2 =>
    let inner := skipLevels ext 1
    skipValueWith true
      (skipOption (skipContent ext.unwrapVariants false inner fun _ => none) (bare inner))
      (skipLevels ext 0)
  | n + 3 =>
    let inner := skipLevels ext (n + 2)
    skipValueWith true
      (skipOption (skipContent ext.unwrapVariants true inner (skipLevels ext n)) (bare inner))
      (skipLevels ext (n + 1))
where
  bare (inner : Skipper) : Skipper := fun cs => if ext.implicitSome then inner cs else none

/-- Passes over a value that may nest within a budget. -/
def skipValue (ext : Extensions) (budget : Nat) : Skipper := skipLevels ext (budget + 1)

end Biomes.Notation
