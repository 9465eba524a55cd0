import Biomes.Notation.Number
import Biomes.Text.Alphanumeric
import Biomes.Text.Blank

/-!
# Patterns

A pattern is a regular expression: characters and classes of characters, side by side or as
alternatives, in groups and repeated.  `isPattern` says which texts are patterns that a text can be
compared with in a single pass.  No pattern looks around a place, or refers back to a group; one
that matches characters knows no boundaries of words either, and one that matches bytes finds
nothing but whole characters.

A closing brace ends the field that a pattern stands in.  So braces are never complete, and neither
a count nor a name in braces is part of a pattern.
-/

namespace Biomes

namespace Pattern

open Notation

/-! ### Modes -/

/-- How a pattern is read from a place on. -/
structure Mode where
  /-- Blanks and comments stand between the items. -/
  spaced : Bool
  /-- The items match characters, or else bytes. -/
  unicode : Bool
  deriving DecidableEq, Repr, Inhabited

namespace Mode

/-- What follows the blanks, and the comments from `#` to the end of a line. -/
def afterSpace : (comment : Bool) → List Char → List Char
  | _, [] => []
  | true, c :: cs => afterSpace (c != '\n') cs
  | false, c :: cs =>
    if c == '#' then afterSpace true cs
    else if Text.isBlank c then afterSpace false cs
    else c :: cs

/-- What follows whatever may stand between two items. -/
def skip (m : Mode) (cs : List Char) : List Char := if m.spaced then afterSpace false cs else cs

/-- The letters of the flags. -/
def flagLetters : List Char := ['i', 'm', 's', 'U', 'u', 'R', 'x']

/-- The mode once a flag is set or taken back. -/
def withFlag (m : Mode) (letter : Char) (on : Bool) : Mode :=
  if letter == 'x' then { m with spaced := on }
  else if letter == 'u' then { m with unicode := on }
  else m

end Mode

/-! ### Groups -/

/-- What begins with an opening bracket. -/
inductive Opening where
  /-- Flags for the rest of the group around them. -/
  | setting (mode : Mode)
  /-- A group, which may have a name. -/
  | group (mode : Mode) (name : Option (List Char))

/-- Reads flags, each at most once, and those behind a minus taken back.  The flags that came
before are `seen`. -/
def flags (m : Mode) (seen : List Char) : Reader Opening
  | [] => none
  | c :: cs =>
    if c == ')' then
      if seen.isEmpty || seen.head? == some '-' then none else some (.setting m, cs)
    else if c == ':' then
      if seen.head? == some '-' then none else some (.group m none, cs)
    else if seen.contains c then none
    else if c == '-' then flags m (c :: seen) cs
    else if Mode.flagLetters.contains c then
      flags (m.withFlag c (!seen.contains '-')) (c :: seen) cs
    else none

/-- Whether a group may have a name. -/
def isName : List Char → Bool
  | [] => false
  | c :: cs =>
    (c == '_' || (Text.isAlphanumeric c && !c.isDigit)) &&
      cs.all fun c => c == '_' || c == '.' || c == '[' || c == ']' || Text.isAlphanumeric c

/-- Reads the name of a group up to the angle bracket. -/
def named (m : Mode) : Reader Opening := fun cs => do
  let name := cs.takeWhile (· != '>')
  let rest ← afterChar? '>' (cs.drop name.length)
  if isName name then return (.group m (some name), rest) else none

/-- Reads what follows an opening bracket: a name, flags, or neither. -/
def opening (m : Mode) : Reader Opening := fun cs =>
  match m.skip cs with
  | '?' :: '<' :: cs | '?' :: 'P' :: '<' :: cs => named m cs
  | '?' :: cs => flags m [] cs
  | cs => some (.group m none, cs)

/-! ### Escapes -/

/-- What a backslash and the characters behind it stand for. -/
inductive Escape where
  /-- A character, which `byte` says to be given by two digits. -/
  | char (code : Nat) (byte : Bool)
  /-- The digits, the blanks or the characters of words, or all others. -/
  | kind (others : Bool)
  /-- The characters with a property. -/
  | property
  /-- The start or the end of the text. -/
  | edge
  /-- A place at the boundary of a word, or inside one. -/
  | wordEdge
  deriving DecidableEq, Repr

/-- Whether an escape may stand in a mode.  Bytes have no properties, and must not match a part of a
character. -/
def Escape.fits (m : Mode) : Escape → Bool
  | .char code byte => m.unicode || !byte || code < 128
  | .kind others => m.unicode || !others
  | .property => m.unicode
  | .edge => true
  | .wordEdge => !m.unicode

/-- Reads a number of hexadecimal digits. -/
def hexDigits (m : Mode) : (count value : Nat) → Reader Nat
  | 0, value, cs => some (value, cs)
  | count + 1, value, cs =>
    match m.skip cs with
    | [] => none
    | c :: cs => do hexDigits m count (16 * value + (← digitValue? c)) cs

/-- Reads a character that is given by its number, in so many digits. -/
def coded (m : Mode) (count : Nat) : Reader Escape := fun cs => do
  let (code, cs) ← hexDigits m count 0 cs
  if code.isValidChar then return (.char code (count == 2), cs) else none

/-- The letters of the properties that have a name of one letter: letters, marks, numbers,
punctuation, symbols, separators, and all others. -/
def propertyLetters : List Char := ['l', 'm', 'n', 'p', 's', 'z', 'c']

/-- Reads the letter of a property. -/
def property (m : Mode) : Reader Escape := fun cs =>
  match m.skip cs with
  | [] => none
  | c :: cs => if propertyLetters.contains c.toLower then some (.property, cs) else none

/-- Reads an escape behind its backslash. -/
def escape (m : Mode) : Reader Escape
  | [] => none
  | c :: cs =>
    match c with
    | 'd' | 's' | 'w' => some (.kind false, cs)
    | 'D' | 'S' | 'W' => some (.kind true, cs)
    | 'p' | 'P' => property m cs
    | 'x' => coded m 2 cs
    | 'u' => coded m 4 cs
    | 'U' => coded m 8 cs
    | 'A' | 'z' => some (.edge, cs)
    | 'b' | 'B' | '<' | '>' => some (.wordEdge, cs)
    | 'a' | 'f' | 'n' | 'r' | 't' | 'v' => some (.char c.toNat false, cs)
    | _ => if c.isAlphanum || 128 ≤ c.toNat then none else some (.char c.toNat false, cs)

/-! ### Nesting -/

/-- The levels to which a pattern may nest. -/
def nestLimit : Nat := 250

/-- Items that stand side by side: how many there are, and how deeply they nest. -/
structure Row where
  count : Nat
  deepest : Nat
  deriving DecidableEq, Repr, Inhabited

namespace Row

/-- No items. -/
def empty : Row := ⟨0, 0⟩

/-- The items with one more, which nests to a depth. -/
def add (r : Row) (depth : Nat) : Row := ⟨r.count + 1, max r.deepest depth⟩

/-- How deeply the items nest together: a single one does not need a level for the row. -/
def depth (r : Row) : Nat := if r.count ≤ 1 then r.deepest else r.deepest + 1

end Row

/-! ### Classes in brackets -/

/-- What has been read of a class. -/
structure Class where
  /-- The items behind the last operator. -/
  items : Row
  /-- How deeply the part in front of that operator nests. -/
  before : Option Nat
  deriving DecidableEq, Repr, Inhabited

namespace Class

/-- The class with one more item. -/
def add (c : Class) (depth : Nat) : Class := { c with items := c.items.add depth }

/-- How deeply the items and the operators nest. -/
def depth (c : Class) : Nat :=
  match c.before with
  | some before => max before c.items.depth + 1
  | none => c.items.depth

/-- The class behind an operator. -/
def operated (c : Class) : Class := ⟨.empty, some c.depth⟩

end Class

/-- The names of the classes that stand between colons. -/
def classNames : List String :=
  ["alnum", "alpha", "ascii", "blank", "cntrl", "digit", "graph", "lower", "print", "punct",
    "space", "upper", "word", "xdigit"]

/-- Reads a class with a name, behind its bracket: whether it holds all other characters. -/
def namedClass : Reader Bool
  | ':' :: cs =>
    let others := cs.head? == some '^'
    let cs := if others then cs.drop 1 else cs
    let name := cs.takeWhile (· != ':')
    match cs.drop name.length with
    | ':' :: ']' :: rest =>
      if classNames.contains (String.ofList name) then some (others, rest) else none
    | _ => none
  | _ => none

/-- Counts the dashes at the front of a class, which stand for themselves. -/
def dashes (m : Mode) : (rounds count : Nat) → List Char → Nat × List Char
  | rounds + 1, count, '-' :: cs => dashes m rounds (count + 1) (m.skip cs)
  | _, count, cs => (count, cs)

/-- Reads the front of a class: a sign that it holds all other characters, and dashes, or a bracket,
that stand for themselves. -/
def classFront (m : Mode) : Reader Class := fun cs =>
  let cs := m.skip cs
  let others := cs.head? == some '^'
  let cs := if others then m.skip (cs.drop 1) else cs
  if others && !m.unicode then none
  else
    match dashes m cs.length 0 cs with
    | (0, ']' :: cs) => some (⟨⟨1, 0⟩, none⟩, m.skip cs)
    | (count, cs) => some (⟨⟨count, 0⟩, none⟩, cs)

/-- Reads an item of a class: the number of a character, or none for a class. -/
def classItem (m : Mode) : Reader (Option Nat)
  | '\\' :: cs => do
    let (e, cs) ← escape m cs
    match e with
    | .char code _ => if m.unicode || code < 128 then return (some code, cs) else none
    | .kind _ | .property => if e.fits m then return (none, cs) else none
    | .edge | .wordEdge => none
  | c :: cs => if m.unicode || c.toNat < 128 then some (some c.toNat, cs) else none
  | [] => none

/-- Passes over an item of a class, or over a range between two characters. -/
def skipClassRange (m : Mode) (cs : List Char) : Option (List Char) := do
  let (first, cs) ← classItem m cs
  let cs := m.skip cs
  match cs with
  | '-' :: rest =>
    let rest := m.skip rest
    if rest.head? == some ']' || rest.head? == some '-' then return cs
    let (last, rest) ← classItem m rest
    if (← first) ≤ (← last) then return rest else none
  | _ => return cs

/-- Reads a class behind its front: how deeply it nests.  The classes around it are in `around`,
the inner ones first.  Each round takes a character at least. -/
def classDepth (m : Mode) : (rounds : Nat) → Class → (around : List Class) → Reader Nat
  | 0, _, _, _ => none
  | rounds + 1, c, around, cs =>
    match m.skip cs with
    | [] => none
    | ']' :: cs =>
      match around with
      | [] => some (c.depth + 1, cs)
      | outer :: around => classDepth m rounds (outer.add (c.depth + 1)) around cs
    | '[' :: cs =>
      match namedClass cs with
      | some (others, cs) =>
        if others && !m.unicode then none else classDepth m rounds (c.add 0) around cs
      | none => do
        let (inner, cs) ← classFront m cs
        classDepth m rounds inner (c :: around) cs
    | '&' :: '&' :: cs | '-' :: '-' :: cs | '~' :: '~' :: cs =>
      classDepth m rounds c.operated around cs
    | cs => do classDepth m rounds (c.add 0) around (← skipClassRange m cs)

/-! ### Whole patterns -/

/-- What has been read of a group, or of the whole pattern. -/
structure Group where
  mode : Mode
  /-- The alternatives before the last one. -/
  alternatives : Row
  /-- The items of the last alternative. -/
  items : Row
  /-- How deeply the item nests that can be repeated next. -/
  last : Option Nat
  deriving DecidableEq, Repr, Inhabited

namespace Group

/-- A group of which nothing has been read. -/
def start (m : Mode) : Group := ⟨m, .empty, .empty, none⟩

/-- The group with one more item. -/
def add (g : Group) (depth : Nat) : Group :=
  { g with items := g.items.add depth, last := some depth }

/-- The group with flags for what follows, which cannot be repeated. -/
def set (g : Group) (m : Mode) : Group := { g with mode := m, items := g.items.add 0, last := none }

/-- The group with its last item repeated, if there is one. -/
def repeated (g : Group) : Option Group :=
  g.last.map fun d =>
    { g with items := ⟨g.items.count, max g.items.deepest (d + 1)⟩, last := some (d + 1) }

/-- The group at the start of a further alternative. -/
def alternative (g : Group) : Group :=
  { start g.mode with alternatives := g.alternatives.add g.items.depth }

/-- How deeply what is inside the group nests. -/
def depth (g : Group) : Nat := (g.alternatives.add g.items.depth).depth

end Group

/-- What follows the sign that a repetition takes as little as it can. -/
def afterLazy : List Char → List Char
  | '?' :: cs => cs
  | cs => cs

/-- Whether a text completes a pattern.  The groups around the place are in `around`, the inner
ones first, and `names` are those of the groups so far.  Each round takes a character at least. -/
def completes : (rounds : Nat) → (names : List (List Char)) → Group → (around : List Group) →
    List Char → Bool
  | 0, _, _, _, _ => false
  | rounds + 1, names, g, around, cs =>
    match g.mode.skip cs with
    | [] => around.isEmpty && g.depth ≤ nestLimit
    | '(' :: cs =>
      match opening g.mode cs with
      | some (.setting m, cs) => completes rounds names (g.set m) around cs
      | some (.group m name, cs) =>
        !name.any names.contains &&
          completes rounds (name.toList ++ names) (.start m) (g :: around) cs
      | none => false
    | ')' :: cs =>
      match around with
      | [] => false
      | outer :: around => completes rounds names (outer.add (g.depth + 1)) around cs
    | '|' :: cs => completes rounds names g.alternative around cs
    | '[' :: cs =>
      match (classFront g.mode cs).bind fun (c, cs) =>
          classDepth g.mode (cs.length + 1) c [] cs with
      | some (depth, cs) => completes rounds names (g.add depth) around cs
      | none => false
    | '*' :: cs | '+' :: cs | '?' :: cs =>
      match g.repeated with
      | some g => completes rounds names g around (afterLazy cs)
      | none => false
    | '\x7b' :: _ => false
    | '.' :: cs => g.mode.unicode && completes rounds names (g.add 0) around cs
    | '\\' :: cs =>
      match escape g.mode cs with
      | some (e, cs) => e.fits g.mode && completes rounds names (g.add 0) around cs
      | none => false
    | _ :: cs => completes rounds names (g.add 0) around cs

end Pattern

/-- Whether a text is a pattern. -/
def isPattern (cs : List Char) : Bool :=
  Pattern.completes (cs.length + 1) [] (.start ⟨false, true⟩) [] cs

end Biomes
