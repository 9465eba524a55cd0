import Biomes.CommandLine.Help

/-!
# Reading a command line

A command line is read word by word.  An option waits for its value, and is settled when the next
option begins or the words end; a word that cannot belong there is refused at once, even while a
waiting option has an unfit value.
-/

namespace Biomes

/-- What a word of a command line is. -/
inductive Word where
  /-- The mark after which no options follow. -/
  | endOfOptions
  | option (o : OptionName)
  /-- An option with its value behind an equals sign. -/
  | assigned (o : OptionName) (value : String)
  | help (form : HelpForm)
  /-- The request for help with a value. -/
  | helpWithValue
  /-- Something that looks like an option, but is none. -/
  | unknown
  | value (text : String)
  deriving DecidableEq, Repr

namespace Word

/-- The word that a name after two dashes makes, with what stands behind its equals sign. -/
def long (name : String) (value : Option String) : Word :=
  if name == "help" then if value.isSome then .helpWithValue else .help .full
  else
    match OptionName.ofName? name, value with
    | none, _ => .unknown
    | some o, none => .option o
    | some o, some v => .assigned o v

/-- What a word is, by its first characters.  A single dash and the empty word are values. -/
def ofChars : List Char → Word
  | ['-', '-'] => .endOfOptions
  | '-' :: '-' :: cs =>
    let name := cs.takeWhile (· != '=')
    let value := match cs.drop name.length with
      | _ :: v => some (String.ofList v)
      | [] => none
    long (String.ofList name) value
  | '-' :: 'h' :: _ => .help .summary
  | '-' :: _ :: _ => .unknown
  | cs => .value (String.ofList cs)

/-- What a word is. -/
def ofString (s : String) : Word := ofChars s.toList

end Word

/-- Why a command line does not lead to a run. -/
inductive Halt where
  /-- Help was asked for. -/
  | help (form : HelpForm)
  | usage (e : UsageError)
  deriving DecidableEq, Repr

/-- What has been read so far: the settled options, and the one that waits, perhaps with its
value. -/
structure Reading where
  settled : Arguments
  waiting : Option (OptionName × Option String)
  deriving DecidableEq, Repr

namespace Reading

/-- Nothing has been read yet. -/
def start : Reading := ⟨.empty, none⟩

/-- Settles the option that waits. -/
def settle (r : Reading) : Except UsageError Arguments :=
  match r.waiting with
  | none => .ok r.settled
  | some (o, v) => r.settled.assign o v

/-- Reads one word. -/
def step (r : Reading) : Word → Except Halt Reading
  | .endOfOptions => .ok r
  | .unknown => .error (.usage .unknownArgument)
  | .helpWithValue => .error (.usage .unwantedValue)
  | .value v =>
    match r.waiting with
    | some (o, none) => .ok { r with waiting := some (o, some v) }
    | some (_, some _) | none => .error (.usage .unknownArgument)
  | .help form =>
    match r.settle with
    | .ok _ => .error (.help form)
    | .error e => .error (.usage e)
  | .option o =>
    match r.settle with
    | .ok a => .ok ⟨a, some (o, none)⟩
    | .error e => .error (.usage e)
  | .assigned o v =>
    match r.settle.bind (·.assign o (some v)) with
    | .ok a => .ok ⟨a, none⟩
    | .error e => .error (.usage e)

/-- Reads words to their end.  Behind the mark that ends the options nothing may stand. -/
def run (r : Reading) : List Word → Except Halt Arguments
  | [] =>
    match r.settle with
    | .ok a => .ok a
    | .error e => .error (.usage e)
  | .endOfOptions :: _ :: _ => .error (.usage .unknownArgument)
  | w :: ws =>
    match r.step w with
    | .ok r => run r ws
    | .error h => .error h

end Reading

/-- Reads a command line. -/
def Arguments.parse (words : List String) : Except Halt Arguments :=
  Reading.start.run (words.map .ofString)

end Biomes
