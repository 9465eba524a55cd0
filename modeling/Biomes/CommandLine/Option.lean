import Biomes.Notation.Number
import Biomes.Settings.Basic

/-!
# The options of the command line

Every option takes one value and may be given once.  `Arguments.assign` reads the value of an
option; `Arguments.override` puts what was given in the place of the settings.
-/

namespace Biomes

/-- An option of the command line. -/
inductive OptionName where
  | gridSize
  | seed
  | warningLimit
  | dumpTree
  | logLevel
  | config
  deriving DecidableEq, Repr, Inhabited

namespace OptionName

/-- All options, in the order in which help lists them. -/
def all : List OptionName := [.gridSize, .seed, .warningLimit, .dumpTree, .logLevel, .config]

/-- The name that is written after two dashes. -/
def name : OptionName → String
  | .gridSize => "grid-size"
  | .seed => "seed"
  | .warningLimit => "warning-limit"
  | .dumpTree => "dump-tree"
  | .logLevel => "log-level"
  | .config => "config"

/-- The option with a name. -/
def ofName? (s : String) : Option OptionName := all.find? (·.name == s)

theorem ofName?_name (o : OptionName) : ofName? o.name = some o := by cases o <;> decide

end OptionName

/-- What was given on the command line. -/
structure Arguments where
  gridSize : Option UInt32
  seed : Option UInt64
  warningLimit : Option UInt32
  dumpTree : Option Bool
  logLevel : Option String
  /-- The directory in which settings are kept. -/
  config : Option String
  deriving DecidableEq, Repr, Inhabited

/-- Why a command line is refused. -/
inductive UsageError where
  /-- A word is neither an option nor the value of one. -/
  | unknownArgument
  /-- An option has no value, or one that it cannot have. -/
  | invalidValue
  /-- A value is not a number in the option's range. -/
  | badNumber
  /-- An option is given twice. -/
  | repeated
  /-- The request for help is given a value. -/
  | unwantedValue
  deriving DecidableEq, Repr

/-- The wording of a refused command line. -/
def UsageError.message : UsageError → String
  | .unknownArgument => "error: unexpected argument found"
  | .invalidValue => "error: a value is missing or not allowed"
  | .badNumber => "error: a value is not a number in range"
  | .repeated => "error: an option is given more than once"
  | .unwantedValue => "error: help takes no value"

/-! ### Values -/

/-- A text as a whole number: a sign, if signs are allowed, and digits. -/
def wholeNumber? (signs : List Char) (s : String) : Option Int :=
  let (digits, negative) := match s.toList with
    | c :: cs => if signs.contains c then (cs, c == '-') else (c :: cs, false)
    | [] => ([], false)
  if digits.isEmpty || !digits.all Char.isDigit then none
  else
    let n : Int := Notation.decimalValue digits
    some (if negative then -n else n)

/-- A 32-bit number.  It is read as a whole number with a sign, so that zero may carry a minus. -/
def word32? (s : String) : Option UInt32 := do
  let n ← wholeNumber? ['+', '-'] s
  if 0 ≤ n ∧ n.toNat < UInt32.size then return UInt32.ofNat n.toNat else none

/-- A 64-bit number, without a minus. -/
def word64? (s : String) : Option UInt64 := do
  let n ← wholeNumber? ['+'] s
  if n.toNat < UInt64.size then return UInt64.ofNat n.toNat else none

/-- A truth value, as it is written in full. -/
def truth? : String → Option Bool
  | "true" => some true
  | "false" => some false
  | _ => none

namespace Arguments

/-- Nothing was given. -/
def empty : Arguments := ⟨none, none, none, none, none, none⟩

/-- Whether an option was given. -/
def given (a : Arguments) : OptionName → Bool
  | .gridSize => a.gridSize.isSome
  | .seed => a.seed.isSome
  | .warningLimit => a.warningLimit.isSome
  | .dumpTree => a.dumpTree.isSome
  | .logLevel => a.logLevel.isSome
  | .config => a.config.isSome

/-- Reads the value of an option. -/
def read (a : Arguments) (o : OptionName) (v : String) : Except UsageError Arguments :=
  match o with
  | .gridSize => orElse .badNumber ((word32? v).map fun n => { a with gridSize := some n })
  | .seed => orElse .badNumber ((word64? v).map fun n => { a with seed := some n })
  | .warningLimit => orElse .badNumber ((word32? v).map fun n => { a with warningLimit := some n })
  | .dumpTree => orElse .invalidValue ((truth? v).map fun b => { a with dumpTree := some b })
  | .logLevel => .ok { a with logLevel := some v }
  | .config => if v.isEmpty then .error .invalidValue else .ok { a with config := some v }
where
  orElse (e : UsageError) : Option Arguments → Except UsageError Arguments
    | some a => .ok a
    | none => .error e

/-- Gives an option what follows it.  A missing value is refused before a repeated option, and
that before an unfit value. -/
def assign (a : Arguments) (o : OptionName) (value : Option String) : Except UsageError Arguments :=
  match value with
  | none => .error .invalidValue
  | some v => if a.given o then .error .repeated else a.read o v

/-- Settings with what was given in the place of what they hold. -/
def override (a : Arguments) (s : Settings) : Settings :=
  { s with
    compile := { s.compile with dumpTree := a.dumpTree.getD s.compile.dumpTree }
    classify :=
      { s.classify with
        unmatchedWarningLimit := a.warningLimit.getD s.classify.unmatchedWarningLimit }
    demo :=
      { s.demo with gridSize := a.gridSize.getD s.demo.gridSize, seed := a.seed.getD s.demo.seed }
    debug := { logLevel := a.logLevel.getD s.debug.logLevel } }

end Arguments

end Biomes
