/-!
# Log records

What the library reports about its work is a list of records: a level, the part of the program
that speaks, a message, and named fields that repeat the message's data for machines.
-/

namespace Biomes

/-- How serious a record is, from the most to the least serious. -/
inductive Level where
  | error
  | warn
  | info
  | debug
  | trace
  deriving DecidableEq, Repr, Inhabited

namespace Level

/-- Zero for errors, more for less serious levels. -/
def verbosity : Level → Nat
  | .error => 0
  | .warn => 1
  | .info => 2
  | .debug => 3
  | .trace => 4

/-- The name of a level. -/
def name : Level → String
  | .error => "ERROR"
  | .warn => "WARN"
  | .info => "INFO"
  | .debug => "DEBUG"
  | .trace => "TRACE"

end Level

/-- The value of a record's field. -/
inductive FieldValue where
  | count (n : Nat)
  | quantity (x : Float32)
  | text (s : String)
  deriving Repr

/-- One report. -/
structure Record where
  level : Level
  /-- The part of the program that speaks. -/
  target : String
  message : String
  fields : List (String × FieldValue)
  /-- Whether the record also says how long the work took; the time itself is not kept. -/
  isTimed : Bool := false
  deriving Repr

/-- Whether a record has a field with a name.  The message is one, too. -/
def Record.carries (r : Record) (name : String) : Bool :=
  name == "message" || (r.isTimed && name == "elapsed_us") || r.fields.any (·.1 == name)

end Biomes
