import Biomes.Decimal.Float
import Biomes.Record

/-!
# Reports

A report is a list of records, which may break off.  This is what the reports have in common: who
speaks in them, how columns are filled up, and how quantities are rounded.
-/

namespace Biomes

/-- What is said in the course of some work. -/
structure Report where
  records : List Record
  /-- Whether the work came to its end. -/
  isComplete : Bool
  deriving Repr

namespace Report

/-- A report that goes on with another one, unless it breaks off. -/
def andThen (r : Report) (next : Report) : Report :=
  if r.isComplete then ⟨r.records ++ next.records, next.isComplete⟩ else r

/-- The report of work that came to its end. -/
def complete (records : List Record) : Report := ⟨records, true⟩

/-! ### Lines -/

/-- A record of a report. -/
def say (level : Level) (message : String) : Record :=
  { level, target := "biome_demo", message, fields := [] }

/-- An ordinary line of a report. -/
def line (message : String) : Record := say .info message

/-- A quantity with three places. -/
def rounded (x : Float32) : String := Decimal.fixedText 3 x.toModel.unpack

/-- Blanks that fill a text up to a width. -/
def filling (width : Nat) (s : String) : String :=
  String.ofList (List.replicate (width - s.length) ' ')

/-- A text at the left of a column. -/
def atLeft (width : Nat) (s : String) : String := s ++ filling width s

/-- A text at the right of a column. -/
def atRight (width : Nat) (s : String) : String := filling width s ++ s

end Report

end Biomes
