import Biomes.Decimal.Float
import Biomes.Record
import Biomes.Single

/-!
# Records on a console

A record is shown as its level, its target, its message and its fields, in one line, unless the
message itself holds line breaks.
-/

namespace Biomes

/-- A field's value on the console.  Quantities are shown in double precision. -/
def FieldValue.written : FieldValue → String
  | .count n => toString n
  | .quantity x => doubleText .general (Single.toDouble x)
  | .text s => s

namespace Record

/-- A record on the console. -/
def text (r : Record) : String :=
  s!"{r.level.name} {r.target}: {r.message}" ++
    String.join (r.fields.map fun (name, value) => s!" {name}={value.written}")

/-- The lines of a record on the console. -/
def lines (r : Record) : List String := (r.text.toList.splitOn '\n').map String.ofList

end Record

end Biomes
