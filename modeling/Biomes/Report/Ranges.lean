import Biomes.Report.Basic
import Biomes.Sample.World
import Biomes.Settings.Basic

/-!
# Report of the range catalog

Shows the cells of the sample catalog with their ranks and links, the pairs that overlap, and which
cell is found at a corner that several of them share.
-/

namespace Biomes.Report

/-- A list of numbers in brackets. -/
def bracketed (ns : Array Nat) : String :=
  "[" ++ ", ".intercalate (ns.toList.map toString) ++ "]"

/-- A cell, with its rank and its links. -/
def cellLine (spans : PerAxis Interval) (c : Cell) : Record :=
  line s!"  {c.text} (weight {rounded (c.rank spans)}, links {bracketed c.links})"

/-- Two cells, with the width of the gap between them. -/
def pairLine (c d : Cell) : Record := line s!"  {c.name} / {d.name} gap {rounded (c.gapWidth d)}"

/-- The place where the cells of lowland and highland meet. -/
def corner (top : Float32) : Point := .sample false (Sample.lowlandTop * top) 0 0.3

/-- What is found at the corner. -/
def cornerLine (k : Catalog) (top : Float32) : Record :=
  match k.find? (corner top) with
  | some c => line s!"Inclusive lookup at the shared corner picks {c.name}"
  | none => line "Inclusive lookup at the shared corner found nothing"

/-- The report of the range catalog. -/
def ranges (s : Settings) : List Record :=
  let k := Sample.catalog s.demo.maxHeight.value
  let pairs := k.overlappingPairs
  [line "Starting range catalog demonstration"] ++
  k.cells.toList.map (cellLine k.spans) ++
  [line s!"{pairs.length} overlapping pairs"] ++
  (pairs.filterMap fun (i, j) =>
    match k.cells[i]?, k.cells[j]? with
    | some c, some d => some (pairLine c d)
    | _, _ => none) ++
  [cornerLine k s.demo.maxHeight.value, line "Range catalog demonstration completed successfully"]

end Biomes.Report
