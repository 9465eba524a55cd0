import Biomes.Compile.Classifier
import Biomes.Grid.Region
import Biomes.Grid.WarningBudget

/-!
# Classification passes

`Classifier.chart` classifies every cell of a region and draws the map.  Cells that no branch
accepts stay without a biome; they are warned about within a budget.  A pass is refused before the
first build, when a set of samples does not fit the grid, and when the map would have more cells
than a vector holds; then the region stays as it is.  Volumetric samples only get an empty cube.
-/

namespace Biomes

/-- The options of a pass. -/
structure PassOptions where
  /-- How many biomes to blend.  More than one is not supported, and noted. -/
  blendCount : Nat
  maxWarnings : Nat
  deriving DecidableEq, Repr, Inhabited

/-- The usual options. -/
def PassOptions.standard : PassOptions := ⟨1, 300⟩

/-- The outcome of a pass in numbers. -/
structure PassStats where
  assigned : Nat
  unassigned : Nat
  emitted : Nat
  suppressed : Nat
  deriving DecidableEq, Repr, Inhabited

/-- A pass over no cells. -/
def PassStats.zero : PassStats := ⟨0, 0, 0, 0⟩

/-- Why a pass is refused. -/
inductive PassError where
  | notBuilt
  | sampleLength (field : String) (expected actual : Nat)
  /-- The number of cells is not a machine word. -/
  | tooManyCells (side : UInt64)
  /-- The map would have more cells than a vector holds. -/
  | mapTooLarge (side : UInt64)
  deriving DecidableEq, Repr

/-- The wording of a refused pass. -/
def PassError.message : PassError → String
  | .notBuilt => "switch tree has not been built"
  | .sampleLength field expected actual => s!"{field} holds {actual} samples, expected {expected}"
  | .tooManyCells _ => "attempt to multiply with overflow"
  | .mapTooLarge _ => "capacity overflow"

/-- What a pass leaves behind. -/
structure Pass where
  outcome : Except PassError PassStats
  region : Region
  records : Array Record

/-! ### Records of a pass -/

namespace Pass

/-- A record of a pass. -/
def say (level : Level) (message : String) (fields : List (String × FieldValue)) : Record :=
  { level, target := "biome_switch::classify", message, fields }

/-- Blending was asked for. -/
def blendingIgnored (n : Nat) : Record :=
  say .debug "biome blending is not supported, writing nearest biome only"
    [("blend_count", .count n)]

/-- There is nothing to map. -/
def noTerrain : Record := say .debug "no terrain to classify" []

/-- There are volumetric samples. -/
def volumeIgnored (side : UInt64) : Record :=
  say .debug "volumetric biome maps are not implemented, map left empty"
    [("size", .count side.toNat)]

/-- No branch accepts a cell. -/
def unmatched (x y : Nat) (p : Point) : Record :=
  say .warn
    (s!"can't choose biome with water: {p.flag .water}, temp: {shown p.temperature}, " ++
      s!"wet: {shown p.wetness}, height: {shown p.height}")
    [("x", .count x), ("y", .count y)]

end Pass

/-! ### The cells of a pass -/

/-- What a pass over cells has collected so far. -/
structure Tally (cells : Nat) where
  /-- The biomes of the cells, row by row. -/
  biomes : Vector (Option BiomeId) cells
  present : Array BiomeId
  assigned : Nat
  unassigned : Nat
  budget : WarningBudget
  records : Array Record

/-- Where a cell of a grid is stored. -/
def cellIndex {side : Nat} (x y : Fin side) : Fin (side * side) :=
  ⟨x * side + y, by
    calc x * side + y < x * side + side := Nat.add_lt_add_left y.isLt _
      _ = (x + 1) * side := (Nat.succ_mul _ _).symm
      _ ≤ side * side := Nat.mul_le_mul_right _ x.isLt⟩

namespace Tally

/-- A pass before its first cell. -/
def start (cells maxWarnings : Nat) (records : Array Record) : Tally cells :=
  { biomes := .replicate cells none, present := #[], assigned := 0, unassigned := 0,
    budget := .ofMax maxWarnings, records }

variable {cells : Nat}

/-- Enters the biome of a cell. -/
def assign (t : Tally cells) (i : Fin cells) (b : BiomeId) : Tally cells :=
  { t with
    biomes := t.biomes.set i (some b)
    present := if t.present.contains b then t.present else t.present.push b
    assigned := t.assigned + 1 }

/-- Counts a cell without a biome, and warns about it if the budget allows. -/
def miss (t : Tally cells) (warning : Record) : Tally cells :=
  { t with
    unassigned := t.unassigned + 1
    records := if t.budget.isOpen then t.records.push warning else t.records
    budget := t.budget.spend }

/-- Classifies a cell. -/
def visit (c : Classifier) (r : Region) {side : Nat} (fits : r.Fits (side * side))
    (t : Tally (side * side)) (x y : Fin side) : Tally (side * side) :=
  let p := r.pointAt fits (cellIndex x y)
  match c.classify p with
  | some b => t.assign (cellIndex x y) b
  | none => t.miss (Pass.unmatched x y p)

/-- The outcome in numbers. -/
def stats (t : Tally cells) : PassStats :=
  ⟨t.assigned, t.unassigned, t.budget.emitted, t.budget.suppressed⟩

end Tally

theorem mulWord?_eq_some {a b c : Nat} (h : mulWord? a b = some c) : c = a * b := by
  unfold mulWord? at h
  split at h
  · exact (Option.some.inj h).symm
  · cases h

namespace Classifier

/-- The first set of samples that does not fit the number of cells. -/
def misfit? (r : Region) (cells : Nat) : Option PassError :=
  (r.sampleSets.find? fun (_, xs) => xs.size != cells).map fun (name, xs) =>
    .sampleLength name cells xs.size

/-- Without a misfit every set of samples fits. -/
theorem fits_of_misfit? {r : Region} {cells : Nat} (h : misfit? r cells = none) : r.Fits cells := by
  intro s hs
  rw [misfit?, Option.map_eq_none_iff, List.find?_eq_none] at h
  simpa using h s hs

/-- Maps a region whose samples fit: cell by cell, one row after the other.  The map must have fewer
cells than `vectorLimit`, which `chart` checks. -/
def chartCells (c : Classifier) (o : PassOptions) (r : Region) (side : Nat) (step : Float32)
    (records : Array Record) (fits : r.Fits (side * side)) : Pass :=
  let start := Tally.start (side * side) o.maxWarnings records
  let t := Fin.foldl side (fun t x => Fin.foldl side (fun t y => t.visit c r fits x y) t) start
  { outcome := .ok t.stats
    region := { r with map := some ⟨side, step, t.biomes.toArray⟩, present := t.present }
    records := t.records ++ t.budget.summary "unmatched biome cells" }

/-- Classifies every cell of a region and draws the map. -/
def chart (c : Classifier) (o : PassOptions) (r : Region) : Pass :=
  if !c.built then ⟨.error .notBuilt, r, #[]⟩
  else
    let records := if 1 < o.blendCount then #[Pass.blendingIgnored o.blendCount] else #[]
    match r.terrain with
    | none => ⟨.ok .zero, r, records.push Pass.noTerrain⟩
    | some terrain =>
      let side := terrain.side
      match hcells : mulWord? side.toNat side.toNat with
      | none => ⟨.error (.tooManyCells side), r, records⟩
      | some cells =>
        match hfits : misfit? r cells with
        | some e => ⟨.error e, r, records⟩
        | none =>
          if r.isVolumetric then
            ⟨.ok .zero, { r with cube := some (.blank side terrain.step) },
              records.push (Pass.volumeIgnored side)⟩
          else if vectorLimit ≤ cells then ⟨.error (.mapTooLarge side), r, records⟩
          else
            c.chartCells o r side.toNat terrain.step records
              (mulWord?_eq_some hcells ▸ fits_of_misfit? hfits)

end Classifier

end Biomes
