import Biomes.Grid.Pass
import Biomes.Report.Basic
import Biomes.Sample.Landscape

/-!
# Report of a classification

Classifies the sample landscape, and counts how many cells each biome got.
-/

namespace Biomes.Report

/-- What a pass found, in numbers. -/
structure Census where
  /-- Cells along each side. -/
  side : Nat
  stats : PassStats
  /-- The biomes of the classifier, each with the number of its cells. -/
  counts : List (Biome × Nat)
  /-- The number of biomes that occur. -/
  distinct : Nat
  deriving Repr

namespace Census

/-- Counts a cell, with one counter for each biome.  A cell without a biome is passed over, and so is
one whose biome has no counter. -/
def countCell (counts : Array Nat) : Option BiomeId → Array Nat
  | some b => counts.modify b.index (· + 1)
  | none => counts

/-- Counts the cells of a map, if there is one, with counters for the first biomes. -/
def cellCounts (biomes : Nat) (m : Option BiomeMap) : Array Nat :=
  match m with
  | some m => m.cells.foldl countCell (Array.replicate biomes 0)
  | none => Array.replicate biomes 0

/-- Takes the census of a region after a pass. -/
def take (c : Classifier) (side : Nat) (stats : PassStats) (r : Region) : Census :=
  let counts := cellCounts c.biomes.size r.map
  { side, stats
    counts := c.biomes.toList.map fun b => (b, counts[b.id.index]?.getD 0)
    distinct := r.present.size }

/-- A census in words. -/
def records (n : Census) : List Record :=
  [line (s!"Classified {n.side}x{n.side} grid: " ++
    s!"{n.stats.assigned} assigned, {n.stats.unassigned} unassigned")] ++
  (if 0 < n.stats.suppressed then
    [say .warn s!"{n.stats.suppressed} unmatched-cell warnings suppressed"] else []) ++
  (n.counts.map fun (b, count) =>
    line s!"  {atLeft 10 b.name} {atRight 6 (toString count)} cells") ++
  [line s!"Distinct biomes present: {n.distinct}",
    line "Grid classification demonstration completed successfully"]

end Census

/-- The options of a pass over the sample landscape. -/
def passOptions (s : Settings) : PassOptions :=
  ⟨s.classify.blendCount.toNat, s.classify.unmatchedWarningLimit.toNat⟩

/-- The report of a classification.  A refused pass is reported in place of the census; without room
for the samples, or noise for all cells, the report breaks off. -/
def classification (source : Sample.NoiseSource) (c : Classifier) (s : Settings) : Report :=
  let opening := [line "Starting grid classification demonstration"]
  if Sample.hasRoom s.demo && Sample.isCovered source s.demo then
    let pass := c.chart (passOptions s) (Sample.landscape source s.demo)
    .complete <| opening ++ pass.records.toList ++
      match pass.outcome with
      | .ok stats => (Census.take c s.demo.gridSize.toNat stats pass.region).records
      | .error e => [say .error s!"Classification failed: {e.message}"]
  else ⟨opening, false⟩

end Biomes.Report
