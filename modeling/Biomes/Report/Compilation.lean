import Biomes.Compile.Classifier
import Biomes.Report.Basic
import Biomes.Sample.World
import Biomes.Settings.Basic

/-!
# Report of a compilation

Compiles the graph of the sample world, and shows its biomes, the coverage of the axes, and where a
few places near the edge of lowland belong.
-/

namespace Biomes.Report

/-- The places that are looked up, with what they are called: the edge of lowland, a little above
it, and the edge under water. -/
def spots (top : Float32) : List (String × Point) :=
  let edge := Sample.lowlandTop * top
  [("boundary", .sample false edge 0.5 0.5),
    ("above boundary", .sample false (edge + 0.01) 0.5 0.5),
    ("under water", .sample true edge 0.5 0.5)]

/-- The name of a place's biome. -/
def biomeName (c : Classifier) (p : Point) : String :=
  match (c.classify p).bind c.biome? with
  | some b => b.name
  | none => "<none>"

/-- The build of the sample graph. -/
def sampleBuild (s : Settings) : Build :=
  let c := Classifier.unbuilt s.compile.coverageTolerance
  c.build (Sample.graph s.demo.maxHeight.value) Sample.entry

/-- What is shown of a classifier. -/
def compiled (s : Settings) (c : Classifier) : List Record :=
  [line s!"Compiled {c.biomes.size} biomes"] ++
  (c.biomes.toList.map fun b => line s!"  {b.id.text} {b.name}") ++
  (c.coverage.entries.map fun (a, total) => line s!"  coverage {a.name}: {rounded total}") ++
  (if s.compile.dumpTree then [line ("Switch tree:\n" ++ c.dump)] else []) ++
  ((spots s.demo.maxHeight.value).map fun (label, p) => line s!"  {label}: {biomeName c p}")

/-- The report of a compilation. -/
def compilation (s : Settings) : List Record :=
  let b := sampleBuild s
  [line "Starting switch tree compilation demonstration",
    line s!"Sample graph has {(Sample.graph s.demo.maxHeight.value).size} nodes"] ++
  b.findings.toList.map (·.record) ++ compiled s b.classifier ++
  [line "Switch tree compilation demonstration completed successfully"]

end Biomes.Report
