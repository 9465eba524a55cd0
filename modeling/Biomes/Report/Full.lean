import Biomes.Report.Census
import Biomes.Report.Compilation
import Biomes.Report.Ranges

/-!
# The full report

The reports of the compilation, of the classification with the compiled tree, and of the range
catalog, one after the other.
-/

namespace Biomes.Report

/-- The report of a run with some settings. -/
def full (source : Sample.NoiseSource) (s : Settings) : Report :=
  (complete (compilation s)).andThen <|
    (classification source (sampleBuild s).classifier s).andThen (complete (ranges s))

end Biomes.Report
