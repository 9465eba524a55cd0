import Biomes.Decimal.Float
import Biomes.Quantity

/-!
# Settings

What can be set about compiling, classifying, the sample landscape and logging.  `check` finds the
first setting that cannot be worked with.
-/

namespace Biomes

/-- How graphs are compiled. -/
structure CompileSettings where
  /-- How far the coverage of an axis may stray from one. -/
  coverageTolerance : Float32
  /-- Whether the tree is shown. -/
  dumpTree : Bool
  deriving DecidableEq, Repr, Inhabited

/-- How grids are classified. -/
structure ClassifySettings where
  unmatchedWarningLimit : UInt32
  blendCount : UInt32
  deriving DecidableEq, Repr, Inhabited

/-- What the sample landscape is like. -/
structure DemoSettings where
  /-- Cells along each side. -/
  gridSize : UInt32
  /-- World distance between neighbouring cells. -/
  cellStep : Float32
  seed : UInt64
  waterLevel : Quantity
  maxHeight : Quantity
  deriving DecidableEq, Repr, Inhabited

/-- What is logged. -/
structure DebugSettings where
  logLevel : String
  deriving DecidableEq, Repr, Inhabited

/-- All settings. -/
structure Settings where
  compile : CompileSettings
  classify : ClassifySettings
  demo : DemoSettings
  debug : DebugSettings
  deriving DecidableEq, Repr, Inhabited

/-- A setting that cannot be worked with. -/
inductive InvalidSetting where
  | coverageTolerance (x : Float32)
  | blendCount
  | gridSize
  | cellStep (x : Float32)
  deriving DecidableEq, Repr

namespace InvalidSetting

/-- The name of the setting. -/
def field : InvalidSetting → String
  | .coverageTolerance _ => "compile.coverage_tolerance"
  | .blendCount => "classify.blend_count"
  | .gridSize => "demo.grid_size"
  | .cellStep _ => "demo.cell_step"

/-- What is asked of the setting. -/
def reason : InvalidSetting → String
  | .coverageTolerance x => s!"must be non-negative, got {shown x}"
  | .blendCount | .gridSize => "must be at least 1"
  | .cellStep x => s!"must be positive, got {shown x}"

/-- The wording of a refused setting. -/
def message (e : InvalidSetting) : String := "invalid setting `" ++ e.field ++ "`: " ++ e.reason

end InvalidSetting

namespace Settings

/-- The settings that hold where nothing else is set. -/
def default : Settings where
  compile := { coverageTolerance := 1e-4, dumpTree := false }
  classify := { unmatchedWarningLimit := 300, blendCount := 1 }
  demo :=
    { gridSize := 64, cellStep := 1, seed := 0, waterLevel := .number 20, maxHeight := .number 100 }
  debug := { logLevel := "info" }

/-- The first setting that cannot be worked with, if there is one. -/
def check (s : Settings) : Except InvalidSetting Unit :=
  if s.compile.coverageTolerance.isNaN || s.compile.coverageTolerance < 0 then
    .error (.coverageTolerance s.compile.coverageTolerance)
  else if s.classify.blendCount = 0 then .error .blendCount
  else if s.demo.gridSize = 0 then .error .gridSize
  else if s.demo.cellStep.isNaN || s.demo.cellStep ≤ 0 then .error (.cellStep s.demo.cellStep)
  else .ok ()

/-- Whether two settings are the same.  Quantities are compared as numbers: the zeros are the same,
and a `NaN` is never the same. -/
def agree (s t : Settings) : Bool :=
  s.compile.coverageTolerance == t.compile.coverageTolerance &&
  s.compile.dumpTree == t.compile.dumpTree &&
  s.classify == t.classify &&
  s.demo.gridSize == t.demo.gridSize &&
  s.demo.cellStep == t.demo.cellStep &&
  s.demo.seed == t.demo.seed &&
  s.demo.waterLevel.value == t.demo.waterLevel.value &&
  s.demo.maxHeight.value == t.demo.maxHeight.value &&
  s.debug == t.debug

/-- What is logged where nothing else is said. -/
def defaultDirective : String := "info"

/-- The directive that says what is logged. -/
def directive (s : Settings) : String :=
  if s.debug.logLevel.isEmpty then defaultDirective else s.debug.logLevel

end Settings

end Biomes
