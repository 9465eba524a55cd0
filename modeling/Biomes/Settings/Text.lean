import Biomes.Notation.Record
import Biomes.Settings.Basic

/-!
# The text of settings

Settings are kept as a record of four sections, each a record of its own.  The formats fix the
names, the order in which the settings are written, and the defaults of those that are missing.
-/

namespace Biomes.Settings

open Notation

/-- How deep the values of unknown settings may nest, in the whole text; a section takes up two
levels. -/
def nesting : Nat := 126

/-- The section on compiling. -/
def compileFormat : Format CompileSettings :=
  .record "CompileConfig"
    [.of "coverage_tolerance" .single (·.coverageTolerance)
        fun s x => { s with coverageTolerance := x },
      .of "dump_tree" .bool (·.dumpTree) fun s b => { s with dumpTree := b }]
    Settings.default.compile (nesting - 2)

/-- The section on classifying. -/
def classifyFormat : Format ClassifySettings :=
  .record "ClassifyConfig"
    [.of "unmatched_warning_limit" .word32 (·.unmatchedWarningLimit)
        fun s n => { s with unmatchedWarningLimit := n },
      .of "blend_count" .word32 (·.blendCount) fun s n => { s with blendCount := n }]
    Settings.default.classify (nesting - 2)

/-- The section on the sample landscape. -/
def demoFormat : Format DemoSettings :=
  .record "DemoConfig"
    [.of "grid_size" .word32 (·.gridSize) fun s n => { s with gridSize := n },
      .of "cell_step" .single (·.cellStep) fun s x => { s with cellStep := x },
      .of "seed" .word64 (·.seed) fun s n => { s with seed := n },
      .of "water_level" .quantity (·.waterLevel) fun s x => { s with waterLevel := x },
      .of "max_height" .quantity (·.maxHeight) fun s x => { s with maxHeight := x }]
    Settings.default.demo (nesting - 2)

/-- The section on logging. -/
def debugFormat : Format DebugSettings :=
  .record "DebugConfig"
    [.of "log_level" .text (·.logLevel) fun s t => { s with logLevel := t }]
    Settings.default.debug (nesting - 2)

/-- All settings. -/
def format : Format Settings :=
  .record "Config"
    [.of "compile" compileFormat (·.compile) fun s c => { s with compile := c },
      .of "classify" classifyFormat (·.classify) fun s c => { s with classify := c },
      .of "demo" demoFormat (·.demo) fun s d => { s with demo := d },
      .of "debug" debugFormat (·.debug) fun s d => { s with debug := d }]
    Settings.default nesting

/-- The settings that a text holds, if it is well formed. -/
def parse (text : String) : Option Settings := format.parse text

/-- The text of settings. -/
def print (s : Settings) : String := format.print s

end Biomes.Settings
