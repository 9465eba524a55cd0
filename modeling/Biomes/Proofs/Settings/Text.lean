import Biomes.Proofs.Notation.Record
import Biomes.Settings.Text

/-!
# The text of settings is read as the settings

Each section copies its parts, and the whole copies its sections: whatever the settings are, valid
or not, their text holds them (`parse_print`).
-/

namespace Biomes.Settings

open Notation

theorem compileFormat_readsBack (s : CompileSettings) : compileFormat.ReadsBack s :=
  Format.record_readsBack (by decide)
    (.cons ((Format.single_readsBack s.coverageTolerance).copies (by decide) _ _)
      (.cons ((Format.bool_readsBack s.dumpTree).copies (by decide) _ _) (.nil s))) _ _

theorem classifyFormat_readsBack (s : ClassifySettings) : classifyFormat.ReadsBack s :=
  Format.record_readsBack (by decide)
    (.cons ((Format.word32_readsBack s.unmatchedWarningLimit).copies (by decide) _ _)
      (.cons ((Format.word32_readsBack s.blendCount).copies (by decide) _ _) (.nil s))) _ _

theorem demoFormat_readsBack (s : DemoSettings) : demoFormat.ReadsBack s :=
  Format.record_readsBack (by decide)
    (.cons ((Format.word32_readsBack s.gridSize).copies (by decide) _ _)
      (.cons ((Format.single_readsBack s.cellStep).copies (by decide) _ _)
        (.cons ((Format.word64_readsBack s.seed).copies (by decide) _ _)
          (.cons ((Format.quantity_readsBack s.waterLevel).copies (by decide) _ _)
            (.cons ((Format.quantity_readsBack s.maxHeight).copies (by decide) _ _)
              (.nil s)))))) _ _

theorem debugFormat_readsBack (s : DebugSettings) : debugFormat.ReadsBack s :=
  Format.record_readsBack (by decide)
    (.cons ((Format.text_readsBack s.logLevel).copies (by decide) _ _) (.nil s)) _ _

/-- **The text of settings holds the settings.** -/
theorem parse_print (s : Settings) : parse s.print = some s :=
  Format.parse_print_record (by decide)
    (.cons ((compileFormat_readsBack s.compile).copies (by decide) _ _)
      (.cons ((classifyFormat_readsBack s.classify).copies (by decide) _ _)
        (.cons ((demoFormat_readsBack s.demo).copies (by decide) _ _)
          (.cons ((debugFormat_readsBack s.debug).copies (by decide) _ _) (.nil s))))) _ _

end Biomes.Settings
