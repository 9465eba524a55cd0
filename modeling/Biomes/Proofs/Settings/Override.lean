import Biomes.Program
import Biomes.Proofs.Settings.Store

/-!
# The settings of a run

The settings that a run loads can be worked with, and so can the default ones that it goes on with
otherwise.  The command line may then override some of them, and what it brings in is not checked:
of the bounds that the check asks for, the one on the size of the grid is all that it can break
(`Run.check_settled`).
-/

namespace Biomes

/-- What is loaded can be worked with. -/
theorem SettingsStore.check_of_load {k : SettingsStore} {s : Settings} (h : k.load.2 = .ok s) :
    s.check = .ok () := by
  refine (k.safe .load).valid s ?_
  rw [perform, h]
  rfl

/-- Of what is checked, the command line reaches the size of the grid only. -/
theorem Arguments.check_override {s : Settings} (hs : s.check = .ok ()) (a : Arguments) :
    (a.override s).check = if a.gridSize = some 0 then .error .gridSize else .ok () := by
  obtain ⟨htolerance, hblend, hsize, hstep⟩ := s.check_eq_ok_iff.mp hs
  split
  · rename_i hzero
    exact Settings.check_of_gridSize htolerance hblend (congrArg (·.getD s.demo.gridSize) hzero)
  · rename_i hzero
    refine (Settings.check_eq_ok_iff _).mpr ⟨htolerance, hblend, ?_, hstep⟩
    show 1 ≤ a.gridSize.getD s.demo.gridSize
    cases h : a.gridSize with
    | none => exact hsize
    | some n =>
      refine (Settings.one_le_iff n).mpr ?_
      rintro rfl
      exact hzero h

namespace Run

/-- **The settings of a run can be worked with, unless the command line asks for an empty grid.** -/
theorem check_settled (k : SettingsStore) (a : Arguments) :
    (settled k.load.2 a).1.check = if a.gridSize = some 0 then .error .gridSize else .ok () := by
  unfold settled
  split
  · rename_i s hload
    exact Arguments.check_override (SettingsStore.check_of_load hload) a
  · exact Arguments.check_override SettingsStore.check_default a

/-! ### An empty grid -/

/-- What a command line that asks for an empty grid leads to. -/
def emptyGrid : Arguments := { Arguments.empty with gridSize := some 0 }

/-- **An empty grid can be asked for on the command line, but not in a file.** -/
theorem check_settled_emptyGrid :
    Arguments.parse ["--grid-size", "0"] = .ok emptyGrid ∧
      (settled SettingsStore.fresh.load.2 emptyGrid).1.check = .error .gridSize ∧
      (SettingsStore.fresh.withFile (emptyGrid.override .default)).load.2 =
        .error (.invalid .gridSize) := by
  have husable := (Settings.check_eq_ok_iff _).mp SettingsStore.check_default
  have hcheck : (emptyGrid.override .default).check = .error .gridSize :=
    Settings.check_of_gridSize husable.coverageTolerance husable.blendCount rfl
  have hload : SettingsStore.fresh.load.2 = .ok .default := by
    rw [SettingsStore.load_of_absent rfl]
    rfl
  refine ⟨by decide, ?_, ?_⟩
  · rw [hload]
    exact hcheck
  · have hfound := SettingsStore.load_of_exists
      (k := .withFile .fresh (emptyGrid.override .default)) SettingsFile.noConfusion
    rw [hfound, SettingsStore.read_withFile_of_invalid hcheck]

end Run

end Biomes
