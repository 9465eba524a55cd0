import Biomes.Proofs.Single.Order
import Biomes.Settings.Basic

/-!
# Which settings can be worked with

The check is a conjunction of four bounds (`check_eq_ok_iff`).  On single precision numbers it asks
for what is not below zero, or not at most zero, and is a number at all: that is, for what is at
least zero, or above it.
-/

namespace Biomes.Single

/-! ### Comparisons with zero, and with itself -/

variable (x : Float32)

/-- What is a number and not below zero is at least zero. -/
theorem zero_le_iff : 0 ≤ x ↔ ¬(x.isNaN = true ∨ x < 0) := by
  cases hx : x.isNaN with
  | true =>
    refine iff_of_false (fun h => ?_) (by simp)
    rw [(isNaN_of_le h).2] at hx
    cases hx
  | false => simp [lt_iff_not_le hx (y := 0) rfl]

/-- What is a number and not at most zero is above zero. -/
theorem zero_lt_iff : 0 < x ↔ ¬(x.isNaN = true ∨ x ≤ 0) := by
  cases hx : x.isNaN with
  | true =>
    refine iff_of_false (fun h => ?_) (by simp)
    rw [(isNaN_of_le (le_of_lt h)).2] at hx
    cases hx
  | false => simp [lt_iff_not_le (x := 0) rfl hx]

/-- Only `NaN` differs from itself. -/
theorem beq_self_iff : (x == x) = true ↔ x.isNaN = false := by
  rw [beq_iff_place]
  exact ⟨fun ⟨_, hi, _⟩ => isNaN_of_place hi, fun h => (exists_place h).imp fun _ hi => ⟨hi, hi⟩⟩

end Biomes.Single

namespace Biomes.Settings

/-- What the check asks of settings. -/
structure IsUsable (s : Settings) : Prop where
  coverageTolerance : 0 ≤ s.compile.coverageTolerance
  blendCount : 1 ≤ s.classify.blendCount
  gridSize : 1 ≤ s.demo.gridSize
  cellStep : 0 < s.demo.cellStep

theorem one_le_iff (n : UInt32) : 1 ≤ n ↔ n ≠ 0 := by
  rw [UInt32.le_iff_toNat_le, ne_eq, ← UInt32.toNat_inj]
  exact Nat.one_le_iff_ne_zero

/-- **The check accepts exactly what can be worked with.** -/
theorem check_eq_ok_iff (s : Settings) : s.check = .ok () ↔ s.IsUsable := by
  unfold check
  constructor
  · intro h
    split at h
    · cases h
    · rename_i htolerance
      split at h
      · cases h
      · rename_i hblend
        split at h
        · cases h
        · rename_i hsize
          split at h
          · cases h
          · rename_i hstep
            rw [Bool.or_eq_true, decide_eq_true_iff] at htolerance hstep
            exact ⟨(Single.zero_le_iff _).mpr htolerance, (one_le_iff _).mpr hblend,
              (one_le_iff _).mpr hsize, (Single.zero_lt_iff _).mpr hstep⟩
  · rintro ⟨htolerance, hblend, hsize, hstep⟩
    rw [if_neg (by simpa using (Single.zero_le_iff _).mp htolerance),
      if_neg ((one_le_iff _).mp hblend), if_neg ((one_le_iff _).mp hsize),
      if_neg (by simpa using (Single.zero_lt_iff _).mp hstep)]

/-- An empty grid is what the check finds, if there is nothing to find before it. -/
theorem check_of_gridSize {s : Settings} (htolerance : 0 ≤ s.compile.coverageTolerance)
    (hblend : 1 ≤ s.classify.blendCount) (hsize : s.demo.gridSize = 0) :
    s.check = .error .gridSize := by
  unfold check
  rw [if_neg (by simpa using (Single.zero_le_iff _).mp htolerance),
    if_neg ((one_le_iff _).mp hblend), if_pos hsize]

/-- Whether all numbers of settings are numbers. -/
structure NoNaN (s : Settings) : Prop where
  coverageTolerance : s.compile.coverageTolerance.isNaN = false
  cellStep : s.demo.cellStep.isNaN = false
  waterLevel : s.demo.waterLevel.value.isNaN = false
  maxHeight : s.demo.maxHeight.value.isNaN = false

theorem agree_self_iff (s : Settings) : s.agree s = true ↔ s.NoNaN := by
  unfold agree
  simp only [beq_self_eq_true, Bool.and_true, Bool.and_eq_true, Single.beq_self_iff]
  constructor
  · rintro ⟨⟨⟨h₁, h₂⟩, h₃⟩, h₄⟩
    exact ⟨h₁, h₂, h₃, h₄⟩
  · rintro ⟨h₁, h₂, h₃, h₄⟩
    exact ⟨⟨⟨h₁, h₂⟩, h₃⟩, h₄⟩

end Biomes.Settings
