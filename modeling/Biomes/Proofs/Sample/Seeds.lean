import Biomes.Sample.Landscape
import Mathlib

/-!
# The seeds of the sample landscape

The seeds of the temperatures and of the wetness are offset before they are folded, and folding takes
a seed and its complement to the same word.  So two of the three seeds agree where an offset leads to
the complement, and nowhere else (`Sample.foldSeed_add_eq_iff`).  This is so for four seeds of the
landscape (`Sample.seeds_agree_iff`).
-/

namespace Biomes.Sample

variable {s t d : UInt64}

/-! ### Halves -/

/-- The upper half of a seed. -/
def highHalf (s : UInt64) : UInt32 := (s >>> 32).toUInt32

/-- The lower half of a seed. -/
def lowHalf (s : UInt64) : UInt32 := s.toUInt32

theorem toNat_highHalf (s : UInt64) : (highHalf s).toNat = s.toNat / 2 ^ 32 := by
  have hs := s.toNat_lt
  rw [highHalf, UInt64.toNat_toUInt32, UInt64.toNat_shiftRight, Nat.shiftRight_eq_div_pow]
  show s.toNat / 2 ^ 32 % 2 ^ 32 = s.toNat / 2 ^ 32
  omega

theorem toNat_lowHalf (s : UInt64) : (lowHalf s).toNat = s.toNat % 2 ^ 32 := by
  simp [lowHalf]

theorem eq_of_halves (hhigh : highHalf s = highHalf t) (hlow : lowHalf s = lowHalf t) : s = t := by
  have hhigh := congrArg UInt32.toNat hhigh
  have hlow := congrArg UInt32.toNat hlow
  rw [toNat_highHalf, toNat_highHalf] at hhigh
  rw [toNat_lowHalf, toNat_lowHalf] at hlow
  apply UInt64.toNat_inj.mp
  omega

theorem highHalf_not (s : UInt64) : highHalf (~~~s) = ~~~highHalf s := by
  have hs := s.toNat_lt
  apply UInt32.toNat_inj.mp
  rw [toNat_highHalf, UInt64.toNat_not, UInt32.toNat_not, toNat_highHalf, UInt64.size, UInt32.size]
  omega

theorem lowHalf_not (s : UInt64) : lowHalf (~~~s) = ~~~lowHalf s := by
  simp [lowHalf]

theorem toNat_lowHalf_add (s d : UInt64) :
    (lowHalf (s + d)).toNat = ((lowHalf s).toNat + d.toNat) % 2 ^ 32 := by
  rw [toNat_lowHalf, toNat_lowHalf, UInt64.toNat_add]
  omega

/-- Without a carry the upper half stays. -/
theorem highHalf_add_of_lt (h : (lowHalf s).toNat + d.toNat < 2 ^ 32) :
    highHalf (s + d) = highHalf s := by
  have hs := s.toNat_lt
  rw [toNat_lowHalf] at h
  apply UInt32.toNat_inj.mp
  rw [toNat_highHalf, toNat_highHalf, UInt64.toNat_add]
  omega

/-- A carry adds one to the upper half, and is lost above it. -/
theorem highHalf_add_of_le (hd : d.toNat < 2 ^ 32) (h : 2 ^ 32 ≤ (lowHalf s).toNat + d.toNat) :
    highHalf (s + d) = highHalf s + 1 := by
  have hs := s.toNat_lt
  rw [toNat_lowHalf] at h
  apply UInt32.toNat_inj.mp
  rw [UInt32.toNat_add, toNat_highHalf, toNat_highHalf, UInt64.toNat_add, UInt32.toNat_one]
  omega

/-! ### Folding -/

theorem foldSeed_eq (s : UInt64) : foldSeed s = highHalf s ^^^ lowHalf s := by
  rw [foldSeed, UInt64.toUInt32_xor, UInt32.xor_comm]
  rfl

/-- Both halves of the complement are complements, so that they fold into the same word. -/
theorem foldSeed_not (s : UInt64) : foldSeed (~~~s) = foldSeed s := by
  rw [foldSeed_eq, foldSeed_eq, highHalf_not, lowHalf_not, UInt32.not_xor, UInt32.xor_not,
    UInt32.not_not]

theorem testBit_last (a : UInt32) : a.toNat.testBit 31 = decide (2 ^ 31 ≤ a.toNat) := by
  have ha := a.toNat_lt
  rw [Nat.testBit_eq_decide_div_mod_eq, decide_eq_decide]
  omega

/-- Adding one changes the last bit of a word only if it changes all of them. -/
theorem succ_eq_not {a : UInt32} (h : 2 ^ 31 ≤ (a + 1).toNat ↔ a.toNat < 2 ^ 31) :
    a + 1 = ~~~a := by
  have ha := a.toNat_lt
  apply UInt32.toNat_inj.mp
  rw [UInt32.toNat_add, UInt32.toNat_one] at h ⊢
  rw [UInt32.toNat_not, UInt32.size]
  omega

/-- If the carry of an offset leaves the folded word as it is, both halves are complemented. -/
theorem add_eq_not_of_carry (hd : d.toNat ≤ 2 ^ 31) (hcarry : 2 ^ 32 ≤ (lowHalf s).toNat + d.toNat)
    (h : foldSeed (s + d) = foldSeed s) : s + d = ~~~s := by
  have hsucc : highHalf (s + d) = highHalf s + 1 := highHalf_add_of_le (by omega) hcarry
  have hlow := toNat_lowHalf_add s d
  have hlt := (lowHalf s).toNat_lt
  rw [foldSeed_eq, foldSeed_eq] at h
  -- The carry takes the last bit of the lower half away, so it has to change that of the upper one.
  have hlast : 2 ^ 31 ≤ (highHalf (s + d)).toNat ↔ (highHalf s).toNat < 2 ^ 31 := by
    have hbit := congrArg (fun a : UInt32 => a.toNat.testBit 31) h
    simp only [UInt32.toNat_xor, Nat.testBit_xor, testBit_last] at hbit
    rwa [decide_eq_true (show 2 ^ 31 ≤ (lowHalf s).toNat by omega),
      decide_eq_false (show ¬2 ^ 31 ≤ (lowHalf (s + d)).toNat by omega), Bool.xor_false,
      Bool.xor_true, ← decide_not, decide_eq_decide, Nat.not_le] at hbit
  have hhigh : highHalf (s + d) = ~~~highHalf s := by
    rw [hsucc] at hlast ⊢
    exact succ_eq_not hlast
  rw [hhigh, UInt32.not_xor, ← UInt32.xor_not, UInt32.xor_right_inj] at h
  apply eq_of_halves
  · rw [hhigh, highHalf_not]
  · rw [lowHalf_not, ← h, UInt32.not_not]

/-- **A small offset leaves the folded word as it is if and only if it complements the seed.** -/
theorem foldSeed_add_eq_iff (hpos : 0 < d.toNat) (hd : d.toNat ≤ 2 ^ 31) :
    foldSeed (s + d) = foldSeed s ↔ s + d = ~~~s := by
  constructor
  · intro h
    rcases Nat.lt_or_ge ((lowHalf s).toNat + d.toNat) (2 ^ 32) with hlt | hcarry
    · -- Only the lower half has changed, and so has the folded word.
      rw [foldSeed_eq, foldSeed_eq, highHalf_add_of_lt hlt, UInt32.xor_right_inj] at h
      have hlow := toNat_lowHalf_add s d
      rw [h] at hlow
      omega
    · exact add_eq_not_of_carry hd hcarry h
  · intro h
    rw [h, foldSeed_not]

/-- An offset complements a seed if and only if twice the seed and the offset make up all ones. -/
theorem add_eq_not_iff : s + d = ~~~s ↔ (2 * s.toNat + d.toNat + 1) % 2 ^ 64 = 0 := by
  have hs := s.toNat_lt
  have hd := d.toNat_lt
  rw [← UInt64.toNat_inj, UInt64.toNat_add, UInt64.toNat_not, UInt64.size]
  omega

/-! ### The seeds -/

/-- **The seeds of the heights, the temperatures and the wetness are pairwise different, but for four
seeds of the landscape.**  For two of these the temperatures have the seed of the heights, and for
two that of the wetness; heights and wetness never share a seed. -/
theorem seeds_agree_iff (s : UInt64) :
    (heightSeed s = temperatureSeed s ↔ s = 0x7FFFFFFFFFFFD089 ∨ s = 0xFFFFFFFFFFFFD089) ∧
      heightSeed s ≠ wetnessSeed s ∧
      (temperatureSeed s = wetnessSeed s ↔ s = 0x7FFFFFFFFFFF67A2 ∨ s = 0xFFFFFFFFFFFF67A2) := by
  have hs := s.toNat_lt
  refine ⟨?_, ?_, ?_⟩
  · rw [eq_comm, temperatureSeed, heightSeed, foldSeed_add_eq_iff (by decide) (by decide),
      add_eq_not_iff]
    simp only [← UInt64.toNat_inj, UInt64.reduceToNat]
    omega
  · -- The offset of the wetness is even, and the sum is odd.
    rw [ne_comm, wetnessSeed, heightSeed, Ne, foldSeed_add_eq_iff (by decide) (by decide),
      add_eq_not_iff]
    simp only [UInt64.reduceToNat]
    omega
  · -- From the temperatures to the wetness there is another small offset.
    have hsplit : s + 0xD1CE = s + 0x5EED + 0x72E1 := by
      rw [UInt64.add_assoc]
      rfl
    rw [eq_comm, temperatureSeed, wetnessSeed, hsplit, foldSeed_add_eq_iff (by decide) (by decide),
      add_eq_not_iff]
    simp only [← UInt64.toNat_inj, UInt64.toNat_add, UInt64.reduceToNat]
    omega

/-- One of the four: the offset of the temperatures takes it to its complement. -/
theorem heightSeed_eq_temperatureSeed :
    heightSeed 0xFFFFFFFFFFFFD089 = 0x2F76 ∧ temperatureSeed 0xFFFFFFFFFFFFD089 = 0x2F76 := by
  decide

end Biomes.Sample
