import Biomes.Proofs.Decimal.Rounding

/-!
# The shortest decimal is in reach

`shortest` goes from coarse grids to fine ones.  Whatever it stops at lies in the interval of the
number (`firstHit_covers`), and it stops: the number itself is a point of the grid that comes last.
-/

namespace Biomes.Decimal

namespace Reach

variable {r : Reach} {g : ℤ} {n : ℕ}

/-! ### Grids -/

theorem holds_iff : r.holds n = true ↔ r.Covers n := by
  unfold holds Covers
  split <;> simp only [Bool.and_eq_true, decide_eq_true_eq] <;> norm_cast

/-- A grid point in the interval, as a whole number and as the decimal it stands for. -/
theorem onGrid_covers_iff : (r.onGrid g).Covers n ↔ r.Covers (n * 10 ^ g) := by
  have hpos : (0 : ℚ) < tenPow (-g) := by exact_mod_cast tenPow_pos _
  have hscaled : (n : ℚ) * (r.denominator * tenPow g : ℕ) =
      n * 10 ^ g * r.denominator * tenPow (-g) := by
    push_cast
    rw [cast_tenPow g]
    ring
  unfold Covers onGrid
  dsimp only
  rw [hscaled]
  push_cast
  simp only [mul_le_mul_iff_left₀ hpos, mul_lt_mul_iff_left₀ hpos]

theorem holds_of_nearest? (h : r.nearest? = some n) : r.holds n = true := by
  unfold nearest? at h
  dsimp only at h
  grind

/-- There is a nearest whole number if the one below the value is in the interval. -/
theorem nearest?_ne_none (h : r.holds (r.value / r.denominator) = true) : r.nearest? ≠ none := by
  unfold nearest?
  dsimp only
  rw [h]
  cases r.holds (r.value / r.denominator + 1)
  · exact Option.some_ne_none _
  · dsimp only
    split <;> exact Option.some_ne_none _

/-- Where the value of a binary number falls on a grid. -/
theorem value_onGrid_ofBinary {m : ℕ} {q : ℤ} (narrow : Bool)
    (hn : (n * 10 ^ g : ℚ) = m * 2 ^ q) :
    ((ofBinary m q narrow).onGrid g).value = n * ((ofBinary m q narrow).onGrid g).denominator := by
  have htwo := cast_twoPow (q - 2)
  rw [neg_sub, zpow_sub₀ two_ne_zero] at htwo
  have hcast : ((4 * m * twoPow (q - 2) * tenPow (-g) : ℕ) : ℚ) =
      (n * (twoPow (2 - q) * tenPow g) : ℕ) := by
    push_cast
    calc (4 * m * twoPow (q - 2) * tenPow (-g) : ℚ)
        = m * 2 ^ q * twoPow (2 - q) * tenPow (-g) := by rw [htwo]; ring
      _ = n * (twoPow (2 - q) * tenPow g) := by rw [← hn, cast_tenPow g]; ring
  exact_mod_cast hcast

/-- A number `m · 2^q` lies on each grid that is at least as fine as `10^q` and the whole
numbers. -/
theorem exists_gridPoint (m : ℕ) {q : ℤ} {k : ℕ} (hk : -(k : ℤ) ≤ q) :
    ∃ n : ℕ, (n * 10 ^ (-k : ℤ) : ℚ) = m * 2 ^ q := by
  obtain ⟨j, rfl⟩ : ∃ j : ℕ, q = j - k := ⟨(q + k).toNat, by omega⟩
  refine ⟨m * 2 ^ j * 5 ^ k, ?_⟩
  have hten : (10 : ℚ) ^ k = 2 ^ k * 5 ^ k := by rw [← mul_pow]; norm_num
  rw [zpow_neg, zpow_sub₀ two_ne_zero, zpow_natCast, zpow_natCast, zpow_natCast, hten]
  push_cast
  field_simp

end Reach

/-! ### The search -/

theorem firstHit_covers {r : Reach} {g : ℤ} (last : ℤ) {steps : ℕ} (hlast : last ≤ g)
    (hsteps : g < last + steps) (hhit : (r.onGrid last).nearest? ≠ none) :
    r.Covers ((firstHit r g steps).digits * 10 ^ (firstHit r g steps).exponent) := by
  induction steps generalizing g with
  | zero => omega
  | succ steps ih =>
    unfold firstHit
    split
    · rename_i n hn
      exact Reach.onGrid_covers_iff.mp (Reach.holds_iff.mp (Reach.holds_of_nearest? hn))
    · rename_i hnone
      have hne : last ≠ g := by
        rintro rfl
        exact hhit hnone
      exact ih (by omega) (by push_cast at hsteps; omega)

/-- **The shortest decimal lies in the interval of its number.** -/
theorem shortest_covers {m : ℕ} (hm : 0 < m) (q : ℤ) (narrow : Bool) :
    (Reach.ofBinary m q narrow).Covers
      ((shortest m q narrow).digits * 10 ^ (shortest m q narrow).exponent) := by
  obtain ⟨k, hk⟩ : ∃ k : ℕ, min q 0 = -k := ⟨(-min q 0).toNat, by omega⟩
  refine firstHit_covers (min q 0) (by omega) (by omega) ?_
  obtain ⟨n, hn⟩ := Reach.exists_gridPoint m (hk ▸ min_le_left q 0)
  have hvalue := Reach.value_onGrid_ofBinary narrow (g := min q 0) (hk ▸ hn)
  have hden : 0 < ((Reach.ofBinary m q narrow).onGrid (min q 0)).denominator :=
    Nat.mul_pos (twoPow_pos _) (tenPow_pos _)
  refine Reach.nearest?_ne_none ?_
  rw [hvalue, Nat.mul_div_cancel _ hden, Reach.holds_iff, Reach.onGrid_covers_iff, hk, hn]
  exact Reach.covers_self hm

end Biomes.Decimal
