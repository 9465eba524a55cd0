import Biomes.Decimal.Float
import Mathlib

/-!
# Rounding finds the number whose interval is met

A canonical number `m · 2^q` is the one that a format writes with these two integers.  Its `Reach`
is the set of the numbers that should round to it, and the core library's rounding is shown to do
so (`roundWithAccuracy_eq`): whatever mantissa, with the bits behind it, describes a number that is
covered, it is cut and rounded to `m` and `q`.

The one hard case lies below a power of two, where the exponent changes: the number is first rounded
with the smaller exponent, to twice the mantissa, and only then cut once more
(`targetExponent_cases`).
-/

namespace Biomes.Decimal

open Float.Model (Format UnpackedFloat totalExponent)
open Float.Model.UnpackedFloat (ExtendedMantissa Accuracy Sign)

/-! ### Powers -/

theorem cast_natPow_toNat {b : ℕ} (hb : 0 < b) (k : ℤ) :
    ((Nat.pow b k.toNat : ℕ) : ℚ) = (b : ℚ) ^ k * (Nat.pow b (-k).toNat : ℕ) := by
  have hb' : (b : ℚ) ≠ 0 := by exact_mod_cast hb.ne'
  rcases le_total 0 k with hk | hk
  · obtain ⟨n, rfl⟩ := Int.eq_ofNat_of_zero_le hk
    simp
  · obtain ⟨n, hn⟩ := Int.eq_ofNat_of_zero_le (neg_nonneg.mpr hk)
    obtain rfl : k = -n := by omega
    simp [hb']

theorem cast_twoPow (k : ℤ) : (twoPow k : ℚ) = 2 ^ k * twoPow (-k) :=
  cast_natPow_toNat (by norm_num : 0 < 2) k

theorem cast_tenPow (k : ℤ) : (tenPow k : ℚ) = 10 ^ k * tenPow (-k) :=
  cast_natPow_toNat (by norm_num : 0 < 10) k

/-! ### Nearest whole numbers -/

/-- Whether a whole number is the one to which `x` is rounded: the nearest, and of two equally near
ones the even one. -/
def IsNearest (k : ℕ) (x : ℚ) : Prop :=
  (k - 1 / 2 < x ∧ x < k + 1 / 2) ∨ (k % 2 = 0 ∧ (x = k - 1 / 2 ∨ x = k + 1 / 2))

theorem IsNearest.sub_half_le {k : ℕ} {x : ℚ} (h : IsNearest k x) : (k : ℚ) - 1 / 2 ≤ x := by
  rcases h with h | ⟨-, h | h⟩ <;> linarith

theorem IsNearest.le_add_half {k : ℕ} {x : ℚ} (h : IsNearest k x) : x ≤ k + 1 / 2 := by
  rcases h with h | ⟨-, h | h⟩ <;> linarith

/-- Whether a whole number and the two bits behind it say where `x` lies. -/
def Describes (em : ExtendedMantissa) (x : ℚ) : Prop :=
  match em.roundBit, em.stickyBit with
  | false, false => x = em.mantissa
  | false, true => em.mantissa < x ∧ x < em.mantissa + 1 / 2
  | true, false => x = em.mantissa + 1 / 2
  | true, true => em.mantissa + 1 / 2 < x ∧ x < em.mantissa + 1

namespace Describes

variable {em : ExtendedMantissa} {x : ℚ}

theorem le (h : Describes em x) : (em.mantissa : ℚ) ≤ x := by
  obtain ⟨m, r, s⟩ := em
  cases r <;> cases s <;> simp only [Describes] at h ⊢ <;> linarith

theorem lt (h : Describes em x) : x < em.mantissa + 1 := by
  obtain ⟨m, r, s⟩ := em
  cases r <;> cases s <;> simp only [Describes] at h ⊢ <;> linarith

/-- Halving drops the last bit, and keeps it as the first of the two behind. -/
theorem shiftRightOne (h : Describes em x) : Describes em.shiftRightOne (x / 2) := by
  obtain ⟨m, r, s⟩ := em
  have hm : (m : ℚ) = 2 * (m / 2 : ℕ) + (m % 2 : ℕ) := by exact_mod_cast (Nat.div_add_mod m 2).symm
  rcases Nat.mod_two_eq_zero_or_one m with hbit | hbit <;>
    rw [hbit] at hm <;>
    cases r <;> cases s <;>
    simp [Describes, ExtendedMantissa.shiftRightOne, hbit, hm] at h ⊢ <;>
    first | linarith | exact ⟨by linarith, by linarith⟩

theorem shiftRight (h : Describes em x) (n : ℕ) : Describes (em >>> n) (x / 2 ^ n) := by
  show Describes (n.repeat ExtendedMantissa.shiftRightOne em) _
  induction n with
  | zero => simpa [Nat.repeat] using h
  | succ n ih =>
    rw [Nat.repeat, pow_succ, ← div_div]
    exact ih.shiftRightOne

/-- The bits suffice for rounding. -/
theorem roundedMantissa_eq (h : Describes em x) {k : ℕ} (hk : IsNearest k x) :
    em.roundedMantissa = k := by
  obtain ⟨m, r, s⟩ := em
  have hlow := hk.sub_half_le
  have hhigh := hk.le_add_half
  -- Whole numbers are compared by twice their distance.
  have hle : ∀ {a b : ℕ}, (a : ℚ) < b + 1 → a ≤ b := fun h => by
    exact Nat.lt_succ_iff.mp (by exact_mod_cast h)
  cases r <;> cases s <;> simp only [Describes] at h
  · show m = k
    exact le_antisymm (hle (by linarith)) (hle (by linarith))
  · show m = k
    exact le_antisymm (hle (by linarith)) (hle (by linarith))
  · show m + m % 2 = k
    have hmk : m ≤ k := hle (by linarith)
    have hkm : k ≤ m + 1 := hle (by push_cast; linarith)
    rcases hk with hk | ⟨heven, -⟩
    · have : m < k := by exact_mod_cast (by linarith : (m : ℚ) < k)
      have : k < m + 1 := by exact_mod_cast (by linarith : (k : ℚ) < m + 1)
      omega
    · omega
  · show m + 1 = k
    exact le_antisymm (hle (by push_cast; linarith)) (hle (by push_cast; linarith))

end Describes

/-! ### Canonical numbers -/

/-- Whether `m · 2^q` is how a format writes a number: with the exponent that the format has for
it. -/
structure Canonical (f : Format) (m : ℕ) (q : ℤ) : Prop where
  pos : 0 < m
  target : f.targetExponent (totalExponent m q) = q

variable {f : Format} {m : ℕ} {q : ℤ}

namespace Canonical

theorem log2_lt (h : Canonical f m q) : m.log2 < f.mantissaBits := by
  have := h.target
  unfold Format.targetExponent totalExponent at this
  omega

theorem lt (h : Canonical f m q) : m < 2 ^ f.mantissaBits :=
  (Nat.log2_lt h.pos.ne').mp h.log2_lt

theorem min_le (h : Canonical f m q) : f.minExponent ≤ q := by
  have := h.target
  unfold Format.targetExponent at this
  omega

/-- All bits of the mantissa are in use, or the exponent is the least. -/
theorem normal_or (h : Canonical f m q) :
    2 ^ f.mantissaBitsWithoutImplicit ≤ m ∨ q = f.minExponent := by
  have := h.target
  unfold Format.targetExponent totalExponent Format.mantissaBits at this
  rcases lt_or_ge f.minExponent q with hq | hq
  · refine .inl ((Nat.le_log2 h.pos.ne').mp ?_)
    omega
  · exact .inr (le_antisymm hq h.min_le)

end Canonical

/-! ### Reaches -/

namespace Reach

/-- Whether a number lies in the interval. -/
def Covers (r : Reach) (x : ℚ) : Prop :=
  if r.closed then r.lower ≤ x * r.denominator ∧ x * r.denominator ≤ r.upper
  else r.lower < x * r.denominator ∧ x * r.denominator < r.upper

/-- The interval in units of `2^q`. -/
theorem covers_ofBinary_iff {m : ℕ} {q : ℤ} {narrow : Bool} (hm : 0 < m) (x : ℚ) :
    (ofBinary m q narrow).Covers x ↔
      if m % 2 = 0 then
        (m : ℚ) - (if narrow then 1 / 4 else 1 / 2) ≤ x / 2 ^ q ∧ x / 2 ^ q ≤ m + 1 / 2
      else (m : ℚ) - (if narrow then 1 / 4 else 1 / 2) < x / 2 ^ q ∧ x / 2 ^ q < m + 1 / 2 := by
  have hunit : (0 : ℚ) < twoPow (q - 2) := by exact_mod_cast twoPow_pos _
  have hx : x * twoPow (2 - q) = x / 2 ^ q * (4 * twoPow (q - 2)) := by
    have hden := cast_twoPow (q - 2)
    rw [neg_sub, zpow_sub₀ (by norm_num : (2 : ℚ) ≠ 0)] at hden
    rw [hden]
    field_simp
    norm_num
  have hlower : (((4 * m - if narrow then 1 else 2) * twoPow (q - 2) : ℕ) : ℚ) =
      ((m : ℚ) - if narrow then 1 / 4 else 1 / 2) * (4 * twoPow (q - 2)) := by
    cases narrow <;> simp <;> rw [Nat.cast_sub (by omega)] <;> push_cast <;> ring
  have hupper : (((4 * m + 2) * twoPow (q - 2) : ℕ) : ℚ) =
      ((m : ℚ) + 1 / 2) * (4 * twoPow (q - 2)) := by
    push_cast
    ring
  have hpos : (0 : ℚ) < 4 * twoPow (q - 2) := by linarith
  show (if (m % 2 == 0) = true then _ else _) ↔ _
  simp only [beq_iff_eq]
  split
  · exact and_congr (by rw [ofBinary, hlower, hx, mul_le_mul_iff_left₀ hpos])
      (by rw [ofBinary, hupper, hx, mul_le_mul_iff_left₀ hpos])
  · exact and_congr (by rw [ofBinary, hlower, hx, mul_lt_mul_iff_left₀ hpos])
      (by rw [ofBinary, hupper, hx, mul_lt_mul_iff_left₀ hpos])

/-- A number is covered by its own interval. -/
theorem covers_self {m : ℕ} {q : ℤ} {narrow : Bool} (hm : 0 < m) :
    (ofBinary m q narrow).Covers (m * 2 ^ q) := by
  rw [covers_ofBinary_iff hm, mul_div_cancel_right₀ _ (by positivity)]
  have : (0 : ℚ) < if narrow then 1 / 4 else 1 / 2 := by split <;> norm_num
  split <;> exact ⟨by linarith, by linarith⟩

end Reach

/-! ### Rounding -/

theorem isNearest_of_covers (hm : 0 < m) {narrow : Bool} {x : ℚ}
    (hx : (Reach.ofBinary m q narrow).Covers x) : IsNearest m (x / 2 ^ q) := by
  rw [Reach.covers_ofBinary_iff hm] at hx
  have hquarter : (if narrow then (1 / 4 : ℚ) else 1 / 2) ≤ 1 / 2 := by split <;> norm_num
  split at hx
  · rename_i heven
    rcases lt_or_eq_of_le hx.2 with hhigh | hhigh
    · rcases lt_or_eq_of_le (show (m : ℚ) - 1 / 2 ≤ x / 2 ^ q by linarith) with hlow | hlow
      · exact .inl ⟨hlow, hhigh⟩
      · exact .inr ⟨heven, .inl hlow.symm⟩
    · exact .inr ⟨heven, .inr hhigh⟩
  · exact .inl ⟨by linarith, hx.2⟩

/-- Where a mantissa describes a number, its bits say how large the number is. -/
theorem Describes.lt_two_zpow {em : ExtendedMantissa} {x : ℚ} {e : ℤ}
    (h : Describes em (x / 2 ^ e)) : x < 2 ^ totalExponent em.mantissa e := by
  have hpos : (0 : ℚ) < 2 ^ e := by positivity
  have hx : x < (em.mantissa + 1 : ℕ) * 2 ^ e := by
    have := h.lt
    rw [div_lt_iff₀ hpos] at this
    exact_mod_cast this
  refine hx.trans_le ?_
  rw [totalExponent, zpow_add₀ (by norm_num : (2 : ℚ) ≠ 0)]
  refine mul_le_mul_of_nonneg_right ?_ hpos.le
  have : em.mantissa + 1 ≤ 2 ^ (em.mantissa.log2 + 1) := Nat.lt_log2_self
  exact_mod_cast this

theorem Describes.two_zpow_le {em : ExtendedMantissa} {x : ℚ} {e : ℤ}
    (h : Describes em (x / 2 ^ e)) (hm : em.mantissa ≠ 0) :
    2 ^ (totalExponent em.mantissa e - 1) ≤ x := by
  have hpos : (0 : ℚ) < 2 ^ e := by positivity
  have hx : (em.mantissa : ℚ) * 2 ^ e ≤ x := by
    have := h.le
    rwa [le_div_iff₀ hpos] at this
  refine le_trans ?_ hx
  rw [totalExponent, add_right_comm, add_sub_cancel_right, zpow_add₀ (by norm_num : (2 : ℚ) ≠ 0)]
  refine mul_le_mul_of_nonneg_right ?_ hpos.le
  exact_mod_cast Nat.log2_self_le hm

theorem minExponent_eq (f : Format) :
    f.minExponent = 1 - ((f.exponentBias : ℤ) + f.mantissaBitsWithoutImplicit) := by
  unfold Format.minExponent Format.exponentBias Format.mantissaBits
  have := Nat.one_le_two_pow (n := f.exponentBits - 1)
  push_cast [this]
  omega

theorem isNarrow_iff :
    isNarrow f m q = true ↔ m = 2 ^ f.mantissaBitsWithoutImplicit ∧ q ≠ f.minExponent := by
  rw [isNarrow, minExponent_eq, Bool.and_eq_true, beq_iff_eq, bne_iff_ne]
  exact Iff.rfl

/-- A power of two that is not larger bounds the exponent of what describes a number. -/
theorem Describes.lt_totalExponent {em : ExtendedMantissa} {x : ℚ} {e k : ℤ}
    (h : Describes em (x / 2 ^ e)) (hk : 2 ^ k ≤ x) : k < totalExponent em.mantissa e :=
  (zpow_lt_zpow_iff_right₀ one_lt_two).mp (hk.trans_lt h.lt_two_zpow)

/-- The exponent to which a number is rounded is not larger than that of a canonical number that
covers it. -/
theorem targetExponent_le (hc : Canonical f m q) {x : ℚ}
    (hx : (Reach.ofBinary m q (isNarrow f m q)).Covers x) {em : ExtendedMantissa} {e : ℤ}
    (hem : Describes em (x / 2 ^ e)) (he : e ≤ f.targetExponent (totalExponent em.mantissa e)) :
    f.targetExponent (totalExponent em.mantissa e) ≤ q := by
  have hpos : (0 : ℚ) < 2 ^ q := by positivity
  have hbits := f.hm
  have hp : f.mantissaBits = 1 + f.mantissaBitsWithoutImplicit := rfl
  have hmin := hc.min_le
  have htarget : f.targetExponent (totalExponent em.mantissa e) =
      max (totalExponent em.mantissa e - f.mantissaBits) f.minExponent := rfl
  by_cases hzero : em.mantissa = 0
  · rw [htarget] at he ⊢
    rw [hzero, totalExponent, Nat.log2_zero] at he ⊢
    omega
  · have hm : (m : ℚ) + 1 ≤ 2 ^ f.mantissaBits := by exact_mod_cast hc.lt
    have hhigh := (isNearest_of_covers hc.pos hx).le_add_half
    have hx' : x < 2 ^ ((f.mantissaBits : ℤ) + q) := by
      rw [zpow_add₀ two_ne_zero, zpow_natCast, ← div_lt_iff₀ hpos]
      linarith
    have := (zpow_lt_zpow_iff_right₀ one_lt_two).mp ((hem.two_zpow_le hzero).trans_lt hx')
    omega

/-- A number that has a smaller exponent than the canonical number that covers it is covered by a
power of two.  With an exponent that is smaller by one, which there is unless the exponent is the
least, twice the mantissa is nearest to it. -/
theorem isNearest_below (hc : Canonical f m q) (hfull : 2 ^ f.mantissaBitsWithoutImplicit ≤ m)
    {x : ℚ} (hx : (Reach.ofBinary m q (isNarrow f m q)).Covers x)
    (hbelow : x / 2 ^ q < 2 ^ f.mantissaBitsWithoutImplicit) :
    m = 2 ^ f.mantissaBitsWithoutImplicit ∧ (q ≠ f.minExponent →
      2 ^ f.mantissaBitsWithoutImplicit ≤ x / 2 ^ (q - 1) ∧
        IsNearest (2 ^ f.mantissaBits) (x / 2 ^ (q - 1))) := by
  have hp : f.mantissaBits = 1 + f.mantissaBitsWithoutImplicit := rfl
  have hlow := (isNearest_of_covers hc.pos hx).sub_half_le
  have hm : m = 2 ^ f.mantissaBitsWithoutImplicit := by
    refine le_antisymm (Nat.lt_succ_iff.mp ?_) hfull
    have : (m : ℚ) < (2 ^ f.mantissaBitsWithoutImplicit + 1 : ℕ) := by push_cast; linarith
    exact_mod_cast this
  refine ⟨hm, fun hq => ?_⟩
  have hclose : (m : ℚ) - 1 / 4 ≤ x / 2 ^ q := by
    rw [Reach.covers_ofBinary_iff hc.pos, isNarrow_iff.mpr ⟨hm, hq⟩] at hx
    split at hx
    · exact hx.1
    · exact hx.1.le
  have hhalf : x / 2 ^ (q - 1) = 2 * (x / 2 ^ q) := by
    rw [zpow_sub_one₀ two_ne_zero]
    field_simp
  have hm' : (m : ℚ) = 2 ^ f.mantissaBitsWithoutImplicit := by exact_mod_cast hm
  have hone : (1 : ℚ) ≤ 2 ^ f.mantissaBitsWithoutImplicit := one_le_pow₀ one_le_two
  have hpow : ((2 ^ f.mantissaBits : ℕ) : ℚ) = 2 * 2 ^ f.mantissaBitsWithoutImplicit := by
    rw [hp, pow_add]
    push_cast
    rfl
  rw [IsNearest, hpow, hhalf]
  refine ⟨by linarith, ?_⟩
  rcases eq_or_lt_of_le hclose with hcorner | hinside
  · exact .inr ⟨by rw [hp, pow_add]; omega, .inl (by linarith)⟩
  · exact .inl ⟨by linarith, by linarith⟩

/-- The exponent to which a number is rounded, if it is covered by a canonical one, is that of the
canonical one, unless it lies below a power of two that is approached from above. -/
theorem targetExponent_cases (hc : Canonical f m q) {x : ℚ}
    (hx : (Reach.ofBinary m q (isNarrow f m q)).Covers x) {em : ExtendedMantissa} {e : ℤ}
    (hem : Describes em (x / 2 ^ e)) (he : e ≤ f.targetExponent (totalExponent em.mantissa e)) :
    f.targetExponent (totalExponent em.mantissa e) = q ∨
      f.targetExponent (totalExponent em.mantissa e) = q - 1 ∧
        m = 2 ^ f.mantissaBitsWithoutImplicit ∧
        IsNearest (2 ^ f.mantissaBits) (x / 2 ^ (q - 1)) := by
  have hp : f.mantissaBits = 1 + f.mantissaBitsWithoutImplicit := rfl
  have hmin := hc.min_le
  have hle := targetExponent_le hc hx hem he
  have htarget : f.targetExponent (totalExponent em.mantissa e) =
      max (totalExponent em.mantissa e - f.mantissaBits) f.minExponent := rfl
  -- If a power of two lies below the number, the exponent is not less by more than one.
  have hlt : ∀ k : ℤ, 2 ^ f.mantissaBitsWithoutImplicit ≤ x / 2 ^ k →
      f.mantissaBitsWithoutImplicit + k < totalExponent em.mantissa e := fun k h => by
    refine hem.lt_totalExponent ?_
    rwa [zpow_add₀ two_ne_zero, zpow_natCast, ← le_div_iff₀ (by positivity)]
  rcases eq_or_lt_of_le hle with heq | hless
  · exact .inl heq
  right
  have hq : q ≠ f.minExponent := by omega
  have hfull := hc.normal_or.resolve_right hq
  have hbelow : x / 2 ^ q < 2 ^ f.mantissaBitsWithoutImplicit := by
    by_contra h
    have := hlt q (not_lt.mp h)
    omega
  obtain ⟨hm, hnear⟩ := isNearest_below hc hfull hx hbelow
  have := hlt (q - 1) (hnear hq).1
  exact ⟨by omega, hm, (hnear hq).2⟩

/-- Cutting a mantissa to a larger exponent. -/
theorem shiftToTargetExponent_eq {n : ℕ} {e t : ℤ} (acc : Accuracy)
    (ht : f.targetExponent (totalExponent n e) = t) (he : e ≤ t) :
    UnpackedFloat.shiftToTargetExponent f n e acc =
      (ExtendedMantissa.ofMantissaAndAccuracy n acc >>> (t - e).toNat, t) := by
  subst ht
  have hexponent : e + ((f.targetExponent (totalExponent n e) - e).toNat : ℤ) =
      f.targetExponent (totalExponent n e) := by omega
  exact congrArg (Prod.mk _) hexponent

@[simp] theorem mantissa_ofMantissaAndAccuracy (n : ℕ) (acc : Accuracy) :
    (ExtendedMantissa.ofMantissaAndAccuracy n acc).mantissa = n := by
  unfold ExtendedMantissa.ofMantissaAndAccuracy
  split <;> rfl

/-- Cutting a mantissa to a larger exponent describes the same number. -/
theorem Describes.shiftTo {em : ExtendedMantissa} {x : ℚ} {e t : ℤ} (h : Describes em (x / 2 ^ e))
    (he : e ≤ t) : Describes (em >>> (t - e).toNat) (x / 2 ^ t) := by
  have hsplit : x / 2 ^ t = x / 2 ^ e / 2 ^ (t - e).toNat := by
    rw [div_div, ← zpow_natCast, ← zpow_add₀ two_ne_zero, Int.toNat_of_nonneg (by omega),
      add_sub_cancel]
  rw [hsplit]
  exact h.shiftRight _

/-- **Rounding finds the number that covers.**  If a canonical number covers `x`, and a mantissa
with an accuracy describes `x`, it is rounded to the canonical number. -/
theorem roundWithAccuracy_eq (hc : Canonical f m q) {x : ℚ}
    (hx : (Reach.ofBinary m q (isNarrow f m q)).Covers x) {n : ℕ} {e : ℤ} {acc : Accuracy}
    (hn : Describes (.ofMantissaAndAccuracy n acc) (x / 2 ^ e))
    (he : e ≤ f.targetExponent (totalExponent n e)) (s : Sign) :
    UnpackedFloat.roundWithAccuracy f s n e acc = .finite s m q hc.pos := by
  have hcut := hn.shiftTo he
  rcases targetExponent_cases hc hx hn (by simpa using he) with ht | ⟨ht, hm, hnear⟩
  · rw [mantissa_ofMantissaAndAccuracy] at ht
    rw [ht] at he hcut
    have hfirst := shiftToTargetExponent_eq acc ht he
    have hsecond := shiftToTargetExponent_eq .exact hc.target le_rfl
    have hround := hcut.roundedMantissa_eq (isNearest_of_covers hc.pos hx)
    unfold UnpackedFloat.roundWithAccuracy
    rw [hfirst]
    dsimp only
    rw [hround, hsecond, Int.sub_self]
    exact dif_neg hc.pos.ne'
  · rw [mantissa_ofMantissaAndAccuracy] at ht
    rw [ht] at he hcut
    have hfirst := shiftToTargetExponent_eq acc ht he
    have htarget : f.targetExponent (totalExponent (2 ^ f.mantissaBits) (q - 1)) = q := by
      have := hc.min_le
      rw [Format.targetExponent, totalExponent, Nat.log2_two_pow]
      omega
    have hsecond := shiftToTargetExponent_eq .exact htarget (by omega)
    have hround := hcut.roundedMantissa_eq hnear
    have hhalf : 2 ^ f.mantissaBits / 2 = m := by
      rw [hm, Format.mantissaBits, pow_add, pow_one, Nat.mul_div_cancel_left _ two_pos]
    unfold UnpackedFloat.roundWithAccuracy
    rw [hfirst]
    dsimp only
    rw [hround, hsecond, sub_sub_cancel]
    show (if h : 2 ^ f.mantissaBits / 2 = 0 then UnpackedFloat.zero s
      else .finite s (2 ^ f.mantissaBits / 2) q (Nat.pos_of_ne_zero h)) = _
    simp only [hhalf]
    exact dif_neg hc.pos.ne'

end Biomes.Decimal
