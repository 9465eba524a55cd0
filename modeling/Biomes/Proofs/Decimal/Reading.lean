import Biomes.Proofs.Decimal.Packing

/-!
# A decimal is read as the number that covers it

Decimals are read by a product or a quotient with a power of ten, both exact up to one rounding
(`Decimal.ofScientific_eq`).  For short decimals the core library computes in single precision
instead, from a table of powers of ten; as the factors are exact, this is the same
(`Single.ofScientific_eq`).
-/

namespace Biomes.Decimal

open Float.Model (Format UnpackedFloat totalExponent)
open Float.Model.UnpackedFloat

variable {f : Format} {m : ℕ} {q : ℤ}

/-! ### Products and quotients -/

theorem describes_exact (n : ℕ) : Describes (.ofMantissaAndAccuracy n .exact) n := rfl

theorem describes_mantissa (n : ℕ) (e : ℤ) :
    Describes (.ofMantissaAndAccuracy n .exact) ((n * 2 ^ e : ℚ) / 2 ^ e) := by
  rw [mul_div_cancel_right₀ _ (by positivity)]
  exact describes_exact n

/-- A whole quotient, with where its remainder lies, describes the quotient. -/
theorem describes_quotient (a : ℕ) {b : ℕ} (hb : 0 < b) :
    Describes (.ofMantissaAndAccuracy (a / b) (accuracyOfFraction (a % b) b)) (a / b) := by
  have hb' : (0 : ℚ) < b := by exact_mod_cast hb
  have ha : (a : ℚ) = b * (a / b : ℕ) + (a % b : ℕ) := by exact_mod_cast (Nat.div_add_mod a b).symm
  have hlt : ((a % b : ℕ) : ℚ) < b := by exact_mod_cast Nat.mod_lt a hb
  have hquot : (a : ℚ) / b = (a / b : ℕ) + (a % b : ℕ) / b := by
    rw [ha]
    field_simp
  unfold accuracyOfFraction
  split
  · rename_i hzero
    rw [hquot, hzero]
    show _ = _
    simp
  · rename_i hpos
    have hpos : (0 : ℚ) < (a % b : ℕ) := by exact_mod_cast Nat.pos_of_ne_zero hpos
    rw [hquot]
    have hfrac : 0 < ((a % b : ℕ) : ℚ) / b := div_pos hpos hb'
    have hfrac1 : ((a % b : ℕ) : ℚ) / b < 1 := (div_lt_one hb').mpr hlt
    rcases hcmp : compare (2 * (a % b)) b with _ | _ | _
    · have hhalf : (2 : ℚ) * (a % b : ℕ) < b := by exact_mod_cast Nat.compare_eq_lt.mp hcmp
      have : ((a % b : ℕ) : ℚ) / b < 1 / 2 := by rw [div_lt_div_iff₀ hb' two_pos]; linarith
      show ((a / b : ℕ) : ℚ) < _ ∧ _ < ((a / b : ℕ) : ℚ) + 1 / 2
      exact ⟨by linarith, by linarith⟩
    · have hhalf : (2 : ℚ) * (a % b : ℕ) = b := by exact_mod_cast Nat.compare_eq_eq.mp hcmp
      have : ((a % b : ℕ) : ℚ) / b = 1 / 2 := by rw [div_eq_div_iff hb'.ne' two_ne_zero]; linarith
      exact congrArg _ this
    · have hhalf : (b : ℚ) < 2 * (a % b : ℕ) := by exact_mod_cast Nat.compare_eq_gt.mp hcmp
      have : 1 / 2 < ((a % b : ℕ) : ℚ) / b := by rw [div_lt_div_iff₀ two_pos hb']; linarith
      show ((a / b : ℕ) : ℚ) + 1 / 2 < _ ∧ _ < ((a / b : ℕ) : ℚ) + 1
      exact ⟨by linarith, by linarith⟩

/-- A quotient is found if it is covered. -/
theorem div_eq (hc : Canonical f m q) {m₁ m₂ : ℕ} {e₁ e₂ : ℤ} (h₁ : 0 < m₁) (h₂ : 0 < m₂)
    (hx : (Reach.ofBinary m q (isNarrow f m q)).Covers (m₁ * 2 ^ e₁ / (m₂ * 2 ^ e₂)))
    (s₁ s₂ : Sign) :
    UnpackedFloat.div f (.finite s₁ m₁ e₁ h₁) (.finite s₂ m₂ e₂ h₂) =
      .finite (s₁ / s₂) m q hc.pos := by
  have hp : f.mantissaBits = 1 + f.mantissaBitsWithoutImplicit := rfl
  -- The exponent of the quotient before it is rounded, and the shift that leads to it.
  obtain ⟨e, he⟩ : ∃ e, e = min (e₁ - e₂)
    (f.targetExponent (totalExponent m₁ e₁ - totalExponent m₂ e₂)) := ⟨_, rfl⟩
  obtain ⟨k, hk⟩ : ∃ k : ℕ, e₁ - e₂ - e = k := ⟨_, (Int.toNat_of_nonneg (by omega)).symm⟩
  have hdiv : UnpackedFloat.div f (.finite s₁ m₁ e₁ h₁) (.finite s₂ m₂ e₂ h₂) =
      roundWithAccuracy f (s₁ / s₂) (m₁ * 2 ^ k / m₂) e
        (accuracyOfFraction (m₁ * 2 ^ k % m₂) m₂) := by
    simp only [UnpackedFloat.div, divCore]
    rw [← he, hk, Int.toNat_natCast, Nat.shiftLeft_eq]
  rw [hdiv]
  refine roundWithAccuracy_eq hc hx ?_ ?_ _
  · have hscaled : (m₁ * 2 ^ e₁ / (m₂ * 2 ^ e₂) / 2 ^ e : ℚ) = (m₁ * 2 ^ k : ℕ) / m₂ := by
      obtain rfl : e₁ = e₂ + e + k := by omega
      rw [zpow_add₀ two_ne_zero, zpow_add₀ two_ne_zero, zpow_natCast]
      push_cast
      field_simp
    rw [hscaled]
    exact describes_quotient _ h₂
  · by_cases hmin : e ≤ f.minExponent
    · exact hmin.trans (le_max_right _ _)
    · -- The quotient fills the mantissa.
      have htarget : f.targetExponent (totalExponent m₁ e₁ - totalExponent m₂ e₂) =
          max (totalExponent m₁ e₁ - totalExponent m₂ e₂ - f.mantissaBits) f.minExponent := rfl
      have hshift : f.mantissaBitsWithoutImplicit + (m₂.log2 + 1) ≤ m₁.log2 + k := by
        rw [totalExponent, totalExponent] at htarget he
        omega
      have hfull : 2 ^ f.mantissaBitsWithoutImplicit ≤ m₁ * 2 ^ k / m₂ := by
        rw [Nat.le_div_iff_mul_le h₂]
        calc 2 ^ f.mantissaBitsWithoutImplicit * m₂
            ≤ 2 ^ f.mantissaBitsWithoutImplicit * 2 ^ (m₂.log2 + 1) :=
              Nat.mul_le_mul_left _ Nat.lt_log2_self.le
          _ = 2 ^ (f.mantissaBitsWithoutImplicit + (m₂.log2 + 1)) := (pow_add ..).symm
          _ ≤ 2 ^ (m₁.log2 + k) := Nat.pow_le_pow_right two_pos hshift
          _ = 2 ^ m₁.log2 * 2 ^ k := pow_add ..
          _ ≤ m₁ * 2 ^ k := Nat.mul_le_mul_right _ (Nat.log2_self_le h₁.ne')
      have hlog := (Nat.le_log2 (Nat.two_pow_pos _ |>.trans_le hfull).ne').mpr hfull
      refine le_trans ?_ (le_max_left _ _)
      rw [totalExponent]
      omega

/-- A product is found if it is covered, and long enough. -/
theorem mul_eq (hc : Canonical f m q) {m₁ m₂ : ℕ} {e₁ e₂ : ℤ} (h₁ : 0 < m₁) (h₂ : 0 < m₂)
    (hx : (Reach.ofBinary m q (isNarrow f m q)).Covers (m₁ * 2 ^ e₁ * (m₂ * 2 ^ e₂)))
    (hlong : e₁ + e₂ ≤ f.targetExponent (totalExponent (m₁ * m₂) (e₁ + e₂))) (s₁ s₂ : Sign) :
    UnpackedFloat.mul f (.finite s₁ m₁ e₁ h₁) (.finite s₂ m₂ e₂ h₂) =
      .finite (s₁ * s₂) m q hc.pos := by
  refine roundWithAccuracy_eq hc hx ?_ hlong _
  have hsplit : (m₁ * 2 ^ e₁ * (m₂ * 2 ^ e₂) : ℚ) = (m₁ * m₂ : ℕ) * 2 ^ (e₁ + e₂) := by
    rw [zpow_add₀ two_ne_zero]
    push_cast
    ring
  rw [hsplit]
  exact describes_mantissa ..

/-! ### Decimals -/

theorem bounds_of_covers (hc : Canonical f m q) {x : ℚ}
    (hx : (Reach.ofBinary m q (isNarrow f m q)).Covers x) :
    (2 : ℚ) ^ (q - 1) ≤ x ∧ x < 2 ^ (f.mantissaBits + q : ℤ) := by
  have hpos : (0 : ℚ) < 2 ^ q := by positivity
  have hm : (1 : ℚ) ≤ m := by exact_mod_cast hc.pos
  have hm' : (m : ℚ) + 1 ≤ 2 ^ f.mantissaBits := by exact_mod_cast hc.lt
  have hnear := isNearest_of_covers hc.pos hx
  constructor
  · rw [zpow_sub_one₀ two_ne_zero, mul_comm, ← le_div_iff₀ hpos]
    linarith [hnear.sub_half_le]
  · rw [zpow_add₀ two_ne_zero, zpow_natCast, ← div_lt_iff₀ hpos]
    linarith [hnear.le_add_half]

theorem pos_of_covers (hc : Canonical f m q) {d : ℕ} {e : ℤ}
    (hx : (Reach.ofBinary m q (isNarrow f m q)).Covers (d * 10 ^ e)) : 0 < d := by
  refine Nat.pos_of_ne_zero ?_
  rintro rfl
  have hlow := (bounds_of_covers hc hx).1
  have : (0 : ℚ) < 2 ^ (q - 1) := by positivity
  rw [Nat.cast_zero, zero_mul] at hlow
  linarith

/-- A decimal that is covered is not so large that its digits would not be looked at. -/
theorem not_two_pow_lt (hc : Canonical .binary32 m q) (hq : q ≤ 104) {d : ℕ} {e : ℤ}
    (hx : (Reach.ofBinary m q (isNarrow .binary32 m q)).Covers (d * 10 ^ e)) :
    ¬2 ^ (Format.binary32).exponentBits < e := by
  intro he
  have he : (256 : ℤ) < e := he
  have hone : (1 : ℚ) ≤ d := by exact_mod_cast pos_of_covers hc hx
  have hbits : (Format.binary32).mantissaBits = 24 := rfl
  have hhigh := (bounds_of_covers hc hx).2
  have : (2 : ℚ) ^ (128 : ℤ) < 2 ^ (128 : ℤ) :=
    calc (2 : ℚ) ^ (128 : ℤ) ≤ 2 ^ e := zpow_le_zpow_right₀ one_le_two (by omega)
      _ ≤ 10 ^ e := zpow_le_zpow_left₀ (by omega) (by norm_num) (by norm_num)
      _ ≤ d * 10 ^ e := le_mul_of_one_le_left (by positivity) hone
      _ < 2 ^ ((Format.binary32).mantissaBits + q : ℤ) := hhigh
      _ ≤ 2 ^ (128 : ℤ) := zpow_le_zpow_right₀ one_le_two (by rw [hbits]; omega)
  exact lt_irrefl _ this

/-- Neither is it so small. -/
theorem not_lt_neg_two_pow (hc : Canonical .binary32 m q) {d : ℕ} {e : ℤ}
    (hx : (Reach.ofBinary m q (isNarrow .binary32 m q)).Covers (d * 10 ^ e)) :
    ¬e < -((2 ^ (Format.binary32).exponentBits : ℤ) + d.log2) := by
  intro he
  have he : e < -(256 + d.log2 : ℤ) := he
  have hminq : -149 ≤ q := hc.min_le
  have hlow := (bounds_of_covers hc hx).1
  obtain ⟨k, rfl⟩ : ∃ k : ℕ, e = -k := ⟨(-e).toNat, by omega⟩
  have hd : (d : ℚ) < 2 ^ (d.log2 + 1) := by exact_mod_cast Nat.lt_log2_self
  have hten : (10 : ℚ) ^ (-k : ℤ) ≤ 2 ^ (-k : ℤ) := by
    rw [zpow_neg, zpow_neg, zpow_natCast, zpow_natCast]
    exact inv_anti₀ (by positivity) (pow_le_pow_left₀ (by norm_num) (by norm_num) k)
  have : (d * 10 ^ (-k : ℤ) : ℚ) < d * 10 ^ (-k : ℤ) :=
    calc (d * 10 ^ (-k : ℤ) : ℚ) < 2 ^ (d.log2 + 1) * 2 ^ (-k : ℤ) :=
          mul_lt_mul hd hten (by positivity) (by positivity)
      _ = 2 ^ ((d.log2 + 1 : ℕ) + -k : ℤ) := by rw [zpow_add₀ two_ne_zero, zpow_natCast]
      _ ≤ 2 ^ (q - 1) := zpow_le_zpow_right₀ one_le_two (by push_cast; omega)
      _ ≤ d * 10 ^ (-k : ℤ) := hlow
  exact lt_irrefl _ this

theorem log2_shiftLeft {n : ℕ} (hn : n ≠ 0) (k : ℕ) : (n <<< k).log2 = n.log2 + k := by
  rw [Nat.shiftLeft_eq, Nat.log2_eq_iff (by positivity), Nat.add_right_comm, pow_add, pow_add]
  exact ⟨Nat.mul_le_mul_right _ (Nat.log2_self_le hn),
    Nat.mul_lt_mul_of_pos_right Nat.lt_log2_self (by positivity)⟩

/-- A product with a factor that fills a mantissa is not finer than its target. -/
theorem le_targetExponent {a b : ℕ} (ha : 23 ≤ a.log2) (hb : 0 < b) (e : ℤ) :
    e ≤ (Format.binary32).targetExponent (totalExponent (a * b) e) := by
  have ha0 : a ≠ 0 := by
    rintro rfl
    exact absurd ha (by decide)
  have hfull : 2 ^ 23 ≤ a * b :=
    ((Nat.le_log2 ha0).mp ha).trans (Nat.le_mul_of_pos_right _ hb)
  have hlog := (Nat.le_log2 (Nat.two_pow_pos _ |>.trans_le hfull).ne').mpr hfull
  have hbits : (Format.binary32).mantissaBits = 24 := rfl
  refine le_trans ?_ (le_max_left _ _)
  rw [totalExponent, hbits]
  omega

/-- **A decimal is read as the number that covers it.** -/
theorem ofScientific_eq (hc : Canonical .binary32 m q) (hq : q ≤ 104) {d : ℕ} {e : ℤ}
    (hx : (Reach.ofBinary m q (isNarrow .binary32 m q)).Covers (d * 10 ^ e)) :
    UnpackedFloat.ofScientific .binary32 d e = .finite .positive m q hc.pos := by
  have hd : d ≠ 0 := (pos_of_covers hc hx).ne'
  unfold UnpackedFloat.ofScientific
  rw [dif_neg hd, if_neg (not_two_pow_lt hc hq hx), if_neg (not_lt_neg_two_pow hc hx)]
  split
  · rename_i he
    obtain ⟨k, rfl⟩ := Int.eq_ofNat_of_zero_le he
    refine mul_eq hc _ _ ?_ ?_ _ _
    · have hvalue : ((d <<< (Format.binary32).mantissaBits : ℕ) *
          2 ^ (-((Format.binary32).mantissaBits : ℤ)) * ((10 ^ k : ℕ) * 2 ^ (0 : ℤ)) : ℚ) =
          d * 10 ^ (k : ℤ) := by
        rw [Nat.shiftLeft_eq, zpow_neg, zpow_natCast, zpow_natCast]
        push_cast
        field_simp
      rwa [Int.toNat_natCast, hvalue]
    · -- All bits of a mantissa are behind the point.
      refine le_targetExponent ?_ (by positivity) _
      rw [log2_shiftLeft hd, show (Format.binary32).mantissaBits = 24 from rfl]
      omega
  · rename_i he
    obtain ⟨k, rfl⟩ : ∃ k : ℕ, e = -k := ⟨(-e).toNat, by omega⟩
    refine div_eq hc _ _ ?_ _ _
    have hvalue : (d * 2 ^ (0 : ℤ) / ((10 ^ k : ℕ) * 2 ^ (0 : ℤ)) : ℚ) = d * 10 ^ (-k : ℤ) := by
      rw [zpow_neg, zpow_natCast]
      push_cast
      field_simp
    rwa [neg_neg, Int.toNat_natCast, hvalue]

/-! ### Small decimals -/

/-- A canonical number is not changed by rounding. -/
theorem roundWithAccuracy_self (hc : Canonical f m q) (s : Sign) :
    roundWithAccuracy f s m q .exact = .finite s m q hc.pos :=
  roundWithAccuracy_eq hc (Reach.covers_self hc.pos) (describes_mantissa m q) hc.target.ge s

/-- A whole number of few bits, written with as many bits as there are in a mantissa. -/
theorem canonical_shifted {d : ℕ} (hd : 0 < d) (hlt : d < 2 ^ 23) :
    Canonical .binary32 (d <<< (23 - d.log2)) (d.log2 - 23) where
  pos := by
    rw [Nat.shiftLeft_eq]
    positivity
  target := by
    have hlog : d.log2 < 23 := (Nat.log2_lt hd.ne').mpr hlt
    have hmin : (Format.binary32).minExponent = -149 := rfl
    have hbits : (Format.binary32).mantissaBits = 24 := rfl
    rw [Format.targetExponent, totalExponent, log2_shiftLeft hd.ne', hmin, hbits]
    omega

theorem ofUInt64_eq {n : UInt64} {d : ℕ} (hn : n.toNat = d) (hd : 0 < d) (hlt : d < 2 ^ 23) :
    UnpackedFloat.ofUInt64 .binary32 n =
      .finite .positive (d <<< (23 - d.log2)) (d.log2 - 23) (canonical_shifted hd hlt).pos := by
  have hlog : d.log2 < 23 := (Nat.log2_lt hd.ne').mpr hlt
  have htarget : (Format.binary32).targetExponent (totalExponent d 0) = d.log2 - 23 := by
    have hmin : (Format.binary32).minExponent = -149 := rfl
    have hbits : (Format.binary32).mantissaBits = 24 := rfl
    rw [Format.targetExponent, totalExponent, hmin, hbits]
    omega
  have hpos : compare (d : ℤ) 0 = .gt := Int.compare_eq_gt.mpr (by omega)
  rw [UnpackedFloat.ofUInt64, UnpackedFloat.ofNat, UnpackedFloat.ofInt, UnpackedFloat.normalize, hn,
    hpos]
  dsimp only
  unfold UnpackedFloat.round decreaseExponent
  dsimp only
  rw [Int.toNat_natCast, htarget]
  have hshift : (0 - ((d.log2 : ℤ) - 23)).toNat = 23 - d.log2 := by omega
  have hexponent : (0 - ((23 - d.log2 : ℕ) : ℤ)) = d.log2 - 23 := by omega
  rw [hshift, hexponent]
  exact roundWithAccuracy_self (canonical_shifted hd hlt) _

/-- Whether an unpacked number is the power `10^e`. -/
def isPower (e : ℕ) : UnpackedFloat → Bool
  | .finite .positive m q _ => 0 ≤ q + 23 && m * 2 ^ (q + 23).toNat == 10 ^ e * 2 ^ 23
  | _ => false

/-- The powers of ten that are kept in a table are the right ones. -/
theorem isPower_table : ∀ e (he : e < 11),
    isPower e (Float32.exactlyRepresentablePowersOfTen[e]).toModel.unpack = true := by
  decide +kernel

theorem exists_of_isPower {e : ℕ} {u : UnpackedFloat} (h : isPower e u = true) :
    ∃ m q hm, u = .finite .positive m q hm ∧ (m * 2 ^ q : ℚ) = 10 ^ e := by
  unfold isPower at h
  split at h
  · rename_i m q hm
    rw [Bool.and_eq_true, decide_eq_true_eq, beq_iff_eq] at h
    refine ⟨m, q, hm, rfl, ?_⟩
    have hvalue : (m * 2 ^ (q + 23).toNat : ℚ) = 10 ^ e * 2 ^ 23 := by exact_mod_cast h.2
    rw [← zpow_natCast, Int.toNat_of_nonneg h.1, zpow_add₀ two_ne_zero, ← mul_assoc] at hvalue
    exact mul_right_cancel₀ (by norm_num : (2 : ℚ) ^ (23 : ℤ) ≠ 0) (by exact_mod_cast hvalue)
  · cases h

theorem shifted_value {d : ℕ} (hd : 0 < d) (hlt : d < 2 ^ 23) :
    ((d <<< (23 - d.log2) : ℕ) * 2 ^ (d.log2 - 23 : ℤ) : ℚ) = d := by
  have hlog : d.log2 < 23 := (Nat.log2_lt hd.ne').mpr hlt
  have hexponent : (d.log2 - 23 : ℤ) = -(23 - d.log2 : ℕ) := by omega
  rw [hexponent, zpow_neg, zpow_natCast, Nat.shiftLeft_eq]
  push_cast
  field_simp

end Biomes.Decimal

namespace Biomes.Single

open Float.Model (Format UnpackedFloat totalExponent)
open Biomes.Decimal

theorem unpack_pack {m : ℕ} {q : ℤ} (hc : Canonical .binary32 m q) (hq : q ≤ 104)
    (s : UnpackedFloat.Sign) :
    (Float32.Model.pack (.finite s m q hc.pos)).unpack = .finite s m q hc.pos :=
  Decimal.unpack_pack (by decide) hc hq s

theorem toFloat32_toUInt64 {d : ℕ} (hd : 0 < d) (hlt : d < 2 ^ 23) :
    d.toUInt64.toFloat32 =
      .ofModel (.pack (.finite .positive (d <<< (23 - d.log2)) (d.log2 - 23)
        (canonical_shifted hd hlt).pos)) := by
  have hnat : d.toUInt64.toNat = d := UInt64.toNat_ofNat_of_lt' (hlt.trans (by decide))
  exact congrArg (Float32.ofModel ∘ Float32.Model.pack) (ofUInt64_eq hnat hd hlt)

theorem ofModel_pack_unpack (x : Float32) : .ofModel (.pack x.toModel.unpack) = x := by
  obtain ⟨⟨bits, hvalid⟩⟩ := x
  have hbits := UnpackedFloat.pack_unpack_of_valid hvalid
  simp only [Float32.Model.pack, Float32.Model.unpack, hbits]

/-- **A decimal is read as the single precision number that covers it.** -/
theorem ofScientific_eq {m : ℕ} {q : ℤ} (hc : Canonical .binary32 m q) (hq : q ≤ 104) {d e : ℕ}
    {b : Bool}
    (hx : (Reach.ofBinary m q (isNarrow .binary32 m q)).Covers
      (d * 10 ^ (if b then -(e : ℤ) else e))) :
    Float32.ofScientific d b e = .ofModel (.pack (.finite .positive m q hc.pos)) := by
  have hd : 0 < d := pos_of_covers hc hx
  by_cases hsmall : d < 2 ^ 23 ∧ e ≤ 10
  · -- Both the digits and the power of ten are single precision numbers.
    obtain ⟨mp, qp, hmp, hpower, hvalue⟩ :=
      exists_of_isPower (isPower_table e (Nat.lt_succ_iff.mpr hsmall.2))
    have hdigits := shifted_value hd hsmall.1
    have hcanonical := canonical_shifted hd hsmall.1
    have hlog : d.log2 < 23 := (Nat.log2_lt hd.ne').mpr hsmall.1
    have htop : (d <<< (23 - d.log2)).log2 = 23 := by rw [log2_shiftLeft hd.ne']; omega
    have hunpack : d.toUInt64.toFloat32.toModel.unpack =
        .finite .positive (d <<< (23 - d.log2)) (d.log2 - 23) hcanonical.pos := by
      rw [toFloat32_toUInt64 hd hsmall.1]
      exact unpack_pack hcanonical (by omega) .positive
    unfold Float32.ofScientific
    rw [dif_pos hsmall]
    cases b with
    | true =>
      have hquot := div_eq hc hcanonical.pos hmp (by
        rwa [hdigits, hvalue, ← zpow_natCast, div_eq_mul_inv, ← zpow_neg]) .positive .positive
      rw [← hunpack, ← hpower] at hquot
      exact congrArg (Float32.ofModel ∘ Float32.Model.pack) hquot
    | false =>
      have hprod := mul_eq hc hcanonical.pos hmp (by
        rwa [hdigits, hvalue, ← zpow_natCast]) (le_targetExponent (by rw [htop]) hmp _)
        .positive .positive
      rw [← hunpack, ← hpower] at hprod
      exact congrArg (Float32.ofModel ∘ Float32.Model.pack) hprod
  · unfold Float32.ofScientific
    rw [dif_neg hsmall]
    have hexponent : (if b then Int.negOfNat e else Int.ofNat e) =
        if b then -(e : ℤ) else e := by
      cases b
      · rfl
      · exact Int.negOfNat_eq
    have hslow := Decimal.ofScientific_eq hc hq hx
    rw [← hexponent] at hslow
    exact congrArg (Float32.ofModel ∘ Float32.Model.pack) hslow

end Biomes.Single
