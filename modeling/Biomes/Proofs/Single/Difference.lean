import Biomes.Proofs.Single.Product

/-!
# The signs of differences

A difference is rounded, but it is not rounded to zero unless it is zero: numbers are whole multiples
of the least positive one, and so are their differences.  Hence the difference of two numbers is
positive if and only if the first is above the second (`Single.zero_lt_sub_iff`), also where it is
too large for the format, or one of the two is infinite.
-/

namespace Biomes.Single

open Float.Model (Format UnpackedFloat totalExponent)
open Float.Model.UnpackedFloat
open Biomes.Decimal

variable {m m' n k : ℕ} {q q' e t : ℤ} {x : Float32}

/-! ### Signs -/

/-- The sign of an unpacked number.  Zeros and `NaN` count as having none. -/
def sign? : UnpackedFloat → Option Sign
  | .infinity s => some s
  | .finite s _ _ _ => some s
  | .zero _ => none
  | .notANumber => none

/-- The numbers above zero are those with a positive sign. -/
theorem zero_lt_iff_sign : 0 < x ↔ sign? x.toModel.unpack = some .positive := by
  have hzero : (0 : Float32).toModel.unpack = .zero .positive := by rfl
  rw [lt_iff_compare, hzero]
  cases x.toModel.unpack with
  | notANumber => simp [UnpackedFloat.compare, sign?]
  | infinity s => cases s <;> simp [UnpackedFloat.compare, sign?]
  | zero s => simp [UnpackedFloat.compare, sign?]
  | finite s m q hm => cases s <;> simp [UnpackedFloat.compare, sign?]

@[simp] theorem neg_negative : -Sign.negative = .positive := rfl

@[simp] theorem neg_positive : -Sign.positive = .negative := rfl

theorem negative_lt_positive : compare Sign.negative .positive = .lt := rfl

@[simp] theorem sign?_pack_notANumber :
    sign? (Float32.Model.pack .notANumber).unpack = none := rfl

@[simp] theorem sign?_pack_infinity (s : Sign) :
    sign? (Float32.Model.pack (.infinity s)).unpack = some s := by
  cases s <;> rfl

@[simp] theorem sign?_pack_zero (s : Sign) :
    sign? (Float32.Model.pack (.zero s)).unpack = none := by
  cases s <;> rfl

/-- A number keeps its sign when it is packed, even if it is too large. -/
theorem sign?_pack_finite (hc : Canonical .binary32 m q) (s : Sign) :
    sign? (Float32.Model.pack (.finite s m q hc.pos)).unpack = some s := by
  rcases le_or_gt q 104 with hq | hq
  · rw [unpack_pack hc hq]
    rfl
  · rw [unpack_pack_of_lt hc hq]
    rfl

theorem sign?_pack_carried (hpos : 0 < k) (hk : k ≤ 2 ^ 24) (ht : -149 ≤ t)
    (hfull : -149 < t → 2 ^ 23 ≤ k) (s : Sign) :
    sign? (Float32.Model.pack (carried s k t)).unpack = some s := by
  unfold carried
  rw [dif_neg hpos.ne']
  split_ifs with hcarry
  · apply sign?_pack_finite
    exact canonical_of_lt (Nat.two_pow_pos 23) (by norm_num) (by omega) fun _ => Nat.le_refl _
  · apply sign?_pack_finite
    exact canonical_of_lt hpos (Nat.lt_of_le_of_ne hk hcarry) ht hfull

/-- **A multiple of the least positive number is not rounded to zero.** -/
theorem sign?_pack_round (hn : 0 < n) (he : -149 ≤ e) (s : Sign) :
    sign? (Float32.Model.pack (UnpackedFloat.round .binary32 s n e)).unpack = some s := by
  obtain ⟨t, ht⟩ : ∃ t, (Format.binary32).targetExponent (totalExponent n e) = t := ⟨_, rfl⟩
  obtain ⟨d, hd⟩ : ∃ d, (e - t).toNat = d := ⟨_, rfl⟩
  have hmin : -149 ≤ t := ht ▸ le_max_right _ _
  have hshifted : 0 < n <<< d := by
    rw [Nat.shiftLeft_eq]
    positivity
  -- Bits that are appended do not change the exponent that the format has for the number.
  have htarget : (Format.binary32).targetExponent (totalExponent (n <<< d) (e - d)) = t := by
    rw [← ht, totalExponent, totalExponent, log2_shiftLeft hn.ne']
    congr 1
    omega
  have hround : UnpackedFloat.round .binary32 s n e =
      roundWithAccuracy .binary32 s (n <<< d) (e - d) .exact := by
    unfold UnpackedFloat.round decreaseExponent
    rw [ht]
    dsimp only
    rw [hd]
  obtain ⟨k, hk, hnear, hcarried⟩ :=
    exists_roundWithAccuracy (n := n <<< d) (e := e - d) (by omega) s
  rw [htarget] at hnear hcarried
  have hfull := hnear.two_pow_le hshifted htarget
  have hpos : 0 < k := by
    rcases hmin.lt_or_eq with hlt | rfl
    · have := hfull hlt
      omega
    · apply hnear.natCast_le (n := 1)
      rw [le_div_iff₀ (by positivity), Nat.cast_one, one_mul]
      calc (2 ^ (-149 : ℤ) : ℚ) ≤ 2 ^ (e - d) := by
            apply zpow_le_zpow_right₀ one_le_two
            omega
        _ ≤ (n <<< d : ℕ) * 2 ^ (e - d) := by
            apply le_mul_of_one_le_left (by positivity)
            exact_mod_cast hshifted
  rw [hround, hcarried]
  exact sign?_pack_carried hpos hk hmin hfull s

theorem sign?_pack_normalize (he : -149 ≤ e) (i : ℤ) :
    sign? (Float32.Model.pack (UnpackedFloat.normalize .binary32 i e .positive)).unpack =
      some .positive ↔ 0 < i := by
  unfold UnpackedFloat.normalize
  rcases lt_trichotomy i 0 with hneg | rfl | hpos
  · rw [compare_lt_iff_lt.mpr hneg]
    dsimp only
    rw [sign?_pack_round (by omega) he]
    simp [hneg.le]
  · rw [compare_eq_iff_eq.mpr rfl]
    simp
  · rw [compare_gt_iff_gt.mpr hpos]
    dsimp only
    rw [sign?_pack_round (by omega) he]
    simp [hpos]

/-! ### Values -/

theorem value_lt_iff (hc : Canonical .binary32 m q) (hc' : Canonical .binary32 m' q') :
    (m * 2 ^ q : ℚ) < m' * 2 ^ q' ↔ q < q' ∨ q = q' ∧ m < m' := by
  constructor
  · intro hlt
    by_contra hplace
    exact hlt.not_ge (value_le_of_place hc' hc (by omega))
  · exact value_lt_of_place hc hc'

/-- Finite numbers are compared as their values are. -/
theorem compare_eq_lt_iff (hc : Canonical .binary32 m q) (hc' : Canonical .binary32 m' q')
    (s s' : Sign) :
    (UnpackedFloat.finite s m q hc.pos).compare (.finite s' m' q' hc'.pos) = some .lt ↔
      ((s.apply m : ℤ) * 2 ^ q : ℚ) < (s'.apply m' : ℤ) * 2 ^ q' := by
  have hm : (0 : ℚ) < m := by exact_mod_cast hc.pos
  have hm' : (0 : ℚ) < m' := by exact_mod_cast hc'.pos
  have hpos : (0 : ℚ) < m * 2 ^ q := by positivity
  have hpos' : (0 : ℚ) < m' * 2 ^ q' := by positivity
  cases s with
  | positive =>
    cases s' with
    | positive =>
      show some ((compare q q').then (compare m m')) = some .lt ↔
        ((m : ℤ) * 2 ^ q : ℚ) < (m' : ℤ) * 2 ^ q'
      push_cast
      rw [value_lt_iff hc hc', Option.some.injEq, Ordering.then_eq_lt, compare_lt_iff_lt,
        compare_lt_iff_lt, compare_eq_iff_eq]
    | negative =>
      refine iff_of_false (by rintro ⟨⟩) (not_lt.mpr ?_)
      show ((-m' : ℤ) * 2 ^ q' : ℚ) ≤ (m : ℤ) * 2 ^ q
      push_cast
      linarith
  | negative =>
    cases s' with
    | positive =>
      refine iff_of_true rfl ?_
      show ((-m : ℤ) * 2 ^ q : ℚ) < (m' : ℤ) * 2 ^ q'
      push_cast
      linarith
    | negative =>
      -- Below zero the order is turned around.
      show some ((compare q q').then (compare m m')).swap = some .lt ↔
        ((-m : ℤ) * 2 ^ q : ℚ) < (-m' : ℤ) * 2 ^ q'
      push_cast
      rw [neg_mul, neg_mul, neg_lt_neg_iff, value_lt_iff hc' hc, Option.some.injEq,
        Ordering.swap_eq_lt, Ordering.then_eq_gt, compare_gt_iff_gt, compare_gt_iff_gt,
        compare_eq_iff_eq, eq_comm (a := q)]

/-- Bits that are appended to a mantissa do not change the value. -/
theorem apply_shiftLeft (heq : e ≤ q) (s : Sign) (m : ℕ) :
    ((s.apply (m <<< (q - e).toNat : ℕ) : ℤ) * 2 ^ e : ℚ) = (s.apply m : ℤ) * 2 ^ q := by
  have hq : (2 ^ q : ℚ) = 2 ^ (q - e).toNat * 2 ^ e := by
    rw [← zpow_natCast, ← zpow_add₀ two_ne_zero]
    congr 1
    omega
  rw [hq, Nat.shiftLeft_eq]
  cases s <;> simp [Sign.apply] <;> ring

/-! ### Differences -/

theorem unpack_sub (a b : Float32) :
    (a - b).toModel.unpack =
      (Float32.Model.pack (UnpackedFloat.sub .binary32 a.toModel.unpack b.toModel.unpack)).unpack :=
  rfl

/-- The difference of finite numbers has the sign of the difference of their values. -/
theorem sign?_pack_sub (hc : Canonical .binary32 m q) (hc' : Canonical .binary32 m' q')
    (s s' : Sign) :
    sign? (Float32.Model.pack (UnpackedFloat.sub .binary32 (.finite s m q hc.pos)
        (.finite s' m' q' hc'.pos))).unpack = some .positive ↔
      (UnpackedFloat.finite s' m' q' hc'.pos).compare (.finite s m q hc.pos) = some .lt := by
  obtain ⟨e, he⟩ : ∃ e, min q q' = e := ⟨_, rfl⟩
  have hleast : -149 ≤ e := he ▸ le_min hc.min_le hc'.min_le
  have hunit : (0 : ℚ) < 2 ^ e := by positivity
  have hsub : UnpackedFloat.sub .binary32 (.finite s m q hc.pos) (.finite s' m' q' hc'.pos) =
      UnpackedFloat.normalize .binary32
        (s.apply (m <<< (q - e).toNat : ℕ) - s'.apply (m' <<< (q' - e).toNat : ℕ)) e .positive := by
    rw [← he]
    rfl
  rw [hsub, sign?_pack_normalize hleast, compare_eq_lt_iff hc' hc,
    ← apply_shiftLeft (he ▸ min_le_left _ _) s m, ← apply_shiftLeft (he ▸ min_le_right _ _) s' m',
    mul_lt_mul_iff_left₀ hunit, Int.cast_lt, sub_pos]

/-- **A difference is positive if and only if the first number is above the second.** -/
theorem zero_lt_sub_iff (a b : Float32) : 0 < a - b ↔ b < a := by
  rw [zero_lt_iff_sign, lt_iff_compare, unpack_sub]
  -- Nothing is rounded unless both numbers are finite.
  cases ha : a.toModel.unpack with
  | notANumber => cases b.toModel.unpack <;> simp [UnpackedFloat.sub, UnpackedFloat.compare]
  | infinity s =>
    cases b.toModel.unpack with
    | notANumber => simp [UnpackedFloat.sub, UnpackedFloat.compare]
    | infinity s' =>
      cases s <;> cases s' <;> simp [UnpackedFloat.sub, UnpackedFloat.compare, negative_lt_positive]
    | zero s' => cases s <;> simp [UnpackedFloat.sub, UnpackedFloat.compare]
    | finite s' m' q' hm' => cases s <;> simp [UnpackedFloat.sub, UnpackedFloat.compare]
  | zero s =>
    cases hb : b.toModel.unpack with
    | notANumber => simp [UnpackedFloat.sub, UnpackedFloat.compare]
    | infinity s' => cases s' <;> simp [UnpackedFloat.sub, UnpackedFloat.compare]
    | zero s' => cases s <;> cases s' <;> simp [UnpackedFloat.sub, UnpackedFloat.compare]
    | finite s' m' q' hm' =>
      have hc' := (canonical_of_unpack (by decide) hb).1
      cases s' <;> simp [UnpackedFloat.sub, UnpackedFloat.compare, sign?_pack_finite hc']
  | finite s m q hm =>
    have hc := (canonical_of_unpack (by decide) ha).1
    cases hb : b.toModel.unpack with
    | notANumber => simp [UnpackedFloat.sub, UnpackedFloat.compare]
    | infinity s' => cases s' <;> simp [UnpackedFloat.sub, UnpackedFloat.compare]
    | zero s' => cases s <;> simp [UnpackedFloat.sub, UnpackedFloat.compare, sign?_pack_finite hc]
    | finite s' m' q' hm' =>
      have hc' := (canonical_of_unpack (by decide) hb).1
      exact sign?_pack_sub hc hc' s s'

end Biomes.Single
