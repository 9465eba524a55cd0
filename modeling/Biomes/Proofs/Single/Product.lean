import Biomes.Proofs.Decimal.Reading
import Biomes.Proofs.Single.Order

/-!
# Products keep the order

A product is rounded, and rounding keeps the order of what is rounded, even where it carries into
one more bit, falls below the least exponent or passes the largest number.  So multiplying by a
positive number keeps the order of positive numbers (`Single.mul_le_mul_right`).
-/

namespace Biomes.Decimal

open Float.Model (Format UnpackedFloat totalExponent)
open Float.Model.UnpackedFloat

/-! ### Nearest whole numbers -/

/-- What is described is rounded to a nearest whole number. -/
theorem Describes.isNearest {em : ExtendedMantissa} {x : ℚ} (h : Describes em x) :
    IsNearest em.roundedMantissa x := by
  obtain ⟨m, r, s⟩ := em
  cases r <;> cases s <;> simp only [Describes] at h
  · show IsNearest m x
    exact .inl ⟨by linarith, by linarith⟩
  · show IsNearest m x
    exact .inl ⟨by linarith, by linarith⟩
  · -- Half way between two whole numbers the even one is taken.
    show IsNearest (m + m % 2) x
    rcases Nat.mod_two_eq_zero_or_one m with hbit | hbit
    · exact .inr ⟨by omega, .inr (by rw [hbit]; push_cast; linarith)⟩
    · exact .inr ⟨by omega, .inl (by rw [hbit]; push_cast; linarith)⟩
  · show IsNearest (m + 1) x
    exact .inl ⟨by push_cast; linarith, by push_cast; linarith⟩

/-- Nearest whole numbers keep the order. -/
theorem IsNearest.mono {k l : ℕ} {x y : ℚ} (hk : IsNearest k x) (hl : IsNearest l y)
    (h : x ≤ y) : k ≤ l := by
  by_contra hlt
  have hkx := hk.sub_half_le
  have hly := hl.le_add_half
  have hsucc : (l : ℚ) + 1 ≤ k := by exact_mod_cast Nat.lt_of_not_le hlt
  -- Only a tie is left, of which both sides take the even end.
  have hkl : k = l + 1 := by
    have : (k : ℚ) = (l + 1 : ℕ) := by push_cast; linarith
    exact_mod_cast this
  have hkeven : k % 2 = 0 := by
    rcases hk with hk | hk
    · linarith [hk.1]
    · exact hk.1
  have hleven : l % 2 = 0 := by
    rcases hl with hl | hl
    · linarith [hl.2]
    · exact hl.1
  omega

theorem IsNearest.le_natCast {k n : ℕ} {x : ℚ} (hk : IsNearest k x) (h : x ≤ n) : k ≤ n :=
  hk.mono (.inl ⟨by linarith, by linarith⟩) h

theorem IsNearest.natCast_le {k n : ℕ} {x : ℚ} (hk : IsNearest k x) (h : n ≤ x) : n ≤ k :=
  IsNearest.mono (.inl ⟨by linarith, by linarith⟩) hk h

/-! ### Rounding -/

variable {m n k : ℕ} {e t : ℤ}

/-- The number `k · 2^t`, as it is written after rounding: a mantissa that was carried into one more
bit gives the bit to the exponent. -/
def carried (s : Sign) (k : ℕ) (t : ℤ) : UnpackedFloat :=
  if h : k = 0 then .zero s
  else if k = 2 ^ 24 then .finite s (2 ^ 23) (t + 1) (Nat.two_pow_pos _)
  else .finite s k t (Nat.pos_of_ne_zero h)

theorem canonical_of_lt (hk : 0 < k) (hlt : k < 2 ^ 24) (ht : -149 ≤ t)
    (hfull : -149 < t → 2 ^ 23 ≤ k) : Canonical .binary32 k t where
  pos := hk
  target := by
    have hmin : (Format.binary32).minExponent = -149 := rfl
    have hbits : (Format.binary32).mantissaBits = 24 := rfl
    have hlog : k.log2 < 24 := (Nat.log2_lt hk.ne').mpr hlt
    have hlow : -149 < t → 23 ≤ k.log2 := fun h => (Nat.le_log2 hk.ne').mpr (hfull h)
    rw [Format.targetExponent, totalExponent, hmin, hbits]
    omega

/-- Writing what was rounded needs no more than one shift, which drops nothing. -/
theorem shiftToTargetExponent_carried (hk : k ≤ 2 ^ 24) (ht : -149 ≤ t) (s : Sign) :
    (if h : (shiftToTargetExponent .binary32 k t .exact).1.mantissa = 0 then UnpackedFloat.zero s
      else .finite s (shiftToTargetExponent .binary32 k t .exact).1.mantissa
        (shiftToTargetExponent .binary32 k t .exact).2 (Nat.pos_of_ne_zero h)) = carried s k t := by
  have hmin : (Format.binary32).minExponent = -149 := rfl
  have hbits : (Format.binary32).mantissaBits = 24 := rfl
  rcases hk.lt_or_eq with hlt | rfl
  · have hlog : k.log2 < 24 := by
      by_cases hzero : k = 0
      · rw [hzero]
        decide
      · exact (Nat.log2_lt hzero).mpr hlt
    have hle : (Format.binary32).targetExponent (totalExponent k t) ≤ t := by
      rw [Format.targetExponent, totalExponent, hmin, hbits]
      omega
    have hnone : ((Format.binary32).targetExponent (totalExponent k t) - t).toNat = 0 := by omega
    have hshift : shiftToTargetExponent .binary32 k t .exact = (⟨k, false, false⟩, t) := by
      rw [shiftToTargetExponent, shiftToExponent, hnone]
      exact congrArg (Prod.mk _) (Int.add_zero t)
    rw [hshift, carried]
    simp only [hlt.ne, if_false]
  · have htarget : (Format.binary32).targetExponent (totalExponent (2 ^ 24) t) = t + 1 := by
      rw [Format.targetExponent, totalExponent, hmin, hbits, Nat.log2_two_pow]
      omega
    have hshift : shiftToTargetExponent .binary32 (2 ^ 24) t .exact =
        (⟨2 ^ 23, false, false⟩, t + 1) := by
      have hone : (t + 1 - t).toNat = 1 := by omega
      rw [shiftToTargetExponent_eq .exact htarget (by omega), hone]
      rfl
    rw [hshift, carried]
    rfl

/-- A nearest mantissa fills all its bits, unless it has the least exponent. -/
theorem IsNearest.two_pow_le (hn : 0 < n) (ht : (Format.binary32).targetExponent
    (totalExponent n e) = t) (hk : IsNearest k (n * 2 ^ e / 2 ^ t)) (hmin : -149 < t) :
    2 ^ 23 ≤ k := by
  refine hk.natCast_le ?_
  have hlow := (describes_mantissa n e).two_zpow_le (by simpa using hn.ne')
  rw [mantissa_ofMantissaAndAccuracy] at hlow
  have htotal : totalExponent n e - 24 = t := by
    have : max (totalExponent n e - 24) (-149) = t := ht
    omega
  rw [le_div_iff₀ (by positivity)]
  calc ((2 ^ 23 : ℕ) : ℚ) * 2 ^ t = 2 ^ (23 + t) := by rw [zpow_add₀ two_ne_zero]; norm_num
    _ = 2 ^ (totalExponent n e - 1) := by congr 1; omega
    _ ≤ n * 2 ^ e := hlow

/-- An exact mantissa is rounded to a nearest one with the exponent that the format has for it. -/
theorem exists_roundWithAccuracy
    (he : e ≤ (Format.binary32).targetExponent (totalExponent n e)) (s : Sign) :
    ∃ k ≤ 2 ^ 24,
      IsNearest k (n * 2 ^ e / 2 ^ (Format.binary32).targetExponent (totalExponent n e)) ∧
        roundWithAccuracy .binary32 s n e .exact =
          carried s k ((Format.binary32).targetExponent (totalExponent n e)) := by
  have hbits : (Format.binary32).mantissaBits = 24 := rfl
  obtain ⟨t, ht⟩ : ∃ t, (Format.binary32).targetExponent (totalExponent n e) = t := ⟨_, rfl⟩
  have hmin : -149 ≤ t := ht ▸ le_max_right _ _
  have htotal : totalExponent n e ≤ 24 + t := by
    have : totalExponent n e - 24 ≤ t := ht ▸ le_max_left _ _
    omega
  rw [ht] at he ⊢
  have hdescribes := describes_mantissa n e
  have hnear := (hdescribes.shiftTo he).isNearest
  have hle : ((ExtendedMantissa.ofMantissaAndAccuracy n .exact) >>> (t - e).toNat).roundedMantissa ≤
      2 ^ 24 := by
    -- The number is below the power of two that its exponent allows.
    refine hnear.le_natCast ?_
    have hlt := hdescribes.lt_two_zpow
    rw [mantissa_ofMantissaAndAccuracy] at hlt
    rw [div_le_iff₀ (by positivity)]
    calc (n * 2 ^ e : ℚ) ≤ 2 ^ totalExponent n e := hlt.le
      _ ≤ 2 ^ (24 + t) := zpow_le_zpow_right₀ one_le_two htotal
      _ = (2 ^ 24 : ℕ) * 2 ^ t := by rw [zpow_add₀ two_ne_zero]; norm_num
  refine ⟨_, hle, hnear, ?_⟩
  unfold roundWithAccuracy
  rw [shiftToTargetExponent_eq .exact ht he]
  exact shiftToTargetExponent_carried hle hmin s

end Biomes.Decimal

namespace Biomes.Single

open Float.Model (Format UnpackedFloat totalExponent)
open Float.Model.UnpackedFloat
open Biomes.Decimal

/-! ### Places -/

theorem Place.mk_le_mk {p p' e e' m m' : ℤ} :
    Place.mk p e m ≤ Place.mk p' e' m' ↔ p < p' ∨ p = p' ∧ (e < e' ∨ e = e' ∧ m ≤ m') := by
  simp only [Place.mk, Prod.Lex.toLex_le_toLex]

/-- Where `k · 2^t` lies, once it is written as a single precision number. -/
def carriedPlace (k : ℕ) (t : ℤ) : Place :=
  if k = 0 then .mk 0 0 0
  else if k = 2 ^ 24 then if t < 104 then .mk 1 (t + 1) (2 ^ 23) else .mk 2 0 0
  else if t ≤ 104 then .mk 1 t k else .mk 2 0 0

theorem carriedPlace_mono {k k' : ℕ} {t t' : ℤ} (hk : k ≤ 2 ^ 24) (hk' : k' ≤ 2 ^ 24)
    (ht : t ≤ t') (heq : t = t' → k ≤ k') (hlt : t < t' → 2 ^ 23 ≤ k') :
    carriedPlace k t ≤ carriedPlace k' t' := by
  unfold carriedPlace
  split_ifs <;> rw [Place.mk_le_mk] <;> omega

theorem pack_congr {u v : UnpackedFloat} (h : pack .binary32 u = pack .binary32 v) :
    Float32.Model.pack u = .pack v := by
  simp only [Float32.Model.pack, h]

/-- What is too large for its format is packed as infinite. -/
theorem unpack_pack_of_lt {m : ℕ} {q : ℤ} (hc : Canonical .binary32 m q) (hq : 104 < q) (s : Sign) :
    (Float32.Model.pack (.finite s m q hc.pos)).unpack = .infinity s := by
  have hbiased : 2 ^ (Format.binary32).exponentBits ≤
      (q + (Format.binary32).exponentBias + (Format.binary32).mantissaBitsWithoutImplicit).toNat
        + 1 := by
    show 256 ≤ (q + (127 : ℕ) + (23 : ℕ)).toNat + 1
    omega
  have hpack : UnpackedFloat.pack .binary32 (.finite s m q hc.pos) =
      packedInfinity .binary32 s := if_pos hbiased
  have hoverflow : Float32.Model.pack (.finite s m q hc.pos) = .pack (.infinity s) :=
    pack_congr hpack
  rw [hoverflow]
  cases s <;> rfl

/-- What is packed as a finite number is one, or lies beyond the largest. -/
theorem unpackedPlace?_pack_finite {m : ℕ} {q : ℤ} (hc : Canonical .binary32 m q) :
    unpackedPlace? (Float32.Model.pack (.finite .positive m q hc.pos)).unpack =
      some (if q ≤ 104 then .mk 1 q m else .mk 2 0 0) := by
  rcases le_or_gt q 104 with hq | hq
  · rw [unpack_pack hc hq, if_pos hq]
    rfl
  · rw [unpack_pack_of_lt hc hq, if_neg hq.not_ge]
    rfl

/-- A mantissa that was rounded lies where its exponent says, if it fills all its bits or has the
least exponent. -/
theorem unpackedPlace?_pack_carried {k : ℕ} {t : ℤ} (hk : k ≤ 2 ^ 24) (ht : -149 ≤ t)
    (hfull : -149 < t → 2 ^ 23 ≤ k) :
    unpackedPlace? (Float32.Model.pack (carried .positive k t)).unpack =
      some (carriedPlace k t) := by
  unfold carried carriedPlace
  by_cases hzero : k = 0
  · rw [dif_pos hzero, if_pos hzero]
    rfl
  rw [dif_neg hzero, if_neg hzero]
  by_cases hcarry : k = 2 ^ 24
  · have hc := canonical_of_lt (Nat.two_pow_pos 23) (by norm_num) (show -149 ≤ t + 1 by omega)
      fun _ => Nat.le_refl _
    have hlt : t + 1 ≤ 104 ↔ t < 104 := Int.add_one_le_iff
    rw [if_pos hcarry, if_pos hcarry, unpackedPlace?_pack_finite hc]
    simp only [hlt]
    rfl
  · have hc := canonical_of_lt (Nat.pos_of_ne_zero hzero) (Nat.lt_of_le_of_ne hk hcarry) ht hfull
    rw [if_neg hcarry, if_neg hcarry, unpackedPlace?_pack_finite hc]

/-- **Rounding keeps the order.** -/
theorem exists_places_roundWithAccuracy {n n' : ℕ} {e e' : ℤ} (hn : 0 < n) (hn' : 0 < n')
    (he : e ≤ (Format.binary32).targetExponent (totalExponent n e))
    (he' : e' ≤ (Format.binary32).targetExponent (totalExponent n' e'))
    (h : (n * 2 ^ e : ℚ) ≤ n' * 2 ^ e') :
    ∃ i j : Place, i ≤ j ∧
      unpackedPlace?
        (Float32.Model.pack (roundWithAccuracy .binary32 .positive n e .exact)).unpack =
          some i ∧
      unpackedPlace?
        (Float32.Model.pack (roundWithAccuracy .binary32 .positive n' e' .exact)).unpack =
          some j := by
  obtain ⟨k, hk, hnear, hround⟩ := exists_roundWithAccuracy he .positive
  obtain ⟨k', hk', hnear', hround'⟩ := exists_roundWithAccuracy he' .positive
  obtain ⟨t, ht⟩ : ∃ t, (Format.binary32).targetExponent (totalExponent n e) = t := ⟨_, rfl⟩
  obtain ⟨t', ht'⟩ : ∃ t', (Format.binary32).targetExponent (totalExponent n' e') = t' := ⟨_, rfl⟩
  rw [ht] at hnear hround
  rw [ht'] at hnear' hround'
  have hfull := hnear.two_pow_le hn ht
  have hfull' := hnear'.two_pow_le hn' ht'
  have hmax : max (totalExponent n e - 24) (-149) = t := ht
  have hmax' : max (totalExponent n' e' - 24) (-149) = t' := ht'
  have htotal : totalExponent n e ≤ totalExponent n' e' := by
    have hlow := (describes_mantissa n e).two_zpow_le (by simpa using hn.ne')
    have hhigh := (describes_mantissa n' e').lt_two_zpow
    rw [mantissa_ofMantissaAndAccuracy] at hlow hhigh
    have := (zpow_lt_zpow_iff_right₀ one_lt_two).mp ((hlow.trans h).trans_lt hhigh)
    omega
  have hle : t = t' → k ≤ k' := by
    rintro rfl
    exact hnear.mono hnear' (div_le_div_of_nonneg_right h (by positivity))
  have hplaces : carriedPlace k t ≤ carriedPlace k' t' :=
    carriedPlace_mono hk hk' (by omega) hle fun hlt => hfull' (by omega)
  rw [hround, hround']
  exact ⟨_, _, hplaces, unpackedPlace?_pack_carried hk (by omega) hfull,
    unpackedPlace?_pack_carried hk' (by omega) hfull'⟩

/-! ### Products -/

variable {a b x : Float32}

/-- What is positive is finite, with a positive sign, or infinite. -/
theorem exists_of_pos (h : 0 < x) :
    x.toModel.unpack = .infinity .positive ∨
      ∃ m q hm, x.toModel.unpack = .finite .positive m q hm := by
  have hzero : place? (0 : Float32) = some (.mk 0 0 0) := by rfl
  obtain ⟨i, j, hi, hj, hlt⟩ := lt_iff_place.mp h
  obtain rfl := Option.some.inj (hzero.symm.trans hi)
  rw [place?] at hj
  -- What lies right of zero has a positive sign.
  have hright : ∀ p e m : ℤ, j = .mk p e m → p < 0 ∨ p = 0 ∧ e = 0 ∧ m = 0 → False := by
    rintro p e m rfl hp
    have := Place.mk_le_mk.not.mp hlt.not_ge
    omega
  cases hu : x.toModel.unpack with
  | notANumber =>
    rw [hu] at hj
    cases hj
  | infinity s =>
    rw [hu] at hj
    cases s with
    | positive => exact .inl rfl
    | negative => exact (hright _ _ _ (Option.some.inj hj).symm (.inl (by decide))).elim
  | zero s =>
    rw [hu] at hj
    exact (hright _ _ _ (Option.some.inj hj).symm (.inr ⟨rfl, rfl, rfl⟩)).elim
  | finite s m q hm =>
    rw [hu] at hj
    cases s with
    | positive => exact .inr ⟨m, q, hm, rfl⟩
    | negative => exact (hright _ _ _ (Option.some.inj hj).symm (.inl (by decide))).elim

/-- Canonical numbers are ordered as their exponents are, and then as their mantissas. -/
theorem value_lt_of_place {m m' : ℕ} {q q' : ℤ} (hc : Canonical .binary32 m q)
    (hc' : Canonical .binary32 m' q') (h : q < q' ∨ q = q' ∧ m < m') :
    (m * 2 ^ q : ℚ) < m' * 2 ^ q' := by
  rcases h with hlt | ⟨rfl, hlt⟩
  · have hm : (m : ℚ) < 2 ^ 24 := by exact_mod_cast hc.lt
    have hm' : (2 ^ 23 : ℚ) ≤ m' := by
      have hq : q' ≠ (Format.binary32).minExponent := (hc.min_le.trans_lt hlt).ne'
      exact_mod_cast hc'.normal_or.resolve_right hq
    calc (m * 2 ^ q : ℚ) < 2 ^ 24 * 2 ^ q := by gcongr
      _ = 2 ^ 23 * 2 ^ (q + 1) := by rw [zpow_add_one₀ two_ne_zero]; ring
      _ ≤ m' * 2 ^ q' := by gcongr; exacts [one_le_two, hlt]
  · have : (m : ℚ) < m' := by exact_mod_cast hlt
    gcongr

theorem value_le_of_place {m m' : ℕ} {q q' : ℤ} (hc : Canonical .binary32 m q)
    (hc' : Canonical .binary32 m' q') (h : q < q' ∨ q = q' ∧ m ≤ m') :
    (m * 2 ^ q : ℚ) ≤ m' * 2 ^ q' := by
  rcases h with hlt | ⟨rfl, hle⟩
  · exact (value_lt_of_place hc hc' (.inl hlt)).le
  · have : (m : ℚ) ≤ m' := by exact_mod_cast hle
    gcongr

/-- The product of two canonical mantissas is not finer than what it is rounded to. -/
theorem le_targetExponent_mul {m m' : ℕ} {q q' : ℤ} (hc : Canonical .binary32 m q)
    (hc' : Canonical .binary32 m' q') :
    q + q' ≤ (Format.binary32).targetExponent (totalExponent (m * m') (q + q')) := by
  have hlog : ∀ {k : ℕ}, 0 < k → 2 ^ 23 ≤ k → 23 ≤ k.log2 := fun hk h => (Nat.le_log2 hk.ne').mpr h
  rcases hc.normal_or with hfull | hmin
  · exact le_targetExponent (hlog hc.pos hfull) hc'.pos _
  rcases hc'.normal_or with hfull' | hmin'
  · rw [Nat.mul_comm]
    exact le_targetExponent (hlog hc'.pos hfull') hc.pos _
  · have hleast : (Format.binary32).minExponent = -149 := rfl
    have hlow : q + q' ≤ -149 := by omega
    exact hlow.trans (le_max_right _ _)

theorem unpack_mul (a b : Float32) :
    (a * b).toModel.unpack =
      (Float32.Model.pack (UnpackedFloat.mul .binary32 a.toModel.unpack b.toModel.unpack)).unpack :=
  rfl

/-- Nothing lies beyond the positive infinity. -/
theorem le_of_unpackedPlace? {u : UnpackedFloat} {i : Place} (h : unpackedPlace? u = some i) :
    i ≤ .mk 2 0 0 := by
  cases u with
  | notANumber => cases h
  | infinity s => cases s <;> cases h <;> decide
  | zero s => cases h; decide
  | finite s m q hm => cases s <;> cases h <;> exact Place.mk_le_mk.mpr (.inl (by decide))

theorem unpackedPlace?_infinity : unpackedPlace? (.infinity .positive) = some (.mk 2 0 0) := rfl

theorem unpackedPlace?_finite {m : ℕ} {q : ℤ} (hm : 0 < m) :
    unpackedPlace? (.finite .positive m q hm) = some (.mk 1 q m) := rfl

theorem unpackedPlace?_pack_infinity :
    unpackedPlace? (Float32.Model.pack (.infinity .positive)).unpack = some (.mk 2 0 0) := by rfl

/-- A product is infinite if one of its factors is. -/
theorem place?_mul_of_infinity (ha : 0 < a) (hx : 0 < x)
    (h : a.toModel.unpack = .infinity .positive ∨ x.toModel.unpack = .infinity .positive) :
    place? (a * x) = some (.mk 2 0 0) := by
  have hmul : UnpackedFloat.mul .binary32 a.toModel.unpack x.toModel.unpack =
      .infinity .positive := by
    rcases h with h | h
    · rcases exists_of_pos hx with hux | ⟨m, q, hm, hux⟩ <;> rw [h, hux] <;> rfl
    · rcases exists_of_pos ha with hua | ⟨m, q, hm, hua⟩ <;> rw [h, hua] <;> rfl
  rw [place?, unpack_mul, hmul, unpackedPlace?_pack_infinity]

/-- Products of finite positive numbers keep the order. -/
theorem exists_places_mul {m m' mx : ℕ} {q q' qx : ℤ} {hm : 0 < m} {hm' : 0 < m'} {hmx : 0 < mx}
    (ha : a.toModel.unpack = .finite .positive m q hm)
    (hb : b.toModel.unpack = .finite .positive m' q' hm')
    (hx : x.toModel.unpack = .finite .positive mx qx hmx) (h : q < q' ∨ q = q' ∧ m ≤ m') :
    ∃ i j, place? (a * x) = some i ∧ place? (b * x) = some j ∧ i ≤ j := by
  have hca := (canonical_of_unpack (by decide) ha).1
  have hcb := (canonical_of_unpack (by decide) hb).1
  have hcx := (canonical_of_unpack (by decide) hx).1
  have hvalue : (m * 2 ^ q : ℚ) ≤ m' * 2 ^ q' := value_le_of_place hca hcb h
  have hproduct : ((m * mx : ℕ) * 2 ^ (q + qx) : ℚ) ≤ (m' * mx : ℕ) * 2 ^ (q' + qx) := by
    have hsplit : ∀ (k : ℕ) (t : ℤ),
        ((k * mx : ℕ) * 2 ^ (t + qx) : ℚ) = k * 2 ^ t * (mx * 2 ^ qx) := fun k t => by
      rw [zpow_add₀ two_ne_zero]
      push_cast
      ring
    rw [hsplit, hsplit]
    gcongr
  obtain ⟨i, j, hij, hi, hj⟩ := exists_places_roundWithAccuracy (Nat.mul_pos hm hmx)
    (Nat.mul_pos hm' hmx) (le_targetExponent_mul hca hcx) (le_targetExponent_mul hcb hcx) hproduct
  rw [place?, place?, unpack_mul, unpack_mul, ha, hb, hx]
  exact ⟨i, j, hi, hj, hij⟩

/-- **Multiplying by a positive number keeps the order of positive numbers**, the infinite ones
included. -/
theorem mul_le_mul_right (ha : 0 < a) (hab : a ≤ b) (hx : 0 < x) : a * x ≤ b * x := by
  have hb : 0 < b := lt_of_lt_of_le ha hab
  rw [le_iff_place]
  rcases exists_of_pos hx with hux | ⟨mx, qx, hmx, hux⟩
  · exact ⟨_, _, place?_mul_of_infinity ha hx (.inr hux), place?_mul_of_infinity hb hx (.inr hux),
      le_rfl⟩
  obtain ⟨i, j, hi, hj, hij⟩ := le_iff_place.mp hab
  rw [place?] at hi hj
  rcases exists_of_pos ha with hua | ⟨m, q, hm, hua⟩
  · rcases exists_of_pos hb with hub | ⟨m', q', hm', hub⟩
    · exact ⟨_, _, place?_mul_of_infinity ha hx (.inl hua), place?_mul_of_infinity hb hx (.inl hub),
        le_rfl⟩
    · -- An infinite number is not at most a finite one.
      rw [hua, unpackedPlace?_infinity] at hi
      rw [hub, unpackedPlace?_finite] at hj
      obtain rfl := Option.some.inj hi
      obtain rfl := Option.some.inj hj
      have := Place.mk_le_mk.mp hij
      omega
  · rcases exists_of_pos hb with hub | ⟨m', q', hm', hub⟩
    · -- The first product is a number, and nothing lies beyond the second.
      obtain ⟨k, -, hk, -, -⟩ := exists_places_mul hua hua hux (.inr ⟨rfl, Nat.le_refl m⟩)
      exact ⟨k, _, hk, place?_mul_of_infinity hb hx (.inl hub), le_of_unpackedPlace? hk⟩
    · rw [hua, unpackedPlace?_finite] at hi
      rw [hub, unpackedPlace?_finite] at hj
      obtain rfl := Option.some.inj hi
      obtain rfl := Option.some.inj hj
      have horder := Place.mk_le_mk.mp hij
      exact exists_places_mul hua hub hux (by omega)

end Biomes.Single
