import Biomes.Proofs.Decimal.Rounding

/-!
# Packing loses nothing

A floating point number is kept as bits, and valid bits are found again when what they unpack to is
packed.  Conversely, each canonical number is found again when it is packed and unpacked
(`unpack_pack`), and what bits are unpacked to is canonical (`canonical_of_unpack`).
-/

namespace Biomes.Decimal

open Float.Model (Format UnpackedFloat totalExponent)
open Float.Model.UnpackedFloat

variable {f : Format} {b : BitVec f.numBits}

theorem two_pow_exponentBits (f : Format) : 2 ^ f.exponentBits = 2 * f.exponentBias + 2 := by
  have he := f.he
  have hpos := Nat.one_le_two_pow (n := f.exponentBits - 1)
  have hsplit : 2 ^ f.exponentBits = 2 * 2 ^ (f.exponentBits - 1) := by
    rw [← pow_succ', Nat.sub_add_cancel he]
  rw [hsplit, Format.exponentBias]
  omega

/-- The mantissa of a normal number: the leading bit is not stored. -/
theorem toNat_leading (v : BitVec f.mantissaBitsWithoutImplicit) :
    (1#1 ++ v).toNat = 2 ^ f.mantissaBitsWithoutImplicit + v.toNat := by
  rw [BitVec.toNat_append, ← Nat.shiftLeft_add_eq_or_of_lt v.isLt, Nat.shiftLeft_eq]
  simp

theorem log2_leading (v : BitVec f.mantissaBitsWithoutImplicit) :
    (1#1 ++ v).toNat.log2 = f.mantissaBitsWithoutImplicit := by
  have := v.isLt
  rw [toNat_leading, Nat.log2_eq_iff (by positivity), pow_succ]
  omega

theorem succ_lt_of_ne_neg_one {v : BitVec f.exponentBits} (hv : v ≠ -1#_) :
    v.toNat + 1 < 2 ^ f.exponentBits := by
  have hne := mt BitVec.eq_of_toNat_eq hv
  rw [BitVec.neg_one_eq_allOnes, BitVec.toNat_allOnes] at hne
  have := v.isLt
  omega

theorem ofNat_ne_neg_one {n : ℕ} (hn : n + 1 < 2 ^ f.exponentBits) :
    BitVec.ofNat f.exponentBits n ≠ -1#_ := by
  intro h
  have h := congrArg BitVec.toNat h
  rw [BitVec.neg_one_eq_allOnes, BitVec.toNat_allOnes, BitVec.toNat_ofNat,
    Nat.mod_eq_of_lt (by omega)] at h
  omega

/-- What is unpacked is canonical, and its exponent is not too large. -/
theorem canonical_of_unpack (hf : 1 < f.exponentBits) {s : Sign} {m : ℕ} {q : ℤ} {hm : 0 < m}
    (hb : unpack f b = .finite s m q hm) :
    Canonical f m q ∧ q ≤ (f.exponentBias : ℤ) - f.mantissaBitsWithoutImplicit := by
  have hsize := two_pow_exponentBits f
  have hmin := minExponent_eq f
  have hfour : 4 ≤ 2 ^ f.exponentBits := Nat.pow_le_pow_right two_pos hf
  unfold unpack at hb
  dsimp only at hb
  split at hb
  · split at hb <;> cases hb
  · rename_i hexp
    have hlt := succ_lt_of_ne_neg_one hexp
    split at hb
    · rename_i hexp0
      split at hb
      · cases hb
      · rename_i hman
        have hlog : (unpackMantissa b).toNat.log2 < f.mantissaBitsWithoutImplicit :=
          (Nat.log2_lt (by simpa [← BitVec.toNat_inj] using hman)).mpr (unpackMantissa b).isLt
        injection hb with _ hm' hq
        subst hm' hq
        rw [hexp0, BitVec.toNat_zero]
        refine ⟨⟨hm, ?_⟩, by omega⟩
        rw [Format.targetExponent, totalExponent, Format.mantissaBits, hmin]
        push_cast
        omega
    · rename_i hexp0
      have hne : 0 < (unpackExponent b).toNat := by
        have := mt BitVec.eq_of_toNat_eq hexp0
        rw [BitVec.toNat_zero] at this
        omega
      injection hb with _ hm' hq
      subst hm' hq
      refine ⟨⟨hm, ?_⟩, by omega⟩
      rw [Format.targetExponent, totalExponent, Format.mantissaBits, hmin, log2_leading]
      push_cast
      omega

/-- Unpacking what was packed gives a canonical number back, if its exponent is not too large. -/
theorem unpack_pack (hf : 1 < f.exponentBits) {m : ℕ} {q : ℤ} (hc : Canonical f m q)
    (hq : q ≤ (f.exponentBias : ℤ) - f.mantissaBitsWithoutImplicit) (s : Sign) :
    unpack f (pack f (.finite s m q hc.pos)) = .finite s m q hc.pos := by
  have hsize := two_pow_exponentBits f
  have hmin := minExponent_eq f
  have hfour : 4 ≤ 2 ^ f.exponentBits := Nat.pow_le_pow_right two_pos hf
  have hminq := hc.min_le
  obtain ⟨n, hn⟩ : ∃ n : ℕ, q + f.exponentBias + f.mantissaBitsWithoutImplicit = n :=
    ⟨_, (Int.toNat_of_nonneg (by omega)).symm⟩
  have hlt : n + 1 < 2 ^ f.exponentBits := by omega
  have htoNat : (BitVec.ofNat f.exponentBits n).toNat = n := by
    rw [BitVec.toNat_ofNat, Nat.mod_eq_of_lt (by omega)]
  simp only [pack]
  rw [hn, Int.toNat_natCast, if_neg (by omega)]
  by_cases hlog : m.log2 + 1 = f.mantissaBits
  · -- A normal number.
    have hm : (1#1 ++ BitVec.ofNat f.mantissaBitsWithoutImplicit m).toNat = m := by
      have hle := Nat.log2_self_le hc.pos.ne'
      have hlt := hc.lt
      rw [Format.mantissaBits] at hlog hlt
      rw [show m.log2 = f.mantissaBitsWithoutImplicit by omega] at hle
      rw [pow_add, pow_one] at hlt
      rw [toNat_leading, BitVec.toNat_ofNat, Nat.mod_eq_sub_mod hle, Nat.mod_eq_of_lt (by omega)]
      omega
    have hexp0 : BitVec.ofNat f.exponentBits n ≠ 0#_ := by
      rw [← BitVec.toNat_inj.ne, htoNat, BitVec.toNat_zero]
      omega
    rw [if_pos hlog, unpack]
    simp only [unpackMantissa_packComponents, unpackExponent_packComponents,
      unpackSign_packComponents, Sign.ofBitVec_toBitVec, if_neg (ofNat_ne_neg_one hlt),
      if_neg hexp0, hm, htoNat]
    congr 1
    omega
  · -- A subnormal number.
    have hlow : m < 2 ^ f.mantissaBitsWithoutImplicit := by
      have := hc.log2_lt
      rw [Format.mantissaBits] at this hlog
      exact (Nat.log2_lt hc.pos.ne').mp (by omega)
    have hqmin : q = f.minExponent := hc.normal_or.resolve_left (by omega)
    have hm : (BitVec.ofNat f.mantissaBitsWithoutImplicit m).toNat = m := by
      rw [BitVec.toNat_ofNat, Nat.mod_eq_of_lt hlow]
    have hman0 : BitVec.ofNat f.mantissaBitsWithoutImplicit m ≠ 0#_ := by
      rw [← BitVec.toNat_inj.ne, hm, BitVec.toNat_zero]
      exact hc.pos.ne'
    have hzero := ofNat_ne_neg_one (f := f) (n := 0) (by omega)
    rw [if_neg hlog, unpack]
    simp only [unpackMantissa_packComponents, unpackExponent_packComponents,
      unpackSign_packComponents, Sign.ofBitVec_toBitVec, if_neg hzero, if_true, dif_neg hman0, hm,
      BitVec.toNat_zero]
    congr 1
    omega

end Biomes.Decimal
