import Mathlib

/-!
# The order of single precision numbers

Every number but `NaN` has a place on a line: what is negative lies left of zero, the infinities lie
at the ends, and among numbers of one sign the exponent counts before the mantissa.  Numbers are
compared as their places are (`compare_eq`), so that comparisons have the laws of a linear order as
far as both sides have a place.
-/

namespace Biomes.Single

open Float.Model (UnpackedFloat)
open Float.Model.UnpackedFloat (Sign)

/-! ### Places -/

/-- A place on the line: the part of the line counts first, then the exponent, then the mantissa. -/
abbrev Place := ℤ ×ₗ ℤ ×ₗ ℤ

/-- The place with the given part of the line, exponent and mantissa. -/
def Place.mk (part exponent mantissa : ℤ) : Place := toLex (part, toLex (exponent, mantissa))

theorem Place.compare_mk (p p' e e' m m' : ℤ) :
    compare (Place.mk p e m) (Place.mk p' e' m') =
      (compare p p').then ((compare e e').then (compare m m')) := by
  simp only [Place.mk, Prod.Lex.compare_def, compareLex, compareOn]
  rfl

/-- Where an unpacked number lies.  Both zeros lie in the same place, and `NaN` lies nowhere. -/
def unpackedPlace? : UnpackedFloat → Option Place
  | .notANumber => none
  | .infinity s => some (.mk (s.apply 2) 0 0)
  | .zero _ => some (.mk 0 0 0)
  | .finite s m q _ => some (.mk (s.apply 1) (s.apply q) (s.apply m))

/-- Where a number lies. -/
def place? (x : Float32) : Option Place := unpackedPlace? x.toModel.unpack

theorem compare_neg (i j : ℤ) : compare (-i) (-j) = (compare i j).swap := by
  rw [Int.compare_swap]
  simp only [compare, compareOfLessAndEq]
  grind

theorem compare_natCast (m n : ℕ) : compare (m : ℤ) (n : ℤ) = compare m n := by
  simp only [compare, compareOfLessAndEq, Int.ofNat_lt, Int.natCast_inj]

/-- Finite numbers are compared by their signs, and then by exponents and mantissas, which count the
other way round below zero. -/
theorem compare_finite (s s' : Sign) (m m' : ℕ) (q q' : ℤ) (hm : 0 < m) (hm' : 0 < m') :
    (UnpackedFloat.finite s m q hm).compare (.finite s' m' q' hm') =
      some (compare (Place.mk (s.apply 1) (s.apply q) (s.apply m))
        (Place.mk (s'.apply 1) (s'.apply q') (s'.apply m'))) := by
  rw [Place.compare_mk]
  cases s with
  | negative =>
    cases s' with
    | negative =>
      show some ((compare q q').then (compare m m')).swap =
        some ((compare (-q) (-q')).then (compare (-(m : ℤ)) (-(m' : ℤ))))
      rw [Ordering.swap_then, compare_neg, compare_neg, compare_natCast]
    | positive => rfl
  | positive =>
    cases s' with
    | negative => rfl
    | positive =>
      show some ((compare q q').then (compare m m')) =
        some ((compare q q').then (compare (m : ℤ) (m' : ℤ)))
      rw [compare_natCast]

/-- Unpacked numbers are compared as their places are. -/
theorem compare_eq (a b : UnpackedFloat) :
    a.compare b = (unpackedPlace? a).bind fun i => (unpackedPlace? b).map (compare i) := by
  cases a with
  | notANumber => rfl
  | infinity s =>
    cases b with
    | notANumber => cases s <;> rfl
    | infinity s' => cases s <;> cases s' <;> rfl
    | zero s' => cases s <;> rfl
    | finite s' m' q' hm' => cases s <;> cases s' <;> rfl
  | zero s =>
    cases b with
    | notANumber => rfl
    | infinity s' => cases s' <;> rfl
    | zero s' => rfl
    | finite s' m' q' hm' => cases s' <;> rfl
  | finite s m q hm =>
    cases b with
    | notANumber => cases s <;> rfl
    | infinity s' => cases s <;> cases s' <;> rfl
    | zero s' => cases s <;> rfl
    | finite s' m' q' hm' => exact compare_finite s s' m m' q q' hm hm'

/-! ### Numbers -/

variable {x y z : Float32}

theorem isNaN_iff (x : Float32) : x.isNaN = true ↔ x.toModel.unpack = .notANumber := by
  show x.toModel.unpack.isNaN = true ↔ _
  cases x.toModel.unpack <;> simp [UnpackedFloat.isNaN]

/-- Only `NaN` lies nowhere. -/
theorem place?_eq_none_iff : place? x = none ↔ x.isNaN = true := by
  rw [isNaN_iff, place?]
  cases x.toModel.unpack <;> simp [unpackedPlace?]

theorem exists_place (h : x.isNaN = false) : ∃ i, place? x = some i := by
  refine Option.ne_none_iff_exists'.mp fun hnone => ?_
  rw [place?_eq_none_iff.mp hnone] at h
  cases h

theorem isNaN_of_place {i : Place} (h : place? x = some i) : x.isNaN = false := by
  refine Bool.eq_false_iff.mpr fun hnan => ?_
  rw [place?_eq_none_iff.mpr hnan] at h
  cases h

theorem compare_unpack (x y : Float32) :
    x.toModel.unpack.compare y.toModel.unpack =
      (place? x).bind fun i => (place? y).map (compare i) :=
  compare_eq ..

theorem lt_iff_compare : x < y ↔ x.toModel.unpack.compare y.toModel.unpack = some .lt := by
  have hlt : x < y ↔ (x.toModel.unpack.compare y.toModel.unpack == some .lt) = true := by
    show decide (x.toModel < y.toModel) = true ↔ _
    rw [decide_eq_true_iff]
    exact Iff.rfl
  rw [hlt, beq_iff_eq]

theorem lt_iff_place : x < y ↔ ∃ i j, place? x = some i ∧ place? y = some j ∧ i < j := by
  rw [lt_iff_compare, compare_unpack]
  cases place? x <;> cases place? y <;> simp [compare_lt_iff_lt]

theorem le_iff_place : x ≤ y ↔ ∃ i j, place? x = some i ∧ place? y = some j ∧ i ≤ j := by
  have hle : x ≤ y ↔ (x.toModel.unpack.compare y.toModel.unpack).any (·.isLE) = true := by
    show decide (x.toModel ≤ y.toModel) = true ↔ _
    rw [decide_eq_true_iff]
    exact Iff.rfl
  rw [hle, compare_unpack]
  cases place? x <;> cases place? y <;> simp [Ordering.isLE_iff_ne_gt, compare_le_iff_le]

theorem beq_iff_place : (x == y) = true ↔ ∃ i, place? x = some i ∧ place? y = some i := by
  have hbeq : (x == y) = true ↔
      (x.toModel.unpack.compare y.toModel.unpack == some .eq) = true := Iff.rfl
  rw [hbeq, compare_unpack, beq_iff_eq]
  cases place? x with
  | none => simp
  | some i =>
    cases place? y with
    | none => simp
    | some j => simpa [compare_eq_iff_eq] using eq_comm

/-! ### The laws of the order -/

theorem le_trans (h : x ≤ y) (h' : y ≤ z) : x ≤ z := by
  obtain ⟨i, j, hx, hy, hij⟩ := le_iff_place.mp h
  obtain ⟨j', k, hy', hz, hjk⟩ := le_iff_place.mp h'
  obtain rfl : j = j' := Option.some.inj (hy.symm.trans hy')
  exact le_iff_place.mpr ⟨i, k, hx, hz, hij.trans hjk⟩

/-- A comparison does not tell numbers apart that count as equal. -/
theorem le_congr {x' y' : Float32} (hx : (x == x') = true) (hy : (y == y') = true) :
    x ≤ y ↔ x' ≤ y' := by
  obtain ⟨i, hi, hi'⟩ := beq_iff_place.mp hx
  obtain ⟨j, hj, hj'⟩ := beq_iff_place.mp hy
  simp only [le_iff_place, hi, hi', hj, hj']

theorem lt_of_le_of_lt (h : x ≤ y) (h' : y < z) : x < z := by
  obtain ⟨i, j, hx, hy, hij⟩ := le_iff_place.mp h
  obtain ⟨j', k, hy', hz, hjk⟩ := lt_iff_place.mp h'
  obtain rfl : j = j' := Option.some.inj (hy.symm.trans hy')
  exact lt_iff_place.mpr ⟨i, k, hx, hz, hij.trans_lt hjk⟩

theorem lt_of_lt_of_le (h : x < y) (h' : y ≤ z) : x < z := by
  obtain ⟨i, j, hx, hy, hij⟩ := lt_iff_place.mp h
  obtain ⟨j', k, hy', hz, hjk⟩ := le_iff_place.mp h'
  obtain rfl : j = j' := Option.some.inj (hy.symm.trans hy')
  exact lt_iff_place.mpr ⟨i, k, hx, hz, hij.trans_le hjk⟩

theorem le_of_lt (h : x < y) : x ≤ y := by
  obtain ⟨i, j, hx, hy, hij⟩ := lt_iff_place.mp h
  exact le_iff_place.mpr ⟨i, j, hx, hy, hij.le⟩

/-- What is compared with another number is no `NaN`. -/
theorem isNaN_of_le (h : x ≤ y) : x.isNaN = false ∧ y.isNaN = false := by
  obtain ⟨i, j, hx, hy, -⟩ := le_iff_place.mp h
  exact ⟨isNaN_of_place hx, isNaN_of_place hy⟩

/-- Of two numbers either one is at most the other, or it is above it. -/
theorem lt_iff_not_le (hx : x.isNaN = false) (hy : y.isNaN = false) : x < y ↔ ¬y ≤ x := by
  obtain ⟨i, hi⟩ := exists_place hx
  obtain ⟨j, hj⟩ := exists_place hy
  simp [lt_iff_place, le_iff_place, hi, hj]

theorem not_le_of_lt (h : x < y) : ¬y ≤ x := by
  obtain ⟨hx, hy⟩ := isNaN_of_le (le_of_lt h)
  exact (lt_iff_not_le hx hy).mp h

theorem le_total (hx : x.isNaN = false) (hy : y.isNaN = false) : x ≤ y ∨ y ≤ x := by
  by_cases h : x ≤ y
  · exact .inl h
  · exact .inr (le_of_lt ((lt_iff_not_le hy hx).mpr h))

theorem le_refl (hx : x.isNaN = false) : x ≤ x := (le_total hx hx).elim id id

/-- Numbers that are at most each other count as equal. -/
theorem beq_of_le_of_le (h : x ≤ y) (h' : y ≤ x) : (x == y) = true := by
  obtain ⟨i, j, hx, hy, hij⟩ := le_iff_place.mp h
  obtain ⟨j', i', hy', hx', hji⟩ := le_iff_place.mp h'
  obtain rfl : j = j' := Option.some.inj (hy.symm.trans hy')
  obtain rfl : i = i' := Option.some.inj (hx.symm.trans hx')
  exact beq_iff_place.mpr ⟨i, hx, hij.antisymm hji ▸ hy⟩

theorem le_of_beq (h : (x == y) = true) : x ≤ y := by
  obtain ⟨i, hx, hy⟩ := beq_iff_place.mp h
  exact le_iff_place.mpr ⟨i, i, hx, hy, le_rfl⟩

theorem beq_symm (h : (x == y) = true) : (y == x) = true := by
  obtain ⟨i, hx, hy⟩ := beq_iff_place.mp h
  exact beq_iff_place.mpr ⟨i, hy, hx⟩

/-- What is below another number is not equal to it. -/
theorem not_beq_of_lt (h : x < y) : (x == y) = false := by
  apply Bool.eq_false_iff.mpr
  intro hbeq
  exact not_le_of_lt h (le_of_beq (beq_symm hbeq))

/-- At most another number is what is below it or equal to it. -/
theorem le_iff_lt_or_beq : x ≤ y ↔ x < y ∨ (x == y) = true := by
  constructor
  · intro h
    obtain ⟨hx, hy⟩ := isNaN_of_le h
    by_cases hlt : x < y
    · exact .inl hlt
    · rw [lt_iff_not_le hx hy, Classical.not_not] at hlt
      exact .inr (beq_of_le_of_le h hlt)
  · rintro (hlt | hbeq)
    · exact le_of_lt hlt
    · exact le_of_beq hbeq

end Biomes.Single
