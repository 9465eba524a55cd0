import Biomes.Grid.BiomeCube
import Biomes.Proofs.Grid.BiomeMap

/-!
# Cells of biome cubes

The cells of a cube are stored one line behind the other, and the lines one layer behind the other:
cell `(x, y, z)` at `(x * side + y) * side + z`.  A cube may have so many cells that this is no
machine word.  Then the cell reads as one that was never written; no position is ever cut down to a
word, so that no two cells of a cube share one (`BiomeCube.isAddressed`).

Both the number of cells and a position are computed step by step, and each step is checked.  The
steps grow, since no cube with a cell has side `0`; so whether the result is a word decides whether
all of them are (`BiomeCube.cellCount?_eq_some_iff`, `BiomeCube.index?_eq_some_iff`).
-/

namespace Biomes

/-! ### Machine words -/

section

variable {a b k n : Nat}

/-- A number that must be a machine word is given exactly if it is one. -/
theorem word?_eq_some_iff : (if k < wordLimit then some k else none) = some n ↔
    n = k ∧ n < 2 ^ 64 := by
  rw [Option.ite_none_right_eq_some, Option.some_inj]
  constructor
  · rintro ⟨hlt, rfl⟩
    exact ⟨rfl, hlt⟩
  · rintro ⟨rfl, hlt⟩
    exact ⟨hlt, rfl⟩

theorem mulWord?_eq_some_iff : mulWord? a b = some n ↔ n = a * b ∧ n < 2 ^ 64 :=
  word?_eq_some_iff

theorem addWord?_eq_some_iff : addWord? a b = some n ↔ n = a + b ∧ n < 2 ^ 64 :=
  word?_eq_some_iff

end

/-! ### Positions in a cube -/

section

variable {side x y z x' y' z' : Nat}

/-- A position in a cube is below the number of its cells. -/
theorem cubePosition_lt (hx : x < side) (hy : y < side) (hz : z < side) :
    (x * side + y) * side + z < side ^ 3 :=
  calc (x * side + y) * side + z
    _ < (x * side + y) * side + side := Nat.add_lt_add_left hz _
    _ = (x * side + y + 1) * side := (Nat.succ_mul _ _).symm
    _ ≤ side * side * side := Nat.mul_le_mul_right side (position_lt hx hy)
    _ = side ^ 3 := by ring

/-- No two cells of a cube are stored at the same position. -/
theorem cubePosition_inj (hy : y < side) (hz : z < side) (hy' : y' < side) (hz' : z' < side)
    (h : (x * side + y) * side + z = (x' * side + y') * side + z') :
    x = x' ∧ y = y' ∧ z = z' := by
  obtain ⟨hline, hz⟩ := position_inj hz hz' h
  obtain ⟨hx, hy⟩ := position_inj hy hy' hline
  exact ⟨hx, hy, hz⟩

/-- Each position below the number of cells is that of a cell. -/
theorem exists_cubePosition_eq {i : Nat} (hi : i < side ^ 3) :
    ∃ x < side, ∃ y < side, ∃ z < side, (x * side + y) * side + z = i := by
  have hside : 0 < side := by
    apply Nat.pos_of_ne_zero
    rintro rfl
    exact absurd hi (Nat.not_lt_zero i)
  have hline : i / side < side * side := by
    apply Nat.div_lt_of_lt_mul
    calc i < side ^ 3 := hi
      _ = side * (side * side) := by ring
  refine ⟨i / side / side, Nat.div_lt_of_lt_mul hline, i / side % side, Nat.mod_lt _ hside,
    i % side, Nat.mod_lt _ hside, ?_⟩
  rw [Nat.div_add_mod', Nat.div_add_mod']

end

namespace BiomeCube

/-! ### Checked steps -/

theorem cellCount?_eq_some_iff {c : BiomeCube} {n : Nat} :
    c.cellCount? = some n ↔ n = c.side.toNat ^ 3 ∧ n < 2 ^ 64 := by
  have hcube : c.side.toNat * c.side.toNat * c.side.toNat = c.side.toNat ^ 3 := by ring
  simp only [cellCount?, Option.bind_eq_bind, Option.bind_eq_some_iff, mulWord?_eq_some_iff]
  constructor
  · rintro ⟨area, ⟨rfl, -⟩, rfl, hlt⟩
    exact ⟨hcube, hlt⟩
  · rintro ⟨rfl, hlt⟩
    refine ⟨_, ⟨rfl, ?_⟩, hcube.symm, hlt⟩
    -- A layer has no more cells than the cube, unless both have none.
    rcases Nat.eq_zero_or_pos c.side.toNat with hzero | hpos
    · rw [hzero]
      decide
    · rw [← hcube] at hlt
      exact (Nat.le_mul_of_pos_right _ hpos).trans_lt hlt

variable {c : BiomeCube} {x y z : Nat}

theorem index?_eq_some_iff (hx : x < c.side.toNat) {i : Nat} :
    c.index? x y z = some i ↔
      i = (x * c.side.toNat + y) * c.side.toNat + z ∧ i < 2 ^ 64 := by
  simp only [index?, Option.bind_eq_bind, Option.bind_eq_some_iff, mulWord?_eq_some_iff,
    addWord?_eq_some_iff]
  constructor
  · rintro ⟨_, ⟨rfl, -⟩, _, ⟨rfl, -⟩, _, ⟨rfl, -⟩, rfl, hlt⟩
    exact ⟨rfl, hlt⟩
  · rintro ⟨rfl, hlt⟩
    -- Each step leads to a greater number than the one before.
    have hplane : (x * c.side.toNat + y) * c.side.toNat < 2 ^ 64 :=
      (Nat.le_add_right _ z).trans_lt hlt
    have hline : x * c.side.toNat + y < 2 ^ 64 :=
      (Nat.le_mul_of_pos_right _ (Nat.zero_lt_of_lt hx)).trans_lt hplane
    have hrow : x * c.side.toNat < 2 ^ 64 := (Nat.le_add_right _ y).trans_lt hline
    exact ⟨_, ⟨rfl, hrow⟩, _, ⟨rfl, hline⟩, _, ⟨rfl, hplane⟩, rfl, hlt⟩

theorem index?_eq (hx : x < c.side.toNat) :
    c.index? x y z =
      if (x * c.side.toNat + y) * c.side.toNat + z < 2 ^ 64 then
        some ((x * c.side.toNat + y) * c.side.toNat + z) else none := by
  split
  case isTrue hlt => exact (index?_eq_some_iff hx).mpr ⟨rfl, hlt⟩
  case isFalse hle =>
    rw [Option.eq_none_iff_forall_ne_some]
    intro i hi
    obtain ⟨rfl, hlt⟩ := (index?_eq_some_iff hx).mp hi
    exact hle hlt

/-! ### Addresses -/

/-- The cells of a cube are addressed without overflow and without alias. -/
structure IsAddressed (c : BiomeCube) : Prop where
  /-- The number of cells is given exactly if it is a machine word. -/
  cellCount?_eq_some : ∀ n, c.cellCount? = some n ↔ n = c.side.toNat ^ 3 ∧ n < 2 ^ 64
  /-- A cell has its position exactly if this is a machine word. -/
  index?_eq : ∀ x < c.side.toNat, ∀ y < c.side.toNat, ∀ z < c.side.toNat,
    c.index? x y z =
      if (x * c.side.toNat + y) * c.side.toNat + z < 2 ^ 64 then
        some ((x * c.side.toNat + y) * c.side.toNat + z) else none
  /-- No cell is refused: it reads as what is stored at its position, and has no biome if nothing is
  stored there or if it has no position. -/
  get_eq : ∀ x < c.side.toNat, ∀ y < c.side.toNat, ∀ z < c.side.toNat,
    c.get x y z = .ok ((c.index? x y z).bind fun i => c.cells[i]?.join)
  /-- Different cells have different positions, also in a cube whose number of cells is no word. -/
  injective : ∀ x < c.side.toNat, ∀ y < c.side.toNat, ∀ z < c.side.toNat,
    ∀ x' < c.side.toNat, ∀ y' < c.side.toNat, ∀ z' < c.side.toNat,
    ∀ i, c.index? x y z = some i → c.index? x' y' z' = some i → x = x' ∧ y = y' ∧ z = z'
  /-- If the number of cells is a word, each cell has a position below it, … -/
  index?_lt : ∀ n, c.cellCount? = some n →
    ∀ x < c.side.toNat, ∀ y < c.side.toNat, ∀ z < c.side.toNat, ∃ i < n, c.index? x y z = some i
  /-- … and each position below it is that of a cell. -/
  surjective : ∀ n, c.cellCount? = some n → ∀ i < n,
    ∃ x < c.side.toNat, ∃ y < c.side.toNat, ∃ z < c.side.toNat, c.index? x y z = some i

/-- **A cube is addressed without overflow and without alias**, however large it is.  Its number of
cells and the position of a cell are given exactly if they are machine words; no cell of the cube is
refused; no two have the same position; and if the number of cells is a word, their positions are
all numbers below it. -/
theorem isAddressed (c : BiomeCube) : c.IsAddressed where
  cellCount?_eq_some _ := cellCount?_eq_some_iff
  index?_eq _ hx _ _ _ _ := index?_eq hx
  get_eq _ hx _ hy _ hz := if_pos ⟨hx, hy, hz⟩
  injective := by
    intro x hx y hy z hz x' hx' y' hy' z' hz' i hi hi'
    obtain ⟨rfl, -⟩ := (index?_eq_some_iff hx).mp hi
    obtain ⟨hposition, -⟩ := (index?_eq_some_iff hx').mp hi'
    exact cubePosition_inj hy hz hy' hz' hposition
  index?_lt := by
    intro n hn x hx y hy z hz
    obtain ⟨rfl, hlt⟩ := cellCount?_eq_some_iff.mp hn
    have hposition := cubePosition_lt hx hy hz
    exact ⟨_, hposition, (index?_eq_some_iff hx).mpr ⟨rfl, hposition.trans hlt⟩⟩
  surjective := by
    intro n hn i hi
    obtain ⟨rfl, hlt⟩ := cellCount?_eq_some_iff.mp hn
    obtain ⟨x, hx, y, hy, z, hz, hposition⟩ := exists_cubePosition_eq hi
    exact ⟨x, hx, y, hy, z, hz,
      (index?_eq_some_iff hx).mpr ⟨hposition.symm, hi.trans hlt⟩⟩

/-- In a cube with side `2 ^ 32` the positions of the first layer are just the machine words; the
first cell of the next layer has none, and reads as one without a biome. -/
theorem isAddressed_layer :
    (blank 0x100000000 1).cellCount? = none ∧
      (blank 0x100000000 1).index? 0 0xffffffff 0xffffffff = some 0xffffffffffffffff ∧
      (blank 0x100000000 1).index? 1 0 0 = none ∧
      (blank 0x100000000 1).get 1 0 0 = .ok none := by
  have h := isAddressed (blank 0x100000000 1)
  have hnext : (blank 0x100000000 1).index? 1 0 0 = none :=
    (h.index?_eq 1 (by decide) 0 (by decide) 0 (by decide)).trans (by decide)
  refine ⟨?_, ?_, hnext, ?_⟩
  · rw [Option.eq_none_iff_forall_ne_some]
    intro n hn
    obtain ⟨rfl, hlt⟩ := (h.cellCount?_eq_some n).mp hn
    revert hlt
    decide
  · exact (h.index?_eq 0 (by decide) _ (by decide) _ (by decide)).trans (by decide)
  · rw [h.get_eq 1 (by decide) 0 (by decide) 0 (by decide), hnext]
    rfl

end BiomeCube

end Biomes
