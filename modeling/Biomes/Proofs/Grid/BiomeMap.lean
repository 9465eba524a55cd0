import Biomes.Grid.Pass
import Mathlib

/-!
# Biome maps are grids

Whatever is written to a map, and whatever calls it refuses in between, it stays an exact grid: each
cell holds what was last written to it, and nothing that was written elsewhere.  A map stores its
cells one row after the other, and only the check of both coordinates keeps a call from reaching into
the next row: cell `(0, side)` would be stored where `(1, 0)` is.

* `position_inj`: no two cells are stored at the same position;
* `BiomeMap.Shows.perform`: what a map shows after one call;
* `BiomeMap.answers_after_blank`: how a map answers after any calls.
-/

namespace Biomes

/-! ### Positions -/

section

variable {side x y x' y' : Nat}

theorem position_lt (hx : x < side) (hy : y < side) : x * side + y < side * side :=
  (cellIndex ⟨x, hx⟩ ⟨y, hy⟩).isLt

/-- The row is the quotient of the position. -/
theorem position_div (x : Nat) (hy : y < side) : (x * side + y) / side = x := by
  have hpos : 0 < side := Nat.zero_lt_of_lt hy
  rw [Nat.mul_comm x, Nat.mul_add_div hpos, Nat.div_eq_of_lt hy, Nat.add_zero]

/-- The column is the remainder. -/
theorem position_mod (x : Nat) (hy : y < side) : (x * side + y) % side = y := by
  rw [Nat.mul_comm x, Nat.mul_add_mod, Nat.mod_eq_of_lt hy]

/-- No two cells are stored at the same position. -/
theorem position_inj (hy : y < side) (hy' : y' < side) (h : x * side + y = x' * side + y') :
    x = x' ∧ y = y' := by
  constructor
  · rw [← position_div x hy, h, position_div x' hy']
  · rw [← position_mod x hy, h, position_mod x' hy']

end

/-- The number of cells is a machine word if the side is at most half as long as one. -/
theorem mul_self_lt_wordLimit_iff {n : Nat} : n * n < wordLimit ↔ n < 2 ^ 32 := by
  rw [show wordLimit = 2 ^ 32 * 2 ^ 32 from rfl]
  exact Nat.mul_self_lt_mul_self_iff

namespace BiomeMap

/-! ### Calls -/

/-- A call on a map. -/
inductive Call where
  | get (x y : Nat)
  | number (x y : Nat)
  | set (x y : Nat) (b : Option BiomeId)

/-- What a call gives. -/
inductive Answer where
  | biome (r : Except OutsideMap (Option BiomeId))
  | number (r : Except OutsideMap Int)
  | written (r : Except OutsideMap Unit)
  deriving DecidableEq

namespace Call

/-- The cell that a call is about. -/
def cell : Call → Nat × Nat
  | .get x y | .number x y | .set x y _ => (x, y)

/-- What a call writes to a cell, if it does. -/
def written? (x y : Nat) : Call → Option (Option BiomeId)
  | .set x' y' b => if x' = x ∧ y' = y then some b else none
  | .get _ _ | .number _ _ => none

/-- The answer to a call that is refused. -/
def refusal (side : Nat) : Call → Answer
  | .get x y => .biome (.error ⟨x, y, side⟩)
  | .number x y => .number (.error ⟨x, y, side⟩)
  | .set x y _ => .written (.error ⟨x, y, side⟩)

end Call

/-- The map after a call, and what the call gives.  Only a call to `set` that is not refused changes
the map. -/
def perform (m : BiomeMap) : Call → BiomeMap × Answer
  | .get x y => (m, .biome (m.get x y))
  | .number x y => (m, .number (m.number x y))
  | .set x y b =>
    match m.set x y b with
    | .ok written => (written, .written (.ok ()))
    | .error e => (m, .written (.error e))

/-- The map after some calls. -/
def after (m : BiomeMap) (calls : List Call) : BiomeMap :=
  calls.foldl (fun m call => (m.perform call).1) m

/-- What was last written to a cell, and nothing if it was never written. -/
def lastWritten (calls : List Call) (x y : Nat) : Option BiomeId :=
  (calls.reverse.findSome? (·.written? x y)).join

/-! ### What a map shows -/

/-- A map with this side and step has these biomes in its cells. -/
structure Shows (m : BiomeMap) (side : Nat) (step : Float32) (f : Nat → Nat → Option BiomeId) :
    Prop where
  side_eq : m.side = side
  step_eq : m.step = step
  size_eq : m.cells.size = side * side
  cell_eq : ∀ x < side, ∀ y < side, m.cells[x * side + y]? = some (f x y)

/-- How a map with this side and step answers when its cells hold these biomes. -/
structure Answers (m : BiomeMap) (side : Nat) (step : Float32) (f : Nat → Nat → Option BiomeId) :
    Prop where
  shows : m.Shows side step f
  /-- Each cell of the grid has a position of its own among those that are stored. -/
  position : ∀ x < side, ∀ y < side, m.index x y = .ok (x * side + y) ∧
    x * side + y < side * side ∧
    ∀ x' y', m.index x' y' = .ok (x * side + y) → x' = x ∧ y' = y
  get_eq : ∀ x < side, ∀ y < side, m.get x y = .ok (f x y)
  number_eq_index : ∀ x < side, ∀ y < side, ∀ b, f x y = some b → m.number x y = .ok b.index
  number_eq_neg_one_iff : ∀ x < side, ∀ y < side, m.number x y = .ok (-1) ↔ f x y = none
  /-- A cell of the grid can be written. -/
  written : ∀ x < side, ∀ y < side, ∀ b, (m.perform (.set x y b)).2 = .written (.ok ())
  /-- A call that is about a cell outside the grid is refused, and the map stays as it is. -/
  refused : ∀ call : Call, side ≤ call.cell.1 ∨ side ≤ call.cell.2 →
    m.perform call = (m, call.refusal side)

theorem index_of_lt {m : BiomeMap} {x y : Nat} (hx : x < m.side) (hy : y < m.side) :
    m.index x y = .ok (x * m.side + y) :=
  if_pos ⟨hx, hy⟩

theorem index_of_le {m : BiomeMap} {x y : Nat} (h : m.side ≤ x ∨ m.side ≤ y) :
    m.index x y = .error ⟨x, y, m.side⟩ := by
  apply if_neg
  omega

/-- On a new map no cell has a biome. -/
theorem shows_blank (side : Nat) (step : Float32) :
    (blank side step).Shows side step fun _ _ => none := by
  refine ⟨rfl, rfl, Array.size_replicate, ?_⟩
  intro x hx y hy
  rw [blank, Array.getElem?_replicate, if_pos (position_lt hx hy)]

/-- The cells of a map are read where they are stored. -/
theorem get_ofFn {side : Nat} (step : Float32) (f : Fin (side * side) → Option BiomeId)
    (x y : Fin side) :
    (BiomeMap.mk side step (List.ofFn f).toArray).get x y = .ok (f (cellIndex x y)) := by
  have hi : x * side + y < side * side := position_lt x.isLt y.isLt
  have hcell : (List.ofFn f).toArray[x * side + y]? = some (f (cellIndex x y)) := by
    rw [List.getElem?_toArray, List.getElem?_ofFn, dif_pos hi]
    rfl
  rw [get, index_of_lt x.isLt y.isLt]
  exact congrArg (Except.ok ∘ Option.join) hcell

namespace Shows

variable {m : BiomeMap} {side : Nat} {step : Float32} {f : Nat → Nat → Option BiomeId}
  {x y : Nat}

theorem index_eq (h : m.Shows side step f) (hx : x < side) (hy : y < side) :
    m.index x y = .ok (x * side + y) := by
  obtain rfl := h.side_eq
  exact index_of_lt hx hy

theorem index_eq_error (h : m.Shows side step f) (hcell : side ≤ x ∨ side ≤ y) :
    m.index x y = .error ⟨x, y, side⟩ := by
  obtain rfl := h.side_eq
  exact index_of_le hcell

theorem get_eq (h : m.Shows side step f) (hx : x < side) (hy : y < side) :
    m.get x y = .ok (f x y) := by
  rw [get, h.index_eq hx hy]
  exact congrArg (Except.ok ∘ Option.join) (h.cell_eq x hx y hy)

theorem number_eq (h : m.Shows side step f) (hx : x < side) (hy : y < side) :
    m.number x y = .ok (match f x y with | some b => b.index | none => -1) := by
  rw [number, h.get_eq hx hy]
  rfl

theorem set_eq (h : m.Shows side step f) (hx : x < side) (hy : y < side) (b : Option BiomeId) :
    m.set x y b = .ok { m with cells := m.cells.setIfInBounds (x * side + y) b } := by
  rw [set, h.index_eq hx hy]
  rfl

/-- Writing a cell changes this cell only. -/
theorem setIfInBounds (h : m.Shows side step f) (hx : x < side) (hy : y < side)
    (b : Option BiomeId) :
    Shows { m with cells := m.cells.setIfInBounds (x * side + y) b } side step
      fun x' y' => if x = x' ∧ y = y' then b else f x' y' := by
  refine ⟨h.side_eq, h.step_eq, ?_, ?_⟩
  · rw [Array.size_setIfInBounds, h.size_eq]
  · intro x' hx' y' hy'
    have hlt : x * side + y < m.cells.size := h.size_eq ▸ position_lt hx hy
    rw [Array.getElem?_setIfInBounds, h.cell_eq x' hx' y' hy']
    by_cases hsame : x * side + y = x' * side + y'
    · obtain ⟨rfl, rfl⟩ := position_inj hy hy' hsame
      rw [if_pos rfl, if_pos hlt, if_pos ⟨rfl, rfl⟩]
    · have hother : ¬(x = x' ∧ y = y') := by
        rintro ⟨rfl, rfl⟩
        exact hsame rfl
      rw [if_neg hsame, if_neg hother]

/-- A call that is about a cell outside the grid changes nothing. -/
theorem perform_of_outside (h : m.Shows side step f) {call : Call}
    (hcall : side ≤ call.cell.1 ∨ side ≤ call.cell.2) :
    m.perform call = (m, call.refusal side) := by
  obtain ⟨x, y, hcell⟩ : ∃ x y, call.cell = (x, y) := ⟨_, _, rfl⟩
  rw [hcell] at hcall
  have hindex : m.index x y = .error ⟨x, y, side⟩ := h.index_eq_error hcall
  cases call with
  | get x' y' =>
    cases hcell
    rw [perform, get, hindex]
    rfl
  | number x' y' =>
    cases hcell
    rw [perform, number, get, hindex]
    rfl
  | set x' y' b =>
    cases hcell
    rw [perform, set, hindex]
    rfl

/-- **What a map shows after a call.**  A cell of the grid holds what the call writes to it, and what
it held before if the call writes nothing to it. -/
theorem perform (h : m.Shows side step f) (call : Call) :
    (m.perform call).1.Shows side step fun x y => (call.written? x y).getD (f x y) := by
  cases call with
  | get x y => exact h
  | number x y => exact h
  | set x y b =>
    by_cases hcell : x < side ∧ y < side
    · have hwritten := h.setIfInBounds hcell.1 hcell.2 b
      rw [BiomeMap.perform, h.set_eq hcell.1 hcell.2]
      refine ⟨hwritten.side_eq, hwritten.step_eq, hwritten.size_eq, ?_⟩
      intro x' hx' y' hy'
      rw [hwritten.cell_eq x' hx' y' hy', Call.written?]
      split <;> rfl
    · -- The call is refused; what it would have written belongs to no cell of the grid.
      rw [h.perform_of_outside (by simp only [Call.cell]; omega)]
      refine ⟨h.side_eq, h.step_eq, h.size_eq, ?_⟩
      intro x' hx' y' hy'
      have hother : ¬(x = x' ∧ y = y') := by omega
      rw [h.cell_eq x' hx' y' hy', Call.written?, if_neg hother, Option.getD_none]

/-- A map that shows these biomes answers accordingly. -/
theorem answers (h : m.Shows side step f) : m.Answers side step f where
  shows := h
  position := by
    intro x hx y hy
    refine ⟨h.index_eq hx hy, position_lt hx hy, ?_⟩
    intro x' y' hposition
    by_cases hcell : x' < side ∧ y' < side
    · rw [h.index_eq hcell.1 hcell.2, Except.ok.injEq] at hposition
      exact position_inj hcell.2 hy hposition
    · rw [h.index_eq_error (by omega)] at hposition
      cases hposition
  get_eq _ hx _ hy := h.get_eq hx hy
  number_eq_index := by
    intro x hx y hy b hb
    rw [h.number_eq hx hy, hb]
  number_eq_neg_one_iff := by
    intro x hx y hy
    rw [h.number_eq hx hy]
    cases f x y with
    | none => exact ⟨fun _ => rfl, fun _ => rfl⟩
    | some b =>
      constructor
      · intro hnumber
        have hindex : (b.index : Int) = -1 := Except.ok.inj hnumber
        omega
      · exact fun hnone => nomatch hnone
  written := by
    intro x hx y hy b
    rw [BiomeMap.perform, h.set_eq hx hy]
  refused _ hcall := h.perform_of_outside hcall

end Shows

/-! ### Runs -/

theorem after_concat (m : BiomeMap) (calls : List Call) (call : Call) :
    m.after (calls ++ [call]) = ((m.after calls).perform call).1 := by
  rw [after, List.foldl_append]
  rfl

theorem lastWritten_concat (calls : List Call) (call : Call) (x y : Nat) :
    lastWritten (calls ++ [call]) x y = (call.written? x y).getD (lastWritten calls x y) := by
  rw [lastWritten, List.reverse_concat, List.findSome?_cons]
  cases call.written? x y <;> rfl

/-- After any calls, a map that was new shows what was last written. -/
theorem shows_after_blank (side : Nat) (step : Float32) (calls : List Call) :
    ((blank side step).after calls).Shows side step (lastWritten calls) := by
  -- The last call comes on top of the others, so that the induction is from the end.
  induction calls using List.reverseRecOn with
  | nil => exact shows_blank side step
  | append_singleton calls call ih =>
    rw [after_concat]
    have hcall := ih.perform call
    refine ⟨hcall.side_eq, hcall.step_eq, hcall.size_eq, ?_⟩
    intro x hx y hy
    rw [hcall.cell_eq x hx y hy, lastWritten_concat]

/-- **A map is an exact grid over any run of calls.**  Wherever some calls on a new map lead, and
whichever of them it refuses: it still has its side, its step and a stored biome for each cell of the
grid; a cell of the grid reads as what was last written to exactly this cell, and its number is that
of the biome, or `-1` if there is none; no other coordinates lead to its position, and it can be
written; and a call that is about a cell outside the grid is refused and changes nothing. -/
theorem answers_after_blank (side : Nat) (step : Float32) (calls : List Call) :
    ((blank side step).after calls).Answers side step (lastWritten calls) :=
  (shows_after_blank side step calls).answers

/-- On a grid of four cells, what is meant for `(0, 2)` does not end up in `(1, 0)`. -/
theorem answers_after_blank_overrun :
    ((blank 2 1).after [.set 0 1 (some (.ofIndex 3)), .set 0 2 (some (.ofIndex 4))]).get 0 1 =
        .ok (some (.ofIndex 3)) ∧
      ((blank 2 1).after [.set 0 1 (some (.ofIndex 3)), .set 0 2 (some (.ofIndex 4))]).get 1 0 =
        .ok none := by
  have h := answers_after_blank 2 1 [.set 0 1 (some (.ofIndex 3)), .set 0 2 (some (.ofIndex 4))]
  exact ⟨h.get_eq 0 (by decide) 1 (by decide), h.get_eq 1 (by decide) 0 (by decide)⟩

end BiomeMap

end Biomes
