import Biomes.Record

/-!
# Warning budgets

A pass over a grid may have something to warn about in every cell.  A warning budget lets through
a fixed number of warnings, counts the others, and sums them up at the end.
-/

namespace Biomes

/-- A limit for warnings, with what became of those that were raised. -/
structure WarningBudget where
  max : Nat
  emitted : Nat
  suppressed : Nat
  deriving DecidableEq, Repr, Inhabited

namespace WarningBudget

/-- A budget of which nothing has been used. -/
def ofMax (max : Nat) : WarningBudget := ⟨max, 0, 0⟩

/-- Whether the next warning may be given. -/
def isOpen (b : WarningBudget) : Bool := b.emitted < b.max

/-- Counts a warning, given or not. -/
def spend (b : WarningBudget) : WarningBudget :=
  if b.isOpen then { b with emitted := b.emitted + 1 }
  else { b with suppressed := b.suppressed + 1 }

/-- The closing record, which says how many warnings of a kind were not given. -/
def summary (b : WarningBudget) (what : String) : List Record :=
  if 0 < b.suppressed then
    [{ level := .warn
       target := "biome_switch::diagnostics"
       message := s!"{what}: {b.suppressed} further warnings suppressed after the first {b.max}"
       fields := [("suppressed", .count b.suppressed)] }]
  else []

end WarningBudget

end Biomes
