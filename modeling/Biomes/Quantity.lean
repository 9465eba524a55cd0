/-!
# Quantities

A quantity is a single precision number as it is kept: one that is not a number remembers whether
it was written with a minus.  No computation depends on that sign.
-/

namespace Biomes

/-- A single precision number, or a `NaN` with a minus. -/
inductive Quantity where
  | number (x : Float32)
  | minusNaN
  deriving DecidableEq, Repr

namespace Quantity

instance : Inhabited Quantity := ⟨.number 0⟩

instance : Coe Float32 Quantity := ⟨.number⟩

/-- The number to compute with. -/
def value : Quantity → Float32
  | .number x => x
  | .minusNaN => 0 / 0

@[simp] theorem value_number (x : Float32) : (number x).value = x := rfl

end Quantity

end Biomes
