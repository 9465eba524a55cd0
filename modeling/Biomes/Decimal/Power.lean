/-!
# Powers of two and ten

Numbers scaled by a power are compared over one denominator: a factor with a positive exponent
goes to one side, one with a negative exponent to the other.
-/

namespace Biomes.Decimal

/-- The factor `2^k`; one if `k` is negative. -/
def twoPow (k : Int) : Nat := Nat.pow 2 k.toNat

/-- The factor `10^k`; one if `k` is negative. -/
def tenPow (k : Int) : Nat := Nat.pow 10 k.toNat

theorem twoPow_pos (k : Int) : 0 < twoPow k := Nat.two_pow_pos k.toNat

theorem tenPow_pos (k : Int) : 0 < tenPow k := Nat.pow_pos (by decide)

end Biomes.Decimal
