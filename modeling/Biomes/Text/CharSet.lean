/-!
# Sets of characters

A set of characters is given by the code points at which membership changes, in ascending order:
the first one starts the first run of members, the second one ends it, and so on.
-/

namespace Biomes.Text

/-- A set of characters, by the code points at which membership changes. -/
structure CharSet where
  changes : Array Nat
  deriving Repr, Inhabited

/-- A character is a member iff membership has changed an odd number of times up to it. -/
def CharSet.contains (s : CharSet) (c : Char) : Bool :=
  s.changes.countP (fun x => x ≤ c.toNat) % 2 == 1

end Biomes.Text
