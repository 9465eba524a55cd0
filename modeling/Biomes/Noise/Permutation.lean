/-!
# Seeded permutations

A noise function scatters its gradients with a permutation of the bytes that depends on a seed.
The permutation is a shuffle: from the last byte down to the second, each is exchanged with one of
those up to itself, drawn without bias from a xorshift generator.
-/

namespace Biomes.Noise

/-- A xorshift generator: its four latest words, the oldest first. -/
structure Xorshift where
  x : UInt32
  y : UInt32
  z : UInt32
  w : UInt32
  deriving DecidableEq, Repr, Inhabited

namespace Xorshift

/-- The generator with a seed. -/
def ofSeed (s : UInt32) : Xorshift := ⟨1, s, s, s⟩

/-- The next word. -/
def next (g : Xorshift) : UInt32 :=
  let t := g.x ^^^ (g.x <<< 11)
  g.w ^^^ (g.w >>> 19) ^^^ t ^^^ (t >>> 8)

/-- The generator behind its next word. -/
def advance (g : Xorshift) : Xorshift := ⟨g.y, g.z, g.w, g.next⟩

/-- The number below `n` that a word stands for: the word as a fraction of all words, times `n`,
rounded down.  A word is rejected if the remainder does not lie below the largest `n · 2^k` that is
a word itself, so that every number has equally many words. -/
def place? (n : Nat) (word : UInt32) : Option Nat :=
  let scaled := word.toNat * n
  if scaled % UInt32.size < n * Nat.pow 2 (31 - n.log2) then some (scaled / UInt32.size) else none

/-- Draws words until one stands for a number below `n`.  After `2^128` draws the generator has
gone through all its states, so that there is no use in going on. -/
def drawBelow (n : Nat) (g : Xorshift) : Nat × Xorshift := go (Nat.pow 2 128) g
where
  go : Nat → Xorshift → Nat × Xorshift
    | 0, g => (0, g)
    | draws + 1, g =>
      match place? n g.next with
      | some i => (i, g.advance)
      | none => go draws g.advance

end Xorshift

/-- A permutation of the bytes, as the list of its values. -/
abbrev Permutation := Vector UInt8 256

namespace Permutation

/-- Every byte in its own place. -/
def identity : Permutation := Vector.ofFn fun i => UInt8.ofNat i

/-- Shuffles the values at positions up to `i`. -/
def shuffle : Nat → Xorshift → Permutation → Permutation
  | 0, _, p => p
  | i + 1, g, p =>
    let (j, g) := g.drawBelow (i + 2)
    shuffle i g (p.swapIfInBounds (i + 1) j)

/-- The permutation with a seed. -/
def ofSeed (s : UInt32) : Permutation := shuffle 255 (.ofSeed s) identity

/-- The value of a byte. -/
def apply (p : Permutation) (b : UInt8) : UInt8 := p.get ⟨b.toNat, b.toNat_lt⟩

/-- The byte that belongs to a point of the integer plane; it repeats after 256 steps in either
direction. -/
def scatter (p : Permutation) (i j : Int) : UInt8 :=
  p.apply (p.apply (UInt8.ofInt i) ^^^ UInt8.ofInt j)

end Permutation

end Biomes.Noise
