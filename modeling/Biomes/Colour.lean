/-!
# Preview colours

Colours are linear red, green, blue and opacity.
-/

namespace Biomes

/-- A colour with an opacity. -/
structure Colour where
  red : Float32
  green : Float32
  blue : Float32
  opacity : Float32
  deriving DecidableEq, Repr, Inhabited

namespace Colour

/-- An opaque colour. -/
def rgb (red green blue : Float32) : Colour := ⟨red, green, blue, 1⟩

def black : Colour := rgb 0 0 0

def pureBlue : Colour := rgb 0 0 1

def white : Colour := rgb 1 1 1

end Colour

end Biomes
