import Biomes.Catalog.Basic
import Biomes.Graph.Basic

/-!
# The sample world

One small world, authored twice: as a switch graph and as a range catalog.  Dry land is split into
three bands by its height, as fractions of the greatest height; lowland is split further by
wetness, highland by temperature.
-/

namespace Biomes.Sample

/-- Where lowland ends, as a fraction of the greatest height. -/
def lowlandTop : Float32 := 0.4

/-- Where highland ends, as a fraction of the greatest height. -/
def highlandTop : Float32 := 0.8

/-! ### The graph -/

/-- A node by its position. -/
def node (i : Nat) : NodeId := .ofIndex i

/-- The node from which the graph is entered. -/
def entry : NodeId := node 0

/-- A split of dry land by height, up to `top`. -/
def heightSwitch (top : Float32) : Switch :=
  .ranges .height
    #[band "Lowland" 0 (lowlandTop * top) 4,
      band "Highland" (lowlandTop * top) (highlandTop * top) 5,
      band "Peaks" (highlandTop * top) top 6]
where
  band (name : String) (min max : Float32) (target : Nat) : SubRange :=
    { name, min, max, axisMin := 0, axisMax := top, colour := .white, attached := #[node target] }

/-- A split of lowland by wetness. -/
def wetnessSwitch : Switch :=
  .ranges .wetness
    #[part "Desert" 0 0.3 (.rgb 0.86 0.8 0.55) 7, part "Plains" 0.3 0.7 (.rgb 0.5 0.7 0.35) 8,
      part "Swamp" 0.7 1 (.rgb 0.25 0.35 0.2) 9]
where
  part (name : String) (min max : Float32) (colour : Colour) (target : Nat) : SubRange :=
    { name, min, max, axisMin := 0, axisMax := 1, colour, attached := #[node target] }

/-- A split of highland by temperature. -/
def temperatureSwitch : Switch :=
  .ranges .temperature
    #[part "Taiga" (-1) 0 (.rgb 0.3 0.4 0.25) 10, part "Forest" 0 1 (.rgb 0.15 0.45 0.2) 11]
where
  part (name : String) (min max : Float32) (colour : Colour) (target : Nat) : SubRange :=
    { name, min, max, axisMin := -1, axisMax := 1, colour, attached := #[node target] }

/-- The sample world as a graph: the entry, the shore, the height bands, the ocean, the splits of
lowland and highland, the peaks, and the leaves of the two splits. -/
def graph (top : Float32) : Graph :=
  ⟨#[.relay #[node 1], .switch (.shore #[node 2] #[node 3]), .switch (heightSwitch top), .leaf none,
      .switch wetnessSwitch, .switch temperatureSwitch, .leaf none] ++
    Array.replicate 5 (.leaf none)⟩

/-! ### The catalog -/

/-- Dry land between two heights. -/
def dryBand (min max : Float32) : Constraints :=
  (Constraints.none.set .water (.flag false)).set .height (.within min max)

/-- The sample world as cells. -/
def cells (top : Float32) : List Cell :=
  let lowland := dryBand 0 (lowlandTop * top)
  let highland := dryBand (lowlandTop * top) (highlandTop * top)
  let peaks := dryBand (highlandTop * top) top
  [.plain "Desert" (lowland.set .wetness (.within 0 0.3)),
    .plain "Plains" (lowland.set .wetness (.within 0.3 0.7)),
    .plain "Swamp" (lowland.set .wetness (.within 0.7 1)),
    .plain "Taiga" (highland.set .temperature (.within (-1) 0)),
    .plain "Forest" (highland.set .temperature (.within 0 1)),
    .plain "Peaks" peaks,
    .plain "aquatic" (Constraints.none.set .water (.flag true))]

/-- Whether two cells lie in the same height band. -/
def isSibling (c d : Cell) : Bool := (c.constraints.get .height).same (d.constraints.get .height)

/-- Appends a cell, and links it to the one before it if they are siblings. -/
def addCell (k : Catalog) (c : Cell) : Catalog :=
  let i := k.cells.size
  let added := (k.push c).1
  match k.cells.back? with
  | some d => if isSibling d c then (added.link (i - 1) i).1 else added
  | none => added

/-- The sample world as a catalog. -/
def catalog (top : Float32) : Catalog := (cells top).foldl addCell .empty

end Biomes.Sample
