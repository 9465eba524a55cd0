import Biomes.Branch
import Biomes.Graph.Basic

/-!
# Outputs of a switch

Both kinds of switch are seen as a list of outlets: what an output tests, the nodes that are
attached to it, and the share of its axis that it takes up.
-/

namespace Biomes

/-- One output of a switch. -/
structure Outlet where
  branch : Branch
  attached : List NodeId
  /-- The share of the axis; there is none if the axis has no length. -/
  share : Option Float32
  deriving Repr, Inhabited

/-- The share of its axis that a part takes up. -/
def SubRange.share (r : SubRange) : Option Float32 :=
  let span := r.axisMax - r.axisMin
  if 0 < span then some ((r.max - r.min) / span) else none

namespace Switch

/-- The axis by which a switch splits. -/
def axis : Switch → Axis
  | .shore _ _ => .water
  | .ranges axis _ => axis

/-- The outputs of a switch in their order. -/
def outlets : Switch → List Outlet
  | .shore dry wet =>
    [⟨⟨.flag .water false, "terrestrial", .black⟩, dry.toList, some 0.5⟩,
      ⟨⟨.flag .water true, "aquatic", .pureBlue⟩, wet.toList, some 0.5⟩]
  | .ranges axis parts =>
    parts.toList.map fun r =>
      ⟨⟨.within axis r.min r.max, r.name, r.colour⟩, r.attached.toList, r.share⟩

/-- The branches of a switch, one for each attached node: by outputs first, then in the order in
which the nodes were attached. -/
def branches (s : Switch) : List (Branch × NodeId) :=
  s.outlets.flatMap fun o => o.attached.map fun n => (o.branch, n)

end Switch

end Biomes
