import Biomes.Catalog.Cell

/-!
# The range catalog

An owning list of cells.  Cells are numbered by their position, links between them go both ways,
and the catalog answers which cells compete for the same points.
-/

namespace Biomes

/-- A list of cells, each numbered by its position. -/
structure Catalog where
  cells : Array Cell
  deriving Repr, Inhabited

/-- All numbers are taken. -/
structure CatalogFull where
  capacity : Nat
  deriving DecidableEq, Repr

/-- The wording of a refused cell. -/
def CatalogFull.message (e : CatalogFull) : String := s!"catalog is full ({e.capacity} cells)"

/-- Why two cells cannot be linked. -/
inductive LinkError where
  | noTarget (target : Nat)
  | noSource (e : OutOfBounds)
  deriving DecidableEq, Repr

/-- The wording of a refused link. -/
def LinkError.message : LinkError → String
  | .noTarget b => s!"link target {b} out of range"
  | .noSource e => e.message

namespace Catalog

/-- The catalog without cells. -/
def empty : Catalog := ⟨#[]⟩

/-- The number of cells that can be told apart by a 16-bit number. -/
def capacity : Nat := 65536

/-- Appends a cell under the next number and answers its position.  A full catalog stays as it
is. -/
def push (k : Catalog) (c : Cell) : Catalog × Except CatalogFull Nat :=
  let i := k.cells.size
  if i < capacity then (⟨k.cells.push { c with id := UInt16.ofNat i }⟩, .ok i)
  else (k, .error ⟨i⟩)

/-- Adds one direction of a link, unless it is there already. -/
def addLink (k : Catalog) (a b : Nat) : Catalog :=
  ⟨k.cells.modify a fun c => if c.links.contains b then c else { c with links := c.links.push b }⟩

/-- Why a link between two positions is refused, if it is.  The target is looked up first. -/
def linkError? (k : Catalog) (a b : Nat) : Option LinkError :=
  if k.cells.size ≤ b then some (.noTarget b)
  else if k.cells.size ≤ a then some (.noSource ⟨k.cells.size, a⟩)
  else none

/-- Links two cells in both directions.  A refused link changes nothing. -/
def link (k : Catalog) (a b : Nat) : Catalog × Except LinkError Unit :=
  match k.linkError? a b with
  | some e => (k, .error e)
  | none => ((k.addLink a b).addLink b a, .ok ())

/-- The smallest interval around all intervals that cells ask for on an axis; `0` to `0` if no
cell constrains it. -/
def span (k : Catalog) (a : Axis) : Interval :=
  match (k.cells.toList.map (·.constraints.get a)).filter (·.enabled) with
  | [] => ⟨0, 0⟩
  | c :: cs => cs.foldl (fun i d => i.hull d.toInterval) c.toInterval

/-- The spans of all axes. -/
def spans (k : Catalog) : PerAxis Interval := .ofFn k.span

/-- The pairs of positions, the smaller first, of cells whose constraints overlap. -/
def overlappingPairs (k : Catalog) : List (Nat × Nat) :=
  let numbered := k.cells.toList.zipIdx
  numbered.flatMap fun (c, i) =>
    (numbered.drop (i + 1)).filterMap fun (d, j) =>
      if c.constraints.overlap d.constraints then some (i, j) else none

/-- The first cell that accepts a point. -/
def find? (k : Catalog) (p : Point) : Option Cell := k.cells.find? (·.constraints.accept p)

end Catalog

end Biomes
