import Biomes.Compile.Finding
import Biomes.Compile.Table
import Biomes.Coverage
import Biomes.Graph.Outlet

/-!
# The draft of a compilation

A compilation keeps a draft of what it has made so far: the counter of the biome numbers, the two
tables of biomes, the graph with the biomes that were written into its leaves, the coverage of the
axes, and the findings.
-/

namespace Biomes

/-- What has been compiled so far. -/
structure Draft where
  /-- The graph, with the biomes of the leaves that were bound. -/
  graph : Graph
  /-- The next biome number.  It is wider than a biome number, so that all of those can be used. -/
  counter : UInt32
  table : BiomeTable
  names : NameTable
  coverage : Coverage
  findings : Array Finding
  deriving Repr, Inhabited

namespace Draft

/-- Nothing of a graph has been compiled yet. -/
def blank (g : Graph) : Draft := ⟨g, 0, .empty, .empty, .none, #[]⟩

/-- Adds a finding. -/
def note (d : Draft) (f : Finding) : Draft := { d with findings := d.findings.push f }

/-! ### Leaves -/

/-- Notes that a biome took over the name of an earlier one, if there was one. -/
def noteReuse (d : Draft) (previous : Option BiomeId) (b : Biome) : Draft :=
  match previous with
  | some i => d.note (.nameReused b.name i b.id)
  | none => d

/-- Noting the reuse of a name adds to the findings only. -/
theorem noteReuse_frame (d : Draft) (previous : Option BiomeId) (b : Biome) :
    d.noteReuse previous b = { d with findings := (d.noteReuse previous b).findings } := by
  cases previous <;> rfl

/-- Gives a leaf a biome: the counter goes on, the leaf and both tables get the biome. -/
def register (d : Draft) (n : NodeId) (b : Biome) : Draft :=
  let previous := d.names.get? b.name
  noteReuse { d with
    counter := d.counter + 1
    graph := d.graph.writeLeaf n b
    names := d.names.insert b.name b.id
    table := d.table.insert b } previous b

/-- Binds the leaf at the end of a branch to the next biome, which takes its name and colour from
the branch, and answers its number.  A leaf on a nameless branch, or one too many, is noted only. -/
def bind (d : Draft) (n : NodeId) (b : Branch) (depth : Nat) : Option BiomeId × Draft :=
  if b.name.isEmpty then (none, d.note (.unnamedLeaf n depth))
  else
    match BiomeId.ofCount? d.counter.toNat with
    | none => (none, d.note (.idsExhausted n))
    | some i => (some i, d.register n ⟨i, b.name, b.colour⟩)

/-- Binding a leaf writes into the graph, and leaves its size. -/
theorem size_graph_bind (d : Draft) (n : NodeId) (b : Branch) (depth : Nat) :
    (d.bind n b depth).2.graph.size = d.graph.size := by
  unfold bind
  split
  · rfl
  · split
    · rfl
    · rw [register, noteReuse_frame]
      exact Graph.size_writeLeaf ..

/-! ### Switches -/

/-- Notes an output of a switch: that nothing is attached to it, or the share it takes up. -/
def inspect (d : Draft) (n : NodeId) (s : Switch) (o : Outlet) (output : Nat) : Draft :=
  if o.attached.isEmpty then
    match s with
    | .shore _ _ => d.note (.idleShore n o.branch.name)
    | .ranges axis _ => d.note (.idlePart n axis output)
  else
    match o.share with
    | some x => { d with coverage := d.coverage.add s.axis x }
    | none => d.note (.emptySpan n s.axis o.branch.name output)

/-- Noting an output concerns the coverage and the findings only. -/
theorem inspect_frame (d : Draft) (n : NodeId) (s : Switch) (o : Outlet) (output : Nat) :
    d.inspect n s o output =
      { d with
        coverage := (d.inspect n s o output).coverage
        findings := (d.inspect n s o output).findings } := by
  unfold inspect
  split
  · cases s <;> rfl
  · cases o.share <;> rfl

/-- Notes all outputs of a switch. -/
def inspectAll (d : Draft) (n : NodeId) (s : Switch) : Draft :=
  s.outlets.zipIdx.foldl (fun d o => d.inspect n s o.1 o.2) d

/-- Noting the outputs of a switch concerns the coverage and the findings only. -/
theorem inspectAll_frame (d : Draft) (n : NodeId) (s : Switch) :
    d.inspectAll n s =
      { d with
        coverage := (d.inspectAll n s).coverage
        findings := (d.inspectAll n s).findings } := by
  unfold inspectAll
  induction s.outlets.zipIdx generalizing d with
  | nil => rfl
  | cons o os ih =>
    rw [List.foldl_cons, ih, inspect_frame]

end Draft

end Biomes
