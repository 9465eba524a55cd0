import Biomes.Graph.Basic

/-!
# Paths

A search through a graph keeps the nodes between its root and the place that it has come to.  Such
a path never holds a node twice, so that every node of the graph that is entered leaves fewer nodes
that can still be entered (`unseen_cons_lt`).
-/

namespace Biomes.Graph

/-- How many positions of the graph are not on a path. -/
def unseen (g : Graph) (path : List NodeId) : Nat :=
  ((List.range g.size).filter fun i => !path.contains (NodeId.ofIndex i)).length

/-- Entering a node of the graph that is not on the path leaves fewer nodes unseen. -/
theorem unseen_cons_lt {g : Graph} {path : List NodeId} {n : NodeId} {v : Node}
    (hv : g.node? n = some v) (hn : n ∉ path) : g.unseen (n :: path) < g.unseen path := by
  have hsplit : (List.range g.size).filter (fun i => !(n :: path).contains (NodeId.ofIndex i)) =
      ((List.range g.size).filter fun i => !path.contains (NodeId.ofIndex i)).filter
        fun i => decide (NodeId.ofIndex i ≠ n) := by
    rw [List.filter_filter]
    congr 1
    funext i
    simp
  rw [unseen, hsplit]
  refine List.length_filter_lt_length_iff_exists.mpr ⟨n.index, ?_, by simp⟩
  simpa using ⟨index_lt_of_node? hv, by simpa using hn⟩

/-- Which nodes are unseen depends on the graph through its size only. -/
theorem unseen_congr {g g' : Graph} (h : g'.size = g.size) (path : List NodeId) :
    g'.unseen path = g.unseen path := by
  rw [unseen, unseen, h]

end Biomes.Graph
