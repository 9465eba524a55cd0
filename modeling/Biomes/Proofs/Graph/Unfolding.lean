import Biomes.Graph.Outlet
import Biomes.Graph.Path

/-!
# The unfolding of a graph

Going through a graph depth first from a node, without ever entering a node that lies on the
current path, meets finitely many nodes: each step adds a node of the graph to the path.  The tree
of everything that is met is the graph's unfolding.  A shared node is unfolded once for each way
that leads to it, a reference back to the path and a reference to nothing end in a stub.
-/

namespace Biomes

/-- What a search meets at a node, and below it. -/
inductive Unfolding where
  /-- The node lies on the path already. -/
  | loop (node : NodeId)
  /-- There is no such node. -/
  | missing (node : NodeId)
  | leaf (node : NodeId)
  | relay (node : NodeId) (targets : List Unfolding)
  /-- A switch, with what is met behind each of its branches. -/
  | switch (node : NodeId) (s : Switch) (arms : List (Branch × Unfolding))

namespace Unfolding

/-- What is met behind a branch is smaller than the list of the branches. -/
theorem sizeOf_arm_lt {arms : List (Branch × Unfolding)} {a : Branch × Unfolding} (h : a ∈ arms) :
    sizeOf a.2 < sizeOf arms := by
  have hmem := List.sizeOf_lt_of_mem h
  have hpair : sizeOf a = 1 + sizeOf a.1 + sizeOf a.2 := by cases a; rfl
  omega

/-- Induction over an unfolding, with one hypothesis for everything that is met below a node. -/
@[elab_as_elim, induction_eliminator]
theorem induct {P : Unfolding → Prop} (loop : ∀ n, P (.loop n)) (missing : ∀ n, P (.missing n))
    (leaf : ∀ n, P (.leaf n)) (relay : ∀ n ts, (∀ t ∈ ts, P t) → P (.relay n ts))
    (switch : ∀ n s arms, (∀ a ∈ arms, P a.2) → P (.switch n s arms)) : ∀ u, P u
  | .loop n => loop n
  | .missing n => missing n
  | .leaf n => leaf n
  | .relay n ts => relay n ts fun t _ => induct loop missing leaf relay switch t
  | .switch n s arms => switch n s arms fun a h =>
    have := sizeOf_arm_lt h
    induct loop missing leaf relay switch a.2

end Unfolding

namespace Graph

/-- What a search meets that comes to a node on a path. -/
def unfoldFrom (g : Graph) (path : List NodeId) (n : NodeId) : Unfolding :=
  if _hn : n ∈ path then .loop n
  else
    match _hv : g.node? n with
    | none => .missing n
    | some (.leaf _) => .leaf n
    | some (.relay targets) => .relay n (targets.toList.map fun t => g.unfoldFrom (n :: path) t)
    | some (.switch s) =>
      .switch n s (s.branches.map fun (b, t) => (b, g.unfoldFrom (n :: path) t))
termination_by g.unseen path
decreasing_by all_goals exact unseen_cons_lt _hv _hn

variable {g : Graph} {path : List NodeId} {n : NodeId}

theorem unfoldFrom_of_mem (hn : n ∈ path) : g.unfoldFrom path n = .loop n := by
  rw [unfoldFrom, dif_pos hn]

theorem unfoldFrom_of_none (hn : n ∉ path) (hv : g.node? n = none) :
    g.unfoldFrom path n = .missing n := by
  rw [unfoldFrom, dif_neg hn]
  split <;> simp_all

theorem unfoldFrom_of_leaf (hn : n ∉ path) {b : Option Biome} (hv : g.node? n = some (.leaf b)) :
    g.unfoldFrom path n = .leaf n := by
  rw [unfoldFrom, dif_neg hn]
  split <;> simp_all

theorem unfoldFrom_of_relay (hn : n ∉ path) {ts : Array NodeId}
    (hv : g.node? n = some (.relay ts)) :
    g.unfoldFrom path n = .relay n (ts.toList.map (g.unfoldFrom (n :: path))) := by
  rw [unfoldFrom, dif_neg hn]
  split <;> simp_all

theorem unfoldFrom_of_switch (hn : n ∉ path) {s : Switch} (hv : g.node? n = some (.switch s)) :
    g.unfoldFrom path n =
      .switch n s (s.branches.map fun a => (a.1, g.unfoldFrom (n :: path) a.2)) := by
  rw [unfoldFrom, dif_neg hn]
  split <;> simp_all

/-- The unfolding of a graph from a root. -/
def unfold (g : Graph) (root : NodeId) : Unfolding := g.unfoldFrom [] root

end Graph

end Biomes
