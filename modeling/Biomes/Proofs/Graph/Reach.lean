import Biomes.Graph.Outlet
import Mathlib.Data.List.Basic
import Mathlib.Logic.Relation

/-!
# What can be reached in a graph

A node refers to the nodes that are attached to it: to the outputs of a switch, or to a relay.  What
can be reached from a root is what references lead to, whether the nodes are there or not.  The
branches of a switch lead to the nodes attached to it and to no others (`Switch.map_snd_branches`).
-/

namespace Biomes

/-- The nodes attached to the outputs of a switch. -/
def Switch.attached : Switch → List NodeId
  | .shore dry wet => dry.toList ++ wet.toList
  | .ranges _ parts => parts.toList.flatMap fun r => r.attached.toList

theorem Switch.map_snd_branches (s : Switch) : s.branches.map Prod.snd = s.attached := by
  cases s with
  | shore dry wet => simp [branches, outlets, attached, Function.comp_def]
  | ranges axis parts =>
    rw [branches, outlets, attached, List.map_flatMap, List.flatMap_map]
    exact List.flatMap_congr fun r _ => by simp [Function.comp_def]

theorem Switch.attached_eq (s : Switch) : s.attached = s.outlets.flatMap Outlet.attached := by
  cases s with
  | shore dry wet => simp [attached, outlets]
  | ranges axis parts => simp [attached, outlets, List.flatMap_map]

/-- The nodes that a node refers to. -/
def Node.references : Node → List NodeId
  | .switch s => s.attached
  | .leaf _ => []
  | .relay targets => targets.toList

namespace Graph

/-- A node of the graph refers to another, which need not be there. -/
def Refers (g : Graph) (m n : NodeId) : Prop := ∃ v, g.node? m = some v ∧ n ∈ v.references

/-- References lead from one node to the other. -/
def Reaches (g : Graph) : NodeId → NodeId → Prop := Relation.ReflTransGen g.Refers

namespace Reaches

variable {g : Graph} {m n : NodeId}

theorem refl (n : NodeId) : g.Reaches n n := Relation.ReflTransGen.refl

theorem head {v : Node} (hv : g.node? m = some v) {t : NodeId} (ht : t ∈ v.references)
    (h : g.Reaches t n) : g.Reaches m n :=
  Relation.ReflTransGen.head ⟨v, hv, ht⟩ h

end Reaches

end Graph

end Biomes
