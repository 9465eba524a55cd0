import Biomes.Proofs.Graph.Reach
import Biomes.Proofs.Graph.Unfolding

/-!
# Graphs that differ in the biomes of their leaves

Two graphs are alike if they have the same nodes, whatever biomes their leaves carry.  A compilation
writes biomes into leaves while it goes through the graph; as it stays in graphs that are alike
(`Alike.writeLeaf`), it meets what it would have met in the graph that it was given
(`Alike.unfoldFrom_eq`).  It never looks further than references lead: graphs that are alike in what
can be reached from a node have the same unfolding there (`AlikeFrom.unfoldFrom_eq`).
-/

namespace Biomes

/-- A node without the biome that a leaf carries. -/
def Node.plain : Node → Node
  | .leaf _ => .leaf none
  | v => v

namespace Graph

/-- The graphs have the same nodes, up to the biomes of leaves. -/
def Alike (g g' : Graph) : Prop := ∀ n, (g.node? n).map Node.plain = (g'.node? n).map Node.plain

/-- The graphs have the same node at a place, up to the biome of a leaf, or both have none. -/
def AlikeAt (g g' : Graph) (n : NodeId) : Prop :=
  (g.node? n).map Node.plain = (g'.node? n).map Node.plain

/-- The graphs have the same nodes wherever references lead from a node, and lack the same. -/
def AlikeFrom (g g' : Graph) (n : NodeId) : Prop := ∀ m, g.Reaches n m → g.AlikeAt g' m

namespace AlikeAt

variable {g g' : Graph} {n : NodeId}

theorem node?_eq_none (h : g.AlikeAt g' n) (hn : g.node? n = none) : g'.node? n = none := by
  unfold AlikeAt at h
  rw [hn, Option.map_none] at h
  exact Option.map_eq_none_iff.mp h.symm

/-- A node that is no leaf is the same in both graphs. -/
theorem node?_eq_of_plain (h : g.AlikeAt g' n) {v : Node} (hn : g.node? n = some v)
    (hv : ∀ b, v ≠ .leaf b) : g'.node? n = some v := by
  unfold AlikeAt at h
  rw [hn, Option.map_some] at h
  obtain ⟨w, hw, hwv⟩ := Option.map_eq_some_iff.mp h.symm
  cases v with
  | leaf b => exact absurd rfl (hv b)
  | switch s => cases w <;> simp_all [Node.plain]
  | relay ts => cases w <;> simp_all [Node.plain]

theorem node?_leaf (h : g.AlikeAt g' n) {b : Option Biome} (hn : g.node? n = some (.leaf b)) :
    ∃ b', g'.node? n = some (.leaf b') := by
  unfold AlikeAt at h
  rw [hn, Option.map_some] at h
  obtain ⟨w, hw, hwv⟩ := Option.map_eq_some_iff.mp h.symm
  cases w with
  | leaf b' => exact ⟨b', hw⟩
  | switch s => simp [Node.plain] at hwv
  | relay ts => simp [Node.plain] at hwv

end AlikeAt

namespace AlikeFrom

variable {g g' : Graph} {n : NodeId}

/-- What can be reached through a reference can be reached. -/
theorem of_reference (h : g.AlikeFrom g' n) {v : Node} (hv : g.node? n = some v) {t : NodeId}
    (ht : t ∈ v.references) : g.AlikeFrom g' t :=
  fun m hm => h m (.head hv ht hm)

/-- **What is met does not depend on anything that cannot be reached.** -/
theorem unfoldFrom_eq (h : g.AlikeFrom g' n) (path : List NodeId) :
    g.unfoldFrom path n = g'.unfoldFrom path n := by
  have hat : g.AlikeAt g' n := h n (.refl n)
  induction path, n using unfoldFrom.induct g with
  | case1 path n hn => rw [unfoldFrom_of_mem hn, unfoldFrom_of_mem hn]
  | case2 path n hn hv =>
    rw [unfoldFrom_of_none hn hv, unfoldFrom_of_none hn (hat.node?_eq_none hv)]
  | case3 path n hn b hv =>
    obtain ⟨b', hv'⟩ := hat.node?_leaf hv
    rw [unfoldFrom_of_leaf hn hv, unfoldFrom_of_leaf hn hv']
  | case4 path n hn ts hv ih =>
    have hv' := hat.node?_eq_of_plain hv (by simp)
    rw [unfoldFrom_of_relay hn hv, unfoldFrom_of_relay hn hv']
    congr 1
    refine List.map_congr_left fun t ht => ?_
    have htarget := h.of_reference hv ht
    exact ih t htarget (htarget t (.refl t))
  | case5 path n hn s hv ih =>
    have hv' := hat.node?_eq_of_plain hv (by simp)
    rw [unfoldFrom_of_switch hn hv, unfoldFrom_of_switch hn hv']
    congr 1
    refine List.map_congr_left fun a ha => ?_
    have hattached : a.2 ∈ s.attached := by
      rw [← s.map_snd_branches]
      exact List.mem_map_of_mem ha
    have htarget := h.of_reference hv hattached
    rw [ih a.2 htarget (htarget a.2 (.refl a.2))]

end AlikeFrom

namespace Alike

variable {g g' g'' : Graph}

theorem refl (g : Graph) : g.Alike g := fun _ => rfl

theorem trans (h : g.Alike g') (h' : g'.Alike g'') : g.Alike g'' := fun n => (h n).trans (h' n)

/-- Graphs that are alike are so in everything that can be reached. -/
theorem alikeFrom (h : g.Alike g') (n : NodeId) : g.AlikeFrom g' n := fun m _ => h m

/-- Graphs that are alike have the same unfolding. -/
theorem unfoldFrom_eq (h : g.Alike g') (path : List NodeId) (n : NodeId) :
    g.unfoldFrom path n = g'.unfoldFrom path n :=
  (h.alikeFrom n).unfoldFrom_eq path

end Alike

theorem node?_replace (g : Graph) (n m : NodeId) (v : Node) :
    (g.replace n v).node? m = if n.index = m.index ∧ m.index < g.size then some v else g.node? m := by
  unfold replace node? size
  rw [Array.getElem?_setIfInBounds]
  by_cases h : n.index = m.index
  · by_cases hm : m.index < g.nodes.size
    · simp [h, hm]
    · simp [h, hm]
  · simp [h]

theorem node?_replace_of_ne {g : Graph} {n m : NodeId} (h : m ≠ n) (v : Node) :
    (g.replace n v).node? m = g.node? m := by
  have hindex : ¬(n.index = m.index ∧ m.index < g.size) := fun hm =>
    h (by rw [← n.ofIndex_index, hm.1, m.ofIndex_index])
  rw [node?_replace, if_neg hindex]

/-- Writing a biome into a leaf gives a graph that is alike. -/
theorem Alike.writeLeaf (g : Graph) (n : NodeId) (b : Biome) : g.Alike (g.writeLeaf n b) := by
  intro m
  unfold Graph.writeLeaf
  split
  · rename_i b' hn
    rw [node?_replace]
    split
    · rename_i h
      have hnm : g.node? m = some (.leaf b') := by
        rw [← hn, node?, node?, h.1]
      rw [hnm]
      rfl
    · rfl
  · rfl

end Graph

end Biomes
