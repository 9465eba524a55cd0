import Biomes.Proofs.Compile.Meaning
import Biomes.Proofs.Graph.Prune

/-!
# Building a graph with references to nothing

A reference to a node that is not there adds nothing to the biomes of a build, so that the pruned
graph has the same ones.  But a branch of a switch is set up before the search goes along it, and is
left standing when it leads to nothing.  It then keeps the places that it accepts from the branches
that come after it: these places stray (`Graph.strays`), and the build classifies them as nothing at
all, whereas all others are classified alike (`Classifier.classify_build_eq_ite`).
-/

namespace Biomes

namespace Graph

/-- Whether a place comes from a root to a branch that leads to nothing. -/
def strays (g : Graph) (root : NodeId) (p : Point) : Bool :=
  g.straysWithin BiomeId.capacity p .start [] root 0

/-- All nodes that are attached to switches are there, as far as references lead from a root. -/
def SwitchesIntact (g : Graph) (root : NodeId) : Prop :=
  ∀ m s, g.Reaches root m → g.node? m = some (.switch s) → ∀ t ∈ s.attached, g.has t = true

end Graph

namespace Classifier

/-- The pruned graph has the same biomes. -/
theorem biomes_build_prune (c : Classifier) (g : Graph) (root : NodeId) :
    (c.build g.prune root).classifier.biomes = (c.build g root).classifier.biomes := by
  apply Array.toList_inj.mp
  rw [toList_biomes_build, toList_biomes_build, g.arrivals_prune]

theorem biome?_build_prune (c : Classifier) (g : Graph) (root : NodeId) (i : BiomeId) :
    (c.build g.prune root).classifier.biome? i = (c.build g root).classifier.biome? i := by
  rw [biome?_build, biome?_build, g.arrivals_prune]

/-- The places that stray are classified as nothing, and the others as in the pruned graph. -/
theorem classify_build_eq_ite (c : Classifier) (g : Graph) (root : NodeId) (p : Point) :
    (c.build g root).classifier.classify p =
      if g.strays root p = true then none else (c.build g.prune root).classifier.classify p := by
  rw [classify_build_eq_map, classify_build_eq_map]
  cases h : g.strays root p with
  | true =>
    rw [if_pos rfl, Graph.evaluateWithin_of_strays h]
    rfl
  | false => rw [if_neg Bool.false_ne_true, Graph.evaluateWithin_prune h]

/-- **References to nothing add nothing, but those of switches take places away.**  The build of a
graph has the same biomes as that of the pruned graph.  It classifies a place in the same way as
well, unless the place strays; then it classifies it as nothing, whatever the pruned graph has there.
So the two agree on all places if and only if the pruned graph has nothing for any that strays; in
particular if only relays refer to nothing. -/
theorem build_prune (c : Classifier) (g : Graph) (root : NodeId) :
    (c.build g.prune root).classifier.biomes = (c.build g root).classifier.biomes ∧
      (∀ i, (c.build g.prune root).classifier.biome? i = (c.build g root).classifier.biome? i) ∧
      (∀ p, (c.build g root).classifier.classify p =
        if g.strays root p = true then none
        else (c.build g.prune root).classifier.classify p) ∧
      ((∀ p, (c.build g root).classifier.classify p =
          (c.build g.prune root).classifier.classify p) ↔
        ∀ p, g.strays root p = true → (c.build g.prune root).classifier.classify p = none) ∧
      (g.SwitchesIntact root → ∀ p, (c.build g root).classifier.classify p =
        (c.build g.prune root).classifier.classify p) := by
  refine ⟨c.biomes_build_prune g root, c.biome?_build_prune g root, c.classify_build_eq_ite g root,
    ⟨fun h p hp => ?_, fun h p => ?_⟩, fun h p => ?_⟩
  · rw [← h p, classify_build_eq_ite, if_pos hp]
  · rw [classify_build_eq_ite]
    split
    · rename_i hp
      exact (h p hp).symm
    · rfl
  · have hp : g.strays root p = false := Graph.straysWithin_eq_false h
    rw [classify_build_eq_ite, hp, if_neg Bool.false_ne_true]

end Classifier

/-! ### A broken jetty -/

namespace Graph

/-- A switch with a reference to nothing and a leaf on its dry side. -/
def jetty : Graph := ⟨#[.switch (.shore #[.ofIndex 7, .ofIndex 1] #[]), .leaf none]⟩

theorem collect_jetty : jetty.collect [] (.ofIndex 0) =
    [.arm ⟨.flag .water false, "terrestrial", .black⟩ (.ofIndex 7) [.ofIndex 0],
      .arm ⟨.flag .water false, "terrestrial", .black⟩ (.ofIndex 1) [.ofIndex 0]] := by
  rw [collect_of_switch List.not_mem_nil (s := .shore #[.ofIndex 7, .ofIndex 1] #[]) (by decide)]
  rfl

/-- On dry land, the branch to nothing comes first. -/
theorem strays_jetty : jetty.strays (.ofIndex 0) (.sample false 0 0 0) = true := by
  have hfind : (jetty.numbered .start 0 (jetty.collect [] (.ofIndex 0))).find?
      (·.2.accepts (.sample false 0 0 0)) =
        some (0, .arm ⟨.flag .water false, "terrestrial", .black⟩ (.ofIndex 7) [.ofIndex 0]) := by
    rw [collect_jetty]
    rfl
  rw [strays, straysWithin_of_arm (if_pos (by decide)) hfind]
  rfl

/-- Without it, dry land comes to the leaf. -/
theorem evaluateWithin_prune_jetty :
    jetty.prune.evaluateWithin BiomeId.capacity (.sample false 0 0 0) .start [] (.ofIndex 0) 0 =
      some (0, ⟨.ofIndex 1, ⟨.flag .water false, "terrestrial", .black⟩⟩) := by
  have hfind : (jetty.prune.numbered .start 0 (jetty.prune.collect [] (.ofIndex 0))).find?
      (·.2.accepts (.sample false 0 0 0)) =
        some (0, .arm ⟨.flag .water false, "terrestrial", .black⟩ (.ofIndex 1) [.ofIndex 0]) := by
    rw [collect_prune, collect_jetty]
    rfl
  refine (evaluateWithin_of_arm (if_pos (by decide)) hfind).trans (evaluateWithin_of_ending ?_)
  have hleaf : jetty.prune.node? (.ofIndex 1) = some (.leaf none) := by rw [node?_prune]; rfl
  rw [collect_of_leaf (by decide) hleaf]
  rfl

theorem length_namedArrivals_jetty : (jetty.namedArrivals (.ofIndex 0)).length = 1 := by
  have hnone : ∀ b, jetty.arrivalsFrom b [.ofIndex 0] (.ofIndex 7) = [] :=
    fun _ => arrivalsFrom_of_not_has (by decide)
  have hleaf : ∀ b, jetty.arrivalsFrom b [.ofIndex 0] (.ofIndex 1) = [⟨.ofIndex 1, b⟩] :=
    fun _ => arrivalsFrom_of_leaf (by decide) (o := none) (by decide)
  rw [namedArrivals, arrivals, arrivalsFrom_eq_flatMap, collect_jetty]
  simp only [List.flatMap_cons, List.flatMap_nil, arrivalsThrough, hnone, hleaf]
  decide

end Graph

/-- Though there are numbers enough, the reference to nothing makes a difference on dry land. -/
theorem Classifier.classify_build_jetty :
    (Graph.jetty.namedArrivals (.ofIndex 0)).length ≤ BiomeId.capacity ∧
      ((unbuilt defaultTolerance).build .jetty (.ofIndex 0)).classifier.classify
        (.sample false 0 0 0) = none ∧
      ((unbuilt defaultTolerance).build Graph.jetty.prune (.ofIndex 0)).classifier.classify
        (.sample false 0 0 0) = some (.ofIndex 0) := by
  refine ⟨by rw [Graph.length_namedArrivals_jetty]; decide, ?_, ?_⟩
  · rw [classify_build_eq_ite, Graph.strays_jetty, if_pos rfl]
  · rw [classify_build_eq_map, Graph.evaluateWithin_prune_jetty]
    rfl

end Biomes
