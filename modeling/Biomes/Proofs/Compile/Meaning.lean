import Biomes.Proofs.Compile.Numbering

/-!
# Compiling keeps the meaning

A place gets from the compiled tree what it gets from the graph.  What grows on a branch is a fold
over what lies before the search (`Graph.grow_unfoldFrom`): the leaves end the branch, each in the
place of the one before, and every branch of a switch adds a node.  So the tree that grows from a
node classifies a place by the number of the arrival that `Graph.evaluateWithin` answers
(`Graph.classify_treeFrom`), and as long as there are numbers for all arrivals, this is the arrival
that `Graph.evaluate` answers (`Graph.map_snd_evaluateWithin`).
-/

namespace Biomes

namespace Graph

/-! ### Growing from a node -/

/-- What a prospect adds to a branch. -/
def growProspect (g : Graph) (b : Branch) (w : Growth) : Prospect → Growth
  | .leaf n => (Unfolding.leaf n).grow b w
  | .arm b' t path => w.addArm b' ((g.unfoldFrom path t).grow b' ⟨w.count, .empty⟩)

/-- What grows from a node is a fold over what lies before the search. -/
theorem grow_unfoldFrom (g : Graph) (b : Branch) (path : List NodeId) (n : NodeId) (w : Growth) :
    (g.unfoldFrom path n).grow b w = (g.collect path n).foldl (g.growProspect b) w := by
  induction path, n using unfoldFrom.induct g generalizing w with
  | case1 path n hn => rw [unfoldFrom_of_mem hn, collect_of_mem hn, Unfolding.grow, List.foldl_nil]
  | case2 path n hn hv =>
    rw [unfoldFrom_of_none hn hv, collect_of_none hn hv, Unfolding.grow, List.foldl_nil]
  | case3 path n hn o hv => rw [unfoldFrom_of_leaf hn hv, collect_of_leaf hn hv]; rfl
  | case4 path n hn ts hv ih =>
    rw [unfoldFrom_of_relay hn hv, collect_of_relay hn hv, Unfolding.grow, List.foldl_map,
      List.foldl_flatMap]
    congr 1
    funext w t
    exact ih t w
  | case5 path n hn s hv ih =>
    rw [unfoldFrom_of_switch hn hv, collect_of_switch hn hv, Unfolding.grow, List.foldl_map,
      List.foldl_map]
    rfl

/-- A prospect makes the count go on by its arrivals on branches with names. -/
theorem count_growProspect (g : Graph) (b : Branch) (w : Growth) (x : Prospect) :
    (g.growProspect b w x).count = w.count + (g.arrivalsThrough b x).countP Arrival.isNamed := by
  cases x with
  | leaf n =>
    rw [growProspect, Unfolding.count_grow, Unfolding.arrivals, arrivalsThrough]
  | arm b' t path =>
    rw [growProspect, Growth.addArm, Unfolding.count_grow, arrivals_unfoldFrom, arrivalsThrough]

/-- The tree that grows on a branch from a node, when `k` arrivals have been numbered before. -/
def treeFrom (g : Graph) (b : Branch) (path : List NodeId) (n : NodeId) (k : Nat) : DecisionTree :=
  ((g.unfoldFrom path n).grow b ⟨k, .empty⟩).shoot.toTree b

/-- The node for a numbered prospect that is a branch. -/
def arm? (g : Graph) : Nat × Prospect → Option DecisionTree
  | (_, .leaf _) => none
  | (k, .arm b t path) => some (g.treeFrom b path t k)

/-- The nodes that grow are those for the branches among the prospects. -/
theorem children_foldl_growProspect (g : Graph) (b : Branch) (xs : List Prospect) (w : Growth) :
    (xs.foldl (g.growProspect b) w).shoot.children.toList =
      w.shoot.children.toList ++ (g.numbered b w.count xs).filterMap g.arm? := by
  induction xs generalizing w with
  | nil => exact (List.append_nil _).symm
  | cons x xs ih =>
    rw [List.foldl_cons, ih, count_growProspect, numbered]
    cases x with
    | leaf n =>
      have hchildren : ((Unfolding.leaf n).grow b w).shoot.children = w.shoot.children := by
        rw [Unfolding.grow]
        split <;> rfl
      rw [growProspect, hchildren, List.filterMap_cons_none (by rfl)]
    | arm b' t path =>
      rw [growProspect, Growth.addArm, Shoot.push, Array.toList_push, List.append_assoc,
        List.filterMap_cons_some (by rfl)]
      rfl

/-- What ends a branch is the last leaf that gets a number, if the branch has a name. -/
theorem biome_foldl_growProspect (g : Graph) (b : Branch) (xs : List Prospect) (w : Growth) :
    (xs.foldl (g.growProspect b) w).shoot.biome =
      ((Prospect.endingWithin? BiomeId.capacity b (g.numbered b w.count xs)).map
        fun y => .ofIndex y.1).or w.shoot.biome := by
  unfold Prospect.endingWithin?
  by_cases hb : b.name.isEmpty = true
  · rw [if_pos hb, Option.map_none, Option.none_or]
    induction xs generalizing w with
    | nil => rfl
    | cons x xs ih =>
      rw [List.foldl_cons, ih]
      cases x with
      | leaf n => rw [growProspect, Unfolding.grow, if_pos hb]
      | arm b' t path => rfl
  · rw [if_neg hb]
    induction xs generalizing w with
    | nil => rfl
    | cons x xs ih =>
      rw [List.foldl_cons, ih, count_growProspect, numbered]
      cases x with
      | leaf n =>
        rw [growProspect, Unfolding.grow, if_neg hb, BiomeId.ofCount?]
        -- A leaf that gets a number only counts if none comes after it.
        by_cases hk : w.count < BiomeId.capacity
        · rw [if_pos hk, List.filterMap_cons_some (b := (w.count, n))
            (by rw [Prospect.leafWithin?, if_pos hk]), List.getLast?_cons]
          cases ((g.numbered b (w.count + _) xs).filterMap _).getLast? <;> rfl
        · rw [if_neg hk, List.filterMap_cons_none (by rw [Prospect.leafWithin?, if_neg hk])]
          rfl
      | arm b' t path =>
        rw [List.filterMap_cons_none (by rfl)]
        rfl

/-- The tree that grows from a node, one level deep. -/
theorem treeFrom_eq (g : Graph) (b : Branch) (path : List NodeId) (n : NodeId) (k : Nat) :
    g.treeFrom b path n k =
      .node b
        ((Prospect.endingWithin? BiomeId.capacity b (g.numbered b k (g.collect path n))).map
          fun y => .ofIndex y.1)
        ((g.numbered b k (g.collect path n)).filterMap g.arm?) := by
  have hbiome := g.biome_foldl_growProspect b (g.collect path n) ⟨k, .empty⟩
  have hchildren := g.children_foldl_growProspect b (g.collect path n) ⟨k, .empty⟩
  rw [← grow_unfoldFrom] at hbiome hchildren
  rw [treeFrom, Shoot.toTree, hbiome, hchildren]
  congr 1
  exact Option.or_none

/-! ### Classifying -/

/-- Going down from some nodes is going on along the first branch that accepts the place. -/
theorem classifyFirst_filterMap_arm? (g : Graph) (p : Point) (ys : List (Nat × Prospect)) :
    DecisionTree.classifyFirst p (ys.filterMap g.arm?) =
      (ys.find? (·.2.accepts p)).bind fun y => (g.arm? y).bind (DecisionTree.classify p) := by
  induction ys with
  | nil => rfl
  | cons y ys ih =>
    obtain ⟨k, x⟩ := y
    cases x with
    | leaf n =>
      rw [List.filterMap_cons_none (by rfl), ih, List.find?_cons_of_neg (by simp [Prospect.accepts])]
    | arm b t path =>
      rw [List.filterMap_cons_some (by rfl), DecisionTree.classifyFirst, ih]
      show (if b.test.accepts p = true then _ else _) = _
      by_cases hp : b.test.accepts p = true
      · rw [if_pos hp, List.find?_cons_of_pos (by exact hp)]
        rfl
      · rw [if_neg hp, List.find?_cons_of_neg (by exact hp)]

/-- The tree that grows from a node classifies a place by the number of the arrival that it comes
to. -/
theorem classify_treeFrom (g : Graph) (p : Point) (b : Branch) (path : List NodeId) (n : NodeId)
    (k : Nat) :
    (g.treeFrom b path n k).classify p =
      (g.evaluateWithin BiomeId.capacity p b path n k).map fun y => .ofIndex y.1 := by
  -- The cases are those of the evaluation: a leaf ends it, it goes on along a branch, or it stops.
  induction b, path, n, k using evaluateWithin.induct g BiomeId.capacity p with
  | case1 b path n k i leaf h =>
    rw [evaluateWithin_of_ending h, treeFrom_eq, h]
    rfl
  | case2 b path n k h i b' t path' harm ih =>
    rw [evaluateWithin_of_arm h harm, ← ih, treeFrom_eq, h, Option.map_none,
      DecisionTree.classify, classifyFirst_filterMap_arm?, harm]
    rfl
  | case3 b path n k h harm =>
    have hnone := find?_eq_none_of_ne_arm harm
    rw [evaluateWithin_of_none h harm, treeFrom_eq, h, Option.map_none, DecisionTree.classify,
      classifyFirst_filterMap_arm?, hnone]
    rfl

/-! ### The limit -/

/-- A numbered prospect leads to the arrivals that come next in the list after its number. -/
theorem next_of_mem_numbered {g : Graph} {b : Branch} {l : List Arrival} {k : Nat}
    {xs : List Prospect} (hxs : Arrival.Next l k (xs.flatMap (g.arrivalsThrough b)))
    {y : Nat × Prospect} (hy : y ∈ g.numbered b k xs) :
    Arrival.Next l y.1 (g.arrivalsThrough b y.2) := by
  induction xs generalizing k with
  | nil => cases hy
  | cons x xs ih =>
    rw [List.flatMap_cons] at hxs
    rw [numbered] at hy
    rcases List.mem_cons.mp hy with rfl | hy
    · exact hxs.left
    · exact ih hxs.right hy

/-- The number that a place is answered is the position of the arrival that it comes to. -/
theorem getElem?_of_evaluateWithin {g : Graph} {limit : Nat} {p : Point} {b : Branch}
    {path : List NodeId} {n : NodeId} {k i : Nat} {a : Arrival} {l : List Arrival}
    (hl : Arrival.Next l k (g.arrivalsFrom b path n))
    (h : g.evaluateWithin limit p b path n k = some (i, a)) : l[i]? = some a := by
  induction b, path, n, k using evaluateWithin.induct g limit p with
  | case1 b path n k j leaf hend =>
    rw [evaluateWithin_of_ending hend, Option.some.injEq, Prod.mk.injEq] at h
    obtain ⟨rfl, rfl⟩ := h
    obtain ⟨hb, -, hmem⟩ := Prospect.of_endingWithin? hend
    rw [arrivalsFrom_eq_flatMap] at hl
    exact (next_of_mem_numbered hl hmem).getElem?_eq (by simp [Arrival.isNamed, hb])
  | case2 b path n k hend j b' t path' harm ih =>
    rw [evaluateWithin_of_arm hend harm] at h
    rw [arrivalsFrom_eq_flatMap] at hl
    exact ih (next_of_mem_numbered hl (List.mem_of_find?_eq_some harm)) h
  | case3 b path n k hend harm =>
    rw [evaluateWithin_of_none hend harm] at h
    cases h

theorem lt_of_evaluateWithin {g : Graph} {limit : Nat} {p : Point} {b : Branch}
    {path : List NodeId} {n : NodeId} {k i : Nat} {a : Arrival}
    (h : g.evaluateWithin limit p b path n k = some (i, a)) : i < limit := by
  induction b, path, n, k using evaluateWithin.induct g limit p with
  | case1 b path n k j leaf hend =>
    rw [evaluateWithin_of_ending hend, Option.some.injEq, Prod.mk.injEq] at h
    rw [← h.1]
    exact (Prospect.of_endingWithin? hend).2.1
  | case2 b path n k hend j b' t path' harm ih =>
    rw [evaluateWithin_of_arm hend harm] at h
    exact ih h
  | case3 b path n k hend harm =>
    rw [evaluateWithin_of_none hend harm] at h
    cases h

/-- The arrivals through a numbered prospect are counted among all of them. -/
theorem add_countP_le_of_mem_numbered {g : Graph} {b : Branch} {k : Nat} {xs : List Prospect}
    {y : Nat × Prospect} (hy : y ∈ g.numbered b k xs) :
    y.1 + (g.arrivalsThrough b y.2).countP Arrival.isNamed ≤
      k + (xs.flatMap (g.arrivalsThrough b)).countP Arrival.isNamed := by
  induction xs generalizing k with
  | nil => cases hy
  | cons x xs ih =>
    rw [List.flatMap_cons, List.countP_append]
    rw [numbered] at hy
    rcases List.mem_cons.mp hy with rfl | hy
    · show k + (g.arrivalsThrough b x).countP Arrival.isNamed ≤ _
      omega
    · have := ih hy
      omega

/-- Where the limit leaves room for all arrivals, the leaf that ends a branch is the last one. -/
theorem map_snd_endingWithin? {g : Graph} {limit : Nat} {b : Branch} {k : Nat} {xs : List Prospect}
    (hlimit : k + (xs.flatMap (g.arrivalsThrough b)).countP Arrival.isNamed ≤ limit) :
    (Prospect.endingWithin? limit b (g.numbered b k xs)).map Prod.snd = Prospect.ending? b xs := by
  unfold Prospect.endingWithin? Prospect.ending?
  by_cases hb : b.name.isEmpty = true
  · rw [if_pos hb, if_pos hb]
    rfl
  · -- Each leaf is an arrival itself, so that its number lies below the limit.
    have hleaf : ∀ y ∈ g.numbered b k xs,
        (Prospect.leafWithin? limit y).map Prod.snd = y.2.leaf? := by
      rintro ⟨i, x⟩ hy
      cases x with
      | leaf n =>
        have hle : i + (g.arrivalsThrough b (.leaf n)).countP Arrival.isNamed ≤ _ :=
          add_countP_le_of_mem_numbered hy
        have hone : (g.arrivalsThrough b (.leaf n)).countP Arrival.isNamed = 1 := by
          rw [arrivalsThrough, List.countP_singleton, Arrival.isNamed, if_pos (by simp [hb])]
        have hi : i < limit := by omega
        rw [Prospect.leafWithin?, if_pos hi]
        rfl
      | arm b' t path => rfl
    rw [if_neg hb, if_neg hb, ← List.getLast?_map, List.map_filterMap, List.filterMap_congr hleaf]
    have hxs := List.filterMap_map (f := Prod.snd) (g := Prospect.leaf?) (l := g.numbered b k xs)
    rw [map_snd_numbered] at hxs
    rw [hxs]
    rfl

/-- **Where the limit leaves room for all arrivals, it makes no difference.** -/
theorem map_snd_evaluateWithin {g : Graph} {limit : Nat} {p : Point} {b : Branch}
    {path : List NodeId} {n : NodeId} {k : Nat}
    (hlimit : k + (g.arrivalsFrom b path n).countP Arrival.isNamed ≤ limit) :
    (g.evaluateWithin limit p b path n k).map Prod.snd = g.evaluateFrom p b path n := by
  induction b, path, n, k using evaluateWithin.induct g limit p with
  | case1 b path n k i leaf h =>
    rw [arrivalsFrom_eq_flatMap] at hlimit
    have hend := map_snd_endingWithin? hlimit
    rw [h] at hend
    rw [evaluateWithin_of_ending h, evaluateFrom_of_ending hend.symm]
    rfl
  | case2 b path n k h i b' t path' harm ih =>
    rw [arrivalsFrom_eq_flatMap] at hlimit
    have hend := map_snd_endingWithin? hlimit
    have hle := add_countP_le_of_mem_numbered (List.mem_of_find?_eq_some harm)
    rw [h] at hend
    have hfind : (g.collect path n).find? (·.accepts p) = some (.arm b' t path') := by
      rw [← map_snd_numbered g b k (g.collect path n), List.find?_map]
      exact congrArg (Option.map Prod.snd) harm
    rw [evaluateWithin_of_arm h harm, evaluateFrom_of_arm hend.symm hfind]
    exact ih (Nat.le_trans hle hlimit)
  | case3 b path n k h harm =>
    rw [arrivalsFrom_eq_flatMap] at hlimit
    have hend := map_snd_endingWithin? hlimit
    rw [h] at hend
    rw [evaluateWithin_of_none h harm, evaluateFrom_of_none hend.symm]
    · rfl
    · intro b' t path' hfind
      rw [← map_snd_numbered g b k (g.collect path n), List.find?_map] at hfind
      obtain ⟨⟨i, x⟩, hy, rfl⟩ := Option.map_eq_some_iff.mp hfind
      exact harm i b' t path' hy

end Graph

/-! ### The build -/

namespace Classifier

/-- A build makes the tree that grows at the root. -/
theorem tree_build (c : Classifier) (g : Graph) (root : NodeId) :
    (c.build g root).classifier.tree = g.treeFrom .start [] root 0 := by
  rw [build_eq]
  rfl

/-- A built classifier answers the number of the arrival that a place comes to. -/
theorem classify_build_eq_map (c : Classifier) (g : Graph) (root : NodeId) (p : Point) :
    (c.build g root).classifier.classify p =
      (g.evaluateWithin BiomeId.capacity p .start [] root 0).map fun y => .ofIndex y.1 := by
  rw [classify, tree_build]
  exact g.classify_treeFrom p .start [] root 0

/-- If there are numbers for all arrivals, a place gets a biome with the name of the branch of the
arrival that it comes to. -/
theorem exists_biome_build_iff (c : Classifier) (g : Graph) (root : NodeId) (p : Point)
    (hroom : (g.namedArrivals root).length ≤ BiomeId.capacity) (name : String) :
    (∃ i b, (c.build g root).classifier.classify p = some i ∧
      (c.build g root).classifier.biome? i = some b ∧ b.name = name) ↔
        ∃ a, g.evaluate root p = some a ∧ a.branch.name = name := by
  have hnext : Arrival.Next (g.namedArrivals root) 0 (g.arrivalsFrom .start [] root) :=
    .self (g.arrivals root)
  have hcount : 0 + (g.arrivalsFrom .start [] root).countP Arrival.isNamed ≤ BiomeId.capacity := by
    rw [Nat.zero_add, List.countP_eq_length_filter]
    exact hroom
  rw [Graph.evaluate, ← Graph.map_snd_evaluateWithin hcount, classify_build_eq_map]
  cases hy : g.evaluateWithin BiomeId.capacity p .start [] root 0 with
  | none => simp
  | some y =>
    obtain ⟨k, a⟩ := y
    have hk := Graph.lt_of_evaluateWithin hy
    have hbiome : (c.build g root).classifier.biome? (.ofIndex k) =
        some ⟨.ofIndex k, a.branch.name, a.branch.colour⟩ := by
      rw [biome?_build, BiomeId.index_ofIndex hk, Arrival.getElem?_biomes _ hk]
      exact congrArg (Option.map _) (Graph.getElem?_of_evaluateWithin hnext hy)
    simp [hbiome]

/-- **Compiling keeps the meaning of a graph.**  Whatever the graph, the root and the place, the
number that a place is classified as is that of the arrival that it comes to in the graph, and stands
for the biome with the name and the colour of the branch of this arrival.  If there are numbers for
all arrivals, this is what the graph says; otherwise those that got none do not count. -/
theorem classify_build (c : Classifier) (g : Graph) (root : NodeId) (p : Point) :
    (∀ i, (c.build g root).classifier.classify p = some i →
      ∃ a, (g.namedArrivals root)[i.index]? = some a ∧
        (c.build g root).classifier.biome? i = some ⟨i, a.branch.name, a.branch.colour⟩) ∧
    ((g.namedArrivals root).length ≤ BiomeId.capacity →
      ((c.build g root).classifier.classify p).bind (fun i => (g.namedArrivals root)[i.index]?) =
        g.evaluate root p) ∧
    ((c.build g root).classifier.classify p).bind (fun i => (g.namedArrivals root)[i.index]?) =
      (g.evaluateWithin BiomeId.capacity p .start [] root 0).map Prod.snd := by
  have hnext : Arrival.Next (g.namedArrivals root) 0 (g.arrivalsFrom .start [] root) :=
    .self (g.arrivals root)
  have hwithin :
      ((c.build g root).classifier.classify p).bind (fun i => (g.namedArrivals root)[i.index]?) =
        (g.evaluateWithin BiomeId.capacity p .start [] root 0).map Prod.snd := by
    rw [classify_build_eq_map]
    cases hy : g.evaluateWithin BiomeId.capacity p .start [] root 0 with
    | none => rfl
    | some y =>
      obtain ⟨i, a⟩ := y
      -- Below the capacity, a position and its number determine each other.
      have hi := Graph.lt_of_evaluateWithin hy
      rw [Option.map_some, Option.bind_some, BiomeId.index_ofIndex hi,
        Graph.getElem?_of_evaluateWithin hnext hy]
      rfl
  refine ⟨fun i hi => ?_, fun hlength => ?_, hwithin⟩
  · rw [classify_build_eq_map] at hi
    obtain ⟨⟨k, a⟩, hy, rfl⟩ := Option.map_eq_some_iff.mp hi
    have hk := Graph.lt_of_evaluateWithin hy
    have hget := Graph.getElem?_of_evaluateWithin hnext hy
    rw [BiomeId.index_ofIndex hk]
    refine ⟨a, hget, ?_⟩
    rw [biome?_build, BiomeId.index_ofIndex hk, Arrival.getElem?_biomes _ hk]
    exact congrArg (Option.map _) hget
  · rw [hwithin]
    refine Graph.map_snd_evaluateWithin ?_
    rw [Nat.zero_add, List.countP_eq_length_filter]
    exact hlength

end Classifier

/-! ### An island -/

namespace Graph

/-- A switch with the same leaf on both sides of the shore. -/
def island : Graph := ⟨#[.switch (.shore #[.ofIndex 1] #[.ofIndex 1]), .leaf none]⟩

theorem collect_island : island.collect [] (.ofIndex 0) =
    [.arm ⟨.flag .water false, "terrestrial", .black⟩ (.ofIndex 1) [.ofIndex 0],
      .arm ⟨.flag .water true, "aquatic", .pureBlue⟩ (.ofIndex 1) [.ofIndex 0]] := by
  rw [collect_of_switch List.not_mem_nil (s := .shore #[.ofIndex 1] #[.ofIndex 1]) (by decide)]
  rfl

theorem length_namedArrivals_island : (island.namedArrivals (.ofIndex 0)).length = 2 := by
  have hleaf : ∀ b, island.arrivalsFrom b [.ofIndex 0] (.ofIndex 1) = [⟨.ofIndex 1, b⟩] :=
    fun _ => arrivalsFrom_of_leaf (by decide) (o := none) (by decide)
  rw [namedArrivals, arrivals, arrivalsFrom_eq_flatMap, collect_island]
  simp only [List.flatMap_cons, List.flatMap_nil, arrivalsThrough, hleaf]
  decide

/-- Every place comes to the leaf. -/
theorem evaluate_island (p : Point) :
    ∃ b, island.evaluate (.ofIndex 0) p = some ⟨.ofIndex 1, b⟩ := by
  have hfind : ∃ b : Branch, b.name.isEmpty = false ∧
      (island.collect [] (.ofIndex 0)).find? (·.accepts p) =
        some (.arm b (.ofIndex 1) [.ofIndex 0]) := by
    rw [collect_island]
    cases hw : p.flag .water with
    | false =>
      exact ⟨_, by decide, List.find?_cons_of_pos (by simp [Prospect.accepts, Test.accepts, hw])⟩
    | true =>
      rw [List.find?_cons_of_neg (by simp [Prospect.accepts, Test.accepts, hw])]
      exact ⟨_, by decide, List.find?_cons_of_pos (by simp [Prospect.accepts, Test.accepts, hw])⟩
  obtain ⟨b, hb, hfind⟩ := hfind
  refine ⟨b, (evaluateFrom_of_arm (if_pos (by decide)) hfind).trans (evaluateFrom_of_ending ?_)⟩
  rw [collect_of_leaf (by decide) (o := none) (by decide), Prospect.ending?, if_neg (by simp [hb])]
  rfl

end Graph

/-- On an island, every place is classified by an arrival at the leaf. -/
theorem Classifier.classify_build_island :
    ∃ i b, ((unbuilt defaultTolerance).build .island (.ofIndex 0)).classifier.classify
        (.sample true 0 0 0) = some i ∧
      (Graph.island.namedArrivals (.ofIndex 0))[i.index]? = some ⟨.ofIndex 1, b⟩ := by
  have hroom : (Graph.island.namedArrivals (.ofIndex 0)).length ≤ BiomeId.capacity := by
    rw [Graph.length_namedArrivals_island]
    decide
  have h := (classify_build (unbuilt defaultTolerance) .island (.ofIndex 0)
    (.sample true 0 0 0)).2.1 hroom
  obtain ⟨b, hb⟩ := Graph.evaluate_island (.sample true 0 0 0)
  rw [hb] at h
  obtain ⟨i, hi, hget⟩ := Option.bind_eq_some_iff.mp h
  exact ⟨i, b, hi, hget⟩

end Biomes
