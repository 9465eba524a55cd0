import Biomes.Proofs.Compile.Coverage
import Biomes.Proofs.Compile.Tiling
import Biomes.Proofs.DecisionTree.Dump

/-!
# The dump of a compiled tree

In a compiled tree only the start has no test (`Classifier.namesAreTested_build`), and it has no name
either.  So the dump of a build, though it escapes nothing, shows all that matters for classifying
places (`Classifier.dump_build`).
-/

namespace Biomes

namespace Graph

/-- The branches that lie before a search have a test. -/
theorem test_ne_never_of_mem_collect {g : Graph} {path path' : List NodeId} {n t : NodeId}
    {b : Branch} (h : .arm b t path' ∈ g.collect path n) : b.test ≠ .never := by
  induction path, n using collect.induct g with
  | case1 path n hn => rw [collect_of_mem hn] at h; cases h
  | case2 path n hn hv => rw [collect_of_none hn hv] at h; cases h
  | case3 path n hn o hv => rw [collect_of_leaf hn hv] at h; simp at h
  | case4 path n hn ts hv ih =>
    rw [collect_of_relay hn hv] at h
    obtain ⟨m, -, hm⟩ := List.mem_flatMap.mp h
    exact ih m hm
  | case5 path n hn s hv =>
    rw [collect_of_switch hn hv] at h
    obtain ⟨a, ha, heq⟩ := List.mem_map.mp h
    injection heq with hbranch
    intro hnever
    have haxis := Switch.axis?_of_mem_branches (n := a.2) ha
    rw [hbranch, hnever] at haxis
    cases haxis

end Graph

namespace DecisionTree

theorem mem_nodesAll_iff {u : DecisionTree} {ts : List DecisionTree} :
    u ∈ nodesAll ts ↔ ∃ t ∈ ts, u ∈ t.nodes := by
  induction ts with
  | nil => simp [nodesAll]
  | cons t ts ih => simp [nodesAll, ih]

end DecisionTree

/-- The nodes of a tree that grows on a branch are on this branch, or have a test. -/
theorem Graph.branch_of_mem_nodes_treeFrom {g : Graph} {b : Branch} {path : List NodeId} {n : NodeId}
    {k : Nat} {u : DecisionTree} (hu : u ∈ (g.treeFrom b path n k).nodes) :
    u.branch = b ∨ u.branch.test ≠ .never := by
  -- Each search goes on from a longer path, which leaves fewer nodes unseen.
  induction hm : g.unseen path using Nat.strong_induction_on generalizing b path n k with
  | _ m ih =>
    rw [treeFrom_eq, DecisionTree.nodes] at hu
    rcases List.mem_cons.mp hu with rfl | hu
    · exact .inl rfl
    · obtain ⟨t, ht, hut⟩ := DecisionTree.mem_nodesAll_iff.mp hu
      obtain ⟨⟨i, x⟩, hx, harm⟩ := List.mem_filterMap.mp ht
      have hcollect : x ∈ g.collect path n := by
        rw [← map_snd_numbered g b k (g.collect path n)]
        exact List.mem_map_of_mem hx
      cases x with
      | leaf m => cases harm
      | arm b' t' path' =>
        obtain rfl := Option.some.inj harm
        rcases ih _ (hm ▸ unseen_lt_of_mem_collect hcollect) hut rfl with hbranch | htest
        · rw [hbranch]
          exact .inr (test_ne_never_of_mem_collect hcollect)
        · exact .inr htest

namespace Classifier

/-- In the tree of a build, only the start is without a test. -/
theorem namesAreTested_build (c : Classifier) (g : Graph) (root : NodeId) :
    (c.build g root).classifier.tree.NamesAreTested := by
  intro u hu hnever
  rw [tree_build] at hu
  rcases Graph.branch_of_mem_nodes_treeFrom hu with hbranch | htest
  · rw [hbranch]
    rfl
  · exact absurd hnever htest

/-- **The dump of a build is faithful**, whatever the names, as long as they take one line each.  It
has one line for each node, a node before the nodes below it, and the line is indented by twice the
depth of the node.  If two builds have the same dump, their trees are the same but for the colours:
they have the same shape, and node by node the same tests, names and biomes.  So they classify all
places in the same way. -/
theorem dump_build (c c' : Classifier) (g g' : Graph) (root root' : NodeId)
    (hnames : (c.build g root).classifier.tree.HasPlainNames)
    (hnames' : (c'.build g' root').classifier.tree.HasPlainNames) :
    (c.build g root).classifier.dump.toList.splitOn '\n' =
        ((c.build g root).classifier.tree.rows 0).map (fun r => r.line.toList) ++ [[]] ∧
      ((c.build g root).classifier.tree.rows 0).map (fun r => (r.branch, r.biome)) =
        (c.build g root).classifier.tree.nodes.map (fun u => (u.branch, u.biome)) ∧
      (∀ r ∈ (c.build g root).classifier.tree.rows 0,
        DecisionTree.indentation r.line = 2 * r.depth) ∧
      ((c.build g root).classifier.dump = (c'.build g' root').classifier.dump →
        (c.build g root).classifier.tree.uncoloured =
            (c'.build g' root').classifier.tree.uncoloured ∧
          ∀ p, (c.build g root).classifier.classify p =
            (c'.build g' root').classifier.classify p) := by
  refine ⟨DecisionTree.splitOn_dump hnames, DecisionTree.map_rows 0 _,
    fun r _ => DecisionTree.indentation_line .., fun h => ?_⟩
  have huncoloured := (DecisionTree.dump_eq_iff hnames hnames' (namesAreTested_build c g root)
    (namesAreTested_build c' g' root')).mp h
  refine ⟨huncoloured, fun p => ?_⟩
  rw [classify, classify, ← DecisionTree.classify_uncoloured, huncoloured,
    DecisionTree.classify_uncoloured]

end Classifier

/-! ### The seam in two colours -/

namespace Classifier

/-- The classifier of the seam. -/
def seam (colour : Colour) : Classifier :=
  ((unbuilt defaultTolerance).build (.seam colour) (.ofIndex 0)).classifier

theorem tree_seam (colour : Colour) : (seam colour).tree = .node .start none
    [.node ⟨.within .height (-1) 0, "below", colour⟩ (some (.ofIndex 0)) [],
      .node ⟨.within .height (-0) 0, "seam", colour⟩ (some (.ofIndex 1)) [],
      .node ⟨.within .height (-0) 1, "above", colour⟩ (some (.ofIndex 2)) []] :=
  tree_build_of_fansOut _ (Graph.fansOut_seam colour)

theorem hasPlainNames_seam (colour : Colour) : (seam colour).tree.HasPlainNames := by
  intro u hu
  have hname : u.branch.name ∈ ["", "below", "seam", "above"] := by
    have hmem := List.mem_map_of_mem (f := fun u => u.branch.name) hu
    rw [tree_seam] at hmem
    exact hmem
  exact (by decide : ∀ s ∈ ["", "below", "seam", "above"], '\n' ∉ s.toList) _ hname

theorem dump_seam (colour colour' : Colour) : (seam colour).dump = (seam colour').dump := by
  refine (DecisionTree.dump_eq_iff (hasPlainNames_seam colour) (hasPlainNames_seam colour')
    (namesAreTested_build _ _ _) (namesAreTested_build _ _ _)).mpr ?_
  rw [tree_seam, tree_seam]
  rfl

/-- In black and in blue, the seam has the same dump and classifies in the same way. -/
theorem dump_build_seam : (seam .black).tree.HasPlainNames ∧ (seam .pureBlue).tree.HasPlainNames ∧
    (seam .black).dump = (seam .pureBlue).dump ∧
    ∀ p, (seam .black).classify p = (seam .pureBlue).classify p := by
  have hblack := hasPlainNames_seam .black
  have hblue := hasPlainNames_seam .pureBlue
  have hdump := dump_seam .black .pureBlue
  have hfaithful := dump_build (unbuilt defaultTolerance) (unbuilt defaultTolerance) (.seam .black)
    (.seam .pureBlue) (.ofIndex 0) (.ofIndex 0) hblack hblue
  exact ⟨hblack, hblue, hdump, (hfaithful.2.2.2 hdump).2⟩

end Classifier

end Biomes
