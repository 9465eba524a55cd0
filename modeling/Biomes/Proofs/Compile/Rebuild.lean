import Biomes.Proofs.Compile.Leaves

/-!
# Building again

A build starts from nothing but the graph and the tolerance.  Of the graph it sees what can be
reached from the root, and of the leaves it never sees what they carry, whether that is left of an
earlier build or was written by itself a moment ago (`Draft.meetAll_setGraph`).  So a build of
another graph that is alike in what can be reached gives the same classifier and the same findings,
and building again changes nothing (`Classifier.build_again`).
-/

namespace Biomes

namespace Draft

/-- The draft with another graph. -/
def setGraph (d : Draft) (g : Graph) : Draft := { d with graph := g }

theorem register_setGraph (d : Draft) (g : Graph) (n : NodeId) (b : Biome) :
    (d.setGraph g).register n b = (d.register n b).setGraph (g.writeLeaf n b) := by
  unfold register setGraph
  cases d.names.get? b.name <;> rfl

theorem bind_setGraph (d : Draft) (g : Graph) (n : NodeId) (b : Branch) (depth : Nat) :
    ∃ g', ((d.setGraph g).bind n b depth).2 = (d.bind n b depth).2.setGraph g' := by
  unfold bind
  split
  · exact ⟨g, rfl⟩
  · -- The counter is the same, so that both drafts give the leaf the same biome, or none.
    have hcounter : (d.setGraph g).counter = d.counter := rfl
    rw [hcounter]
    cases BiomeId.ofCount? d.counter.toNat with
    | none => exact ⟨g, rfl⟩
    | some i => exact ⟨_, d.register_setGraph g n ⟨i, b.name, b.colour⟩⟩

theorem inspect_setGraph (d : Draft) (g : Graph) (n : NodeId) (s : Switch) (o : Outlet)
    (output : Nat) : (d.setGraph g).inspect n s o output = (d.inspect n s o output).setGraph g := by
  unfold inspect
  split
  · cases s <;> rfl
  · cases o.share <;> rfl

theorem inspectAll_setGraph (d : Draft) (g : Graph) (n : NodeId) (s : Switch) :
    (d.setGraph g).inspectAll n s = (d.inspectAll n s).setGraph g := by
  unfold inspectAll
  induction s.outlets.zipIdx generalizing d with
  | nil => rfl
  | cons o os ih => rw [List.foldl_cons, List.foldl_cons, inspect_setGraph, ih]

/-- What an encounter does to a draft does not depend on the graph, but for the graph. -/
theorem meet_setGraph (d : Draft) (g : Graph) (e : Encounter) :
    ∃ g', (d.setGraph g).meet e = (d.meet e).setGraph g' := by
  cases e with
  | loop n depth => exact ⟨g, rfl⟩
  | missing n depth => exact ⟨g, rfl⟩
  | leaf n b depth => exact d.bind_setGraph g n b depth
  | switch n s => exact ⟨g, d.inspectAll_setGraph g n s⟩

theorem meetAll_setGraph (d : Draft) (g : Graph) (es : List Encounter) :
    ∃ g', (d.setGraph g).meetAll es = (d.meetAll es).setGraph g' := by
  induction es generalizing d g with
  | nil => exact ⟨g, rfl⟩
  | cons e es ih =>
    obtain ⟨g', he⟩ := d.meet_setGraph g e
    obtain ⟨g'', hes⟩ := ih (d.meet e) g'
    refine ⟨g'', ?_⟩
    show ((d.setGraph g).meet e).meetAll es = _
    rw [he, hes]
    rfl

end Draft

namespace Graph.AlikeFrom

variable {g g' : Graph} {root : NodeId}

theorem unfold_eq (h : g.AlikeFrom g' root) : g'.unfold root = g.unfold root :=
  (h.unfoldFrom_eq []).symm

theorem arrivals_eq (h : g.AlikeFrom g' root) : g'.arrivals root = g.arrivals root := by
  have harrivals := congrArg (Unfolding.arrivals .start) h.unfold_eq
  rwa [unfold, unfold, arrivals_unfoldFrom, arrivals_unfoldFrom] at harrivals

/-- Graphs that are alike in what can be reached leave the same draft, but for the graph. -/
theorem draft_eq (h : g.AlikeFrom g' root) : ∃ g'', g'.draft root = (g.draft root).setGraph g'' := by
  rw [draft, h.unfold_eq]
  exact (Draft.blank g).meetAll_setGraph g' _

end Graph.AlikeFrom

namespace Classifier

/-- What a build gives does not depend on the classifier before, but for the tolerance, and not on
anything that cannot be reached. -/
theorem build_eq_of_alikeFrom (c c' : Classifier) {g g' : Graph} {root : NodeId}
    (htolerance : c.tolerance = c'.tolerance) (h : g.AlikeFrom g' root) :
    (c.build g root).classifier = (c'.build g' root).classifier ∧
      (c.build g root).findings = (c'.build g' root).findings := by
  obtain ⟨g'', hdraft⟩ := h.draft_eq
  rw [build_eq, build_eq, h.unfold_eq, hdraft]
  unfold finish
  rw [htolerance]
  exact ⟨rfl, rfl⟩

/-- A build leaves a graph that is alike. -/
theorem alike_build (c : Classifier) (g : Graph) (root : NodeId) :
    g.Alike (c.build g root).graph := by
  rw [build_eq]
  exact (Draft.blank g).alike_meetAll _

/-- Builds a graph again and again, each time with the classifier and the graph that the build before
has left. -/
def rebuild (c : Classifier) (g : Graph) (root : NodeId) : Nat → Build
  | 0 => c.build g root
  | k + 1 =>
    let r := c.rebuild g root k
    r.classifier.build r.graph root

/-- However often a graph is built again, the tolerance stays and the graph stays alike. -/
theorem alike_rebuild (c : Classifier) (g : Graph) (root : NodeId) (k : Nat) :
    (c.rebuild g root k).classifier.tolerance = c.tolerance ∧ g.Alike (c.rebuild g root k).graph := by
  induction k with
  | zero => exact ⟨rfl, c.alike_build g root⟩
  | succ k ih => exact ⟨ih.1, ih.2.trans (alike_build _ _ root)⟩

/-- Building again writes into the leaves what they carry already. -/
theorem node?_rebuild (c : Classifier) (g : Graph) (root : NodeId) (k : Nat) (n : NodeId) :
    (c.rebuild g root k).graph.node? n = (c.build g root).graph.node? n := by
  induction k with
  | zero => rfl
  | succ k ih =>
    have halike := (c.alike_rebuild g root k).2.alikeFrom root
    rw [rebuild, node?_build, ih, node?_build, halike.arrivals_eq, Option.map_map]
    congr 1
    funext v
    rw [Function.comp, Node.carrying_carrying, Option.or_self]

/-- **A build replaces everything, and depends only on what can be reached.**  Two graphs that are
alike wherever references lead from the root give the same classifier, with its tree, tables and
coverage, and the same findings, whatever the classifiers held before, if their tolerances are the
same.  So building a graph again and again gives each time what the first build of a new classifier
gives. -/
theorem build_again (c c' : Classifier) {g g' : Graph} {root : NodeId}
    (htolerance : c.tolerance = c'.tolerance) (h : g.AlikeFrom g' root) :
    (c.build g root).classifier = (c'.build g' root).classifier ∧
      (c.build g root).findings = (c'.build g' root).findings ∧
      ∀ k,
        (c.rebuild g root k).classifier = ((unbuilt c.tolerance).build g root).classifier ∧
        (c.rebuild g root k).findings = ((unbuilt c.tolerance).build g root).findings ∧
        ∀ n, (c.rebuild g root k).graph.node? n =
          ((unbuilt c.tolerance).build g root).graph.node? n := by
  obtain ⟨hclassifier, hfindings⟩ := build_eq_of_alikeFrom c c' htolerance h
  refine ⟨hclassifier, hfindings, fun k => ?_⟩
  have hnode : ∀ n, (c.rebuild g root k).graph.node? n =
      ((unbuilt c.tolerance).build g root).graph.node? n := by
    intro n
    rw [node?_rebuild, node?_build, node?_build]
  cases k with
  | zero =>
    have hfirst := build_eq_of_alikeFrom c (unbuilt c.tolerance) rfl
      ((Graph.Alike.refl g).alikeFrom root)
    exact ⟨hfirst.1, hfirst.2, hnode⟩
  | succ k =>
    obtain ⟨hkept, halike⟩ := c.alike_rebuild g root k
    have hnext := build_eq_of_alikeFrom (unbuilt c.tolerance) (c.rebuild g root k).classifier
      hkept.symm (halike.alikeFrom root)
    exact ⟨hnext.1.symm, hnext.2.symm, hnode⟩

end Classifier

/-! ### A pier -/

namespace Graph

/-- A switch with a leaf, a loop and a reference to nothing. -/
def pier : Graph := ⟨#[.switch (.shore #[.ofIndex 1] #[.ofIndex 0, .ofIndex 9]), .leaf none]⟩

/-- The pier with a biome in its leaf, and with a further node that nothing else refers to. -/
def oldPier : Graph :=
  ⟨#[.switch (.shore #[.ofIndex 1] #[.ofIndex 0, .ofIndex 9]),
    .leaf (some ⟨.ofIndex 7, "marsh", .white⟩), .relay #[.ofIndex 0, .ofIndex 2]]⟩

/-- The further node cannot be reached. -/
theorem of_reaches_pier {n : NodeId} (h : pier.Reaches (.ofIndex 0) n) :
    n = .ofIndex 0 ∨ n = .ofIndex 1 ∨ n = .ofIndex 9 := by
  induction h with
  | refl => exact .inl rfl
  | @tail _ t _ href ih =>
    obtain ⟨v, hv, hmem⟩ := href
    rcases ih with rfl | rfl | rfl
    · obtain rfl : Node.switch (.shore #[.ofIndex 1] #[.ofIndex 0, .ofIndex 9]) = v :=
        Option.some.inj hv
      have ht : t = .ofIndex 1 ∨ t = .ofIndex 0 ∨ t = .ofIndex 9 := by
        simpa [Node.references, Switch.attached] using hmem
      rcases ht with rfl | rfl | rfl <;> simp
    · obtain rfl : Node.leaf none = v := Option.some.inj hv
      cases hmem
    · cases hv

theorem alikeFrom_pier : pier.AlikeFrom oldPier (.ofIndex 0) := by
  intro n hn
  rcases of_reaches_pier hn with rfl | rfl | rfl <;> rfl

end Graph

/-- The old pier is built like the pier, by a classifier that has been in use. -/
theorem Classifier.build_again_pier :
    ((unbuilt defaultTolerance).build .pier (.ofIndex 0)).classifier =
        (((unbuilt defaultTolerance).build .oldPier (.ofIndex 2)).classifier.build .oldPier
          (.ofIndex 0)).classifier ∧
      ((unbuilt defaultTolerance).rebuild .pier (.ofIndex 0) 3).findings =
        ((unbuilt defaultTolerance).build .pier (.ofIndex 0)).findings := by
  have h := build_again (unbuilt defaultTolerance)
    ((unbuilt defaultTolerance).build .oldPier (.ofIndex 2)).classifier rfl Graph.alikeFrom_pier
  exact ⟨h.1, (h.2.2 3).2.1⟩

end Biomes
