import Biomes.Proofs.Compile.Arms
import Biomes.Proofs.Compile.Leaves
import Biomes.Proofs.Graph.Visits

/-!
# What a build writes into the graph

While a build goes through a graph it writes into it.  A call that comes to a leaf can give it a
biome (`Call.given?`); nothing else is written.  The biomes that the calls of a build give to a leaf
are those that its arrivals give to it (`Call.gives_iff`, `Graph.gives_iff`), so that the leaf
carries the last of them in the end, and a leaf that none of the calls gives a biome is left as it
was (`Classifier.keepsGraph_build`).
-/

namespace Biomes

/-! ### Bindings in parts -/

namespace Arrival

/-- The leaves of arrivals that get a biome, each with this biome, if the arrivals come after `k`
others on branches with names. -/
def bindingsFrom (k : Nat) : List Arrival → List (NodeId × Biome)
  | [] => []
  | a :: l =>
    if a.isNamed then
      ((BiomeId.ofCount? k).map fun i => (a.leaf, ⟨i, a.branch.name, a.branch.colour⟩)).toList ++
        bindingsFrom (k + 1) l
    else bindingsFrom k l

theorem bindingsFrom_singleton (k : Nat) (a : Arrival) :
    bindingsFrom k [a] =
      if a.isNamed then
        ((BiomeId.ofCount? k).map fun i => (a.leaf, ⟨i, a.branch.name, a.branch.colour⟩)).toList
      else [] := by
  simp only [bindingsFrom, List.append_nil]

theorem bindingsFrom_append (k : Nat) (l l' : List Arrival) :
    bindingsFrom k (l ++ l') = bindingsFrom k l ++ bindingsFrom (k + l.countP isNamed) l' := by
  induction l generalizing k with
  | nil => rfl
  | cons a l ih =>
    rw [List.cons_append, bindingsFrom, bindingsFrom]
    cases ha : a.isNamed with
    | true =>
      rw [if_pos rfl, if_pos rfl, ih, List.countP_cons_of_pos ha, List.append_assoc,
        Nat.add_assoc, Nat.add_comm 1]
    | false =>
      rw [if_neg Bool.false_ne_true, if_neg Bool.false_ne_true, ih,
        List.countP_cons_of_neg (by simp [ha])]

theorem bindings_eq (l : List Arrival) : bindings l = bindingsFrom 0 l := by
  induction l using List.reverseRecOn with
  | nil => rfl
  | append_singleton l a ih =>
    rw [bindingsFrom_append, ← ih, Nat.zero_add, bindingsFrom_singleton, BiomeId.ofCount?]
    cases ha : a.isNamed with
    | false =>
      rw [if_neg Bool.false_ne_true, List.append_nil, bindings, bound_concat_of_unnamed ha, bindings]
    | true =>
      rw [if_pos rfl]
      by_cases hk : l.countP isNamed < BiomeId.capacity
      · rw [if_pos hk, bindings, bound_concat_of_lt ha hk, List.mapIdx_concat, length_bound,
          Nat.min_eq_left (Nat.le_of_lt hk), bindings]
        rfl
      · rw [if_neg hk, bindings, bound_concat_of_le (Nat.le_of_not_lt hk), bindings]
        exact (List.append_nil _).symm

theorem mem_given_iff {l : List Arrival} {n : NodeId} {b : Biome} :
    b ∈ given l n ↔ (n, b) ∈ bindings l := by
  simp [given]

end Arrival

/-! ### What calls give -/

theorem Graph.Alike.arrivalsFrom_eq {g g' : Graph} (h : g.Alike g') (b : Branch)
    (path : List NodeId) : g'.arrivalsFrom b path = g.arrivalsFrom b path := by
  funext n
  rw [← arrivals_unfoldFrom, ← arrivals_unfoldFrom, h.unfoldFrom_eq]

namespace Call

/-- The biome that a call gives to the node that it comes to: it enters a leaf, and gets a number for
it. -/
def given? (c : Call) : Option Biome :=
  match c.search.draft.graph.enter? c.search.path c.node with
  | some (.leaf _) =>
    (c.search.draft.bind c.node c.branch c.depth).1.map fun i =>
      ⟨i, c.branch.name, c.branch.colour⟩
  | _ => none

/-- A call gives a biome to a node, itself or through the calls that it makes. -/
def Gives (c : Call) (n : NodeId) (b : Biome) : Prop :=
  ∃ c', c.Reaches c' ∧ c'.node = n ∧ c'.given? = some b

/-- The leaves that a call comes to, itself or through the calls that it makes. -/
def arrivals (c : Call) : List Arrival :=
  c.search.draft.graph.arrivalsFrom c.branch c.search.path c.node

variable {c : Call} {n : NodeId} {b : Biome}

theorem gives_iff_of_inner_eq_nil (h : c.inner = []) :
    c.Gives n b ↔ c.node = n ∧ c.given? = some b := by
  constructor
  · rintro ⟨c', hc', hgives⟩
    rcases Relation.ReflTransGen.cases_head hc' with rfl | ⟨c₁, hc₁, -⟩
    · exact hgives
    · rw [h] at hc₁
      cases hc₁
  · exact fun hgives => ⟨c, .refl, hgives⟩

theorem gives_iff_of_given?_eq_none (h : c.given? = none) :
    c.Gives n b ↔ ∃ c' ∈ c.inner, c'.Gives n b := by
  constructor
  · rintro ⟨c', hc', hnode, hgiven⟩
    rcases Relation.ReflTransGen.cases_head hc' with rfl | ⟨c₁, hc₁, hreaches⟩
    · rw [h] at hgiven
      cases hgiven
    · exact ⟨c₁, hc₁, c', hreaches, hnode, hgiven⟩
  · rintro ⟨c₁, hc₁, c', hreaches, hgiven⟩
    exact ⟨c', .head hc₁ hreaches, hgiven⟩

/-- A call counts its named arrivals. -/
theorem counts_outcome {k : Nat} (h : c.search.draft.Counts k) :
    c.outcome.1.2.draft.Counts (k + c.arrivals.countP Arrival.isNamed) := by
  have hvisit := c.search.visitsGrow c.node c.branch c.depth ⟨k, c.shoot⟩ h
  have hcounts := h.meetAll ((c.search.ahead c.node).encounters c.branch c.depth)
  rw [Unfolding.filterMap_arrival?_encounters, Search.ahead, Graph.arrivals_unfoldFrom] at hcounts
  rw [outcome, hvisit]
  exact hcounts

/-- The search that a call leaves comes to the same leaves as the one before. -/
theorem arrivalsFrom_outcome (c : Call) (b : Branch) :
    c.outcome.1.2.draft.graph.arrivalsFrom b c.outcome.1.2.path =
      c.search.draft.graph.arrivalsFrom b c.search.path := by
  rw [(lasting Draft.lasting_alike c).1.arrivalsFrom_eq, c.outcome.2.path_eq]

end Call

namespace Search

/-- The calls for several nodes come to what lies before these, in their order. -/
theorem arrivals_callsAll (s : Search) (ns : List NodeId) (b : Branch) (depth : Nat)
    (shoot : Shoot) :
    (s.callsAll ns b depth shoot).flatMap Call.arrivals =
      ns.flatMap (s.draft.graph.arrivalsFrom b s.path) := by
  induction ns generalizing s shoot with
  | nil => rfl
  | cons n ns ih =>
    rw [callsAll, List.flatMap_cons, List.flatMap_cons, ih]
    exact congrArg _ (congrArg (ns.flatMap ·)
      (Call.arrivalsFrom_outcome ⟨s, n, b, depth, shoot⟩ b))

/-- The calls for the branches of a switch come to what lies behind these, in their order. -/
theorem arrivals_callsArms (s : Search) (arms : List (Branch × NodeId)) (depth : Nat) :
    (s.callsArms arms depth).flatMap Call.arrivals =
      arms.flatMap fun a => s.draft.graph.arrivalsFrom a.1 s.path a.2 := by
  induction arms generalizing s with
  | nil => rfl
  | cons a arms ih =>
    obtain ⟨b, n⟩ := a
    rw [callsArms, List.flatMap_cons, List.flatMap_cons, ih]
    refine congrArg _ (List.flatMap_congr fun a _ => ?_)
    exact congrFun (Call.arrivalsFrom_outcome ⟨s, n, b, depth, .empty⟩ a.1) a.2

/-- What calls give that are made one after the other is what their arrivals give, if this is so for
each of them. -/
theorem Runs.gives_iff {s s' : Search} {depth : Nat} {cs : List Call} (h : s.Runs depth cs s')
    (hcs : ∀ c ∈ cs, ∀ k, c.search.draft.Counts k → ∀ n b,
      c.Gives n b ↔ (n, b) ∈ Arrival.bindingsFrom k c.arrivals)
    {k : Nat} (hk : s.draft.Counts k) (n : NodeId) (b : Biome) :
    (∃ c ∈ cs, c.Gives n b) ↔ (n, b) ∈ Arrival.bindingsFrom k (cs.flatMap Call.arrivals) := by
  induction h generalizing k with
  | nil s => simp [Arrival.bindingsFrom]
  | cons hdepth _ ih =>
    obtain ⟨hfirst, hrest⟩ := List.forall_mem_cons.mp hcs
    rw [List.exists_mem_cons_iff, hfirst k hk, ih hrest (Call.counts_outcome hk),
      List.flatMap_cons, Arrival.bindingsFrom_append, List.mem_append]

end Search

namespace Call

/-- What a call gives to its own leaf is what the arrival there gives. -/
theorem gives_iff_of_leaf {c : Call} (hn : c.node ∉ c.search.path) {o : Option Biome}
    (hv : c.search.draft.graph.node? c.node = some (.leaf o)) {k : Nat}
    (hk : c.search.draft.Counts k) (n : NodeId) (b : Biome) :
    c.Gives n b ↔ (n, b) ∈ Arrival.bindingsFrom k [⟨c.node, c.branch⟩] := by
  have hgiven : c.given? = (c.search.draft.bind c.node c.branch c.depth).1.map fun i =>
      ⟨i, c.branch.name, c.branch.colour⟩ := by
    rw [given?, Graph.enter?_of_not_mem hn, hv]
  rw [gives_iff_of_inner_eq_nil (inner_of_leaf hn hv), hgiven, Arrival.bindingsFrom_singleton,
    BiomeId.ofCount?, Arrival.isNamed]
  rcases hk.bind_cases c.node c.branch c.depth with ⟨hb, hd⟩ | ⟨hb, hlt, hd⟩ | ⟨hb, hle, hd⟩
  · simp [hd, hb]
  · simp [hd, hb, hlt, eq_comm]
  · simp [hd, hb, Nat.not_lt.mpr hle]

/-- **The calls of a search give what its arrivals give.** -/
theorem gives_iff (c : Call) : ∀ k, c.search.draft.Counts k → ∀ n b,
    c.Gives n b ↔ (n, b) ∈ Arrival.bindingsFrom k c.arrivals := by
  induction c using induct with
  | loop c hn =>
    intro k _ n b
    rw [gives_iff_of_inner_eq_nil (inner_of_mem hn), given?, Graph.enter?_of_mem hn, arrivals,
      Graph.arrivalsFrom_of_mem hn]
    simp [Arrival.bindingsFrom]
  | missing c hn hv =>
    intro k _ n b
    rw [gives_iff_of_inner_eq_nil (inner_of_none hn hv), given?, Graph.enter?_of_not_mem hn, hv,
      arrivals, Graph.arrivalsFrom_of_none hn hv]
    simp [Arrival.bindingsFrom]
  | leaf c hn o hv =>
    intro k hk n b
    rw [arrivals, Graph.arrivalsFrom_of_leaf hn hv]
    exact gives_iff_of_leaf hn hv hk n b
  | relay c hn ts hv ih =>
    intro k hk n b
    have hgiven : c.given? = none := by rw [given?, Graph.enter?_of_not_mem hn, hv]
    obtain ⟨s', hruns, -⟩ := runs_of_relay hn hv
    have hinner : c.inner.flatMap arrivals = c.arrivals := by
      rw [inner_of_relay hn hv, Search.arrivals_callsAll, arrivals,
        Graph.arrivalsFrom_of_relay hn hv]
      rfl
    rw [gives_iff_of_given?_eq_none hgiven, hruns.gives_iff ih hk, hinner]
  | switch c hn sw hv ih =>
    intro k hk n b
    have hgiven : c.given? = none := by rw [given?, Graph.enter?_of_not_mem hn, hv]
    obtain ⟨s', hruns, -⟩ := runs_of_switch hn hv
    have hinspect : ((c.search.enter c.node).inspect c.node sw).draft.Counts k := by
      show (c.search.draft.inspectAll c.node sw).counter.toNat = _
      rw [Draft.counter_inspectAll]
      exact hk
    have hgraph : ((c.search.enter c.node).inspect c.node sw).draft.graph =
        c.search.draft.graph := by
      show (c.search.draft.inspectAll c.node sw).graph = _
      rw [Draft.inspectAll_frame]
    have hinner : c.inner.flatMap arrivals = c.arrivals := by
      rw [inner_of_switch hn hv, Search.arrivals_callsArms, hgraph, arrivals,
        Graph.arrivalsFrom_of_switch hn hv]
      rfl
    rw [gives_iff_of_given?_eq_none hgiven, hruns.gives_iff ih hinspect, hinner]

end Call

/-! ### The build -/

namespace Graph

/-- A build from a root gives a biome to a node: one of its calls does. -/
def Gives (g : Graph) (root n : NodeId) (b : Biome) : Prop := (Call.first g root).Gives n b

theorem gives_iff {g : Graph} {root n : NodeId} {b : Biome} :
    g.Gives root n b ↔ b ∈ Arrival.given (g.arrivals root) n := by
  rw [Gives, Call.gives_iff (Call.first g root) 0 rfl, Arrival.mem_given_iff, Arrival.bindings_eq]
  rfl

end Graph

/-- What a build leaves of the graph: but for the biomes of leaves it is the same, and of these only
those are written that the calls of the build give. -/
structure Build.KeepsGraph (r : Build) (g : Graph) (root : NodeId) : Prop where
  size_eq : r.graph.size = g.size
  /-- Switches and relays are left as they are, and so is what is not there. -/
  node?_eq : ∀ n, (∀ o, g.node? n ≠ some (.leaf o)) → r.graph.node? n = g.node? n
  /-- A leaf stays a leaf. -/
  isLeaf : ∀ n o, g.node? n = some (.leaf o) → ∃ o', r.graph.node? n = some (.leaf o')
  /-- A leaf that was given biomes carries the one with the greatest number, which is in the
  table. -/
  of_gives : ∀ n, (∃ b, g.Gives root n b) → ∃ b, g.Gives root n b ∧
    r.graph.leafBiome? n = some b ∧ r.classifier.biome? b.id = some b ∧
      ∀ b', g.Gives root n b' → b'.id.index ≤ b.id.index
  /-- A leaf that was given none is left as it was. -/
  of_not_gives : ∀ n, (∀ b, ¬g.Gives root n b) → r.graph.leafBiome? n = g.leafBiome? n

/-- **A build changes nothing in the graph but the biomes of the leaves that it binds**, whatever the
graph, the root and the classifier before. -/
theorem Classifier.keepsGraph_build (c : Classifier) (g : Graph) (root : NodeId) :
    (c.build g root).KeepsGraph g root where
  size_eq := by
    rw [build]
    exact ((Search.start g).visit root .start 0 .empty).2.size_eq
  node?_eq n hn := by
    rw [node?_build]
    cases hv : g.node? n with
    | none => rfl
    | some v =>
      cases v with
      | leaf o => exact absurd hv (hn o)
      | switch s => rfl
      | relay ts => rfl
  isLeaf n o ho := by
    rw [node?_build, ho]
    exact ⟨_, rfl⟩
  of_gives n hgives := by
    simp only [Graph.gives_iff] at hgives ⊢
    obtain ⟨b', hb'⟩ := hgives
    obtain ⟨b, hb⟩ : ∃ b, (Arrival.given (g.arrivals root) n).getLast? = some b :=
      ⟨_, List.getLast?_eq_some_getLast (List.ne_nil_of_mem hb')⟩
    refine ⟨b, List.mem_of_getLast? hb, ?_, biome?_of_mem_given (List.mem_of_getLast? hb),
      fun _ h => Arrival.index_le_of_mem_given hb h⟩
    rw [leafBiome?_build, hb, Option.some_or]
  of_not_gives n hn := by
    have hnone : Arrival.given (g.arrivals root) n = [] :=
      List.eq_nil_iff_forall_not_mem.mpr fun b hb => hn b (Graph.gives_iff.mpr hb)
    rw [leafBiome?_build, hnone, List.getLast?_nil, Option.none_or]

end Biomes
