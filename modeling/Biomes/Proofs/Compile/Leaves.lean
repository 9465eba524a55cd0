import Biomes.Proofs.Compile.Numbering

/-!
# What a build writes into the leaves

A build gives a leaf a biome for every arrival at it on a branch with a name, as long as there are
numbers (`Arrival.given`).  Each takes the place of the one before, so that in the end the leaf
carries the last, which is the one with the greatest number; a leaf that gets none keeps what it
carried before the build.

* `Graph.Carries.bind`: binding a leaf writes what its arrival gives;
* `Classifier.node?_build`: what is left of the graph after a build;
* `Classifier.biome?_of_mem_given`, `Arrival.index_le_of_mem_given`: what a leaf is given is in the
  table of the build, and the last of it has the greatest number.
-/

namespace Biomes

/-! ### The latest of some biomes -/

namespace Biome

/-- Biomes that stand in the order of their numbers. -/
def Ordered (bs : List Biome) : Prop := bs.Pairwise fun b b' => b.id.index < b'.id.index

/-- The last of biomes that stand in the order of their numbers is the one with the greatest. -/
theorem Ordered.getLast?_eq_some_iff {bs : List Biome} {b : Biome} (h : Ordered bs) :
    bs.getLast? = some b ↔ b ∈ bs ∧ ∀ b' ∈ bs, b'.id.index ≤ b.id.index := by
  rcases List.eq_nil_or_concat' bs with rfl | ⟨before, last, rfl⟩
  · simp
  · have hlt := (List.pairwise_append.mp h).2.2
    rw [List.getLast?_concat, Option.some.injEq]
    constructor
    · rintro rfl
      refine ⟨List.mem_concat_self, fun b' hb' => ?_⟩
      rcases List.mem_append.mp hb' with hb' | hb'
      · exact Nat.le_of_lt (hlt b' hb' last List.mem_cons_self)
      · exact Nat.le_of_eq (congrArg (·.id.index) (List.mem_singleton.mp hb'))
    · rintro ⟨hb, hmax⟩
      rcases List.mem_append.mp hb with hb | hb
      · -- An earlier one has a number less than that of the last.
        have hlast := hmax last List.mem_concat_self
        have := hlt b hb last List.mem_cons_self
        omega
      · exact (List.mem_singleton.mp hb).symm

end Biome

/-! ### What arrivals give to leaves -/

namespace Arrival

/-- The leaves of the arrivals that get a biome, each with this biome. -/
def bindings (l : List Arrival) : List (NodeId × Biome) :=
  (bound l).mapIdx fun k a => (a.leaf, ⟨.ofIndex k, a.branch.name, a.branch.colour⟩)

/-- The biomes that arrivals give to a leaf, in their order. -/
def given (l : List Arrival) (n : NodeId) : List Biome :=
  ((bindings l).filter fun x => x.1 = n).map Prod.snd

variable {l : List Arrival} {a : Arrival} {n : NodeId}

theorem map_snd_bindings (l : List Arrival) : (bindings l).map Prod.snd = biomes l := by
  refine List.ext_getElem? fun i => ?_
  rw [bindings, biomes_eq, List.getElem?_map, List.getElem?_mapIdx, List.getElem?_mapIdx,
    Option.map_map]
  rfl

theorem given_concat_of_unnamed (ha : a.isNamed = false) : given (l ++ [a]) n = given l n := by
  rw [given, bindings, bound_concat_of_unnamed ha, given, bindings]

/-- A leaf gets the next biome, while there are numbers. -/
theorem given_concat_of_lt (ha : a.isNamed = true) (hk : l.countP isNamed < BiomeId.capacity) :
    given (l ++ [a]) n = given l n ++
      if a.leaf = n then [⟨.ofIndex (l.countP isNamed), a.branch.name, a.branch.colour⟩]
      else [] := by
  rw [given, bindings, bound_concat_of_lt ha hk, List.mapIdx_concat, length_bound,
    Nat.min_eq_left (Nat.le_of_lt hk), List.filter_append, List.map_append, given, bindings]
  by_cases hn : a.leaf = n <;> simp [hn]

theorem given_concat_of_le (hk : BiomeId.capacity ≤ l.countP isNamed) :
    given (l ++ [a]) n = given l n := by
  rw [given, bindings, bound_concat_of_le hk, given, bindings]

/-- What a leaf is given is part of the biomes of all arrivals. -/
theorem given_sublist (l : List Arrival) (n : NodeId) : (given l n).Sublist (biomes l) := by
  rw [← map_snd_bindings]
  exact List.filter_sublist.map _

/-- A leaf that is given a biome has been arrived at. -/
theorem exists_of_mem_given {b : Biome} (h : b ∈ given l n) : ∃ a ∈ l, a.leaf = n := by
  rw [given, bindings] at h
  obtain ⟨x, hx, rfl⟩ := List.mem_map.mp h
  obtain ⟨hx, hn⟩ := List.mem_filter.mp hx
  obtain ⟨i, hi, rfl⟩ := List.mem_mapIdx.mp hx
  refine ⟨(bound l)[i], ?_, of_decide_eq_true hn⟩
  exact List.mem_of_mem_filter (List.mem_of_mem_take (List.getElem_mem hi))

theorem index_getElem_biomes {i : Nat} (hi : i < (biomes l).length) :
    (biomes l)[i].id.index = i := by
  have hlt : i < BiomeId.capacity := by
    rw [length_biomes] at hi
    omega
  simp only [biomes, List.getElem_mapIdx]
  exact BiomeId.index_ofIndex hlt

/-- The biomes of the arrivals stand in the order of their numbers. -/
theorem ordered_biomes (l : List Arrival) : Biome.Ordered (biomes l) := by
  rw [Biome.Ordered, List.pairwise_iff_getElem]
  intro i j hi hj hij
  rwa [index_getElem_biomes hi, index_getElem_biomes hj]

/-- The last of the biomes that a leaf is given has the greatest number. -/
theorem index_le_of_mem_given {b b' : Biome} (hlast : (given l n).getLast? = some b)
    (h : b' ∈ given l n) : b'.id.index ≤ b.id.index := by
  have hordered : Biome.Ordered (given l n) := (ordered_biomes l).sublist (given_sublist l n)
  exact (hordered.getLast?_eq_some_iff.mp hlast).2 b' h

end Arrival

/-! ### Writing -/

/-- A node into which a biome is written, if there is one.  Only a leaf takes it. -/
def Node.carrying (b : Option Biome) : Node → Node
  | .leaf o => .leaf (b.or o)
  | v => v

theorem Node.map_carrying_none (o : Option Node) : o.map (Node.carrying none) = o := by
  have hid : Node.carrying none = id := by
    funext v
    cases v <;> rfl
  rw [hid, Option.map_id, id]

/-- Of two biomes that are written the second counts. -/
theorem Node.carrying_carrying (b b' : Option Biome) (v : Node) :
    (v.carrying b).carrying b' = v.carrying (b'.or b) := by
  cases v with
  | leaf o => exact congrArg Node.leaf Option.or_assoc.symm
  | switch s => rfl
  | relay ts => rfl

namespace Graph

theorem node?_writeLeaf (g : Graph) (n m : NodeId) (b : Biome) :
    (g.writeLeaf n b).node? m = (g.node? m).map (Node.carrying (if n = m then some b else none)) := by
  by_cases hnm : n = m
  · rw [if_pos hnm, ← hnm, writeLeaf]
    cases hn : g.node? n with
    | none => exact hn
    | some v =>
      cases v with
      | leaf o =>
        dsimp only
        rw [node?_replace, if_pos ⟨rfl, index_lt_of_node? hn⟩]
        rfl
      | switch s => exact hn
      | relay ts => exact hn
  · rw [if_neg hnm, writeLeaf, Node.map_carrying_none]
    split
    · exact node?_replace_of_ne (Ne.symm hnm) _
    · rfl

/-- The graph is left of another when arrivals have been bound: every leaf carries the last biome
that it was given, or what it carried before if it was given none. -/
def Carries (g' g : Graph) (l : List Arrival) : Prop :=
  ∀ n, g'.node? n = (g.node? n).map (Node.carrying (Arrival.given l n).getLast?)

namespace Carries

variable {g : Graph} {d : Draft} {l : List Arrival}

theorem refl (g : Graph) : g.Carries g [] := fun n => (Node.map_carrying_none (g.node? n)).symm

theorem bind (h : d.graph.Carries g l) (hd : d.Counts (l.countP Arrival.isNamed)) (n : NodeId)
    (b : Branch) (depth : Nat) : (d.bind n b depth).2.graph.Carries g (l ++ [Arrival.mk n b]) := by
  intro m
  rcases hd.bind_cases n b depth with ⟨hb, hbind⟩ | ⟨hb, hk, hbind⟩ | ⟨hb, hk, hbind⟩
  · rw [hbind, Arrival.given_concat_of_unnamed (by simp [Arrival.isNamed, hb])]
    exact h m
  · rw [hbind, Draft.register, Draft.noteReuse_frame, node?_writeLeaf, h m, Option.map_map,
      Arrival.given_concat_of_lt (by simp [Arrival.isNamed, hb]) hk]
    congr 1
    funext v
    rw [Function.comp, Node.carrying_carrying, List.getLast?_append]
    by_cases hnm : n = m <;> simp [hnm]
  · rw [hbind, Arrival.given_concat_of_le hk]
    exact h m

theorem meet (h : d.graph.Carries g l) (hd : d.Accounts l) (e : Encounter) :
    (d.meet e).graph.Carries g (l ++ e.arrival?.toList) := by
  refine Draft.meet_cases (P := fun d l => d.graph.Carries g l) (fun _ _ => h) (fun _ _ => h)
    (h.bind hd.counts) (fun n s => ?_) e
  rwa [Draft.inspectAll_frame]

/-- At the end of a compilation every leaf carries what its arrivals gave it. -/
theorem draft (g : Graph) (root : NodeId) : (g.draft root).graph.Carries g (g.arrivals root) :=
  (g.draft_induction root (P := fun d l => d.Accounts l ∧ d.graph.Carries g l)
    ⟨.blank g, .refl g⟩ fun _ _ e h => ⟨h.1.meet e, h.2.meet h.1 e⟩).2

end Carries

/-- What a search arrives at are leaves of the graph. -/
theorem node?_of_mem_arrivalsFrom {g : Graph} {b : Branch} {path : List NodeId} {n : NodeId}
    {a : Arrival} (h : a ∈ g.arrivalsFrom b path n) : ∃ o, g.node? a.leaf = some (.leaf o) := by
  induction path, n using unfoldFrom.induct g generalizing b with
  | case1 path n hn => rw [arrivalsFrom_of_mem hn] at h; cases h
  | case2 path n hn hv => rw [arrivalsFrom_of_none hn hv] at h; cases h
  | case3 path n hn o hv =>
    rw [arrivalsFrom_of_leaf hn hv, List.mem_singleton] at h
    exact ⟨o, by rw [h, hv]⟩
  | case4 path n hn ts hv ih =>
    rw [arrivalsFrom_of_relay hn hv] at h
    obtain ⟨t, -, ht⟩ := List.mem_flatMap.mp h
    exact ih t ht
  | case5 path n hn s hv ih =>
    rw [arrivalsFrom_of_switch hn hv] at h
    obtain ⟨x, -, hx⟩ := List.mem_flatMap.mp h
    exact ih x.2 hx

end Graph

/-! ### The build -/

namespace Classifier

/-- **What a build leaves of the graph**: every leaf carries the last biome that it was given, or what
it carried before if it was given none; nothing else changes. -/
theorem node?_build (c : Classifier) (g : Graph) (root n : NodeId) :
    (c.build g root).graph.node? n =
      (g.node? n).map (Node.carrying (Arrival.given (g.arrivals root) n).getLast?) := by
  rw [build_eq]
  exact Graph.Carries.draft g root n

/-- A leaf carries the last biome that the build gave it, or what it carried before. -/
theorem leafBiome?_build (c : Classifier) (g : Graph) (root n : NodeId) :
    (c.build g root).graph.leafBiome? n =
      (Arrival.given (g.arrivals root) n).getLast?.or (g.leafBiome? n) := by
  rw [Graph.leafBiome?, node?_build]
  by_cases hleaf : ∃ o, g.node? n = some (.leaf o)
  · obtain ⟨o, ho⟩ := hleaf
    rw [Graph.leafBiome?, ho]
    rfl
  · -- Only leaves are arrived at, so that nothing else is given a biome.
    have hgiven : Arrival.given (g.arrivals root) n = [] := by
      refine List.eq_nil_iff_forall_not_mem.mpr fun b hb => hleaf ?_
      obtain ⟨a, ha, rfl⟩ := Arrival.exists_of_mem_given hb
      exact Graph.node?_of_mem_arrivalsFrom ha
    rw [hgiven, List.getLast?_nil, Option.none_or, Node.map_carrying_none, Graph.leafBiome?]

/-- A biome of a build is the one with its number. -/
theorem biome?_of_mem_biomes {c : Classifier} {g : Graph} {root : NodeId} {b : Biome}
    (h : b ∈ (c.build g root).classifier.biomes.toList) :
    (c.build g root).classifier.biome? b.id = some b := by
  rw [toList_biomes_build] at h
  obtain ⟨k, hk, rfl⟩ := List.mem_iff_getElem.mp h
  rw [biome?_build, Arrival.index_getElem_biomes hk, List.getElem?_eq_getElem hk]

/-- What a leaf is given is in the table of the build. -/
theorem biome?_of_mem_given {c : Classifier} {g : Graph} {root n : NodeId} {b : Biome}
    (h : b ∈ Arrival.given (g.arrivals root) n) :
    (c.build g root).classifier.biome? b.id = some b := by
  refine biome?_of_mem_biomes ?_
  rw [toList_biomes_build]
  exact (Arrival.given_sublist _ n).subset h

end Classifier

end Biomes
