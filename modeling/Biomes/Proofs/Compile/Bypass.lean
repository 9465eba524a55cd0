import Biomes.Proofs.Compile.Names
import Biomes.Proofs.Compile.Totals
import Biomes.Proofs.Compile.Writes

/-!
# Relays with one target

A relay with a single target can be bypassed: everything that refers to the relay is made to refer
to the target (`Graph.bypass`).  A search then comes to the target without having the relay on its
path, so that loops are noticed at other nodes.  But whenever the relay is on the path, the target
either is there as well or is where the search comes to next (`NodeId.OnTrack`); so a reference to
the one leads to a loop exactly if a reference to the other does, and nothing else is lost
(`Unfolding.SeesThrough.unfoldFrom_bypass`).  The tree, the leaves that are reached and the shares
of the axes see neither such relays nor the nodes of loops, so that a build makes the same of both
graphs (`Classifier.build_bypass`).
-/

namespace Biomes

/-! ### Redirecting -/

/-- The switch that refers to other nodes. -/
def Switch.redirect (s : Switch) (f : NodeId → NodeId) : Switch :=
  match s with
  | .shore dry wet => .shore (dry.map f) (wet.map f)
  | .ranges axis parts => .ranges axis (parts.map fun r => { r with attached := r.attached.map f })

/-- The node that refers to other nodes. -/
def Node.redirect (v : Node) (f : NodeId → NodeId) : Node :=
  match v with
  | .switch s => .switch (s.redirect f)
  | .leaf b => .leaf b
  | .relay targets => .relay (targets.map f)

theorem Switch.branches_redirect (s : Switch) (f : NodeId → NodeId) :
    (s.redirect f).branches = s.branches.map fun a => (a.1, f a.2) := by
  cases s with
  | shore dry wet => simp [redirect, branches, outlets, Function.comp_def]
  | ranges axis parts =>
    rw [redirect, branches, branches, outlets, outlets, Array.toList_map, List.map_map,
      List.flatMap_map, List.flatMap_map, List.map_flatMap]
    exact List.flatMap_congr fun r _ => by simp [Function.comp_def]

/-- What a switch takes up does not depend on which nodes are attached to its outputs. -/
theorem Switch.shares_redirect (s : Switch) (f : NodeId → NodeId) (a : Axis) :
    (Node.switch (s.redirect f)).shares a = (Node.switch s).shares a := by
  have hshares : (s.redirect f).shares = s.shares := by
    cases s with
    | shore dry wet => simp [redirect, shares, List.filterMap_cons]
    | ranges axis parts => simp [redirect, shares, List.filterMap_map]
  have haxis : (s.redirect f).axis = s.axis := by cases s <;> rfl
  rw [Node.shares, Node.shares, hshares, haxis]

namespace NodeId

variable {relay target n : NodeId} {path : List NodeId}

/-- The target in the place of the relay. -/
def bypass (relay target n : NodeId) : NodeId := if n = relay then target else n

theorem bypass_self (relay target : NodeId) : relay.bypass target relay = target := if_pos rfl

theorem bypass_of_ne (h : n ≠ relay) : relay.bypass target n = n := if_neg h

/-- A search that has the relay on its path has the target there as well, or has just come to it. -/
def OnTrack (relay target : NodeId) (path : List NodeId) (n : NodeId) : Prop :=
  relay ∈ path → target ∈ path ∨ n = target

theorem onTrack_nil (relay target n : NodeId) : relay.OnTrack target [] n :=
  fun h => absurd h List.not_mem_nil

/-- Behind the relay the search comes to the target. -/
theorem onTrack_cons_self (relay target : NodeId) (path : List NodeId) :
    relay.OnTrack target (relay :: path) target :=
  fun _ => .inr rfl

/-- Behind any other node, what the search has just come to is on its path. -/
theorem OnTrack.cons (h : relay.OnTrack target path n) (hn : n ≠ relay) (t : NodeId) :
    relay.OnTrack target (n :: path) t := by
  intro hmem
  have hpath := (List.mem_cons.mp hmem).resolve_left (Ne.symm hn)
  exact .inl ((h hpath).elim (List.mem_cons_of_mem n) fun heq => heq ▸ List.mem_cons_self)

theorem mem_filter_ne_iff (hn : n ≠ relay) : n ∈ path.filter (· ≠ relay) ↔ n ∈ path := by
  simp [hn]

theorem cons_filter_ne (hn : n ≠ relay) :
    n :: path.filter (· ≠ relay) = (n :: path).filter (· ≠ relay) := by
  rw [List.filter_cons_of_pos (by simpa using hn)]

end NodeId

/-- The graph in which everything that refers to a relay refers to its target. -/
def Graph.bypass (g : Graph) (relay target : NodeId) : Graph :=
  ⟨g.nodes.map (·.redirect (relay.bypass target))⟩

theorem Graph.node?_bypass (g : Graph) (relay target n : NodeId) :
    (g.bypass relay target).node? n = (g.node? n).map (·.redirect (relay.bypass target)) :=
  Array.getElem?_map

/-! ### Readings of unfoldings -/

namespace Unfolding

/-- A reading of unfoldings that sees neither the nodes of loops nor relays with one target, and of
a switch only its shares and what is behind its branches. -/
structure SeesThrough {α : Type} (F : Unfolding → α) : Prop where
  loop_eq : ∀ m n, F (.loop m) = F (.loop n)
  relay_singleton : ∀ n u, F (.relay n [u]) = F u
  relay_congr : ∀ n us us', us.map F = us'.map F → F (.relay n us) = F (.relay n us')
  switch_congr : ∀ n s s' as as', (∀ a, (Node.switch s).shares a = (Node.switch s').shares a) →
    as.map (fun x => (x.1, F x.2)) = as'.map (fun x => (x.1, F x.2)) →
      F (.switch n s as) = F (.switch n s' as')

/-- The tree sees through relays. -/
theorem seesThrough_grow : SeesThrough fun u b w => u.grow b w where
  loop_eq m n := by
    funext b w
    rw [grow, grow]
  relay_singleton n u := by
    funext b w
    rw [grow]
    rfl
  relay_congr n us us' h := by
    funext b w
    have hfold : ∀ us : List Unfolding, us.foldl (fun w u => u.grow b w) w =
        (us.map fun u b w => u.grow b w).foldl (fun w f => f b w) w :=
      fun us => by rw [List.foldl_map]
    rw [grow, grow, hfold, hfold, h]
  switch_congr n s s' as as' _ h := by
    funext b w
    have hfold : ∀ as : List (Branch × Unfolding),
        as.foldl (fun w a => w.addArm a.1 (a.2.grow a.1 ⟨w.count, .empty⟩)) w =
          (as.map fun x => (x.1, fun b w => x.2.grow b w)).foldl
            (fun w x => w.addArm x.1 (x.2 x.1 ⟨w.count, .empty⟩)) w :=
      fun as => by rw [List.foldl_map]
    rw [grow, grow, hfold, hfold, h]

/-- So do the leaves that are reached. -/
theorem seesThrough_arrivals : SeesThrough fun u b => u.arrivals b where
  loop_eq m n := by
    funext b
    rw [arrivals, arrivals]
  relay_singleton n u := by
    funext b
    rw [arrivals, List.flatMap_singleton]
  relay_congr n us us' h := by
    funext b
    have hflat : ∀ us : List Unfolding, us.flatMap (fun u => u.arrivals b) =
        (us.map fun u b => u.arrivals b).flatMap fun f => f b :=
      fun us => by rw [List.flatMap_map]
    rw [arrivals, arrivals, hflat, hflat, h]
  switch_congr n s s' as as' _ h := by
    funext b
    have hflat : ∀ as : List (Branch × Unfolding), as.flatMap (fun x => x.2.arrivals x.1) =
        (as.map fun x => (x.1, fun b => x.2.arrivals b)).flatMap fun x => x.2 x.1 :=
      fun as => by rw [List.flatMap_map]
    rw [arrivals, arrivals, hflat, hflat, h]

/-- And so do the shares that are taken up. -/
theorem seesThrough_shares : SeesThrough fun u a => u.shares a where
  loop_eq m n := by
    funext a
    rw [shares, shares]
  relay_singleton n u := by
    funext a
    rw [shares, List.flatMap_singleton]
  relay_congr n us us' h := by
    funext a
    have hflat : ∀ us : List Unfolding, us.flatMap (fun u => u.shares a) =
        (us.map fun u a => u.shares a).flatMap fun f => f a :=
      fun us => by rw [List.flatMap_map]
    rw [shares, shares, hflat, hflat, h]
  switch_congr n s s' as as' hs h := by
    funext a
    have hflat : ∀ as : List (Branch × Unfolding), as.flatMap (fun x => x.2.shares a) =
        (as.map fun x => (x.1, fun a => x.2.shares a)).flatMap fun x => x.2 a :=
      fun as => by rw [List.flatMap_map]
    rw [shares, shares, hflat, hflat, h, hs]

/-- **What sees through relays sees no difference when one is bypassed**, as long as the search is on
track. -/
theorem SeesThrough.unfoldFrom_bypass {α : Type} {F : Unfolding → α} (hF : SeesThrough F)
    {g : Graph} {relay target : NodeId} (hrelay : g.node? relay = some (.relay #[target]))
    (hne : target ≠ relay) (path : List NodeId) (n : NodeId) (hpath : relay.OnTrack target path n) :
    F ((g.bypass relay target).unfoldFrom (path.filter (· ≠ relay)) (relay.bypass target n)) =
      F (g.unfoldFrom path n) := by
  have hother : ∀ {n : NodeId}, g.node? n ≠ some (.relay #[target]) → n ≠ relay :=
    fun h heq => h (heq ▸ hrelay)
  induction path, n using Graph.unfoldFrom.induct g with
  | case1 path n hn =>
    rw [Graph.unfoldFrom_of_mem hn]
    by_cases hnr : n = relay
    · -- Both searches notice a loop, one at the relay and the other at the target.
      have htarget : target ∈ path :=
        (hpath (hnr ▸ hn)).resolve_right fun heq => hne (heq.symm.trans hnr)
      rw [hnr, NodeId.bypass_self,
        Graph.unfoldFrom_of_mem ((NodeId.mem_filter_ne_iff hne).mpr htarget)]
      exact hF.loop_eq ..
    · rw [NodeId.bypass_of_ne hnr, Graph.unfoldFrom_of_mem ((NodeId.mem_filter_ne_iff hnr).mpr hn)]
  | case2 path n hn hv =>
    have hnr : n ≠ relay := hother (by simp [hv])
    have hv' : (g.bypass relay target).node? n = none := by
      rw [Graph.node?_bypass, hv, Option.map_none]
    rw [NodeId.bypass_of_ne hnr, Graph.unfoldFrom_of_none hn hv,
      Graph.unfoldFrom_of_none (mt (NodeId.mem_filter_ne_iff hnr).mp hn) hv']
  | case3 path n hn o hv =>
    have hnr : n ≠ relay := hother (by simp [hv])
    have hv' : (g.bypass relay target).node? n = some (.leaf o) := by
      rw [Graph.node?_bypass, hv]
      rfl
    rw [NodeId.bypass_of_ne hnr, Graph.unfoldFrom_of_leaf hn hv,
      Graph.unfoldFrom_of_leaf (mt (NodeId.mem_filter_ne_iff hnr).mp hn) hv']
  | case4 path n hn ts hv ih =>
    by_cases hnr : n = relay
    · -- The search enters the relay and comes to the target, which it has come to already without.
      subst hnr
      obtain rfl : ts = #[target] := by
        rw [hrelay] at hv
        exact (Node.relay.inj (Option.some.inj hv)).symm
      have htarget := ih target (NodeId.onTrack_cons_self n target path)
      rw [NodeId.bypass_of_ne hne, List.filter_cons_of_neg (by simp)] at htarget
      rw [NodeId.bypass_self, Graph.unfoldFrom_of_relay hn hv, htarget]
      exact (hF.relay_singleton ..).symm
    · have hv' : (g.bypass relay target).node? n = some (.relay (ts.map (relay.bypass target))) := by
        rw [Graph.node?_bypass, hv]
        rfl
      rw [NodeId.bypass_of_ne hnr, Graph.unfoldFrom_of_relay hn hv,
        Graph.unfoldFrom_of_relay (mt (NodeId.mem_filter_ne_iff hnr).mp hn) hv',
        NodeId.cons_filter_ne hnr]
      refine hF.relay_congr n _ _ ?_
      rw [Array.toList_map, List.map_map, List.map_map, List.map_map]
      exact List.map_congr_left fun t _ => ih t (hpath.cons hnr t)
  | case5 path n hn s hv ih =>
    have hnr : n ≠ relay := hother (by simp [hv])
    have hv' : (g.bypass relay target).node? n =
        some (.switch (s.redirect (relay.bypass target))) := by
      rw [Graph.node?_bypass, hv]
      rfl
    rw [NodeId.bypass_of_ne hnr, Graph.unfoldFrom_of_switch hn hv,
      Graph.unfoldFrom_of_switch (mt (NodeId.mem_filter_ne_iff hnr).mp hn) hv',
      NodeId.cons_filter_ne hnr]
    refine hF.switch_congr n _ _ _ _ (s.shares_redirect _) ?_
    rw [Switch.branches_redirect, List.map_map, List.map_map, List.map_map]
    exact List.map_congr_left fun x _ =>
      congrArg (Prod.mk x.1) (ih x.2 (hpath.cons hnr x.2))

end Unfolding

/-! ### The build -/

/-- What a build makes of a graph depends on the tree that grows in its unfolding, on the leaves that
are reached there, and on the shares that are taken up. -/
theorem Classifier.classifier_build_congr (c : Classifier) {g g' : Graph} {root root' : NodeId}
    (hgrow : ∀ b w, (g'.unfold root').grow b w = (g.unfold root).grow b w)
    (harrivals : g'.arrivals root' = g.arrivals root)
    (hshares : ∀ a, (g'.unfold root').shares a = (g.unfold root).shares a) :
    (c.build g' root').classifier = (c.build g root).classifier := by
  have htable : (g'.draft root').table = (g.draft root).table := by
    have h := (Draft.accounts_draft g' root').slots
    rw [harrivals, ← (Draft.accounts_draft g root).slots] at h
    exact congrArg BiomeTable.mk (Array.toList_inj.mp h)
  have hnames : (g'.draft root').names = (g.draft root).names := by
    rw [(Draft.Registers.draft g' root').names, (Draft.Registers.draft g root).names, harrivals]
  have hcoverage : (g'.draft root').coverage = (g.draft root).coverage := by
    refine PerAxis.ext_get fun a => ?_
    have htotal := hshares a
    rw [Graph.unfold, Graph.unfold, Graph.shares_unfoldFrom, Graph.shares_unfoldFrom] at htotal
    have h := c.get_coverage_build g' root' a
    rwa [htotal, ← c.get_coverage_build g root a, coverage_build_eq, coverage_build_eq] at h
  rw [build_eq, build_eq, finish, finish, Unfolding.tree, Unfolding.tree, hgrow, htable, hnames,
    hcoverage]

namespace Graph

variable {g : Graph} {relay target : NodeId}

theorem arrivals_bypass (hrelay : g.node? relay = some (.relay #[target])) (hne : target ≠ relay)
    (root : NodeId) :
    (g.bypass relay target).arrivals (relay.bypass target root) = g.arrivals root := by
  have h := congrFun (Unfolding.seesThrough_arrivals.unfoldFrom_bypass hrelay hne [] root
    (relay.onTrack_nil target root)) .start
  rwa [arrivals_unfoldFrom, arrivals_unfoldFrom] at h

end Graph

/-- **A relay with a single target makes no difference.**  If everything that refers to the relay is
made to refer to its target, and the build starts at the target if it would start at the relay, it
makes the same tree with the same tables and the same coverage, and gives the same biomes to the same
leaves, whatever else the graph is like. -/
theorem Classifier.build_bypass (c : Classifier) {g : Graph} {relay target : NodeId}
    (hrelay : g.node? relay = some (.relay #[target])) (hne : target ≠ relay) (root : NodeId) :
    (c.build (g.bypass relay target) (relay.bypass target root)).classifier =
        (c.build g root).classifier ∧
      (∀ n b, (g.bypass relay target).Gives (relay.bypass target root) n b ↔ g.Gives root n b) ∧
      ∀ n, (c.build (g.bypass relay target) (relay.bypass target root)).graph.leafBiome? n =
        (c.build g root).graph.leafBiome? n := by
  have hnil := relay.onTrack_nil target root
  have harrivals := Graph.arrivals_bypass hrelay hne root
  refine ⟨c.classifier_build_congr (fun b w => ?_) harrivals fun a => ?_, fun n b => ?_, fun n => ?_⟩
  · exact congrFun (congrFun
      (Unfolding.seesThrough_grow.unfoldFrom_bypass hrelay hne [] root hnil) b) w
  · exact congrFun (Unfolding.seesThrough_shares.unfoldFrom_bypass hrelay hne [] root hnil) a
  · rw [Graph.gives_iff, Graph.gives_iff, harrivals]
  · have hleaf : (g.bypass relay target).leafBiome? n = g.leafBiome? n := by
      rw [Graph.leafBiome?, Graph.leafBiome?, Graph.node?_bypass]
      cases g.node? n with
      | none => rfl
      | some v => cases v <;> rfl
    rw [leafBiome?_build, leafBiome?_build, harrivals, hleaf]

/-! ### A canal -/

namespace Graph

/-- A part of the heights of a canal. -/
def canalPart (name : String) (min max : Float32) (attached : NodeId) : SubRange :=
  { name, min, max, axisMin := 0, axisMax := 2, colour := .white, attached := #[attached] }

/-- A relay to a split by height, the lower part of which leads back to the relay. -/
def canal : Graph :=
  ⟨#[.relay #[.ofIndex 1],
    .switch (.ranges .height
      #[canalPart "Lock" 0 1 (.ofIndex 0), canalPart "Weir" 1 2 (.ofIndex 2)]),
    .leaf none]⟩

end Graph

/-- The relay of the canal can be bypassed, although the search comes back to it. -/
theorem Classifier.build_bypass_canal :
    Graph.canal.node? (.ofIndex 0) = some (.relay #[.ofIndex 1]) ∧
      NodeId.ofIndex 1 ≠ .ofIndex 0 ∧
      ((unbuilt defaultTolerance).build (Graph.canal.bypass (.ofIndex 0) (.ofIndex 1))
          (.ofIndex 1)).classifier =
        ((unbuilt defaultTolerance).build .canal (.ofIndex 0)).classifier := by
  have hrelay : Graph.canal.node? (.ofIndex 0) = some (.relay #[.ofIndex 1]) := rfl
  have hne : NodeId.ofIndex 1 ≠ .ofIndex 0 := by decide
  exact ⟨hrelay, hne, (build_bypass (unbuilt defaultTolerance) hrelay hne (.ofIndex 0)).1⟩

end Biomes
