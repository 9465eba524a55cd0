import Biomes.Proofs.Compile.Arms

/-!
# Branches that stay bare

A branch of a compiled tree stays bare if no biome ends it and nothing grows from it.  What is noted
while the target of the branch is visited (`Call.emitted`) names a cause of this, unless there is
nothing ahead at all: a target is hollow (`Unfolding.Hollow`) if it is a relay without targets, a
switch without outputs, or a relay to hollow targets only.  Branches to hollow targets stay bare
without a word (`Classifier.explains_build`).

* `Call.of_hollow`: in a hollow target nothing grows, and nothing is noted;
* `Call.exists_isCause`: if nothing grows in another target, then a cause is noted.
-/

namespace Biomes

/-! ### Causes -/

/-- Whether a finding names a cause for which nothing grows. -/
def Finding.isCause : Finding → Bool
  | .loopsBack .. | .missingNode .. | .unnamedLeaf .. | .idsExhausted .. | .idleShore ..
  | .idlePart .. => true
  | .nameReused .. | .emptySpan .. | .unevenCoverage .. | .built .. | .drawn .. => false

/-- Causes are reported to everyone who asks for details. -/
theorem Finding.verbosity_le_of_isCause {f : Finding} (h : f.isCause = true) :
    f.level.verbosity ≤ Level.debug.verbosity := by
  cases f <;> first | exact Nat.le_of_ble_eq_true rfl | cases h

namespace Draft

/-- A switch without branches is noted once for each of its outputs. -/
theorem findings_inspectAll_of_idle (d : Draft) (n : NodeId) {s : Switch} (h : s.branches = []) :
    ∃ fs : List Finding, (d.inspectAll n s).findings.toList = d.findings.toList ++ fs ∧
      fs.length = s.outlets.length ∧ ∀ f ∈ fs, f.isCause = true := by
  have hone : ∀ (d : Draft), ∀ o ∈ s.outlets.zipIdx, ∃ f : Finding, f.isCause = true ∧
      (d.inspect n s o.1 o.2).findings.toList = d.findings.toList ++ [f] := by
    intro d o ho
    have hidle := Switch.isEmpty_attached h (List.fst_mem_of_mem_zipIdx ho)
    unfold inspect
    rw [if_pos hidle]
    cases s with
    | shore dry wet => exact ⟨_, rfl, findings_note ..⟩
    | ranges axis parts => exact ⟨_, rfl, findings_note ..⟩
  rw [← s.outlets.length_zipIdx (i := 0), inspectAll]
  generalize s.outlets.zipIdx = os at hone
  induction os generalizing d with
  | nil => exact ⟨[], (List.append_nil _).symm, rfl, fun _ hf => absurd hf List.not_mem_nil⟩
  | cons o os ih =>
    obtain ⟨f, hcause, hf⟩ := hone d o List.mem_cons_self
    obtain ⟨fs, hfs, hlength, hcauses⟩ := ih (d.inspect n s o.1 o.2)
      fun d o' ho' => hone d o' (List.mem_cons_of_mem _ ho')
    refine ⟨f :: fs, ?_, congrArg (· + 1) hlength, List.forall_mem_cons.mpr ⟨hcause, hcauses⟩⟩
    rw [List.foldl_cons, hfs, hf, List.append_assoc]
    rfl

/-- A leaf that gets no biome is noted. -/
theorem exists_isCause_bind {d : Draft} {n : NodeId} {b : Branch} {depth : Nat}
    (h : (d.bind n b depth).1 = none) :
    ∃ f : Finding, f.isCause = true ∧ (d.bind n b depth).2 = d.note f := by
  unfold bind at h ⊢
  by_cases hname : b.name.isEmpty = true
  · rw [if_pos hname]
    exact ⟨_, rfl, rfl⟩
  · rw [if_neg hname] at h ⊢
    cases hi : BiomeId.ofCount? d.counter.toNat with
    | none => exact ⟨.idsExhausted n, rfl, rfl⟩
    | some i =>
      rw [hi] at h
      cases h

end Draft

/-! ### Nothing grows -/

/-- Ending a branch leaves it bare only if there is no biome to end it with. -/
theorem Shoot.endWith_eq_empty_iff {s : Shoot} {i : Option BiomeId} :
    s.endWith i = .empty ↔ i = none ∧ s = .empty := by
  obtain ⟨j, ts⟩ := s
  cases i <;> cases j <;> simp [endWith, empty]

namespace Search

/-- If nothing grows in several calls, then nothing grows in any of them. -/
theorem eq_empty_of_visitAll {s : Search} {ns : List NodeId} {b : Branch} {depth : Nat}
    {shoot : Shoot}
    (h : ∀ c ∈ s.callsAll ns b depth shoot, c.outcome.1.1 = .empty → c.shoot = .empty)
    (hbare : (s.visitAll ns b depth shoot).1.1 = .empty) :
    shoot = .empty ∧ ∀ c ∈ s.callsAll ns b depth shoot, c.outcome.1.1 = .empty := by
  induction ns generalizing s shoot with
  | nil =>
    rw [visitAll_nil] at hbare
    exact ⟨hbare, fun _ hc => absurd hc List.not_mem_nil⟩
  | cons n ns ih =>
    rw [callsAll] at h ⊢
    obtain ⟨hfirst, hrest⟩ := List.forall_mem_cons.mp h
    rw [visitAll_cons] at hbare
    obtain ⟨hshoot, hcalls⟩ := ih hrest hbare
    exact ⟨hfirst hshoot, List.forall_mem_cons.mpr ⟨hshoot, hcalls⟩⟩

/-- What each of several calls leaves as it is, all of them do. -/
theorem visitAll_eq_self {s : Search} {ns : List NodeId} {b : Branch} {depth : Nat} {shoot : Shoot}
    (h : ∀ c ∈ s.callsAll ns b depth shoot, c.outcome.1.1 = c.shoot) :
    (s.visitAll ns b depth shoot).1.1 = shoot := by
  induction ns generalizing s shoot with
  | nil => rw [visitAll_nil]
  | cons n ns ih =>
    rw [callsAll] at h
    obtain ⟨hfirst, hrest⟩ := List.forall_mem_cons.mp h
    rw [visitAll_cons, ih hrest]
    exact hfirst

/-- A node grows for each branch. -/
theorem eq_nil_of_visitArms {s : Search} {as : List (Branch × NodeId)} {depth : Nat} {shoot : Shoot}
    (hbare : (s.visitArms as depth shoot).1.1 = .empty) : as = [] ∧ shoot = .empty := by
  induction as generalizing s shoot with
  | nil =>
    rw [visitArms_nil] at hbare
    exact ⟨rfl, hbare⟩
  | cons a as ih =>
    obtain ⟨b, n⟩ := a
    rw [visitArms_cons] at hbare
    obtain ⟨-, hpush⟩ := ih hbare
    exact absurd (congrArg Shoot.children hpush) Array.push_ne_empty

theorem map_node_callsAll (s : Search) (ns : List NodeId) (b : Branch) (depth : Nat)
    (shoot : Shoot) : (s.callsAll ns b depth shoot).map Call.node = ns := by
  induction ns generalizing s shoot with
  | nil => rfl
  | cons n ns ih => rw [callsAll, List.map_cons, ih]

end Search

namespace Call

variable {c c' : Call}

/-- What grows is never taken away. -/
theorem shoot_eq_empty (h : c.outcome.1.1 = .empty) : c.shoot = .empty := by
  induction c using induct with
  | loop c hn =>
    rw [outcome, Search.visit_of_mem hn] at h
    exact h
  | missing c hn hv =>
    rw [outcome, Search.visit_of_none hn hv] at h
    exact h
  | leaf c hn o hv =>
    rw [outcome, Search.visit_of_leaf hn hv] at h
    exact (Shoot.endWith_eq_empty_iff.mp h).2
  | relay c hn ts hv ih =>
    rw [inner_of_relay hn hv] at ih
    rw [outcome, Search.visit_of_relay hn hv] at h
    exact (Search.eq_empty_of_visitAll ih h).1
  | switch c hn sw hv ih =>
    rw [outcome, Search.visit_of_switch hn hv] at h
    exact (Search.eq_nil_of_visitArms h).2

end Call

/-! ### Hollow targets -/

/-- Nothing is ahead: no leaf, no broken reference, and no output of a switch. -/
inductive Unfolding.Hollow : Unfolding → Prop where
  /-- A relay that passes on to hollow targets only, or to none. -/
  | relay {n : NodeId} {ts : List Unfolding} (h : ∀ t ∈ ts, Hollow t) : Hollow (.relay n ts)
  /-- A switch without outputs. -/
  | switch {n : NodeId} {s : Switch} {arms : List (Branch × Unfolding)} (h : s.outlets = []) :
    Hollow (.switch n s arms)

namespace Call

variable {c c' : Call}

/-- What is ahead of a call. -/
def ahead (c : Call) : Unfolding := c.search.ahead c.node

/-- What is ahead of a relay is ahead of the calls for its targets. -/
theorem ahead_of_relay (hn : c.node ∉ c.search.path) {ts : Array NodeId}
    (hv : c.search.draft.graph.node? c.node = some (.relay ts)) :
    c.ahead = .relay c.node (c.inner.map ahead) := by
  have hinner : ∀ c' ∈ c.inner,
      c'.ahead = c.search.draft.graph.unfoldFrom (c.node :: c.search.path) c'.node := by
    intro c' hc'
    have halike := ((lasting Draft.lasting_alike c).2 c' hc').1
    obtain ⟨-, -, hreturns, -⟩ := of_mem_inner hc'
    rw [ahead, Search.ahead, hreturns.path_eq, ← halike.unfoldFrom_eq]
    rfl
  have hnodes : c.inner.map node = ts.toList := by
    rw [inner_of_relay hn hv, Search.map_node_callsAll]
  rw [ahead, Search.ahead, Graph.unfoldFrom_of_relay hn hv, List.map_congr_left hinner, ← hnodes,
    List.map_map]
  rfl

/-- In a hollow target nothing grows, and nothing is noted. -/
theorem of_hollow (h : c.ahead.Hollow) : c.outcome.1.1 = c.shoot ∧ c.emitted = [] := by
  induction c using induct with
  | loop c hn =>
    rw [ahead, Search.ahead, Graph.unfoldFrom_of_mem hn] at h
    cases h
  | missing c hn hv =>
    rw [ahead, Search.ahead, Graph.unfoldFrom_of_none hn hv] at h
    cases h
  | leaf c hn o hv =>
    rw [ahead, Search.ahead, Graph.unfoldFrom_of_leaf hn hv] at h
    cases h
  | relay c hn ts hv ih =>
    rw [ahead_of_relay hn hv] at h
    cases h with
    | relay htargets =>
      have hinner := fun c' hc' => ih c' hc' (htargets _ (List.mem_map_of_mem hc'))
      refine ⟨?_, ?_⟩
      · rw [outcome, Search.visit_of_relay hn hv]
        rw [inner_of_relay hn hv] at hinner
        exact Search.visitAll_eq_self fun c' hc' => (hinner c' hc').1
      · rw [emitted_of_relay hn hv]
        exact List.flatMap_eq_nil_iff.mpr fun c' hc' => (hinner c' hc').2
  | switch c hn sw hv ih =>
    rw [ahead, Search.ahead, Graph.unfoldFrom_of_switch hn hv] at h
    cases h with
    | switch houtlets =>
      have hbranches : sw.branches = [] := by rw [Switch.branches, houtlets, List.flatMap_nil]
      refine ⟨?_, emitted_eq ?_⟩
      · rw [outcome, Search.visit_of_switch hn hv, hbranches, Search.visitArms_nil]
      · rw [findings_outcome_of_switch hn hv, inner_of_switch hn hv, hbranches, Draft.inspectAll,
          houtlets]
        rfl

/-- If nothing grows although the target is not hollow, then a cause is noted. -/
theorem exists_isCause (hbare : c.outcome.1.1 = .empty) (h : ¬c.ahead.Hollow) :
    ∃ f ∈ c.emitted, f.isCause = true := by
  induction c using induct with
  | loop c hn =>
    exact ⟨_, emitted_of_note (draft_of_mem hn) ▸ List.mem_singleton_self _, rfl⟩
  | missing c hn hv =>
    exact ⟨_, emitted_of_note (draft_of_none hn hv) ▸ List.mem_singleton_self _, rfl⟩
  | leaf c hn o hv =>
    -- The branch would end with the biome that the leaf gets, so that it gets none.
    rw [outcome, Search.visit_of_leaf hn hv] at hbare
    obtain ⟨f, hcause, hf⟩ :=
      Draft.exists_isCause_bind (Shoot.endWith_eq_empty_iff.mp hbare).1
    have hnote : c.outcome.1.2.draft = c.search.draft.note f := (draft_of_leaf hn hv).trans hf
    exact ⟨f, emitted_of_note hnote ▸ List.mem_singleton_self _, hcause⟩
  | relay c hn ts hv ih =>
    -- One of the targets is not hollow, and nothing grows there either.
    obtain ⟨c', hc', hfull⟩ : ∃ c' ∈ c.inner, ¬c'.ahead.Hollow := by
      by_contra hnone
      push Not at hnone
      rw [ahead_of_relay hn hv] at h
      exact h (.relay (List.forall_mem_map.mpr hnone))
    rw [outcome, Search.visit_of_relay hn hv] at hbare
    have hinner := (Search.eq_empty_of_visitAll (fun _ _ => shoot_eq_empty) hbare).2
    rw [← inner_of_relay hn hv] at hinner
    obtain ⟨f, hf, hcause⟩ := ih c' hc' (hinner c' hc') hfull
    rw [emitted_of_relay hn hv]
    exact ⟨f, List.mem_flatMap_of_mem hc' hf, hcause⟩
  | switch c hn sw hv ih =>
    -- The switch has outputs but no branches: nothing is attached to any of them.
    rw [ahead, Search.ahead, Graph.unfoldFrom_of_switch hn hv] at h
    have houtlets : sw.outlets ≠ [] := fun hnone => h (.switch hnone)
    rw [outcome, Search.visit_of_switch hn hv] at hbare
    have hbranches : sw.branches = [] := (Search.eq_nil_of_visitArms hbare).1
    obtain ⟨fs, hfs, hlength, hcauses⟩ :=
      c.search.draft.findings_inspectAll_of_idle c.node hbranches
    have hemitted : c.emitted = fs := by
      refine emitted_eq ?_
      rw [findings_outcome_of_switch hn hv, hfs, inner_of_switch hn hv, hbranches]
      exact List.append_nil _
    obtain ⟨f, hf⟩ := List.exists_mem_of_length_pos (hlength ▸ List.length_pos_of_ne_nil houtlets)
    exact ⟨f, hemitted ▸ hf, hcauses f hf⟩

end Call

/-! ### The build -/

/-- Whether no biome is at a node and no node is below it. -/
def DecisionTree.isBare (t : DecisionTree) : Bool := t.biome.isNone && t.children.isEmpty

theorem Call.isBare_toTree_iff {c : Call} : c.toTree.isBare = true ↔ c.outcome.1.1 = .empty := by
  rw [toTree]
  obtain ⟨i, ts⟩ := c.outcome.1.1
  simp [Shoot.toTree, DecisionTree.isBare, DecisionTree.biome, DecisionTree.children, Shoot.empty]

/-- What a build says about a branch of its tree, from the call that was made for the branch. -/
structure Build.Explains (r : Build) (g : Graph) (arm : Call) : Prop where
  /-- What is noted during the call stands next to each other in the findings. -/
  emitted_infix : arm.emitted <:+: r.findings.toList
  /-- If the branch leads to a hollow target, then it stays bare, and nothing is noted. -/
  hollow : (g.unfoldFrom arm.search.path arm.node).Hollow →
    arm.toTree.isBare = true ∧ arm.emitted = []
  /-- If it stays bare although it leads to another target, then a cause is noted, and reported to
  everyone who asks for details. -/
  bare : ¬(g.unfoldFrom arm.search.path arm.node).Hollow → arm.toTree.isBare = true →
    ∃ f ∈ arm.emitted, f.isCause = true ∧ f.level.verbosity ≤ Level.debug.verbosity

namespace Classifier

/-- What is noted about the whole build comes last, and names no causes. -/
theorem findings_finish (c : Classifier) (t : DecisionTree) (d : Draft) :
    ∃ fs : List Finding, (c.finish t d).findings.toList = d.findings.toList ++ fs ∧
      ∀ f ∈ fs, f.isCause = false := by
  refine ⟨(d.coverage.gaps c.tolerance).map (fun x => .unevenCoverage x.1 x.2) ++
    [.built d.table.toArray.size, .drawn t], by simp [finish], fun f hf => ?_⟩
  rcases List.mem_append.mp hf with hf | hf
  · obtain ⟨x, -, rfl⟩ := List.mem_map.mp hf
    rfl
  · rcases List.mem_cons.mp hf with rfl | hf
    · rfl
    · obtain rfl := List.mem_singleton.mp hf
      rfl

end Classifier

/-- **A build explains why branches stay bare**, unless they lead to hollow targets. -/
theorem Classifier.explains_build (c : Classifier) (g : Graph) (root : NodeId) :
    (c.build g root).classifier.tree.nodes =
        (c.build g root).classifier.tree :: (Call.first g root).arms.map Call.toTree ∧
      ∀ arm ∈ (Call.first g root).arms, (c.build g root).Explains g arm := by
  refine ⟨c.nodes_build g root, fun arm harm => ?_⟩
  obtain ⟨hreaches, hshoot⟩ := Call.of_mem_arms harm
  -- The graph that the call goes through differs in the biomes of leaves only.
  have halike : g.Alike arm.search.draft.graph :=
    (Call.lasting_of_reaches Draft.lasting_alike hreaches).1
  have hahead : g.unfoldFrom arm.search.path arm.node = arm.ahead :=
    halike.unfoldFrom_eq arm.search.path arm.node
  refine ⟨?_, fun hhollow => ?_, fun hfull hbare => ?_⟩
  · obtain ⟨fs, hfs, -⟩ := c.findings_finish ((Call.first g root).outcome.1.1.toTree .start)
      (Call.first g root).outcome.1.2.draft
    have hbuild : (c.build g root).findings.toList =
        (Call.first g root).outcome.1.2.draft.findings.toList ++ fs := hfs
    rw [hbuild]
    exact (Call.emitted_infix hreaches).trans (List.prefix_append ..).isInfix
  · rw [hahead] at hhollow
    obtain ⟨hkept, hemitted⟩ := Call.of_hollow hhollow
    exact ⟨Call.isBare_toTree_iff.mpr (hkept.trans hshoot), hemitted⟩
  · rw [hahead] at hfull
    obtain ⟨f, hf, hcause⟩ := Call.exists_isCause (Call.isBare_toTree_iff.mp hbare) hfull
    exact ⟨f, hf, hcause, Finding.verbosity_le_of_isCause hcause⟩

/-! ### A marsh -/

namespace Graph

/-- A switch with a relay to nothing on its dry side, and a leaf on the other. -/
def marsh : Graph :=
  ⟨#[.switch (.shore #[.ofIndex 1] #[.ofIndex 2]), .relay #[], .leaf none]⟩

theorem unfold_marsh : marsh.unfold (.ofIndex 0) =
    .switch (.ofIndex 0) (.shore #[.ofIndex 1] #[.ofIndex 2])
      [(⟨.flag .water false, "terrestrial", .black⟩, .relay (.ofIndex 1) []),
        (⟨.flag .water true, "aquatic", .pureBlue⟩, .leaf (.ofIndex 2))] := by
  have hnode : marsh.node? (.ofIndex 1) = some (.relay #[]) := rfl
  have hrelay : marsh.unfoldFrom [.ofIndex 0] (.ofIndex 1) = .relay (.ofIndex 1) [] :=
    unfoldFrom_of_relay (by decide) hnode
  have hleaf : marsh.unfoldFrom [.ofIndex 0] (.ofIndex 2) = .leaf (.ofIndex 2) :=
    unfoldFrom_of_leaf (by decide) (b := none) rfl
  rw [unfold, unfoldFrom_of_switch List.not_mem_nil
    (s := .shore #[.ofIndex 1] #[.ofIndex 2]) rfl, ← hrelay, ← hleaf]
  rfl

theorem findings_draft_marsh : (marsh.draft (.ofIndex 0)).findings = #[] := by
  rw [draft, unfold_marsh]
  simp only [Unfolding.encounters, List.flatMap_cons, List.flatMap_nil, List.append_nil,
    List.nil_append, Draft.meetAll, List.foldl_cons, List.foldl_nil, Draft.meet]
  rfl

end Graph

/-- In a marsh, dry land stays bare, and the findings name no cause. -/
theorem Classifier.not_isCause_marsh :
    (∃ t ∈ ((unbuilt defaultTolerance).build .marsh (.ofIndex 0)).classifier.tree.children,
      t.isBare = true) ∧
      ∀ f ∈ ((unbuilt defaultTolerance).build .marsh (.ofIndex 0)).findings,
        f.isCause = false := by
  rw [build_eq]
  refine ⟨⟨.node ⟨.flag .water false, "terrestrial", .black⟩ none [], ?_, rfl⟩, fun f hf => ?_⟩
  · show _ ∈ (Graph.unfold _ _).tree.children
    rw [Graph.unfold_marsh, Unfolding.tree]
    simp only [Unfolding.grow, List.foldl_cons, List.foldl_nil]
    exact List.mem_cons_self
  · obtain ⟨fs, hfs, hnone⟩ := (unbuilt defaultTolerance).findings_finish
      (Graph.unfold .marsh (.ofIndex 0)).tree (Graph.draft .marsh (.ofIndex 0))
    rw [Graph.findings_draft_marsh] at hfs
    rw [← Array.mem_toList_iff, hfs] at hf
    exact hnone f hf

end Biomes
