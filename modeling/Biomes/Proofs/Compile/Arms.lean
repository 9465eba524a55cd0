import Biomes.Proofs.Compile.Depth
import Biomes.Proofs.Compile.Numbering

/-!
# Which calls add nodes

A call of a visit is of one of five kinds, by what it comes to (`Call.induct`).  A call that comes
to a switch makes a call for each of its branches, and adds a node for what that call answers; no
other call adds a node of its own.  So the nodes of a compiled tree, but for the root, are the
answers of the calls for branches, in the order in which these are made (`Classifier.nodes_build`).

What a call does to the draft is to leave the graph alike and to add to the findings, so that the
findings that are noted while a call is under way stand next to each other in those of the build
(`Call.findings_outcome`, `Call.emitted_infix`).
-/

namespace Biomes

namespace Call

variable {c c' : Call}

/-! ### The kinds of calls -/

/-- A call that does not come to a relay or a switch makes no further calls. -/
theorem inner_of_mem (hn : c.node ∈ c.search.path) : c.inner = [] := by
  rw [inner, if_pos hn]

theorem inner_of_none (hn : c.node ∉ c.search.path)
    (hv : c.search.draft.graph.node? c.node = none) : c.inner = [] := by
  rw [inner, if_neg hn, hv]

theorem inner_of_leaf (hn : c.node ∉ c.search.path) {o : Option Biome}
    (hv : c.search.draft.graph.node? c.node = some (.leaf o)) : c.inner = [] := by
  rw [inner, if_neg hn, hv]

theorem inner_of_relay (hn : c.node ∉ c.search.path) {ts : Array NodeId}
    (hv : c.search.draft.graph.node? c.node = some (.relay ts)) :
    c.inner = (c.search.enter c.node).callsAll ts.toList c.branch (c.depth + 1) c.shoot := by
  rw [inner, if_neg hn, hv]

theorem inner_of_switch (hn : c.node ∉ c.search.path) {sw : Switch}
    (hv : c.search.draft.graph.node? c.node = some (.switch sw)) :
    c.inner = ((c.search.enter c.node).inspect c.node sw).callsArms sw.branches (c.depth + 1) := by
  rw [inner, if_neg hn, hv]

/-- Induction over the calls that a call makes, with a case for each kind of node that a call can
come to. -/
@[elab_as_elim]
theorem induct {P : Call → Prop} (loop : ∀ c, c.node ∈ c.search.path → P c)
    (missing : ∀ c, c.node ∉ c.search.path → c.search.draft.graph.node? c.node = none → P c)
    (leaf : ∀ c, c.node ∉ c.search.path →
      ∀ o, c.search.draft.graph.node? c.node = some (.leaf o) → P c)
    (relay : ∀ c, c.node ∉ c.search.path →
      ∀ ts, c.search.draft.graph.node? c.node = some (.relay ts) → (∀ c' ∈ c.inner, P c') → P c)
    (switch : ∀ c, c.node ∉ c.search.path →
      ∀ sw, c.search.draft.graph.node? c.node = some (.switch sw) → (∀ c' ∈ c.inner, P c') → P c)
    (c : Call) : P c := by
  induction c using wellFounded_inner.induction with
  | h c ih =>
    by_cases hn : c.node ∈ c.search.path
    · exact loop c hn
    · cases hv : c.search.draft.graph.node? c.node with
      | none => exact missing c hn hv
      | some v =>
        cases v with
        | leaf o => exact leaf c hn o hv
        | relay ts => exact relay c hn ts hv ih
        | switch sw => exact switch c hn sw hv ih

/-! ### What the kinds of calls do to the draft -/

theorem draft_of_mem (hn : c.node ∈ c.search.path) :
    c.outcome.1.2.draft = c.search.draft.note (.loopsBack c.node c.depth) := by
  rw [outcome, Search.visit_of_mem hn]
  rfl

theorem draft_of_none (hn : c.node ∉ c.search.path)
    (hv : c.search.draft.graph.node? c.node = none) :
    c.outcome.1.2.draft = c.search.draft.note (.missingNode c.node c.depth) := by
  rw [outcome, Search.visit_of_none hn hv]
  rfl

theorem draft_of_leaf (hn : c.node ∉ c.search.path) {o : Option Biome}
    (hv : c.search.draft.graph.node? c.node = some (.leaf o)) :
    c.outcome.1.2.draft = (c.search.draft.bind c.node c.branch c.depth).2 := by
  rw [outcome, Search.visit_of_leaf hn hv]
  rfl

/-- A relay leaves everything to the calls for its targets. -/
theorem runs_of_relay (hn : c.node ∉ c.search.path) {ts : Array NodeId}
    (hv : c.search.draft.graph.node? c.node = some (.relay ts)) :
    ∃ s', (c.search.enter c.node).Runs (c.depth + 1) c.inner s' ∧
      c.outcome.1.2.draft = s'.draft := by
  rw [inner_of_relay hn hv, outcome, Search.visit_of_relay hn hv]
  exact ⟨_, Search.runs_callsAll .., rfl⟩

/-- A switch notes its outputs before the calls for its branches. -/
theorem runs_of_switch (hn : c.node ∉ c.search.path) {sw : Switch}
    (hv : c.search.draft.graph.node? c.node = some (.switch sw)) :
    ∃ s', ((c.search.enter c.node).inspect c.node sw).Runs (c.depth + 1) c.inner s' ∧
      c.outcome.1.2.draft = s'.draft := by
  rw [inner_of_switch hn hv, outcome, Search.visit_of_switch hn hv]
  exact ⟨_, Search.runs_callsArms _ _ _ c.shoot, rfl⟩

end Call

/-! ### The nodes -/

/-- Nothing is attached to a switch that has no branches. -/
theorem Switch.isEmpty_attached {s : Switch} (h : s.branches = []) {o : Outlet}
    (ho : o ∈ s.outlets) : o.attached.isEmpty = true := by
  have hnone := List.flatMap_eq_nil_iff.mp h o ho
  exact List.isEmpty_iff.mpr (List.map_eq_nil_iff.mp hnone)

/-- The calls for branches start from nothing. -/
theorem Search.shoot_of_mem_callsArms {s : Search} {as : List (Branch × NodeId)} {depth : Nat}
    {c : Call} (h : c ∈ s.callsArms as depth) : c.shoot = .empty := by
  induction as generalizing s with
  | nil => cases h
  | cons a as ih =>
    rcases List.mem_cons.mp h with rfl | h
    · rfl
    · exact ih h

namespace Call

variable {c c' : Call}

/-- Whether a call comes to a switch. -/
def entersSwitch (c : Call) : Bool :=
  match c.search.draft.graph.node? c.node with
  | some (.switch _) => true
  | _ => false

/-- The calls for branches of switches among those that a call leads to, in their order. -/
def arms (c : Call) : List Call :=
  c.inner.attach.flatMap fun c' => (if c.entersSwitch then [c'.val] else []) ++ c'.val.arms
termination_by c.search.unseen
decreasing_by
  obtain ⟨hn, ⟨v, hv⟩, hreturns, -⟩ := of_mem_inner c'.property
  rw [hreturns.unseen_eq]
  exact Search.unseen_enter_lt hv hn

theorem arms_eq (c : Call) :
    c.arms = c.inner.flatMap fun c' => (if c.entersSwitch then [c'] else []) ++ c'.arms := by
  conv_rhs => rw [← List.attach_map_subtype_val c.inner, List.flatMap_map]
  rw [arms]

theorem arms_of_relay {ts : Array NodeId}
    (hv : c.search.draft.graph.node? c.node = some (.relay ts)) :
    c.arms = c.inner.flatMap arms := by
  rw [arms_eq, entersSwitch, hv]
  rfl

theorem arms_of_switch {sw : Switch}
    (hv : c.search.draft.graph.node? c.node = some (.switch sw)) :
    c.arms = c.inner.flatMap fun c' => c' :: c'.arms := by
  rw [arms_eq, entersSwitch, hv]
  rfl

theorem arms_of_inner (h : c.inner = []) : c.arms = [] := by
  rw [arms_eq, h]
  rfl

/-- The calls for branches are made by the call that leads to them, and start from nothing. -/
theorem of_mem_arms (h : c' ∈ c.arms) : c.Reaches c' ∧ c'.shoot = .empty := by
  induction c using induct with
  | loop c hn =>
    rw [arms_of_inner (inner_of_mem hn)] at h
    cases h
  | missing c hn hv =>
    rw [arms_of_inner (inner_of_none hn hv)] at h
    cases h
  | leaf c hn o hv =>
    rw [arms_of_inner (inner_of_leaf hn hv)] at h
    cases h
  | relay c hn ts hv ih =>
    rw [arms_of_relay hv] at h
    obtain ⟨c₁, hc₁, h⟩ := List.mem_flatMap.mp h
    obtain ⟨hreaches, hshoot⟩ := ih c₁ hc₁ h
    exact ⟨.head hc₁ hreaches, hshoot⟩
  | switch c hn sw hv ih =>
    rw [arms_of_switch hv] at h
    obtain ⟨c₁, hc₁, h⟩ := List.mem_flatMap.mp h
    rcases List.mem_cons.mp h with rfl | h
    · refine ⟨.single hc₁, ?_⟩
      rw [inner_of_switch hn hv] at hc₁
      exact Search.shoot_of_mem_callsArms hc₁
    · obtain ⟨hreaches, hshoot⟩ := ih c₁ hc₁ h
      exact ⟨.head hc₁ hreaches, hshoot⟩

/-- The node that is added for what a call answers. -/
def toTree (c : Call) : DecisionTree := c.outcome.1.1.toTree c.branch

end Call

namespace Search

open DecisionTree

/-- The calls for several nodes add nodes one after the other. -/
theorem nodesAll_visitAll {s : Search} {ns : List NodeId} {b : Branch} {depth : Nat} {shoot : Shoot}
    (h : ∀ c ∈ s.callsAll ns b depth shoot, nodesAll c.outcome.1.1.children.toList =
      nodesAll c.shoot.children.toList ++ c.arms.map Call.toTree) :
    nodesAll (s.visitAll ns b depth shoot).1.1.children.toList =
      nodesAll shoot.children.toList ++
        (s.callsAll ns b depth shoot).flatMap fun c => c.arms.map Call.toTree := by
  induction ns generalizing s shoot with
  | nil =>
    rw [visitAll_nil, callsAll, List.flatMap_nil, List.append_nil]
  | cons n ns ih =>
    rw [callsAll] at h ⊢
    obtain ⟨hfirst, hrest⟩ := List.forall_mem_cons.mp h
    rw [visitAll_cons, ih hrest, List.flatMap_cons, ← List.append_assoc]
    exact congrArg (· ++ _) hfirst

/-- The calls for the branches of a switch add a node each, with what is below it. -/
theorem nodesAll_visitArms {s : Search} {as : List (Branch × NodeId)} {depth : Nat} {shoot : Shoot}
    (h : ∀ c ∈ s.callsArms as depth, nodesAll c.outcome.1.1.children.toList =
      nodesAll c.shoot.children.toList ++ c.arms.map Call.toTree) :
    nodesAll (s.visitArms as depth shoot).1.1.children.toList =
      nodesAll shoot.children.toList ++
        (s.callsArms as depth).flatMap fun c => (c :: c.arms).map Call.toTree := by
  induction as generalizing s shoot with
  | nil =>
    rw [visitArms_nil, callsArms, List.flatMap_nil, List.append_nil]
  | cons a as ih =>
    obtain ⟨b, n⟩ := a
    rw [callsArms] at h ⊢
    obtain ⟨hfirst, hrest⟩ := List.forall_mem_cons.mp h
    rw [visitArms_cons, ih hrest, List.flatMap_cons, ← List.append_assoc]
    congr 1
    -- The node that is pushed comes before the nodes below it.
    rw [Shoot.push, Array.toList_push, nodesAll_append]
    congr 1
    rw [nodesAll, nodesAll, List.append_nil, List.map_cons]
    show nodes (Shoot.toTree _ b) = _
    rw [Shoot.toTree, nodes]
    exact congrArg (List.cons _) hfirst

end Search

namespace Call

open DecisionTree

/-- What a call adds to the nodes of a shoot are the answers of the calls for branches. -/
theorem nodesAll_outcome (c : Call) :
    nodesAll c.outcome.1.1.children.toList =
      nodesAll c.shoot.children.toList ++ c.arms.map toTree := by
  induction c using induct with
  | loop c hn =>
    rw [arms_of_inner (inner_of_mem hn), outcome, Search.visit_of_mem hn]
    exact (List.append_nil _).symm
  | missing c hn hv =>
    rw [arms_of_inner (inner_of_none hn hv), outcome, Search.visit_of_none hn hv]
    exact (List.append_nil _).symm
  | leaf c hn o hv =>
    rw [arms_of_inner (inner_of_leaf hn hv), outcome, Search.visit_of_leaf hn hv]
    exact (List.append_nil _).symm
  | relay c hn ts hv ih =>
    rw [inner_of_relay hn hv] at ih
    rw [arms_of_relay hv, inner_of_relay hn hv, outcome, Search.visit_of_relay hn hv,
      List.map_flatMap]
    exact Search.nodesAll_visitAll ih
  | switch c hn sw hv ih =>
    rw [inner_of_switch hn hv] at ih
    rw [arms_of_switch hv, inner_of_switch hn hv, outcome, Search.visit_of_switch hn hv,
      List.map_flatMap]
    exact Search.nodesAll_visitArms ih

end Call

/-- **The nodes of a compiled tree are the answers of the calls for branches**, but for the root. -/
theorem Classifier.nodes_build (c : Classifier) (g : Graph) (root : NodeId) :
    (c.build g root).classifier.tree.nodes =
      (c.build g root).classifier.tree :: (Call.first g root).arms.map Call.toTree := by
  have htree : (c.build g root).classifier.tree = (Call.first g root).toTree := rfl
  rw [htree, Call.toTree, Shoot.toTree, DecisionTree.nodes, Call.nodesAll_outcome]
  rfl

/-! ### What becomes of the draft -/

/-- A relation between drafts that every encounter keeps up. -/
structure Draft.Lasting (R : Draft → Draft → Prop) : Prop where
  refl : ∀ d, R d d
  trans : ∀ {d d' d''}, R d d' → R d' d'' → R d d''
  meet : ∀ d e, R d (d.meet e)

section

variable {R : Draft → Draft → Prop}

/-- Calls that are made one after the other keep it up, if each of them does. -/
theorem Search.Runs.lasting (hrefl : ∀ d, R d d)
    (htrans : ∀ {d d' d''}, R d d' → R d' d'' → R d d'')
    {depth : Nat} {s s' : Search} {cs : List Call} (h : s.Runs depth cs s')
    (hcs : ∀ c ∈ cs, R c.search.draft c.outcome.1.2.draft) :
    R s.draft s'.draft ∧
      ∀ c ∈ cs, R s.draft c.search.draft ∧ R c.outcome.1.2.draft s'.draft := by
  induction h with
  | nil s => exact ⟨hrefl _, fun _ hc => absurd hc List.not_mem_nil⟩
  | cons hdepth _ ih =>
    obtain ⟨hfirst, hcs⟩ := List.forall_mem_cons.mp hcs
    obtain ⟨hrest, hbetween⟩ := ih hcs
    refine ⟨htrans hfirst hrest, fun c hc => ?_⟩
    rcases List.mem_cons.mp hc with rfl | hc
    · exact ⟨hrefl _, hrest⟩
    · obtain ⟨hbefore, hafter⟩ := hbetween c hc
      exact ⟨htrans hfirst hbefore, hafter⟩

namespace Call

/-- A call keeps it up, and so do the parts of the call before and after each call that it makes. -/
theorem lasting (hR : Draft.Lasting R) (c : Call) :
    R c.search.draft c.outcome.1.2.draft ∧ ∀ c' ∈ c.inner,
      R c.search.draft c'.search.draft ∧ R c'.outcome.1.2.draft c.outcome.1.2.draft := by
  have hnone : ∀ {c : Call}, c.inner = [] → ∀ c' ∈ c.inner,
      R c.search.draft c'.search.draft ∧ R c'.outcome.1.2.draft c.outcome.1.2.draft := by
    intro c hinner c' hc'
    rw [hinner] at hc'
    cases hc'
  induction c using induct with
  | loop c hn =>
    refine ⟨?_, hnone (inner_of_mem hn)⟩
    rw [draft_of_mem hn]
    exact hR.meet _ (.loop c.node c.depth)
  | missing c hn hv =>
    refine ⟨?_, hnone (inner_of_none hn hv)⟩
    rw [draft_of_none hn hv]
    exact hR.meet _ (.missing c.node c.depth)
  | leaf c hn o hv =>
    refine ⟨?_, hnone (inner_of_leaf hn hv)⟩
    rw [draft_of_leaf hn hv]
    exact hR.meet _ (.leaf c.node c.branch c.depth)
  | relay c hn ts hv ih =>
    obtain ⟨s', hruns, hdraft⟩ := runs_of_relay hn hv
    rw [hdraft]
    exact hruns.lasting hR.refl hR.trans fun c' hc' => (ih c' hc').1
  | switch c hn sw hv ih =>
    obtain ⟨s', hruns, hdraft⟩ := runs_of_switch hn hv
    rw [hdraft]
    have hswitch := hR.meet c.search.draft (.switch c.node sw)
    obtain ⟨hrest, hbetween⟩ := hruns.lasting hR.refl hR.trans fun c' hc' => (ih c' hc').1
    refine ⟨hR.trans hswitch hrest, fun c' hc' => ?_⟩
    obtain ⟨hbefore, hafter⟩ := hbetween c' hc'
    exact ⟨hR.trans hswitch hbefore, hafter⟩

/-- So do the parts before and after every call that a call leads to. -/
theorem lasting_of_reaches (hR : Draft.Lasting R) {c c' : Call} (h : c.Reaches c') :
    R c.search.draft c'.search.draft ∧ R c'.outcome.1.2.draft c.outcome.1.2.draft := by
  induction h with
  | refl => exact ⟨hR.refl _, hR.refl _⟩
  | tail _ hc ih =>
    obtain ⟨hbefore, hafter⟩ := (lasting hR _).2 _ hc
    exact ⟨hR.trans ih.1 hbefore, hR.trans hafter ih.2⟩

end Call

end

/-- The graph stays alike. -/
theorem Draft.lasting_alike : Draft.Lasting fun d d' => d.graph.Alike d'.graph where
  refl d := .refl d.graph
  trans h h' := h.trans h'
  meet := alike_meet

theorem Draft.findings_prefix_note (d : Draft) (f : Finding) :
    d.findings.toList <+: (d.note f).findings.toList := by
  rw [findings_note]
  exact List.prefix_append ..

theorem Draft.findings_prefix_bind (d : Draft) (n : NodeId) (b : Branch) (depth : Nat) :
    d.findings.toList <+: (d.bind n b depth).2.findings.toList := by
  unfold bind
  split
  · exact d.findings_prefix_note _
  · split
    · exact d.findings_prefix_note _
    · -- A name that is used again is noted as well.
      unfold register
      cases d.names.get? b.name with
      | none => exact List.prefix_rfl
      | some i => exact Draft.findings_prefix_note _ _

/-- Findings are added at the end. -/
theorem Draft.lasting_findings :
    Draft.Lasting fun d d' => d.findings.toList <+: d'.findings.toList where
  refl d := List.prefix_rfl
  trans h h' := h.trans h'
  meet d e := by
    cases e with
    | loop n depth => exact d.findings_prefix_note _
    | missing n depth => exact d.findings_prefix_note _
    | leaf n b depth => exact d.findings_prefix_bind n b depth
    | switch n s =>
      obtain ⟨fs, hfs, -⟩ := d.findings_inspectAll n s
      show _ <+: (d.inspectAll n s).findings.toList
      rw [hfs]
      exact List.prefix_append ..

/-! ### What is noted on the way -/

namespace Call

variable {c c' : Call}

/-- The findings that are noted while a call is under way. -/
def emitted (c : Call) : List Finding :=
  c.outcome.1.2.draft.findings.toList.drop c.search.draft.findings.size

theorem findings_outcome (c : Call) :
    c.outcome.1.2.draft.findings.toList = c.search.draft.findings.toList ++ c.emitted := by
  have hprefix := (lasting Draft.lasting_findings c).1
  rw [emitted, ← Array.length_toList]
  exact (List.prefix_iff_eq_append.mp hprefix).symm

theorem emitted_eq {fs : List Finding}
    (h : c.outcome.1.2.draft.findings.toList = c.search.draft.findings.toList ++ fs) :
    c.emitted = fs :=
  List.append_cancel_left (c.findings_outcome.symm.trans h)

theorem emitted_of_note {f : Finding} (h : c.outcome.1.2.draft = c.search.draft.note f) :
    c.emitted = [f] := by
  refine emitted_eq ?_
  rw [h, Draft.findings_note]

/-- They stand next to each other in what is noted in all. -/
theorem emitted_infix (h : c.Reaches c') :
    c'.emitted <:+: c.outcome.1.2.draft.findings.toList := by
  obtain ⟨fs, hfs⟩ := (lasting_of_reaches Draft.lasting_findings h).2
  rw [findings_outcome] at hfs
  exact ⟨_, fs, hfs⟩

end Call

/-- What is noted during several calls is noted during one of them after the other. -/
theorem Search.Runs.findings {s s' : Search} {depth : Nat} {cs : List Call}
    (h : s.Runs depth cs s') :
    s'.draft.findings.toList = s.draft.findings.toList ++ cs.flatMap Call.emitted := by
  induction h with
  | nil s => exact (List.append_nil _).symm
  | cons _ _ ih => rw [ih, Call.findings_outcome, List.append_assoc, List.flatMap_cons]

namespace Call

variable {c c' : Call}

theorem emitted_of_relay (hn : c.node ∉ c.search.path) {ts : Array NodeId}
    (hv : c.search.draft.graph.node? c.node = some (.relay ts)) :
    c.emitted = c.inner.flatMap emitted := by
  obtain ⟨s', hruns, hdraft⟩ := runs_of_relay hn hv
  refine emitted_eq ?_
  rw [hdraft]
  exact hruns.findings

theorem findings_outcome_of_switch (hn : c.node ∉ c.search.path) {sw : Switch}
    (hv : c.search.draft.graph.node? c.node = some (.switch sw)) :
    c.outcome.1.2.draft.findings.toList =
      (c.search.draft.inspectAll c.node sw).findings.toList ++ c.inner.flatMap emitted := by
  obtain ⟨s', hruns, hdraft⟩ := runs_of_switch hn hv
  rw [hdraft]
  exact hruns.findings

end Call

end Biomes
