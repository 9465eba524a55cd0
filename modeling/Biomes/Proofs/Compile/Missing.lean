import Biomes.Proofs.Compile.Session
import Biomes.Proofs.Graph.Connections

/-!
# Builds that miss no node

A build warns of the references to nothing that it meets, and of nothing else in this way
(`Classifier.filterMap_missing?_build`).  In a graph without such references, a build from a node of
the graph meets none (`Graph.missing?_eq_none_of_mem_encounters`).  A session that adds nodes without
references and connects them leaves such a graph (`Session.wiredBy_run`), whatever the arguments of
its connections, so that no build in it warns of a missing node (`Session.connections_run`).
-/

namespace Biomes

/-! ### What a build misses -/

/-- The node that a finding says is missing, with the depth at which the reference was met. -/
def Finding.missing? : Finding → Option (NodeId × Nat)
  | .missingNode n depth => some (n, depth)
  | _ => none

/-- The node that is missing where a reference to nothing is met. -/
def Encounter.missing? : Encounter → Option (NodeId × Nat)
  | .missing n depth => some (n, depth)
  | _ => none

namespace Draft

/-- What is found to be missing is what is met as missing. -/
theorem filterMap_missing?_meet (d : Draft) (e : Encounter) :
    (d.meet e).findings.toList.filterMap Finding.missing? =
      d.findings.toList.filterMap Finding.missing? ++ e.missing?.toList := by
  cases e with
  | loop n depth => exact filterMap_findings_note ..
  | missing n depth => exact filterMap_findings_note ..
  | leaf n b depth =>
    show (d.bind n b depth).2.findings.toList.filterMap _ = _ ++ []
    unfold bind
    split
    · exact filterMap_findings_note ..
    · split
      · exact filterMap_findings_note ..
      · rw [List.append_nil]
        exact filterMap_findings_register (fun _ _ _ => rfl) d n _
  | switch n s =>
    show (d.inspectAll n s).findings.toList.filterMap _ = _ ++ []
    rw [List.append_nil]
    apply filterMap_findings_inspectAll
    intro f hf
    cases f <;> first | rfl | cases hf

theorem filterMap_missing?_meetAll (d : Draft) (es : List Encounter) :
    (d.meetAll es).findings.toList.filterMap Finding.missing? =
      d.findings.toList.filterMap Finding.missing? ++ es.filterMap Encounter.missing? := by
  induction es generalizing d with
  | nil => exact (List.append_nil _).symm
  | cons e es ih =>
    show ((d.meet e).meetAll es).findings.toList.filterMap _ = _
    rw [ih, filterMap_missing?_meet, List.append_assoc]
    -- The first encounter comes before the others in both lists, if it is read at all.
    cases h : e.missing? <;> simp [h]

end Draft

/-- A build warns of the references to nothing that it meets, in their order. -/
theorem Classifier.filterMap_missing?_build (c : Classifier) (g : Graph) (root : NodeId) :
    (c.build g root).findings.toList.filterMap Finding.missing? =
      ((g.unfold root).encounters .start 0).filterMap Encounter.missing? := by
  rw [build_eq, filterMap_findings_finish (fun _ _ => rfl) (fun _ => rfl) (fun _ => rfl),
    Graph.draft, Draft.filterMap_missing?_meetAll]
  rfl

namespace Graph

/-- All references lead to nodes of the graph. -/
def Intact (g : Graph) : Prop := ∀ n v, g.node? n = some v → ∀ m ∈ v.references, g.node? m ≠ none

/-- In a graph without references to nothing, no such reference is met below a node. -/
theorem missing?_eq_none_of_mem_encounters {g : Graph} (hg : g.Intact) {path : List NodeId}
    {n : NodeId} (hn : g.node? n ≠ none) {b : Branch} {depth : Nat} {e : Encounter}
    (he : e ∈ (g.unfoldFrom path n).encounters b depth) : e.missing? = none := by
  induction path, n using unfoldFrom.induct g generalizing b depth with
  | case1 path n hmem =>
    rw [unfoldFrom_of_mem hmem, Unfolding.encounters, List.mem_singleton] at he
    rw [he]
    rfl
  | case2 path n hmem hv => exact absurd hv hn
  | case3 path n hmem o hv =>
    rw [unfoldFrom_of_leaf hmem hv, Unfolding.encounters, List.mem_singleton] at he
    rw [he]
    rfl
  | case4 path n hmem ts hv ih =>
    rw [unfoldFrom_of_relay hmem hv, Unfolding.encounters, List.flatMap_map,
      List.mem_flatMap] at he
    obtain ⟨t, ht, he⟩ := he
    exact ih t (hg n _ hv t ht) he
  | case5 path n hmem s hv ih =>
    rw [unfoldFrom_of_switch hmem hv, Unfolding.encounters, List.flatMap_map, List.mem_cons,
      List.mem_flatMap] at he
    rcases he with rfl | ⟨a, ha, he⟩
    · rfl
    · -- The branches of a switch lead to the nodes that it refers to.
      have href : a.2 ∈ (Node.switch s).references := by
        show a.2 ∈ s.attached
        rw [← s.map_snd_branches]
        exact List.mem_map_of_mem ha
      exact ih a.2 (hg n _ hv a.2 href) he

end Graph

/-- A build of a graph without references to nothing, from one of its nodes, warns of none. -/
theorem Classifier.missingNode_not_mem_build (c : Classifier) {g : Graph} (hg : g.Intact)
    {root : NodeId} (hroot : g.node? root ≠ none) (n : NodeId) (depth : Nat) :
    .missingNode n depth ∉ (c.build g root).findings := by
  intro hmem
  have hread : (n, depth) ∈ (c.build g root).findings.toList.filterMap Finding.missing? :=
    List.mem_filterMap.mpr ⟨_, Array.mem_toList_iff.mpr hmem, rfl⟩
  rw [filterMap_missing?_build] at hread
  obtain ⟨e, he, hmissing⟩ := List.mem_filterMap.mp hread
  rw [Graph.missing?_eq_none_of_mem_encounters hg hroot he] at hmissing
  cases hmissing

/-! ### Sessions that wire a graph -/

/-- Whether an edit is one of those by which a graph is wired: it adds a node that refers to nothing
yet, or connects two nodes. -/
def Edit.isWiring : Edit → Bool
  | .add v => v.references.isEmpty
  | .connect .. => true
  | .replace .. | .build _ => false

namespace Session

/-- The connection that an edit makes in a session, if it does. -/
def made? (s : Session) : Edit → Option Connection
  | .connect source output target => s.graph.made? ⟨source, output, target⟩
  | _ => none

/-- The connections that some edits make in a session, in their order. -/
def made (s : Session) : List Edit → List Connection
  | [] => []
  | e :: es => (s.made? e).toList ++ (s.step e).made es

theorem wiredBy_step {s : Session} {cs : List Connection} (h : s.graph.WiredBy cs) {e : Edit}
    (he : e.isWiring = true) : (s.step e).graph.WiredBy (cs ++ (s.made? e).toList) := by
  cases e with
  | add v =>
    show (s.graph.add v).1.WiredBy (cs ++ [])
    rw [List.append_nil]
    exact h.add (List.isEmpty_iff.mp he)
  | connect source output target => exact h.connect ⟨source, output, target⟩
  | replace n v => cases he
  | build root => cases he

/-- Throughout a session that wires a graph, the graph is wired by the connections that were made. -/
theorem wiredBy_run {s : Session} {cs : List Connection} (h : s.graph.WiredBy cs) {es : List Edit}
    (hes : ∀ e ∈ es, e.isWiring = true) : (s.run es).graph.WiredBy (cs ++ s.made es) := by
  induction es generalizing s cs with
  | nil =>
    rw [made, List.append_nil]
    exact h
  | cons e es ih =>
    rw [made, ← List.append_assoc]
    show ((s.step e).run es).graph.WiredBy _
    apply ih
    · exact wiredBy_step h (hes e List.mem_cons_self)
    · intro e' he'
      exact hes e' (List.mem_cons_of_mem _ he')

/-- **Connections leave no reference dangling.**  After a session that adds nodes without references
and calls `connect` with any arguments, all references lead to nodes; each list holds the targets of
the connections that were made and addressed to it, in their order; a call that is refused changes
nothing and says why; and no build from a node of the graph warns of a missing node. -/
theorem connections_run (c : Classifier) {es : List Edit} (hes : ∀ e ∈ es, e.isWiring = true) :
    let g := ((Session.mk c .empty).run es).graph
    (∀ (i : Nat) (v : Node), g.nodes[i]? = some v → ∀ n ∈ v.references, g.node? n ≠ none) ∧
    (∀ (i : Nat) (v : Node), g.nodes[i]? = some v → ∀ k l, v.attachedAt? k = some l →
      l = (((Session.mk c .empty).made es).filter fun m => m.feeds i v k).map Connection.target) ∧
    (∀ source output target e, (g.connect source output target).2 = .error e →
      (g.connect source output target).1 = g) ∧
    (∀ source output target e, (g.connect source output target).2 = .error e ↔
      g.Refuses source output target e) ∧
    (∀ (c' : Classifier) root, g.node? root ≠ none →
      ∀ n depth, .missingNode n depth ∉ (c'.build g root).findings) := by
  intro g
  have hwired : g.WiredBy ((Session.mk c .empty).made es) := by
    have h := wiredBy_run (s := ⟨c, .empty⟩) Graph.WiredBy.empty hes
    rwa [List.nil_append] at h
  have hintact : ∀ (i : Nat) (v : Node), g.nodes[i]? = some v →
      ∀ n ∈ v.references, g.node? n ≠ none := by
    intro i v hv n hn
    rw [ne_eq, Graph.node?_eq_none_iff, Nat.not_le]
    exact hwired.index_lt hv hn
  refine ⟨hintact, hwired.attached_eq, ?_, fun _ _ _ _ => Graph.connect_eq_error_iff, ?_⟩
  · intro source output target e h
    rw [Graph.connect_eq_error_iff, ← Graph.wiringError?_eq_some_iff] at h
    rw [Graph.connect_of_some h]
  · intro c' root hroot
    exact c'.missingNode_not_mem_build (fun n v hv => hintact n.index v hv) hroot

/-- A switch, a relay and a leaf are placed.  Of five connections three are made; the others start
at a leaf, or at an output that the switch does not have. -/
def dock : List Edit :=
  [.add (.switch (.shore #[] #[])), .add (.relay #[]), .add (.leaf none),
    .connect (.ofIndex 0) 0 (.ofIndex 1), .connect (.ofIndex 2) 0 (.ofIndex 0),
    .connect (.ofIndex 1) 5 (.ofIndex 2), .connect (.ofIndex 0) 2 (.ofIndex 2),
    .connect (.ofIndex 1) 0 (.ofIndex 0)]

theorem connections_dock :
    (∀ e ∈ dock, e.isWiring = true) ∧
    (fresh.run dock).graph.nodes[1]? = some (.relay #[.ofIndex 2, .ofIndex 0]) ∧
    ([.ofIndex 2, .ofIndex 0] : List NodeId) =
      ((fresh.made dock).filter fun m => m.feeds 1 (.relay #[.ofIndex 2, .ofIndex 0]) 7).map
        Connection.target ∧
    (∀ n depth, .missingNode n depth ∉
      (fresh.classifier.build (fresh.run dock).graph (.ofIndex 0)).findings) := by
  have hes : ∀ e ∈ dock, e.isWiring = true := by decide
  have hrelay : (fresh.run dock).graph.nodes[1]? = some (.relay #[.ofIndex 2, .ofIndex 0]) := by
    decide
  obtain ⟨-, hattached, -, -, hmissing⟩ := connections_run fresh.classifier hes
  refine ⟨hes, hrelay, hattached 1 _ hrelay 7 _ rfl, hmissing fresh.classifier (.ofIndex 0) ?_⟩
  decide

end Session

end Biomes
