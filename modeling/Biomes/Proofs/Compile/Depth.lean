import Biomes.Proofs.Compile.Growth
import Mathlib.Data.List.Nodup
import Mathlib.Data.List.Perm.Subperm
import Mathlib.Logic.Relation

/-!
# How deep a compilation goes

A visit that enters a node makes further visits.  `Call.inner` lists them, each with the search that
it starts from, so that the calls of a compilation are those that `Call.first` reaches
(`Call.Reaches`).

* `Call.runs_inner`: making the inner calls, one after the other, is what a call does;
* `Call.OnCourse.inner`, `Call.OnCourse.of_reaches`: throughout a compilation, the path of a call is
  a path of the graph and holds as many nodes as the depth of the call says;
* `Encounter.depth_le`: the findings note the depth of the call that they come from, so that none is
  deeper than the graph is large.
-/

namespace Biomes

/-! ### Paths -/

/-- The nodes are different, and all of them are in the graph. -/
structure Graph.IsPath (g : Graph) (path : List NodeId) : Prop where
  nodup : path.Nodup
  index_lt : ∀ n ∈ path, n.index < g.size

namespace Graph.IsPath

variable {g : Graph} {path : List NodeId}

theorem nil (g : Graph) : g.IsPath [] := ⟨List.nodup_nil, fun _ h => absurd h List.not_mem_nil⟩

/-- Entering a node of the graph that is not on a path makes the path longer. -/
theorem cons (h : g.IsPath path) {n : NodeId} (hn : n ∉ path) (hlt : n.index < g.size) :
    g.IsPath (n :: path) := by
  refine ⟨List.nodup_cons.mpr ⟨hn, h.nodup⟩, fun m hm => ?_⟩
  rcases List.mem_cons.mp hm with rfl | hm
  · exact hlt
  · exact h.index_lt m hm

/-- A path is no longer than the graph is large. -/
theorem length_le (h : g.IsPath path) : path.length ≤ g.size := by
  have hinj : Function.Injective NodeId.index := by
    intro m n h
    rw [← NodeId.ofIndex_index m, ← NodeId.ofIndex_index n, h]
  have hnodup : (path.map NodeId.index).Nodup := List.Nodup.map hinj h.nodup
  have hsub : path.map NodeId.index ⊆ List.range g.size := by
    intro i hi
    obtain ⟨n, hn, rfl⟩ := List.mem_map.mp hi
    exact List.mem_range.mpr (h.index_lt n hn)
  have hle := (hnodup.subperm hsub).length_le
  rwa [List.length_map, List.length_range] at hle

end Graph.IsPath

/-! ### Calls -/

/-- A call of a visit. -/
structure Call where
  search : Search
  node : NodeId
  branch : Branch
  depth : Nat
  shoot : Shoot

namespace Search

/-- The calls that are made for several nodes, one after the other. -/
def callsAll (s : Search) (ns : List NodeId) (b : Branch) (depth : Nat) (shoot : Shoot) :
    List Call :=
  match ns with
  | [] => []
  | n :: ns =>
    let r := s.visit n b depth shoot
    ⟨s, n, b, depth, shoot⟩ :: r.1.2.callsAll ns b depth r.1.1

/-- The calls that are made for the branches of a switch. -/
def callsArms (s : Search) (arms : List (Branch × NodeId)) (depth : Nat) : List Call :=
  match arms with
  | [] => []
  | (b, n) :: arms => ⟨s, n, b, depth, .empty⟩ :: (s.visit n b depth .empty).1.2.callsArms arms depth

end Search

namespace Call

/-- The call that a compilation starts with. -/
def first (g : Graph) (root : NodeId) : Call := ⟨.start g, root, .start, 0, .empty⟩

/-- What a call answers. -/
def outcome (c : Call) : c.search.Outcome := c.search.visit c.node c.branch c.depth c.shoot

/-- The calls that a call makes itself, in their order. -/
def inner (c : Call) : List Call :=
  if c.node ∈ c.search.path then []
  else
    match c.search.draft.graph.node? c.node with
    | some (.relay ts) =>
      (c.search.enter c.node).callsAll ts.toList c.branch (c.depth + 1) c.shoot
    | some (.switch sw) =>
      ((c.search.enter c.node).inspect c.node sw).callsArms sw.branches (c.depth + 1)
    | _ => []

/-- The call makes the other, directly or through further calls. -/
def Reaches : Call → Call → Prop := Relation.ReflTransGen fun c c' => c' ∈ c.inner

end Call

/-! ### One call after the other -/

/-- Making some calls of one depth, each from the search that the one before it left, leads from a
search to another. -/
inductive Search.Runs (depth : Nat) : Search → List Call → Search → Prop where
  | nil (s : Search) : Runs depth s [] s
  | cons {c : Call} {cs : List Call} {s' : Search} (hdepth : c.depth = depth)
    (h : Runs depth c.outcome.1.2 cs s') : Runs depth c.search (c :: cs) s'

namespace Search

theorem runs_callsAll (s : Search) (ns : List NodeId) (b : Branch) (depth : Nat) (shoot : Shoot) :
    s.Runs depth (s.callsAll ns b depth shoot) (s.visitAll ns b depth shoot).1.2 := by
  induction ns generalizing s shoot with
  | nil =>
    rw [visitAll_nil]
    exact .nil s
  | cons n ns ih =>
    rw [visitAll_cons]
    exact .cons (c := ⟨s, n, b, depth, shoot⟩) rfl (ih ..)

theorem runs_callsArms (s : Search) (arms : List (Branch × NodeId)) (depth : Nat) (shoot : Shoot) :
    s.Runs depth (s.callsArms arms depth) (s.visitArms arms depth shoot).1.2 := by
  induction arms generalizing s shoot with
  | nil =>
    rw [visitArms_nil]
    exact .nil s
  | cons a arms ih =>
    obtain ⟨b, n⟩ := a
    rw [visitArms_cons]
    exact .cons (c := ⟨s, n, b, depth, .empty⟩) rfl (ih ..)

/-- As every call comes back, each of them starts where the first one did. -/
theorem Runs.of_mem {s s' : Search} {depth : Nat} {cs : List Call} (h : s.Runs depth cs s')
    {c : Call} (hc : c ∈ cs) : s.Returns c.search ∧ c.depth = depth := by
  induction h with
  | nil s => cases hc
  | cons hdepth _ ih =>
    rename_i c₁ cs s' _
    rcases List.mem_cons.mp hc with rfl | hc
    · exact ⟨.refl _, hdepth⟩
    · obtain ⟨hreturns, hdepth'⟩ := ih hc
      exact ⟨c₁.outcome.2.trans hreturns, hdepth'⟩

end Search

namespace Call

/-- A call that makes others has entered its node, makes them one after the other, and takes the node
off the path again. -/
theorem runs_inner {c : Call} (h : c.inner ≠ []) :
    c.node ∉ c.search.path ∧ (∃ v, c.search.draft.graph.node? c.node = some v) ∧
      ∃ s s', (c.search.enter c.node).Returns s ∧ s.Runs (c.depth + 1) c.inner s' ∧
        c.outcome.1.2 = s'.leave c.node := by
  unfold inner outcome at *
  by_cases hn : c.node ∈ c.search.path
  · rw [if_pos hn] at h
    exact absurd rfl h
  · rw [if_neg hn] at h ⊢
    refine ⟨hn, ?_⟩
    split at h
    · rename_i ts hv
      refine ⟨⟨_, hv⟩, _, _, .refl _, Search.runs_callsAll .., ?_⟩
      rw [Search.visit_of_relay hn hv]
    · rename_i sw hv
      refine ⟨⟨_, hv⟩, _, _, .inspect .., Search.runs_callsArms _ _ _ c.shoot, ?_⟩
      rw [Search.visit_of_switch hn hv]
    · exact absurd rfl h

/-- A call that is made by another starts where the other has just entered its node. -/
theorem of_mem_inner {c c' : Call} (h : c' ∈ c.inner) :
    c.node ∉ c.search.path ∧ (∃ v, c.search.draft.graph.node? c.node = some v) ∧
      (c.search.enter c.node).Returns c'.search ∧ c'.depth = c.depth + 1 := by
  obtain ⟨hn, hv, s, s', hreturns, hruns, -⟩ := runs_inner (List.ne_nil_of_mem h)
  obtain ⟨hreturns', hdepth⟩ := hruns.of_mem h
  exact ⟨hn, hv, hreturns.trans hreturns', hdepth⟩

/-- No call makes calls without end. -/
theorem wellFounded_inner : WellFounded fun c' c : Call => c' ∈ c.inner := by
  refine Subrelation.wf (fun {c' c} h => ?_) (InvImage.wf (fun c : Call => c.search.unseen)
    Nat.lt_wfRel.wf)
  obtain ⟨hn, ⟨v, hv⟩, hreturns, -⟩ := of_mem_inner h
  show c'.search.unseen < c.search.unseen
  rw [hreturns.unseen_eq]
  exact Search.unseen_enter_lt hv hn

/-- All calls that a call reaches fit into a list. -/
theorem exists_calls (c : Call) : ∃ calls : List Call, ∀ c', c.Reaches c' → c' ∈ calls := by
  induction c using wellFounded_inner.induction with
  | h c ih =>
    choose! calls hcalls using ih
    refine ⟨c :: c.inner.flatMap calls, fun c' h => ?_⟩
    rcases Relation.ReflTransGen.cases_head h with rfl | ⟨c₁, hc₁, h₁⟩
    · exact List.mem_cons_self
    · exact List.mem_cons_of_mem _ (List.mem_flatMap.mpr ⟨c₁, hc₁, hcalls c₁ hc₁ c' h₁⟩)

/-! ### Calls on course -/

/-- A call is on a path of the graph that holds as many nodes as its depth says. -/
structure OnCourse (g : Graph) (c : Call) : Prop where
  isPath : g.IsPath c.search.path
  length_path : c.search.path.length = c.depth
  size_eq : c.search.draft.graph.size = g.size

namespace OnCourse

variable {g : Graph} {c c' : Call}

theorem first (g : Graph) (root : NodeId) : OnCourse g (Call.first g root) := ⟨.nil g, rfl, rfl⟩

/-- A call that is on course makes only such calls. -/
theorem inner (h : OnCourse g c) (hc : c' ∈ c.inner) : OnCourse g c' := by
  obtain ⟨hn, ⟨v, hv⟩, hreturns, hdepth⟩ := of_mem_inner hc
  have hpath : c'.search.path = c.node :: c.search.path := hreturns.path_eq
  have hlt : c.node.index < g.size := by
    rw [← h.size_eq]
    exact Graph.index_lt_of_node? hv
  refine ⟨?_, ?_, hreturns.size_eq.trans h.size_eq⟩
  · rw [hpath]
    exact h.isPath.cons hn hlt
  · rw [hpath, List.length_cons, h.length_path, hdepth]

/-- By induction on how the call is reached: all calls of a compilation are on course. -/
theorem of_reaches {root : NodeId} (h : Reaches (Call.first g root) c) : OnCourse g c := by
  induction h with
  | refl => exact .first g root
  | tail _ hc ih => exact ih.inner hc

end OnCourse

end Call

/-! ### The depths of findings -/

/-- The depth at which something other than a switch is met. -/
def Encounter.depth? : Encounter → Option Nat
  | .loop _ depth | .missing _ depth | .leaf _ _ depth => some depth
  | .switch _ _ => none

/-- The depth that a finding notes. -/
def Finding.depth? : Finding → Option Nat
  | .loopsBack _ depth | .missingNode _ depth | .unnamedLeaf _ depth => some depth
  | _ => none

/-- A record of a finding tells a depth only if the finding notes it. -/
theorem Finding.depth?_of_mem_fields {f : Finding} {k : Nat}
    (h : ("depth", .count k) ∈ f.record.fields) : f.depth? = some k := by
  cases f <;> simp_all [Finding.record, Finding.fields, Finding.depth?]

/-- Everything that is met below a path is met at a depth that the graph has room for. -/
theorem Encounter.depth_le {g : Graph} {path : List NodeId} {n : NodeId} {b : Branch}
    (hpath : g.IsPath path) {e : Encounter}
    (he : e ∈ (g.unfoldFrom path n).encounters b path.length) {k : Nat} (hk : e.depth? = some k) :
    k ≤ g.size := by
  -- The depth is the length of the path, which every entered node makes longer by one.
  induction path, n using Graph.unfoldFrom.induct g generalizing b with
  | case1 path n hn =>
    rw [Graph.unfoldFrom_of_mem hn, Unfolding.encounters, List.mem_singleton] at he
    obtain rfl : path.length = k := by simpa [he, Encounter.depth?] using hk
    exact hpath.length_le
  | case2 path n hn hv =>
    rw [Graph.unfoldFrom_of_none hn hv, Unfolding.encounters, List.mem_singleton] at he
    obtain rfl : path.length = k := by simpa [he, Encounter.depth?] using hk
    exact hpath.length_le
  | case3 path n hn o hv =>
    rw [Graph.unfoldFrom_of_leaf hn hv, Unfolding.encounters, List.mem_singleton] at he
    obtain rfl : path.length = k := by simpa [he, Encounter.depth?] using hk
    exact hpath.length_le
  | case4 path n hn ts hv ih =>
    have hcons := hpath.cons hn (Graph.index_lt_of_node? hv)
    rw [Graph.unfoldFrom_of_relay hn hv, Unfolding.encounters, List.mem_flatMap] at he
    obtain ⟨u, hu, he⟩ := he
    obtain ⟨t, -, rfl⟩ := List.mem_map.mp hu
    exact ih t hcons he
  | case5 path n hn s hv ih =>
    have hcons := hpath.cons hn (Graph.index_lt_of_node? hv)
    rw [Graph.unfoldFrom_of_switch hn hv, Unfolding.encounters] at he
    rcases List.mem_cons.mp he with rfl | he
    · cases hk
    · obtain ⟨a, ha, he⟩ := List.mem_flatMap.mp he
      obtain ⟨t, -, rfl⟩ := List.mem_map.mp ha
      exact ih t.2 hcons he

namespace Draft

/-- The depths that the findings note. -/
def depths (d : Draft) : List Nat := d.findings.toList.filterMap Finding.depth?

theorem depths_note (d : Draft) (f : Finding) :
    (d.note f).depths = d.depths ++ f.depth?.toList := by
  rw [depths, findings_note, List.filterMap_append]
  cases hf : f.depth? <;> simp [depths, hf]

/-- A depth that is noted after an encounter was noted before it, or is that of the encounter. -/
theorem mem_depths_meet {d : Draft} {e : Encounter} {k : Nat} (h : k ∈ (d.meet e).depths) :
    k ∈ d.depths ∨ e.depth? = some k := by
  have hnote : ∀ {f : Finding}, k ∈ (d.note f).depths → k ∈ d.depths ∨ f.depth? = some k := by
    intro f hf
    rw [depths_note, List.mem_append] at hf
    exact hf.imp id (by simp)
  cases e with
  | loop n depth => exact hnote h
  | missing n depth => exact hnote h
  | leaf n b depth =>
    change k ∈ (d.bind n b depth).2.depths at h
    unfold bind at h
    split at h
    · exact hnote h
    · split at h
      · exact (hnote h).imp id (by simp [Finding.depth?])
      · left
        rwa [depths, filterMap_findings_register (fun _ _ _ => rfl)] at h
  | switch n s =>
    left
    change k ∈ (d.inspectAll n s).depths at h
    rw [depths, filterMap_findings_inspectAll] at h
    · exact h
    · intro f hf
      cases f <;> first | rfl | cases hf

theorem mem_depths_meetAll {d : Draft} {es : List Encounter} {k : Nat}
    (h : k ∈ (d.meetAll es).depths) : k ∈ d.depths ∨ ∃ e ∈ es, e.depth? = some k := by
  induction es generalizing d with
  | nil => exact .inl h
  | cons e es ih =>
    rcases ih h with h | ⟨e', he', hk⟩
    · exact (mem_depths_meet h).imp id fun hk => ⟨e, List.mem_cons_self, hk⟩
    · exact .inr ⟨e', List.mem_cons_of_mem _ he', hk⟩

end Draft

/-- **Every compilation ends, in bounded depth.**  Whatever the graph and the root, no call makes
calls without end, and there are finitely many calls.  Each of them is made on a path of as many
nodes as its depth says, all different and in the graph, and leaves this path as it was; what it does
is to make its inner calls.  So no call, and no finding, is deeper than the graph is large. -/
theorem Classifier.build_depth_le (c : Classifier) (g : Graph) (root : NodeId) :
    c.build g root = c.finish ((Call.first g root).outcome.1.1.toTree .start)
        (Call.first g root).outcome.1.2.draft ∧
      (WellFounded fun call' call : Call => call' ∈ call.inner) ∧
      (∃ calls : List Call, ∀ call, (Call.first g root).Reaches call → call ∈ calls) ∧
      (∀ call, (Call.first g root).Reaches call →
        call.search.path.length = call.depth ∧ call.search.path.Nodup ∧
          (∀ n ∈ call.search.path, ∃ v, g.node? n = some v) ∧ call.depth ≤ g.size ∧
          call.outcome.1.2.path = call.search.path) ∧
      (∀ call : Call, call.inner = [] ∨ ∃ s s', (call.search.enter call.node).Returns s ∧
        s.Runs (call.depth + 1) call.inner s' ∧ call.outcome.1.2 = s'.leave call.node) ∧
      ∀ f ∈ (c.build g root).findings, ∀ k, ("depth", .count k) ∈ f.record.fields → k ≤ g.size := by
  refine ⟨rfl, Call.wellFounded_inner, Call.exists_calls _, fun call hcall => ?_, fun call => ?_, ?_⟩
  · have h := Call.OnCourse.of_reaches hcall
    refine ⟨h.length_path, h.isPath.nodup, fun n hn => ?_, ?_, call.outcome.2.path_eq⟩
    · have hlt := h.isPath.index_lt n hn
      cases hv : g.node? n with
      | none => exact absurd (Graph.node?_eq_none_iff.mp hv) (Nat.not_le.mpr hlt)
      | some v => exact ⟨v, rfl⟩
    · rw [← h.length_path]
      exact h.isPath.length_le
  · by_cases hinner : call.inner = []
    · exact .inl hinner
    · exact .inr (Call.runs_inner hinner).2.2
  · intro f hf k hfields
    have hnoted : k ∈ (c.build g root).findings.toList.filterMap Finding.depth? :=
      List.mem_filterMap.mpr ⟨f, hf.val, Finding.depth?_of_mem_fields hfields⟩
    rw [build_eq, filterMap_findings_finish (fun _ _ => rfl) (fun _ => rfl) (fun _ => rfl)] at hnoted
    rcases Draft.mem_depths_meetAll hnoted with h | ⟨e, he, hk⟩
    · cases h
    · exact Encounter.depth_le (.nil g) he hk

end Biomes
