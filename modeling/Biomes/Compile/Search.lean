import Biomes.Compile.Draft
import Biomes.DecisionTree
import Biomes.Graph.Path

/-!
# The search of a compilation

A compilation goes through the graph depth first.  The search keeps the path that it is on and the
draft; a node is put on the path before what lies behind it is visited, and taken off again
afterwards.  What a visit adds to the branch that led to the node is a shoot: the biome that ends
the branch, and the nodes that grow from it.  A switch is noted as a whole before anything behind it
is visited; relays add to the branch above them what their targets add, in order.

The graph may be of any form, so that the recursion is not on its structure.  It ends because every
visit comes back on the path that it started on (`Search.Returns`, which each result carries along),
so that with every call of a call there are fewer nodes that are not on the path.
-/

namespace Biomes

/-- What grows on one branch. -/
structure Shoot where
  biome : Option BiomeId
  children : Array DecisionTree
  deriving Inhabited

namespace Shoot

/-- Nothing has grown yet. -/
def empty : Shoot := ⟨none, #[]⟩

/-- The node at the end of a branch. -/
def toTree (s : Shoot) (b : Branch) : DecisionTree := .node b s.biome s.children.toList

/-- Ends the branch with a biome, if there is one. -/
def endWith (s : Shoot) (i : Option BiomeId) : Shoot := { s with biome := i.or s.biome }

/-- Adds a node. -/
def push (s : Shoot) (t : DecisionTree) : Shoot := { s with children := s.children.push t }

end Shoot

/-- A search under way. -/
structure Search where
  /-- The nodes between the root and the place that the search has come to, the latest first. -/
  path : List NodeId
  draft : Draft
  deriving Inhabited

namespace Search

/-- The search before its first visit. -/
def start (g : Graph) : Search := ⟨[], .blank g⟩

/-- How many nodes can still be entered. -/
def unseen (s : Search) : Nat := s.draft.graph.unseen s.path

/-- Puts a node on the path. -/
def enter (s : Search) (n : NodeId) : Search := { s with path := n :: s.path }

/-- Takes a node off the path. -/
def leave (s : Search) (n : NodeId) : Search := { s with path := s.path.erase n }

/-- Adds a finding. -/
def note (s : Search) (f : Finding) : Search := { s with draft := s.draft.note f }

/-- Notes all outputs of a switch. -/
def inspect (s : Search) (n : NodeId) (sw : Switch) : Search :=
  { s with draft := s.draft.inspectAll n sw }

/-! ### Coming back -/

/-- A search that has come back: it is on the same path as before, in a graph of the same size. -/
structure Returns (s s' : Search) : Prop where
  path_eq : s'.path = s.path
  size_eq : s'.draft.graph.size = s.draft.graph.size

namespace Returns

variable {s s' s'' : Search}

theorem refl (s : Search) : s.Returns s := ⟨rfl, rfl⟩

theorem trans (h : s.Returns s') (h' : s'.Returns s'') : s.Returns s'' :=
  ⟨h'.path_eq.trans h.path_eq, h'.size_eq.trans h.size_eq⟩

theorem note (s : Search) (f : Finding) : s.Returns (s.note f) := ⟨rfl, rfl⟩

theorem leave {n : NodeId} (h : (s.enter n).Returns s') : s.Returns (s'.leave n) := by
  refine ⟨?_, h.size_eq⟩
  rw [Search.leave, h.path_eq, enter, List.erase_cons_head]

/-- A search that has come back can enter as many nodes as before. -/
theorem unseen_eq (h : s.Returns s') : s'.unseen = s.unseen := by
  rw [unseen, h.path_eq, Graph.unseen_congr h.size_eq, unseen]

end Returns

/-- What a visit answers: the shoot, and the search that has come back. -/
abbrev Outcome (s : Search) := { r : Shoot × Search // s.Returns r.2 }

namespace Outcome

variable {s s' : Search}

/-- The answer to a visit, from a search that had gone on before. -/
def after (h : s.Returns s') (r : s'.Outcome) : s.Outcome := ⟨r.1, h.trans r.2⟩

/-- The answer to a visit that put a node on the path. -/
def leave (n : NodeId) (r : (s.enter n).Outcome) : s.Outcome :=
  ⟨(r.1.1, r.1.2.leave n), r.2.leave⟩

end Outcome

/-! ### Visits -/

/-- Binds the leaf that the search has come to. -/
def bindLeaf (s : Search) (n : NodeId) (b : Branch) (depth : Nat) (shoot : Shoot) : s.Outcome :=
  let r := s.draft.bind n b depth
  ⟨(shoot.endWith r.1, { s with draft := r.2 }), rfl, s.draft.size_graph_bind n b depth⟩

theorem Returns.inspect (s : Search) (n : NodeId) (sw : Switch) : s.Returns (s.inspect n sw) :=
  ⟨rfl, by rw [Search.inspect, Draft.inspectAll_frame]⟩

/-- Entering a node of the graph that is not on the path leaves fewer nodes to enter. -/
theorem unseen_enter_lt {s : Search} {n : NodeId} {v : Node} (hv : s.draft.graph.node? n = some v)
    (hn : n ∉ s.path) : (s.enter n).unseen < s.unseen :=
  Graph.unseen_cons_lt hv hn

mutual

/-- Visits a node, and adds what is met there to the branch that leads to it. -/
def visit (s : Search) (n : NodeId) (b : Branch) (depth : Nat) (shoot : Shoot) : s.Outcome :=
  if _hn : n ∈ s.path then ⟨(shoot, s.note (.loopsBack n depth)), .note ..⟩
  else
    match hv : s.draft.graph.node? n with
    | none => .leave n ⟨(shoot, (s.enter n).note (.missingNode n depth)), .note ..⟩
    | some (.leaf _) => .leave n ((s.enter n).bindLeaf n b depth shoot)
    | some (.relay targets) => .leave n ((s.enter n).visitAll targets.toList b (depth + 1) shoot)
    | some (.switch sw) =>
      .leave n <| .after (.inspect ..) <|
        ((s.enter n).inspect n sw).visitArms sw.branches (depth + 1) shoot
-- A visit makes no calls of its own rank: what it calls has entered a node.
termination_by (s.unseen, 0)
decreasing_by
  · exact Prod.Lex.left _ _ (unseen_enter_lt hv _hn)
  · rw [(Returns.inspect (s.enter n) n sw).unseen_eq]
    exact Prod.Lex.left _ _ (unseen_enter_lt hv _hn)

/-- Visits several nodes, one after the other, and adds what is met to the same branch. -/
def visitAll (s : Search) (targets : List NodeId) (b : Branch) (depth : Nat) (shoot : Shoot) :
    s.Outcome :=
  match targets with
  | [] => ⟨(shoot, s), .refl s⟩
  | n :: ns =>
    let r := s.visit n b depth shoot
    .after r.2 (r.1.2.visitAll ns b depth r.1.1)
termination_by (s.unseen, targets.length + 1)
decreasing_by
  · exact Prod.Lex.right _ (Nat.succ_pos _)
  · -- The visit has come back: what can be entered is the same, and the list is shorter.
    rw [r.2.unseen_eq]
    exact Prod.Lex.right _ (Nat.lt_succ_self _)

/-- Adds a node for each branch of a switch, with what is met behind it. -/
def visitArms (s : Search) (arms : List (Branch × NodeId)) (depth : Nat) (shoot : Shoot) :
    s.Outcome :=
  match arms with
  | [] => ⟨(shoot, s), .refl s⟩
  | (b, n) :: arms =>
    let r := s.visit n b depth .empty
    .after r.2 (r.1.2.visitArms arms depth (shoot.push (r.1.1.toTree b)))
termination_by (s.unseen, arms.length + 1)
decreasing_by
  · exact Prod.Lex.right _ (Nat.succ_pos _)
  · rw [r.2.unseen_eq]
    exact Prod.Lex.right _ (Nat.lt_succ_self _)

end

/-! ### The cases of a visit -/

section

variable {s : Search} {n : NodeId} {b : Branch} {depth : Nat} {shoot : Shoot}

theorem visit_of_mem (hn : n ∈ s.path) :
    (s.visit n b depth shoot).1 = (shoot, s.note (.loopsBack n depth)) := by
  rw [visit, dif_pos hn]

theorem visit_of_none (hn : n ∉ s.path) (hv : s.draft.graph.node? n = none) :
    (s.visit n b depth shoot).1 =
      (shoot, ((s.enter n).note (.missingNode n depth)).leave n) := by
  rw [visit, dif_neg hn]
  split <;> simp_all [Outcome.leave]

theorem visit_of_leaf (hn : n ∉ s.path) {o : Option Biome}
    (hv : s.draft.graph.node? n = some (.leaf o)) :
    (s.visit n b depth shoot).1 =
      (((s.enter n).bindLeaf n b depth shoot).1.1,
        ((s.enter n).bindLeaf n b depth shoot).1.2.leave n) := by
  rw [visit, dif_neg hn]
  split <;> simp_all [Outcome.leave]

theorem visit_of_relay (hn : n ∉ s.path) {ts : Array NodeId}
    (hv : s.draft.graph.node? n = some (.relay ts)) :
    (s.visit n b depth shoot).1 =
      (((s.enter n).visitAll ts.toList b (depth + 1) shoot).1.1,
        ((s.enter n).visitAll ts.toList b (depth + 1) shoot).1.2.leave n) := by
  rw [visit, dif_neg hn]
  split <;> simp_all [Outcome.leave]

theorem visit_of_switch (hn : n ∉ s.path) {sw : Switch}
    (hv : s.draft.graph.node? n = some (.switch sw)) :
    (s.visit n b depth shoot).1 =
      ((((s.enter n).inspect n sw).visitArms sw.branches (depth + 1) shoot).1.1,
        (((s.enter n).inspect n sw).visitArms sw.branches (depth + 1) shoot).1.2.leave n) := by
  rw [visit, dif_neg hn]
  split
  · simp_all
  · simp_all
  · simp_all
  · rename_i sw' hv'
    obtain rfl : sw = sw' := by simpa [hv] using hv'
    rfl

theorem visitAll_nil : (s.visitAll [] b depth shoot).1 = (shoot, s) := by
  rw [visitAll]

theorem visitAll_cons (ns : List NodeId) :
    (s.visitAll (n :: ns) b depth shoot).1 =
      ((s.visit n b depth shoot).1.2.visitAll ns b depth (s.visit n b depth shoot).1.1).1 := by
  rw [visitAll, Outcome.after]

theorem visitArms_nil : (s.visitArms [] depth shoot).1 = (shoot, s) := by
  rw [visitArms]

theorem visitArms_cons (arms : List (Branch × NodeId)) :
    (s.visitArms ((b, n) :: arms) depth shoot).1 =
      ((s.visit n b depth .empty).1.2.visitArms arms depth
        (shoot.push ((s.visit n b depth .empty).1.1.toTree b))).1 := by
  rw [visitArms, Outcome.after]

end

end Search

end Biomes
