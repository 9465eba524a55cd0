import Biomes.Proofs.Compile.Missing
import Mathlib

/-!
# Numbers of added nodes

Nodes are numbered in the order in which they are added.  Through a whole session the numbers that
are handed out are those of the positions `0`, `1`, `2`, …, whatever else is edited in between
(`Session.numbers_run`).  The positions do not change hands: where nodes are only added and
connected, each position holds the node that was added there, with the targets of the connections
that were made from it (`Session.grownFrom_run`).

A number has 32 bits, though, and an addition does not ask whether there is one left.  So a number is
fresh and leads to its node as long as there are fewer than `2 ^ 32` nodes; any further addition
hands out a number for a second time, and this leads to an earlier node
(`Session.addsFresh_run_iff`).
-/

namespace Biomes

/-! ### Numbers and positions -/

theorem NodeId.index_ofIndex (i : Nat) : (ofIndex i).index = i % 2 ^ 32 :=
  UInt32.toNat_ofNat'

theorem NodeId.index_ofIndex_of_lt {i : Nat} (h : i < 2 ^ 32) : (ofIndex i).index = i := by
  rw [index_ofIndex, Nat.mod_eq_of_lt h]

namespace Graph

variable {g : Graph} {v : Node}

/-- The numbers of the nodes, in the order of their positions.  Positions that are `2 ^ 32` apart
have the same number. -/
def numbers (g : Graph) : List NodeId := (List.range g.size).map .ofIndex

/-- The numbers of the nodes are those that lead to a node. -/
theorem mem_numbers_iff {n : NodeId} : n ∈ g.numbers ↔ n.index < g.size := by
  rw [numbers, List.mem_map]
  constructor
  · rintro ⟨i, hi, rfl⟩
    rw [NodeId.index_ofIndex]
    exact Nat.lt_of_le_of_lt (Nat.mod_le i _) (List.mem_range.mp hi)
  · intro hn
    exact ⟨n.index, List.mem_range.mpr hn, n.ofIndex_index⟩

theorem eq_ofIndex_of_getElem?_numbers {k : Nat} {n : NodeId} (h : g.numbers[k]? = some n) :
    n = .ofIndex k := by
  rw [numbers, List.getElem?_map, Option.map_eq_some_iff] at h
  obtain ⟨i, hi, rfl⟩ := h
  obtain ⟨_, rfl⟩ := List.getElem?_eq_some_iff.mp hi
  rw [List.getElem_range]

/-! ### Additions -/

theorem size_add (g : Graph) (v : Node) : (g.add v).1.size = g.size + 1 :=
  Array.size_push v

theorem numbers_add (g : Graph) (v : Node) : (g.add v).1.numbers = g.numbers ++ [(g.add v).2] := by
  rw [numbers, size_add, List.range_succ, List.map_append]
  rfl

/-- What was found before an addition is found after it. -/
theorem node?_add_of_lt {n : NodeId} (hn : n.index < g.size) (v : Node) :
    (g.add v).1.node? n = g.node? n := by
  have hne : n.index ≠ g.nodes.size := Nat.ne_of_lt hn
  rw [add, node?, Array.getElem?_push, if_neg hne, node?]

/-- An addition to a graph for which some numbers were handed out hands out another, by which the
node is found; the others lead where they led before. -/
structure AddsFresh (g : Graph) (v : Node) (handed : List NodeId) : Prop where
  not_mem : (g.add v).2 ∉ handed
  index_eq : (g.add v).2.index = g.size
  node?_eq : (g.add v).1.node? (g.add v).2 = some v
  kept : ∀ n ∈ handed, (g.add v).1.node? n = g.node? n

/-- An addition is fresh if there is a number left for it, and only then. -/
theorem addsFresh_numbers_iff : g.AddsFresh v g.numbers ↔ g.size < 2 ^ 32 := by
  constructor
  · intro h
    rw [← h.index_eq]
    exact UInt32.toNat_lt _
  · intro hsize
    have hindex : (g.add v).2.index = g.size := NodeId.index_ofIndex_of_lt hsize
    refine ⟨?_, hindex, ?_, ?_⟩
    · rw [mem_numbers_iff, hindex]
      exact Nat.lt_irrefl _
    · rw [node?, hindex]
      exact Array.getElem?_push_size
    · intro n hn
      exact node?_add_of_lt (mem_numbers_iff.mp hn) v

/-- If there is none left, a number is handed out again, and it leads to an earlier node. -/
theorem add_of_le (hsize : 2 ^ 32 ≤ g.size) (v : Node) :
    (g.add v).2 ∈ g.numbers ∧ (g.add v).1.node? (g.add v).2 = g.node? (g.add v).2 := by
  have hindex : (g.add v).2.index < g.size := Nat.lt_of_lt_of_le (UInt32.toNat_lt _) hsize
  exact ⟨mem_numbers_iff.mpr hindex, node?_add_of_lt hindex v⟩

end Graph

/-! ### Growing graphs -/

/-- A node after the targets of some connections were attached to it, one after the other. -/
def Node.attachAll (v : Node) (cs : List Connection) : Node :=
  cs.foldl (fun v c => v.attach c.output c.target) v

theorem Node.attachAll_append (v : Node) (cs cs' : List Connection) :
    v.attachAll (cs ++ cs') = (v.attachAll cs).attachAll cs' :=
  List.foldl_append

namespace Graph

theorem size_connect (g : Graph) (source : NodeId) (output : Nat) (target : NodeId) :
    (g.connect source output target).1.size = g.size := by
  unfold connect
  split
  · rfl
  · exact Array.size_modify

/-- A connection is made from a node of the graph. -/
theorem source_lt_of_made? {g : Graph} {c c' : Connection} (h : g.made? c = some c') :
    c'.source.index < g.size := by
  unfold made? at h
  cases herror : g.wiringError? c.source c.output c.target with
  | some e =>
    rw [connect_of_some herror] at h
    cases h
  | none =>
    obtain ⟨-, v, -, hv, -⟩ := wiringError?_eq_none_iff.mp herror
    rw [connect_of_none herror] at h
    cases h
    exact index_lt_of_node? hv

/-- A connection that is made attaches its target to its source; all other nodes stay as they are,
and if it is refused all do. -/
theorem getElem?_nodes_connect (g : Graph) (c : Connection) (i : Nat) :
    (g.connect c.source c.output c.target).1.nodes[i]? =
      g.nodes[i]?.map (·.attachAll ((g.made? c).toList.filter (·.source.index == i))) := by
  unfold made?
  cases herror : g.wiringError? c.source c.output c.target with
  | some e =>
    rw [connect_of_some herror]
    exact Option.map_id'.symm
  | none =>
    rw [connect_of_none herror]
    show (g.nodes.modify c.source.index (·.attach c.output c.target))[i]? =
      g.nodes[i]?.map (·.attachAll ([c].filter (·.source.index == i)))
    rw [Array.getElem?_modify]
    by_cases hi : c.source.index = i
    · have hone : [c].filter (·.source.index == i) = [c] := by simp [hi]
      rw [if_pos hi, hone]
      rfl
    · have hnone : [c].filter (·.source.index == i) = [] := by simp [hi]
      rw [if_neg hi, hnone]
      exact Option.map_id'.symm

/-- Each position holds the node that was added there, with the targets of the connections that were
made from it. -/
structure GrownFrom (g : Graph) (vs : List Node) (cs : List Connection) : Prop where
  size_eq : g.size = vs.length
  source_lt : ∀ c ∈ cs, c.source.index < g.size
  node_eq : ∀ (i : Nat) (v : Node), vs[i]? = some v →
    g.nodes[i]? = some (v.attachAll (cs.filter (·.source.index == i)))

namespace GrownFrom

variable {g : Graph} {vs : List Node} {cs : List Connection}

theorem empty : Graph.empty.GrownFrom [] [] := by
  refine ⟨rfl, by simp, ?_⟩
  intro i v hv
  cases hv

theorem add (h : g.GrownFrom vs cs) (v : Node) : (g.add v).1.GrownFrom (vs ++ [v]) cs := by
  refine ⟨?_, ?_, ?_⟩
  · rw [size_add, h.size_eq, List.length_append, List.length_singleton]
  · intro c hc
    rw [size_add]
    exact Nat.lt_succ_of_lt (h.source_lt c hc)
  · intro i w hw
    rcases Nat.lt_or_ge i vs.length with hi | hi
    · have hsize : g.nodes.size = vs.length := h.size_eq
      have hne : i ≠ g.nodes.size := by omega
      rw [List.getElem?_append_left hi] at hw
      rw [Graph.add, Array.getElem?_push, if_neg hne]
      exact h.node_eq i w hw
    · -- The new node; all connections so far were made from earlier ones.
      obtain ⟨rfl, rfl⟩ : i = g.size ∧ w = v := by
        rw [List.getElem?_append_right hi, List.getElem?_singleton] at hw
        split at hw
        case isTrue hzero =>
          cases hw
          exact ⟨by rw [h.size_eq]; omega, rfl⟩
        case isFalse => cases hw
      have hnone : cs.filter (·.source.index == g.size) = [] := by
        rw [List.filter_eq_nil_iff]
        intro c hc hsource
        exact Nat.ne_of_lt (h.source_lt c hc) (beq_iff_eq.mp hsource)
      rw [hnone]
      exact Array.getElem?_push_size

theorem connect (h : g.GrownFrom vs cs) (c : Connection) :
    (g.connect c.source c.output c.target).1.GrownFrom vs (cs ++ (g.made? c).toList) := by
  refine ⟨?_, ?_, ?_⟩
  · rw [size_connect, h.size_eq]
  · intro c' hc'
    rw [size_connect]
    rcases List.mem_append.mp hc' with hc' | hc'
    · exact h.source_lt c' hc'
    · exact source_lt_of_made? (Option.mem_toList.mp hc')
  · intro i v hv
    rw [getElem?_nodes_connect, h.node_eq i v hv, List.filter_append, Node.attachAll_append]
    rfl

/-- In a graph that has grown, a number leads to the node at its position. -/
theorem node?_ofIndex (h : g.GrownFrom vs cs) {i : Nat} (hi : i < 2 ^ 32) {v : Node}
    (hv : vs[i]? = some v) :
    g.node? (.ofIndex i) = some (v.attachAll (cs.filter (·.source == .ofIndex i))) := by
  have hindex : (NodeId.ofIndex i).index = i := NodeId.index_ofIndex_of_lt hi
  have hfilter : cs.filter (·.source == .ofIndex i) = cs.filter (·.source.index == i) := by
    congr 1
    funext c
    rw [Bool.eq_iff_iff, beq_iff_eq, beq_iff_eq]
    constructor
    · intro hsource
      rw [hsource, hindex]
    · intro hsource
      rw [← hsource, c.source.ofIndex_index]
  rw [hfilter, node?, hindex]
  exact h.node_eq i v hv

end GrownFrom

end Graph

/-! ### Sessions -/

namespace Edit

/-- The node that an edit adds, if it does. -/
def added? : Edit → Option Node
  | .add v => some v
  | _ => none

theorem filterMap_added?_cons (e : Edit) (es : List Edit) :
    (e :: es).filterMap added? = e.added?.toList ++ es.filterMap added? := by
  rw [List.filterMap_cons]
  cases e.added? <;> rfl

/-- Whether an edit adds a node or connects two. -/
def isGrowing : Edit → Bool
  | .add _ | .connect .. => true
  | .replace .. | .build _ => false

end Edit

theorem Classifier.size_graph_build (c : Classifier) (g : Graph) (root : NodeId) :
    (c.build g root).graph.size = g.size := by
  rw [build]
  exact ((Search.start g).visit root .start 0 .empty).2.size_eq

namespace Session

/-- The number that an edit hands out in a session, if it does. -/
def issued? (s : Session) : Edit → Option NodeId
  | .add v => some (s.graph.add v).2
  | _ => none

/-- The numbers that some edits hand out in a session, in their order. -/
def issued (s : Session) : List Edit → List NodeId
  | [] => []
  | e :: es => (s.issued? e).toList ++ (s.step e).issued es

theorem size_step (s : Session) (e : Edit) :
    (s.step e).graph.size = s.graph.size + e.added?.toList.length := by
  cases e with
  | add v => exact s.graph.size_add v
  | connect source output target => exact s.graph.size_connect source output target
  | replace n v => exact s.graph.size_replace n v
  | build root => exact s.classifier.size_graph_build s.graph root

/-- Only additions make a graph larger. -/
theorem size_run (s : Session) (es : List Edit) :
    (s.run es).graph.size = s.graph.size + (es.filterMap Edit.added?).length := by
  induction es generalizing s with
  | nil => rfl
  | cons e es ih =>
    show ((s.step e).run es).graph.size = _
    rw [ih, size_step, Edit.filterMap_added?_cons, List.length_append, Nat.add_assoc]

theorem numbers_step (s : Session) (e : Edit) :
    (s.step e).graph.numbers = s.graph.numbers ++ (s.issued? e).toList := by
  have hsize := s.size_step e
  cases e with
  | add v => exact s.graph.numbers_add v
  | connect source output target | replace n v | build root =>
    show _ = s.graph.numbers ++ []
    rw [List.append_nil, Graph.numbers, hsize]
    rfl

/-- The numbers of the nodes are those that were handed out, in the order of the positions. -/
theorem numbers_run (s : Session) (es : List Edit) :
    (s.run es).graph.numbers = s.graph.numbers ++ s.issued es := by
  induction es generalizing s with
  | nil => exact (List.append_nil _).symm
  | cons e es ih =>
    show ((s.step e).run es).graph.numbers = _
    rw [ih, numbers_step, issued, List.append_assoc]

/-- On a new graph all numbers are handed out in the session. -/
theorem issued_empty (c : Classifier) (es : List Edit) :
    (Session.mk c .empty).issued es = ((Session.mk c .empty).run es).graph.numbers := by
  rw [numbers_run]
  rfl

theorem grownFrom_step {s : Session} {vs : List Node} {cs : List Connection}
    (h : s.graph.GrownFrom vs cs) {e : Edit} (he : e.isGrowing = true) :
    (s.step e).graph.GrownFrom (vs ++ e.added?.toList) (cs ++ (s.made? e).toList) := by
  cases e with
  | add v =>
    show (s.graph.add v).1.GrownFrom (vs ++ [v]) (cs ++ [])
    rw [List.append_nil]
    exact h.add v
  | connect source output target =>
    show (s.graph.connect source output target).1.GrownFrom (vs ++ []) _
    rw [List.append_nil]
    exact h.connect ⟨source, output, target⟩
  | replace n v => cases he
  | build root => cases he

/-- Additions and connections keep each node at its position. -/
theorem grownFrom_run {s : Session} {vs : List Node} {cs : List Connection}
    (h : s.graph.GrownFrom vs cs) {es : List Edit} (hes : ∀ e ∈ es, e.isGrowing = true) :
    (s.run es).graph.GrownFrom (vs ++ es.filterMap Edit.added?) (cs ++ s.made es) := by
  induction es generalizing s vs cs with
  | nil =>
    rw [List.filterMap_nil, List.append_nil, made, List.append_nil]
    exact h
  | cons e es ih =>
    rw [Edit.filterMap_added?_cons, made, ← List.append_assoc, ← List.append_assoc]
    show ((s.step e).run es).graph.GrownFrom _ _
    apply ih
    · exact grownFrom_step h (hes e List.mem_cons_self)
    · intro e' he'
      exact hes e' (List.mem_cons_of_mem _ he')

/-- **Numbers are handed out one after the other, and only once while they last.**  Wherever a
session on a new graph leads, the graph has as many nodes as were added, and their numbers are those
that were handed out.  The next addition hands out a fresh number, that of the nodes before it, and
the node is found by it, if and only if there are fewer than `2 ^ 32` nodes; otherwise it hands out a
number again, which still leads to an earlier node.  If nodes were only added and connected, each of
the first `2 ^ 32` numbers leads to the node for which it was handed out, with the targets of the
connections that were made from it. -/
theorem addsFresh_run_iff (c : Classifier) (es : List Edit) (v : Node) :
    let s := Session.mk c .empty
    let g := (s.run es).graph
    g.size = (es.filterMap Edit.added?).length ∧
    s.issued es = (List.range g.size).map .ofIndex ∧
    (g.AddsFresh v (s.issued es) ↔ g.size < 2 ^ 32) ∧
    (2 ^ 32 ≤ g.size → (g.add v).2 ∈ s.issued es ∧
      (g.add v).1.node? (g.add v).2 = g.node? (g.add v).2) ∧
    ((∀ e ∈ es, e.isGrowing = true) → ∀ k < 2 ^ 32, ∀ n w, (s.issued es)[k]? = some n →
      (es.filterMap Edit.added?)[k]? = some w →
      g.node? n = some (w.attachAll ((s.made es).filter (·.source == n)))) := by
  intro s g
  have hnumbers : s.issued es = g.numbers := issued_empty c es
  refine ⟨?_, hnumbers, ?_, ?_, ?_⟩
  · exact (s.size_run es).trans (Nat.zero_add _)
  · rw [hnumbers]
    exact Graph.addsFresh_numbers_iff
  · rw [hnumbers]
    exact fun hsize => Graph.add_of_le hsize v
  · intro hes k hk n w hn hw
    have hgrown : g.GrownFrom (es.filterMap Edit.added?) (s.made es) := by
      have h := grownFrom_run (s := s) Graph.GrownFrom.empty hes
      rwa [List.nil_append, List.nil_append] at h
    rw [hnumbers] at hn
    rw [Graph.eq_ofIndex_of_getElem?_numbers hn]
    exact hgrown.node?_ofIndex hk hw

/-- The dock has numbers left, and its relay is found by the number that was handed out for it, with
the targets of the two connections that were made from it. -/
theorem addsFresh_dock :
    (fresh.run dock).graph.AddsFresh (.leaf none) (fresh.issued dock) ∧
      (∀ e ∈ dock, e.isGrowing = true) ∧ (fresh.issued dock)[1]? = some (.ofIndex 1) ∧
      (fresh.run dock).graph.node? (.ofIndex 1) = some ((Node.relay #[]).attachAll
        [⟨.ofIndex 1, 5, .ofIndex 2⟩, ⟨.ofIndex 1, 0, .ofIndex 0⟩]) := by
  obtain ⟨-, -, hfresh, -, hkept⟩ := addsFresh_run_iff fresh.classifier dock (.leaf none)
  have hes : ∀ e ∈ dock, e.isGrowing = true := by decide
  have hnumber : (fresh.issued dock)[1]? = some (.ofIndex 1) := by decide
  have hmade : (fresh.made dock).filter (·.source == .ofIndex 1) =
      [⟨.ofIndex 1, 5, .ofIndex 2⟩, ⟨.ofIndex 1, 0, .ofIndex 0⟩] := by decide
  refine ⟨hfresh.mpr (by decide), hes, hnumber, ?_⟩
  rw [← hmade]
  exact hkept hes 1 (by decide) _ _ hnumber rfl

/-! ### A crowd -/

/-- Leaves are placed, and nothing else. -/
def crowd (n : Nat) : List Edit := List.replicate n (.add (.leaf none))

theorem size_run_crowd (n : Nat) : (fresh.run (crowd n)).graph.size = n := by
  have hadded : (crowd n).filterMap Edit.added? = List.replicate n (.leaf none) :=
    List.filterMap_replicate_of_some rfl
  rw [size_run, hadded, List.length_replicate]
  exact Nat.zero_add n

/-- The node after `2 ^ 32` leaves gets the number of the first of them. -/
theorem not_addsFresh_crowd :
    ¬(fresh.run (crowd (2 ^ 32))).graph.AddsFresh (.relay #[]) (fresh.issued (crowd (2 ^ 32))) ∧
      ((fresh.run (crowd (2 ^ 32))).graph.add (.relay #[])).2 = .ofIndex 0 ∧
      .ofIndex 0 ∈ fresh.issued (crowd (2 ^ 32)) := by
  have hsize := size_run_crowd (2 ^ 32)
  have hnumbers : fresh.issued (crowd (2 ^ 32)) = (fresh.run (crowd (2 ^ 32))).graph.numbers :=
    issued_empty ..
  rw [hnumbers]
  refine ⟨?_, ?_, ?_⟩
  · rw [Graph.addsFresh_numbers_iff, hsize]
    exact Nat.lt_irrefl _
  · show NodeId.ofIndex (fresh.run (crowd (2 ^ 32))).graph.size = _
    rw [hsize]
    rfl
  · rw [Graph.mem_numbers_iff, hsize]
    decide

end Session

end Biomes
