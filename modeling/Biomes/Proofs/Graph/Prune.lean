import Biomes.Proofs.Graph.Evaluation
import Biomes.Proofs.Graph.Reach

/-!
# References to nothing

Pruning a graph takes away all references to nodes that are not there (`Graph.prune`).  A search
skips such references, so that it comes to the same leaves (`Graph.arrivalsFrom_prune`).  But it
skips them late: a branch of a switch that leads to nothing still takes the places that it accepts,
and these stray (`Graph.straysWithin`).

* `Graph.evaluateWithin_prune`: a place that does not stray is evaluated alike in the pruned graph;
* `Graph.evaluateWithin_of_strays`: a place that strays comes to no leaf;
* `Graph.straysWithin_eq_false`: if the switches refer to nothing that is missing, no place strays,
  whatever the relays refer to.
-/

namespace Biomes

/-! ### Pruning -/

/-- The switch with only those attached nodes that are to be kept. -/
def Switch.keep (s : Switch) (kept : NodeId → Bool) : Switch :=
  match s with
  | .shore dry wet => .shore (dry.filter kept) (wet.filter kept)
  | .ranges axis parts =>
    .ranges axis (parts.map fun r => { r with attached := r.attached.filter kept })

/-- The branches that are left are those that lead to a node that is kept. -/
theorem Switch.branches_keep (s : Switch) (kept : NodeId → Bool) :
    (s.keep kept).branches = s.branches.filter fun a => kept a.2 := by
  cases s with
  | shore dry wet =>
    simp [keep, branches, outlets, List.filter_map, Function.comp_def]
  | ranges axis parts =>
    rw [keep, branches, branches, outlets, outlets, Array.toList_map, List.map_map,
      List.flatMap_map, List.flatMap_map, List.filter_flatMap]
    refine List.flatMap_congr fun r _ => ?_
    rw [List.filter_map]
    simp [Function.comp_def, SubRange.share]

/-- The node with only those references that are to be kept. -/
def Node.keep (v : Node) (kept : NodeId → Bool) : Node :=
  match v with
  | .switch s => .switch (s.keep kept)
  | .leaf b => .leaf b
  | .relay targets => .relay (targets.filter kept)

namespace Graph

/-- Whether there is a node with a number. -/
def has (g : Graph) (n : NodeId) : Bool := (g.node? n).isSome

/-- The graph without references to nodes that it does not have. -/
def prune (g : Graph) : Graph := ⟨g.nodes.map (·.keep g.has)⟩

theorem node?_prune (g : Graph) (n : NodeId) : g.prune.node? n = (g.node? n).map (·.keep g.has) :=
  Array.getElem?_map

/-- Whether a prospect is left in the pruned graph. -/
def keeps (g : Graph) : Prospect → Bool
  | .leaf _ => true
  | .arm _ t _ => g.has t

section

variable {g : Graph} {b : Branch} {path : List NodeId} {n : NodeId}

theorem has_eq_false (h : g.has n = false) : g.node? n = none := by
  simpa [has] using h

/-- Before a search that comes to a node that is missing lies nothing. -/
theorem collect_of_not_has (h : g.has n = false) : g.collect path n = [] := by
  by_cases hn : n ∈ path
  · exact collect_of_mem hn
  · exact collect_of_none hn (has_eq_false h)

theorem arrivalsFrom_of_not_has (h : g.has n = false) : g.arrivalsFrom b path n = [] := by
  rw [arrivalsFrom_eq_flatMap, collect_of_not_has h, List.flatMap_nil]

/-- Elements that add nothing can be left out. -/
theorem flatMap_filter_eq {α β : Type} {f : α → List β} {kept : α → Bool} {xs : List α}
    (h : ∀ x ∈ xs, kept x = false → f x = []) : (xs.filter kept).flatMap f = xs.flatMap f := by
  induction xs with
  | nil => rfl
  | cons x xs ih =>
    have hrest := ih fun y hy => h y (List.mem_cons_of_mem _ hy)
    by_cases hx : kept x = true
    · rw [List.filter_cons_of_pos hx, List.flatMap_cons, List.flatMap_cons, hrest]
    · rw [List.filter_cons_of_neg hx, List.flatMap_cons,
        h x List.mem_cons_self (by simpa using hx), List.nil_append, hrest]

/-- Before a search in the pruned graph lies what is left of what lay before it. -/
theorem collect_prune (g : Graph) (path : List NodeId) (n : NodeId) :
    g.prune.collect path n = (g.collect path n).filter g.keeps := by
  induction path, n using collect.induct g with
  | case1 path n hn => rw [collect_of_mem hn, collect_of_mem hn, List.filter_nil]
  | case2 path n hn hv =>
    have hv' : g.prune.node? n = none := by rw [node?_prune, hv, Option.map_none]
    rw [collect_of_none hn hv, collect_of_none hn hv', List.filter_nil]
  | case3 path n hn o hv =>
    have hv' : g.prune.node? n = some (.leaf o) := by rw [node?_prune, hv]; rfl
    rw [collect_of_leaf hn hv, collect_of_leaf hn hv']
    rfl
  | case4 path n hn ts hv ih =>
    have hv' : g.prune.node? n = some (.relay (ts.filter g.has)) := by rw [node?_prune, hv]; rfl
    rw [collect_of_relay hn hv, collect_of_relay hn hv', Array.toList_filter, List.filter_flatMap]
    rw [List.flatMap_congr fun t _ => ih t]
    exact flatMap_filter_eq fun t _ ht => by rw [collect_of_not_has ht, List.filter_nil]
  | case5 path n hn s hv =>
    have hv' : g.prune.node? n = some (.switch (s.keep g.has)) := by rw [node?_prune, hv]; rfl
    rw [collect_of_switch hn hv, collect_of_switch hn hv', s.branches_keep, List.filter_map]
    rfl

/-- A search does not arrive anywhere through a prospect that is taken away. -/
theorem arrivalsThrough_of_not_keeps {x : Prospect} (h : g.keeps x = false) :
    g.arrivalsThrough b x = [] := by
  cases x with
  | leaf n => cases h
  | arm b' t path => exact arrivalsFrom_of_not_has h

/-- Pruning leaves the arrivals. -/
theorem arrivalsFrom_prune (g : Graph) (b : Branch) (path : List NodeId) (n : NodeId) :
    g.prune.arrivalsFrom b path n = g.arrivalsFrom b path n := by
  induction hk : g.unseen path using Nat.strongRecOn generalizing b path n with
  | _ k ih =>
    have hthrough : ∀ x ∈ (g.collect path n).filter g.keeps,
        g.prune.arrivalsThrough b x = g.arrivalsThrough b x := by
      intro x hx
      cases x with
      | leaf m => rfl
      | arm b' t path' =>
        have hlt := unseen_lt_of_mem_collect (List.mem_of_mem_filter hx)
        exact ih (g.unseen path') (hk ▸ hlt) b' path' t rfl
    rw [arrivalsFrom_eq_flatMap, arrivalsFrom_eq_flatMap, collect_prune,
      List.flatMap_congr hthrough]
    exact flatMap_filter_eq fun x _ hx => arrivalsThrough_of_not_keeps hx

theorem arrivals_prune (g : Graph) (root : NodeId) : g.prune.arrivals root = g.arrivals root :=
  g.arrivalsFrom_prune .start [] root

/-! ### Evaluation -/

/-- Pruning leaves the numbers of the prospects that are left. -/
theorem numbered_prune (g : Graph) (b : Branch) (k : Nat) (xs : List Prospect) :
    g.prune.numbered b k (xs.filter g.keeps) =
      (g.numbered b k xs).filter fun y => g.keeps y.2 := by
  induction xs generalizing k with
  | nil => rfl
  | cons x xs ih =>
    by_cases hx : g.keeps x = true
    · have hthrough : g.prune.arrivalsThrough b x = g.arrivalsThrough b x := by
        cases x with
        | leaf m => rfl
        | arm b' t path' => exact g.arrivalsFrom_prune b' path' t
      rw [List.filter_cons_of_pos hx, numbered, numbered, List.filter_cons_of_pos (by exact hx),
        hthrough, ih]
    · have hnone : g.arrivalsThrough b x = [] := arrivalsThrough_of_not_keeps (by simpa using hx)
      rw [List.filter_cons_of_neg hx, numbered, List.filter_cons_of_neg (by exact hx), hnone,
        List.countP_nil, Nat.add_zero, ih]

/-- Branches that are taken away end nothing. -/
theorem endingWithin?_filter (g : Graph) (limit : Nat) (b : Branch) (ys : List (Nat × Prospect)) :
    Prospect.endingWithin? limit b (ys.filter fun y => g.keeps y.2) =
      Prospect.endingWithin? limit b ys := by
  unfold Prospect.endingWithin?
  rw [List.filterMap_filter]
  congr 2
  refine List.filterMap_congr fun y _ => ?_
  obtain ⟨k, x⟩ := y
  cases x with
  | leaf n => rfl
  | arm b' t path => exact ite_self _

/-- What ends a branch is the same in the pruned graph. -/
theorem endingWithin?_prune (g : Graph) (limit : Nat) (b : Branch) (path : List NodeId) (n : NodeId)
    (k : Nat) :
    Prospect.endingWithin? limit b (g.prune.numbered b k (g.prune.collect path n)) =
      Prospect.endingWithin? limit b (g.numbered b k (g.collect path n)) := by
  rw [collect_prune, numbered_prune, endingWithin?_filter]

/-- A branch that takes a place takes it in the pruned graph as well, if it is left there. -/
theorem find?_prune_of_arm {g : Graph} {p : Point} {b : Branch} {path : List NodeId} {n : NodeId}
    {k i : Nat} {b' : Branch} {t : NodeId} {path' : List NodeId} (ht : g.has t = true)
    (h : (g.numbered b k (g.collect path n)).find? (·.2.accepts p) = some (i, .arm b' t path')) :
    (g.prune.numbered b k (g.prune.collect path n)).find? (·.2.accepts p) =
      some (i, .arm b' t path') := by
  obtain ⟨haccepts, before, after, hsplit, hbefore⟩ := List.find?_eq_some_iff_append.mp h
  rw [collect_prune, numbered_prune, List.find?_filter, List.find?_eq_some_iff_append]
  refine ⟨by simpa [keeps, ht] using haccepts, before, after, hsplit, fun y hy => ?_⟩
  have hrejects := hbefore y hy
  simp_all

/-- Where no branch takes a place, none does in the pruned graph. -/
theorem find?_prune_eq_none {g : Graph} {p : Point} {b : Branch} {path : List NodeId} {n : NodeId}
    {k : Nat} (h : (g.numbered b k (g.collect path n)).find? (·.2.accepts p) = none) :
    (g.prune.numbered b k (g.prune.collect path n)).find? (·.2.accepts p) = none := by
  rw [List.find?_eq_none] at h
  rw [collect_prune, numbered_prune, List.find?_eq_none]
  exact fun y hy => h y (List.mem_of_mem_filter hy)

/-- Whether a place comes to a branch that leads to nothing, if only the first arrivals on branches
with names count. -/
def straysWithin (g : Graph) (limit : Nat) (p : Point) (b : Branch) (path : List NodeId)
    (n : NodeId) (k : Nat) : Bool :=
  match Prospect.endingWithin? limit b (g.numbered b k (g.collect path n)) with
  | some _ => false
  | none =>
    match _h : (g.numbered b k (g.collect path n)).find? (·.2.accepts p) with
    | some (i, .arm b' t path') => !g.has t || g.straysWithin limit p b' path' t i
    | _ => false
termination_by g.unseen path
decreasing_by
  refine unseen_lt_of_mem_collect (b := b') (n := n) (t := t) ?_
  have hmem := List.mem_map_of_mem (f := Prod.snd) (List.mem_of_find?_eq_some _h)
  rwa [map_snd_numbered] at hmem

end

section

variable {g : Graph} {limit : Nat} {p : Point} {b : Branch} {path : List NodeId} {n : NodeId}
  {k : Nat}

theorem straysWithin_of_ending {y : Nat × NodeId}
    (h : Prospect.endingWithin? limit b (g.numbered b k (g.collect path n)) = some y) :
    g.straysWithin limit p b path n k = false := by
  rw [straysWithin, h]

theorem straysWithin_of_arm
    (h : Prospect.endingWithin? limit b (g.numbered b k (g.collect path n)) = none) {i : Nat}
    {b' : Branch} {t : NodeId} {path' : List NodeId}
    (harm : (g.numbered b k (g.collect path n)).find? (·.2.accepts p) =
      some (i, .arm b' t path')) :
    g.straysWithin limit p b path n k = (!g.has t || g.straysWithin limit p b' path' t i) := by
  rw [straysWithin, h]
  dsimp only
  split
  · simp_all
  · rename_i hne
    exact absurd harm (hne i b' t path')

theorem straysWithin_of_none
    (h : Prospect.endingWithin? limit b (g.numbered b k (g.collect path n)) = none)
    (harm : ∀ i b' t path', (g.numbered b k (g.collect path n)).find? (·.2.accepts p) ≠
      some (i, .arm b' t path')) :
    g.straysWithin limit p b path n k = false := by
  rw [straysWithin, h]
  dsimp only
  split
  · rename_i hfind
    exact (harm _ _ _ _ hfind).elim
  · rfl

/-- A search that comes to a node that is missing comes to no leaf. -/
theorem evaluateWithin_of_not_has (h : g.has n = false) :
    g.evaluateWithin limit p b path n k = none := by
  refine evaluateWithin_of_none ?_ ?_
  · rw [collect_of_not_has h]
    exact ite_self _
  · rw [collect_of_not_has h]
    intro i b' t path' hfind
    cases hfind

/-- **A place that strays comes to no leaf.** -/
theorem evaluateWithin_of_strays (h : g.straysWithin limit p b path n k = true) :
    g.evaluateWithin limit p b path n k = none := by
  induction b, path, n, k using evaluateWithin.induct g limit p with
  | case1 b path n k i leaf hend =>
    rw [straysWithin_of_ending hend] at h
    cases h
  | case2 b path n k hend i b' t path' harm ih =>
    rw [straysWithin_of_arm hend harm] at h
    rw [evaluateWithin_of_arm hend harm]
    cases ht : g.has t with
    | false => exact evaluateWithin_of_not_has ht
    | true =>
      rw [ht] at h
      exact ih h
  | case3 b path n k hend harm =>
    rw [straysWithin_of_none hend harm] at h
    cases h

/-- **A place that does not stray is evaluated alike in the pruned graph.** -/
theorem evaluateWithin_prune (h : g.straysWithin limit p b path n k = false) :
    g.prune.evaluateWithin limit p b path n k = g.evaluateWithin limit p b path n k := by
  induction b, path, n, k using evaluateWithin.induct g limit p with
  | case1 b path n k i leaf hend =>
    rw [evaluateWithin_of_ending hend,
      evaluateWithin_of_ending ((g.endingWithin?_prune limit b path n k).trans hend)]
  | case2 b path n k hend i b' t path' harm ih =>
    rw [straysWithin_of_arm hend harm, Bool.or_eq_false_iff, Bool.not_eq_false'] at h
    rw [evaluateWithin_of_arm hend harm,
      evaluateWithin_of_arm ((g.endingWithin?_prune limit b path n k).trans hend)
        (find?_prune_of_arm h.1 harm)]
    exact ih h.2
  | case3 b path n k hend harm =>
    have hnone := find?_prune_eq_none (find?_eq_none_of_ne_arm harm)
    rw [evaluateWithin_of_none hend harm,
      evaluateWithin_of_none ((g.endingWithin?_prune limit b path n k).trans hend)]
    intro i b' t path' hfind
    rw [hnone] at hfind
    cases hfind

/-- A branch before a search leads to a node that is attached to a switch which references lead to. -/
theorem attached_of_mem_collect {b' : Branch} {t : NodeId} {path' : List NodeId}
    (h : .arm b' t path' ∈ g.collect path n) :
    ∃ m s, g.Reaches n m ∧ g.node? m = some (.switch s) ∧ t ∈ s.attached := by
  induction path, n using collect.induct g with
  | case1 path n hn => rw [collect_of_mem hn] at h; cases h
  | case2 path n hn hv => rw [collect_of_none hn hv] at h; cases h
  | case3 path n hn o hv => rw [collect_of_leaf hn hv] at h; simp at h
  | case4 path n hn ts hv ih =>
    rw [collect_of_relay hn hv] at h
    obtain ⟨u, hu, harm⟩ := List.mem_flatMap.mp h
    obtain ⟨m, s, hm, hs⟩ := ih u harm
    exact ⟨m, s, hm.head hv hu, hs⟩
  | case5 path n hn s hv =>
    rw [collect_of_switch hn hv] at h
    obtain ⟨a, ha, harm⟩ := List.mem_map.mp h
    injection harm with _ htarget _
    refine ⟨n, s, .refl n, hv, ?_⟩
    rw [← htarget, ← s.map_snd_branches]
    exact List.mem_map_of_mem ha

/-- **References of relays lead nobody astray**: if all nodes that are attached to switches are there,
no place strays. -/
theorem straysWithin_eq_false (h : ∀ m s, g.Reaches n m → g.node? m = some (.switch s) →
    ∀ t ∈ s.attached, g.has t = true) : g.straysWithin limit p b path n k = false := by
  induction b, path, n, k using evaluateWithin.induct g limit p with
  | case1 b path n k i leaf hend => exact straysWithin_of_ending hend
  | case2 b path n k hend i b' t path' harm ih =>
    have hmem := List.mem_map_of_mem (f := Prod.snd) (List.mem_of_find?_eq_some harm)
    rw [map_snd_numbered] at hmem
    obtain ⟨m, s, hm, hs, ht⟩ := attached_of_mem_collect hmem
    rw [straysWithin_of_arm hend harm, h m s hm hs t ht]
    exact ih fun m' s' hm' => h m' s' (hm.trans (.head ⟨_, hs, ht⟩ hm'))
  | case3 b path n k hend harm => exact straysWithin_of_none hend harm

end

end Graph

end Biomes
