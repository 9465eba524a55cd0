import Biomes.Graph.Outlet
import Biomes.Graph.Path
import Mathlib.Data.List.Basic

/-!
# What a graph means

A graph can be read without compiling it.  A search that comes to a node on a branch collects what
lies before it (`Graph.collect`): leaves, and branches of switches with the nodes that they lead to.
It goes through relays in order and skips what lies on its path already and what is not there.

* `Graph.evaluate`: the leaf that a place comes to, with the branch that it is reached on.  The last
  leaf before the search counts, if the branch has a name; otherwise the search goes on along the
  first branch that accepts the place, and never back;
* `Graph.arrivals`: all leaves that a search comes to, whatever the place;
* `Graph.evaluateWithin`: the same as `Graph.evaluate`, but only the first arrivals on branches with
  names count, and the answer says which of them it is.
-/

namespace Biomes

/-- A leaf that is reached at the end of a branch. -/
structure Arrival where
  leaf : NodeId
  branch : Branch
  deriving DecidableEq, Repr

/-- Whether the branch of an arrival has a name, so that the leaf can get a biome. -/
def Arrival.isNamed (a : Arrival) : Bool := !a.branch.name.isEmpty

/-- The named ones of some arrivals are those that come next in a list after the first `k`. -/
def Arrival.Next (l : List Arrival) (k : Nat) (as : List Arrival) : Prop :=
  as.filter isNamed <+: l.drop k

namespace Arrival.Next

variable {l as bs : List Arrival} {a : Arrival} {k : Nat}

theorem self (as : List Arrival) : Next (as.filter isNamed) 0 as := List.prefix_rfl

theorem left (h : Next l k (as ++ bs)) : Next l k as := by
  unfold Next at h
  rw [List.filter_append] at h
  exact (List.prefix_append ..).trans h

theorem right (h : Next l k (as ++ bs)) : Next l (k + as.countP isNamed) bs := by
  unfold Next at h ⊢
  obtain ⟨rest, hrest⟩ := h
  rw [List.filter_append, List.append_assoc] at hrest
  rw [← List.drop_drop, ← hrest, List.countP_eq_length_filter, List.drop_left]
  exact List.prefix_append ..

theorem getElem?_eq (h : Next l k [a]) (ha : a.isNamed = true) : l[k]? = some a := by
  unfold Next at h
  rw [List.filter_cons_of_pos ha, List.filter_nil] at h
  obtain ⟨rest, hrest⟩ := h
  rw [← Nat.add_zero k, ← List.getElem?_drop, ← hrest]
  rfl

end Arrival.Next

/-- Something that lies before a search. -/
inductive Prospect where
  | leaf (node : NodeId)
  /-- A branch of a switch, the node that it leads to, and the path to there. -/
  | arm (branch : Branch) (target : NodeId) (path : List NodeId)

/-- Whether a prospect is a branch that accepts a place. -/
def Prospect.accepts (p : Point) : Prospect → Bool
  | .leaf _ => false
  | .arm b _ _ => b.test.accepts p

/-- The leaf that a prospect is. -/
def Prospect.leaf? : Prospect → Option NodeId
  | .leaf n => some n
  | .arm .. => none

namespace Graph

/-! ### What lies before a search -/

/-- What lies before a search that comes to a node on a path. -/
def collect (g : Graph) (path : List NodeId) (n : NodeId) : List Prospect :=
  if _hn : n ∈ path then []
  else
    match _hv : g.node? n with
    | none => []
    | some (.leaf _) => [.leaf n]
    | some (.relay targets) => targets.toList.flatMap fun t => g.collect (n :: path) t
    | some (.switch s) => s.branches.map fun (b, t) => .arm b t (n :: path)
termination_by g.unseen path
decreasing_by exact unseen_cons_lt _hv _hn

/-- All leaves that a search comes to behind a node, with the branches that they are reached on. -/
def arrivalsFrom (g : Graph) (b : Branch) (path : List NodeId) (n : NodeId) : List Arrival :=
  if _hn : n ∈ path then []
  else
    match _hv : g.node? n with
    | none => []
    | some (.leaf _) => [⟨n, b⟩]
    | some (.relay targets) => targets.toList.flatMap fun t => g.arrivalsFrom b (n :: path) t
    | some (.switch s) => s.branches.flatMap fun (b, t) => g.arrivalsFrom b (n :: path) t
termination_by g.unseen path
decreasing_by all_goals exact unseen_cons_lt _hv _hn

/-- All leaves that a search from a root comes to, depth first. -/
def arrivals (g : Graph) (root : NodeId) : List Arrival := g.arrivalsFrom .start [] root

/-- The arrivals that can get a biome. -/
def namedArrivals (g : Graph) (root : NodeId) : List Arrival :=
  (g.arrivals root).filter Arrival.isNamed

section

variable {g : Graph} {b : Branch} {path : List NodeId} {n : NodeId}

theorem collect_of_mem (hn : n ∈ path) : g.collect path n = [] := by
  rw [collect, dif_pos hn]

theorem collect_of_none (hn : n ∉ path) (hv : g.node? n = none) : g.collect path n = [] := by
  rw [collect, dif_neg hn]
  split <;> simp_all

theorem collect_of_leaf (hn : n ∉ path) {o : Option Biome} (hv : g.node? n = some (.leaf o)) :
    g.collect path n = [.leaf n] := by
  rw [collect, dif_neg hn]
  split <;> simp_all

theorem collect_of_relay (hn : n ∉ path) {ts : Array NodeId} (hv : g.node? n = some (.relay ts)) :
    g.collect path n = ts.toList.flatMap (g.collect (n :: path)) := by
  rw [collect, dif_neg hn]
  split <;> simp_all

theorem collect_of_switch (hn : n ∉ path) {s : Switch} (hv : g.node? n = some (.switch s)) :
    g.collect path n = s.branches.map fun a => .arm a.1 a.2 (n :: path) := by
  rw [collect, dif_neg hn]
  split <;> simp_all

theorem arrivalsFrom_of_mem (hn : n ∈ path) : g.arrivalsFrom b path n = [] := by
  rw [arrivalsFrom, dif_pos hn]

theorem arrivalsFrom_of_none (hn : n ∉ path) (hv : g.node? n = none) :
    g.arrivalsFrom b path n = [] := by
  rw [arrivalsFrom, dif_neg hn]
  split <;> simp_all

theorem arrivalsFrom_of_leaf (hn : n ∉ path) {o : Option Biome}
    (hv : g.node? n = some (.leaf o)) : g.arrivalsFrom b path n = [⟨n, b⟩] := by
  rw [arrivalsFrom, dif_neg hn]
  split <;> simp_all

theorem arrivalsFrom_of_relay (hn : n ∉ path) {ts : Array NodeId}
    (hv : g.node? n = some (.relay ts)) :
    g.arrivalsFrom b path n = ts.toList.flatMap (g.arrivalsFrom b (n :: path)) := by
  rw [arrivalsFrom, dif_neg hn]
  split <;> simp_all

theorem arrivalsFrom_of_switch (hn : n ∉ path) {s : Switch} (hv : g.node? n = some (.switch s)) :
    g.arrivalsFrom b path n = s.branches.flatMap fun a => g.arrivalsFrom a.1 (n :: path) a.2 := by
  rw [arrivalsFrom, dif_neg hn]
  split <;> simp_all

/-- A search that goes on along a branch has fewer nodes left to enter. -/
theorem unseen_lt_of_mem_collect {t : NodeId} {path' : List NodeId}
    (h : .arm b t path' ∈ g.collect path n) : g.unseen path' < g.unseen path := by
  induction path, n using collect.induct g with
  | case1 path n hn => rw [collect_of_mem hn] at h; cases h
  | case2 path n hn hv => rw [collect_of_none hn hv] at h; cases h
  | case3 path n hn o hv => rw [collect_of_leaf hn hv] at h; simp at h
  | case4 path n hn ts hv ih =>
    rw [collect_of_relay hn hv] at h
    obtain ⟨m, -, hm⟩ := List.mem_flatMap.mp h
    exact Nat.lt_trans (ih m hm) (unseen_cons_lt hv hn)
  | case5 path n hn s hv =>
    rw [collect_of_switch hn hv] at h
    obtain ⟨a, -, ha⟩ := List.mem_map.mp h
    injection ha with _ _ hpath
    rw [← hpath]
    exact unseen_cons_lt hv hn

end

end Graph

/-! ### Evaluation -/

/-- The leaf that ends a branch with some prospects: the last one, if the branch has a name. -/
def Prospect.ending? (b : Branch) (xs : List Prospect) : Option NodeId :=
  if b.name.isEmpty then none else (xs.filterMap leaf?).getLast?

namespace Graph

/-- The leaf that a place comes to from a node that is reached on a branch and a path. -/
def evaluateFrom (g : Graph) (p : Point) (b : Branch) (path : List NodeId) (n : NodeId) :
    Option Arrival :=
  match Prospect.ending? b (g.collect path n) with
  | some leaf => some ⟨leaf, b⟩
  -- There is no going back from the branch that is taken.
  | none =>
    match _h : (g.collect path n).find? (·.accepts p) with
    | some (.arm b' t path') => g.evaluateFrom p b' path' t
    | _ => none
termination_by g.unseen path
decreasing_by exact unseen_lt_of_mem_collect (List.mem_of_find?_eq_some _h)

/-- The leaf that a place comes to from a root. -/
def evaluate (g : Graph) (root : NodeId) (p : Point) : Option Arrival :=
  g.evaluateFrom p .start [] root

/-! ### Evaluation with a limit -/

/-- The leaves that a search comes to through a prospect. -/
def arrivalsThrough (g : Graph) (b : Branch) : Prospect → List Arrival
  | .leaf n => [⟨n, b⟩]
  | .arm b t path => g.arrivalsFrom b path t

/-- The arrivals from a node are those through what lies before the search. -/
theorem arrivalsFrom_eq_flatMap (g : Graph) (b : Branch) (path : List NodeId) (n : NodeId) :
    g.arrivalsFrom b path n = (g.collect path n).flatMap (g.arrivalsThrough b) := by
  induction path, n using collect.induct g with
  | case1 path n hn => rw [arrivalsFrom_of_mem hn, collect_of_mem hn, List.flatMap_nil]
  | case2 path n hn hv => rw [arrivalsFrom_of_none hn hv, collect_of_none hn hv, List.flatMap_nil]
  | case3 path n hn o hv => rw [arrivalsFrom_of_leaf hn hv, collect_of_leaf hn hv]; rfl
  | case4 path n hn ts hv ih =>
    rw [arrivalsFrom_of_relay hn hv, collect_of_relay hn hv, List.flatMap_assoc]
    exact List.flatMap_congr fun t _ => ih t
  | case5 path n hn s hv =>
    rw [arrivalsFrom_of_switch hn hv, collect_of_switch hn hv, List.flatMap_map]
    rfl

/-- Numbers each of some prospects by the arrivals on branches with names that come before it, after
`k` that came before all of them. -/
def numbered (g : Graph) (b : Branch) (k : Nat) : List Prospect → List (Nat × Prospect)
  | [] => []
  | x :: xs => (k, x) :: g.numbered b (k + (g.arrivalsThrough b x).countP Arrival.isNamed) xs

/-- The numbers leave the prospects as they are. -/
theorem map_snd_numbered (g : Graph) (b : Branch) (k : Nat) (xs : List Prospect) :
    (g.numbered b k xs).map Prod.snd = xs := by
  induction xs generalizing k with
  | nil => rfl
  | cons x xs ih => rw [numbered, List.map_cons, ih]

end Graph

/-- The leaf that a numbered prospect is, if its number lies below a limit. -/
def Prospect.leafWithin? (limit : Nat) : Nat × Prospect → Option (Nat × NodeId)
  | (k, .leaf n) => if k < limit then some (k, n) else none
  | (_, .arm ..) => none

/-- The leaf that ends a branch, if only those with numbers below a limit can. -/
def Prospect.endingWithin? (limit : Nat) (b : Branch) (ys : List (Nat × Prospect)) :
    Option (Nat × NodeId) :=
  if b.name.isEmpty then none else (ys.filterMap (leafWithin? limit)).getLast?

/-- A leaf that ends a branch with a limit is one of the prospects, with a number below the limit. -/
theorem Prospect.of_endingWithin? {limit : Nat} {b : Branch} {ys : List (Nat × Prospect)} {i : Nat}
    {leaf : NodeId} (h : endingWithin? limit b ys = some (i, leaf)) :
    b.name.isEmpty = false ∧ i < limit ∧ (i, .leaf leaf) ∈ ys := by
  unfold endingWithin? at h
  by_cases hb : b.name.isEmpty = true
  · rw [if_pos hb] at h
    cases h
  · rw [if_neg hb] at h
    obtain ⟨⟨j, x⟩, hmem, hx⟩ := List.mem_filterMap.mp (List.mem_of_getLast? h)
    cases x with
    | leaf m =>
      rw [leafWithin?] at hx
      split at hx
      · rename_i hj
        obtain ⟨rfl, rfl⟩ : j = i ∧ m = leaf := by simpa using hx
        exact ⟨by simpa using hb, hj, hmem⟩
      · cases hx
    | arm b' t path => cases hx

namespace Graph

/-- The leaf that a place comes to, if only the first arrivals on branches with names count; and how
many of those come before it. -/
def evaluateWithin (g : Graph) (limit : Nat) (p : Point) (b : Branch) (path : List NodeId)
    (n : NodeId) (k : Nat) : Option (Nat × Arrival) :=
  match Prospect.endingWithin? limit b (g.numbered b k (g.collect path n)) with
  | some (i, leaf) => some (i, ⟨leaf, b⟩)
  | none =>
    match _h : (g.numbered b k (g.collect path n)).find? (·.2.accepts p) with
    | some (i, .arm b' t path') => g.evaluateWithin limit p b' path' t i
    | _ => none
termination_by g.unseen path
decreasing_by
  refine unseen_lt_of_mem_collect (b := b') (n := n) (t := t) ?_
  have hmem := List.mem_map_of_mem (f := Prod.snd) (List.mem_of_find?_eq_some _h)
  rwa [map_snd_numbered] at hmem

section

variable {g : Graph} {limit : Nat} {p : Point} {b : Branch} {path : List NodeId} {n : NodeId}
  {k : Nat}

/-- Where no branch accepts a place, no prospect does. -/
theorem find?_eq_none_of_ne_arm {ys : List (Nat × Prospect)}
    (h : ∀ i b' t path', ys.find? (·.2.accepts p) ≠ some (i, .arm b' t path')) :
    ys.find? (·.2.accepts p) = none := by
  cases hy : ys.find? (·.2.accepts p) with
  | none => rfl
  | some y =>
    obtain ⟨i, x⟩ := y
    cases x with
    | leaf m => exact absurd (List.find?_some hy) Bool.false_ne_true
    | arm b' t path' => exact (h i b' t path' hy).elim

theorem evaluateFrom_of_ending {leaf : NodeId}
    (h : Prospect.ending? b (g.collect path n) = some leaf) :
    g.evaluateFrom p b path n = some ⟨leaf, b⟩ := by
  rw [evaluateFrom, h]

theorem evaluateFrom_of_arm (h : Prospect.ending? b (g.collect path n) = none) {b' : Branch}
    {t : NodeId} {path' : List NodeId}
    (harm : (g.collect path n).find? (·.accepts p) = some (.arm b' t path')) :
    g.evaluateFrom p b path n = g.evaluateFrom p b' path' t := by
  rw [evaluateFrom, h]
  dsimp only
  split
  · simp_all
  · rename_i hne
    exact absurd harm (hne b' t path')

theorem evaluateFrom_of_none (h : Prospect.ending? b (g.collect path n) = none)
    (harm : ∀ b' t path', (g.collect path n).find? (·.accepts p) ≠ some (.arm b' t path')) :
    g.evaluateFrom p b path n = none := by
  rw [evaluateFrom, h]
  dsimp only
  split
  · rename_i hfind
    exact (harm _ _ _ hfind).elim
  · rfl

/-- A leaf is where a place comes to that has come there on a branch with a name. -/
theorem evaluateFrom_of_leaf (hn : n ∉ path) {o : Option Biome} (hv : g.node? n = some (.leaf o))
    (hb : b.name.isEmpty = false) : g.evaluateFrom p b path n = some ⟨n, b⟩ := by
  refine evaluateFrom_of_ending ?_
  rw [collect_of_leaf hn hv, Prospect.ending?, if_neg (by simp [hb])]
  rfl

/-- A relay with one target is passed. -/
theorem evaluateFrom_of_relay_singleton (hn : n ∉ path) {t : NodeId}
    (hv : g.node? n = some (.relay #[t])) :
    g.evaluateFrom p b path n = g.evaluateFrom p b (n :: path) t := by
  have hcollect : g.collect path n = g.collect (n :: path) t := by
    rw [collect_of_relay hn hv]
    exact List.append_nil _
  rw [evaluateFrom, evaluateFrom, hcollect]

/-- At a switch the first branch that accepts the place is taken. -/
theorem evaluateFrom_of_switch (hn : n ∉ path) {s : Switch} (hv : g.node? n = some (.switch s)) :
    g.evaluateFrom p b path n = (s.branches.find? fun a => a.1.test.accepts p).bind fun a =>
      g.evaluateFrom p a.1 (n :: path) a.2 := by
  have hending : Prospect.ending? b (g.collect path n) = none := by
    -- Nothing before the search is a leaf.
    rw [collect_of_switch hn hv, Prospect.ending?, List.filterMap_map]
    have hnone : s.branches.filterMap (Prospect.leaf? ∘ fun a => .arm a.1 a.2 (n :: path)) = [] :=
      List.filterMap_eq_nil_iff.mpr fun _ _ => rfl
    rw [hnone]
    exact ite_self none
  have hfind : (g.collect path n).find? (·.accepts p) =
      (s.branches.find? fun a => a.1.test.accepts p).map fun a => .arm a.1 a.2 (n :: path) := by
    rw [collect_of_switch hn hv, List.find?_map]
    rfl
  cases h : s.branches.find? fun a => a.1.test.accepts p with
  | none =>
    rw [h] at hfind
    refine evaluateFrom_of_none hending fun b' t path' harm => ?_
    rw [hfind] at harm
    cases harm
  | some a =>
    rw [h] at hfind
    exact evaluateFrom_of_arm hending hfind

theorem evaluateWithin_of_ending {i : Nat} {leaf : NodeId}
    (h : Prospect.endingWithin? limit b (g.numbered b k (g.collect path n)) = some (i, leaf)) :
    g.evaluateWithin limit p b path n k = some (i, ⟨leaf, b⟩) := by
  rw [evaluateWithin, h]

theorem evaluateWithin_of_arm
    (h : Prospect.endingWithin? limit b (g.numbered b k (g.collect path n)) = none) {i : Nat}
    {b' : Branch} {t : NodeId} {path' : List NodeId}
    (harm : (g.numbered b k (g.collect path n)).find? (·.2.accepts p) =
      some (i, .arm b' t path')) :
    g.evaluateWithin limit p b path n k = g.evaluateWithin limit p b' path' t i := by
  rw [evaluateWithin, h]
  dsimp only
  split
  · simp_all
  · rename_i hne
    exact absurd harm (hne i b' t path')

theorem evaluateWithin_of_none
    (h : Prospect.endingWithin? limit b (g.numbered b k (g.collect path n)) = none)
    (harm : ∀ i b' t path', (g.numbered b k (g.collect path n)).find? (·.2.accepts p) ≠
      some (i, .arm b' t path')) :
    g.evaluateWithin limit p b path n k = none := by
  rw [evaluateWithin, h]
  dsimp only
  split
  · rename_i hfind
    exact (harm _ _ _ _ hfind).elim
  · rfl

end

/-! ### The name that a place comes to -/

section

variable {g : Graph} {p : Point} {b : Branch} {path : List NodeId} {n : NodeId} {name : String}

/-- If no two items of a list fulfil a condition, it does not matter which is looked at first. -/
theorem bind_find?_eq_some_iff {α β : Type} {l : List α} {q : α → Bool} {f : α → Option β}
    {r : β} (h : l.Pairwise fun x y => ¬(q x = true ∧ q y = true)) :
    (l.find? q).bind f = some r ↔ ∃ x ∈ l, q x = true ∧ f x = some r := by
  induction l with
  | nil => simp
  | cons x xs ih =>
    obtain ⟨hx, hxs⟩ := List.pairwise_cons.mp h
    cases hq : q x with
    | true =>
      rw [List.find?_cons_of_pos hq]
      constructor
      · intro hf
        exact ⟨x, List.mem_cons_self, hq, hf⟩
      · rintro ⟨y, hy, hqy, hf⟩
        rcases List.mem_cons.mp hy with rfl | hy
        · exact hf
        · exact (hx y hy ⟨hq, hqy⟩).elim
    | false =>
      rw [List.find?_cons_of_neg (by simp [hq]), ih hxs]
      simp [hq]

/-- Whether a place comes to a leaf on a branch with the given name. -/
def EndsAs (g : Graph) (p : Point) (b : Branch) (path : List NodeId) (n : NodeId)
    (name : String) : Prop :=
  ∃ a, g.evaluateFrom p b path n = some a ∧ a.branch.name = name

theorem endsAs_of_leaf (hn : n ∉ path) {o : Option Biome} (hv : g.node? n = some (.leaf o))
    (hb : b.name.isEmpty = false) : g.EndsAs p b path n name ↔ b.name = name := by
  simp [EndsAs, evaluateFrom_of_leaf hn hv hb]

theorem endsAs_of_relay (hn : n ∉ path) {t : NodeId} (hv : g.node? n = some (.relay #[t])) :
    g.EndsAs p b path n name ↔ g.EndsAs p b (n :: path) t name := by
  rw [EndsAs, EndsAs, evaluateFrom_of_relay_singleton hn hv]

/-- At a switch whose branches exclude each other, a place goes on along every branch that accepts
it. -/
theorem endsAs_of_switch (hn : n ∉ path) {s : Switch} (hv : g.node? n = some (.switch s))
    (h : s.branches.Pairwise fun x y =>
      ¬(x.1.test.accepts p = true ∧ y.1.test.accepts p = true)) :
    g.EndsAs p b path n name ↔
      ∃ a ∈ s.branches, a.1.test.accepts p = true ∧ g.EndsAs p a.1 (n :: path) a.2 name := by
  simp only [EndsAs, evaluateFrom_of_switch hn hv, bind_find?_eq_some_iff h]
  constructor
  · rintro ⟨r, ⟨a, ha, hp, hr⟩, hname⟩
    exact ⟨a, ha, hp, r, hr, hname⟩
  · rintro ⟨a, ha, hp, r, hr, hname⟩
    exact ⟨r, ⟨a, ha, hp, hr⟩, hname⟩

end

end Graph

end Biomes
