import Biomes.Graph.Path
import Biomes.Proofs.Graph.Alike
import Mathlib.Data.Finset.Card

/-!
# The ways of a search

A search goes from a root along references, and enters every node that it comes to, unless the node
lies on its path or is not there.  A way says which references are taken, by their positions among
those of each node.  Every way along which a search can go (`Graph.arrive?`) is gone exactly once,
and the order in which the search goes them is the lexicographic one, where a way comes before those
that lead further (`Graph.mem_visits_iff`, `Graph.pairwise_visits`).  So a node is entered as often
as there are ways to it (`Graph.countP_visits`).
-/

namespace Biomes

/-- A node that a search enters, with the way that has led there. -/
structure Visit where
  way : List Nat
  node : NodeId
  deriving DecidableEq

namespace Visit

/-- The visit as it is seen from a node before, which the way leaves by the reference `i`. -/
def behind (i : Nat) (x : Visit) : Visit := ⟨i :: x.way, x.node⟩

/-- The order of ways: at the first place where they differ, the earlier reference; a way comes
before those that lead further. -/
def Before (x y : Visit) : Prop := List.Lex (· < ·) x.way y.way

theorem Before.ne {x y : Visit} (h : x.Before y) : x ≠ y := by
  rintro rfl
  exact List.lex_irrefl Nat.lt_irrefl _ h

theorem before_behind (n : NodeId) (i : Nat) (x : Visit) : Before ⟨[], n⟩ (x.behind i) := .nil

theorem Before.behind {x y : Visit} (h : x.Before y) (i : Nat) : (x.behind i).Before (y.behind i) :=
  .cons h

theorem behind_before_behind {i j : Nat} (h : i < j) (x y : Visit) :
    (x.behind i).Before (y.behind j) :=
  .rel h

end Visit

namespace Graph

/-- The node that a search enters: it is there, and not on the path. -/
def enter? (g : Graph) (path : List NodeId) (n : NodeId) : Option Node :=
  if n ∈ path then none else g.node? n

/-- The node that a search enters at the end of a way. -/
def arrive? (g : Graph) (path : List NodeId) (n : NodeId) : List Nat → Option NodeId
  | [] => (g.enter? path n).map fun _ => n
  | i :: way =>
    (g.enter? path n).bind fun v => v.references[i]?.bind fun t => g.arrive? (n :: path) t way

section

variable {g : Graph} {path : List NodeId} {n : NodeId} {v : Node}

theorem enter?_of_mem (hn : n ∈ path) : g.enter? path n = none := if_pos hn

theorem enter?_of_not_mem (hn : n ∉ path) : g.enter? path n = g.node? n := if_neg hn

theorem enter?_eq_some_iff : g.enter? path n = some v ↔ n ∉ path ∧ g.node? n = some v := by
  unfold enter?
  split <;> simp_all

/-- Entering a node leaves fewer nodes to enter. -/
theorem unseen_lt_of_enter? (h : g.enter? path n = some v) :
    g.unseen (n :: path) < g.unseen path :=
  unseen_cons_lt (enter?_eq_some_iff.mp h).2 (enter?_eq_some_iff.mp h).1

end

/-- The nodes that a search enters, one after the other, when it comes to a node on a path. -/
def visits (g : Graph) (path : List NodeId) (n : NodeId) : List Visit :=
  match _h : g.enter? path n with
  | none => []
  | some v =>
    ⟨[], n⟩ :: v.references.zipIdx.flatMap fun t =>
      (g.visits (n :: path) t.1).map (Visit.behind t.2)
termination_by g.unseen path
decreasing_by exact unseen_lt_of_enter? _h

section

variable {g : Graph} {path : List NodeId} {n : NodeId} {v : Node}

theorem visits_of_none (h : g.enter? path n = none) : g.visits path n = [] := by
  rw [visits]
  split <;> simp_all

theorem visits_of_some (h : g.enter? path n = some v) :
    g.visits path n = ⟨[], n⟩ :: v.references.zipIdx.flatMap fun t =>
      (g.visits (n :: path) t.1).map (Visit.behind t.2) := by
  rw [visits]
  split <;> simp_all

/-- Induction over what a search enters. -/
@[elab_as_elim]
theorem enter_induction (g : Graph) {P : List NodeId → NodeId → Prop}
    (none : ∀ path n, g.enter? path n = none → P path n)
    (some : ∀ path n v, g.enter? path n = some v → (∀ t, P (n :: path) t) → P path n)
    (path : List NodeId) (n : NodeId) : P path n := by
  induction path, n using visits.induct g with
  | case1 path n h => exact none path n h
  | case2 path n v h ih => exact some path n v h fun t => ih (t, 0)

/-- A search does not enter the nodes on its path. -/
theorem not_mem_of_mem_visits {x : Visit} (hx : x ∈ g.visits path n) : x.node ∉ path := by
  induction path, n using enter_induction g generalizing x with
  | none path n hv =>
    rw [visits_of_none hv] at hx
    cases hx
  | some path n v hv ih =>
    rw [visits_of_some hv] at hx
    rcases List.mem_cons.mp hx with rfl | hx
    · exact (enter?_eq_some_iff.mp hv).1
    · obtain ⟨t, -, hx⟩ := List.mem_flatMap.mp hx
      obtain ⟨y, hy, rfl⟩ := List.mem_map.mp hx
      exact fun hmem => ih t.1 hy (List.mem_cons_of_mem _ hmem)

/-- A search that has a node on its path does not see what takes the place of this node. -/
theorem visits_replace_of_mem (hn : n ∈ path) (v : Node) (m : NodeId) :
    (g.replace n v).visits path m = g.visits path m := by
  have henter : ∀ {path : List NodeId}, n ∈ path → ∀ m,
      (g.replace n v).enter? path m = g.enter? path m := by
    intro path hn m
    by_cases hm : m ∈ path
    · rw [enter?_of_mem hm, enter?_of_mem hm]
    · rw [enter?_of_not_mem hm, enter?_of_not_mem hm,
        node?_replace_of_ne (ne_of_mem_of_not_mem hn hm).symm]
  induction path, m using enter_induction g with
  | none path m hv => rw [visits_of_none hv, visits_of_none ((henter hn m).trans hv)]
  | some path m w hv ih =>
    rw [visits_of_some hv, visits_of_some ((henter hn m).trans hv)]
    refine congrArg _ (List.flatMap_congr fun t _ => ?_)
    rw [ih t.1 (List.mem_cons_of_mem m hn)]

/-- **A search goes every way that it can go**, and no other. -/
theorem mem_visits_iff {way : List Nat} {m : NodeId} :
    ⟨way, m⟩ ∈ g.visits path n ↔ g.arrive? path n way = some m := by
  induction way generalizing path n with
  | nil =>
    rw [arrive?]
    cases h : g.enter? path n with
    | none => simp [visits_of_none h]
    | some v => simp [visits_of_some h, Visit.behind, eq_comm]
  | cons i way ih =>
    rw [arrive?]
    cases h : g.enter? path n with
    | none => simp [visits_of_none h]
    | some v =>
      simp only [visits_of_some h, List.mem_cons, Visit.mk.injEq, reduceCtorEq, false_and,
        false_or, List.mem_flatMap, List.mem_map, Prod.exists, List.mk_mem_zipIdx_iff_getElem?,
        Option.bind_some, Option.bind_eq_some_iff]
      constructor
      · rintro ⟨t, j, ht, x, hx, hbehind⟩
        obtain ⟨hway, rfl⟩ := Visit.mk.inj hbehind
        obtain ⟨rfl, rfl⟩ := List.cons.inj hway
        exact ⟨t, ht, ih.mp hx⟩
      · rintro ⟨t, ht, hm⟩
        exact ⟨t, i, ht, _, ih.mpr hm, rfl⟩

/-- **A search goes its ways in lexicographic order**, each of them once. -/
theorem pairwise_visits (g : Graph) (path : List NodeId) (n : NodeId) :
    (g.visits path n).Pairwise Visit.Before := by
  induction path, n using enter_induction g with
  | none path n h =>
    rw [visits_of_none h]
    exact .nil
  | some path n v h ih =>
    have hpositions : v.references.zipIdx.Pairwise fun s t => s.2 < t.2 :=
      List.pairwise_iff_getElem.mpr fun i j _ _ hij => by simpa using hij
    rw [visits_of_some h, List.pairwise_cons, List.pairwise_flatMap]
    refine ⟨fun x hx => ?_, fun t _ => ?_, hpositions.imp fun hlt x hx y hy => ?_⟩
    · obtain ⟨t, -, hx⟩ := List.mem_flatMap.mp hx
      obtain ⟨y, -, rfl⟩ := List.mem_map.mp hx
      exact Visit.before_behind n t.2 y
    · rw [List.pairwise_map]
      exact (ih t.1).imp fun hbefore => hbefore.behind t.2
    · obtain ⟨x, -, rfl⟩ := List.mem_map.mp hx
      obtain ⟨y, -, rfl⟩ := List.mem_map.mp hy
      exact Visit.behind_before_behind hlt x y

/-- **A node is entered as often as there are ways to it.** -/
theorem countP_visits (g : Graph) (path : List NodeId) (n m : NodeId) (ways : Finset (List Nat))
    (h : ∀ way, way ∈ ways ↔ g.arrive? path n way = some m) :
    (g.visits path n).countP (fun x => x.node = m) = ways.card := by
  have hnodup : (g.visits path n).Nodup := (g.pairwise_visits path n).imp Visit.Before.ne
  have hways : ((g.visits path n).filter fun x => x.node = m).toFinset =
      ways.image fun way => ⟨way, m⟩ := by
    ext ⟨way, m'⟩
    simp only [List.mem_toFinset, List.mem_filter, decide_eq_true_eq, Finset.mem_image,
      Visit.mk.injEq, h, mem_visits_iff]
    constructor
    · rintro ⟨hway, rfl⟩
      exact ⟨way, hway, rfl, rfl⟩
    · rintro ⟨way', hway, rfl, rfl⟩
      exact ⟨hway, rfl⟩
  rw [List.countP_eq_length_filter, ← List.toFinset_card_of_nodup (hnodup.filter _), hways,
    Finset.card_image_of_injective _ fun _ _ heq => (Visit.mk.inj heq).1]

end

end Graph

end Biomes
