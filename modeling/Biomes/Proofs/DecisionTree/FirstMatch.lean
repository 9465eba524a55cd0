import Biomes.Compile.Classifier
import Mathlib

/-!
# The first match wins

A tree classifies a place by a loop that takes one child at each level and never turns back.  What
the loop computes can be said without it: the biome of a place is the one on the node whose address
is a *first match*.  No node above it has a biome, each node on the way down to it accepts the
place, and each earlier sibling of a node on the way rejects the place.

* `DecisionTree.at?`: the node at an address, which lists the positions of the children on the way;
* `DecisionTree.isFirstMatch_nil` and `isFirstMatch_cons`: a first match, one level at a time;
* `DecisionTree.classify_eq_some_iff`: the loop finds the first match;
* `DecisionTree.IsFirstMatch.unique`: there is at most one.
-/

namespace Biomes.DecisionTree

/-- What holds of a node whenever it holds of its children holds of every tree. -/
theorem induct {P : DecisionTree → Prop}
    (node : ∀ b i ts, (∀ t ∈ ts, P t) → P (.node b i ts)) : ∀ t, P t
  | .node b i ts => node b i ts fun t _ => induct node t

/-! ### Nodes and their addresses -/

/-- The node that is reached by taking, level by level, the child at the next position of a list. -/
def at? (t : DecisionTree) : List Nat → Option DecisionTree
  | [] => some t
  | k :: ks => t.children[k]?.bind fun u => u.at? ks

@[simp] theorem at?_nil (t : DecisionTree) : t.at? [] = some t := rfl

theorem at?_cons (t : DecisionTree) (k : Nat) (ks : List Nat) :
    t.at? (k :: ks) = t.children[k]?.bind fun u => u.at? ks := rfl

theorem at?_singleton (t : DecisionTree) (k : Nat) : t.at? [k] = t.children[k]? := by
  rw [at?_cons]
  cases t.children[k]? <;> rfl

theorem at?_cons_of_some {t u : DecisionTree} {k : Nat} (hu : t.children[k]? = some u)
    (ks : List Nat) : t.at? (k :: ks) = u.at? ks := by
  rw [at?_cons, hu, Option.bind_some]

/-- The node at an address is the **first match** of a place: it has the biome, no node above it has
one, and on the way down to it each node accepts the place while its earlier siblings reject it. -/
structure IsFirstMatch (t : DecisionTree) (p : Point) (ks : List Nat) (i : BiomeId) : Prop where
  carries : ∃ u, t.at? ks = some u ∧ u.biome = some i
  unshadowed : ∀ js, js <+: ks → js ≠ ks → ∀ u, t.at? js = some u → u.biome = none
  accepts : ∀ js k, js ++ [k] <+: ks → ∀ u, t.at? (js ++ [k]) = some u → u.accepts p = true
  rejects : ∀ js k, js ++ [k] <+: ks → ∀ j < k, ∀ u, t.at? (js ++ [j]) = some u →
    u.accepts p = false

section

variable {t u : DecisionTree} {p : Point} {ks : List Nat} {i : BiomeId}

/-- The start of a tree is a first match exactly when it has the biome itself. -/
theorem isFirstMatch_nil : t.IsFirstMatch p [] i ↔ t.biome = some i := by
  constructor
  · rintro ⟨⟨u, hu, hi⟩, -, -, -⟩
    rw [at?_nil, Option.some.injEq] at hu
    rwa [hu]
  · intro hi
    have hlong : ∀ (js : List Nat) (k : Nat), ¬ js ++ [k] <+: [] := by
      intro js k h
      simpa using List.prefix_nil.mp h
    refine ⟨⟨t, rfl, hi⟩, ?_, ?_, ?_⟩
    · intro js h hne
      exact absurd (List.prefix_nil.mp h) hne
    · intro js k h
      exact absurd h (hlong js k)
    · intro js k h
      exact absurd h (hlong js k)

/-- A first match below a child: the start has no biome, the child is the first one that accepts the
place, and the rest of the address is a first match from there. -/
theorem isFirstMatch_cons {k : Nat} :
    t.IsFirstMatch p (k :: ks) i ↔
      t.biome = none ∧ ∃ u, t.children[k]? = some u ∧ u.accepts p = true ∧
        (∀ j < k, ∀ v, t.children[j]? = some v → v.accepts p = false) ∧
        u.IsFirstMatch p ks i := by
  constructor
  · rintro ⟨⟨v, hv, hi⟩, hbiome, haccepts, hrejects⟩
    obtain ⟨u, hu, hv⟩ : ∃ u, t.children[k]? = some u ∧ u.at? ks = some v := by
      rwa [at?_cons, Option.bind_eq_some_iff] at hv
    have hdown := at?_cons_of_some hu
    refine ⟨hbiome [] List.nil_prefix (by simp) t rfl, u, hu, ?_, ?_, ⟨v, hv, hi⟩, ?_, ?_, ?_⟩
    · apply haccepts [] k (by simp) u
      rw [List.nil_append, at?_singleton, hu]
    · intro j hj v hv
      apply hrejects [] k (by simp) j hj v
      rw [List.nil_append, at?_singleton, hv]
    · intro js h hne w hw
      apply hbiome (k :: js) ((List.prefix_cons_inj k).mpr h) (by simpa using hne) w
      rw [hdown, hw]
    · intro js k' h w hw
      apply haccepts (k :: js) k' ((List.prefix_cons_inj k).mpr h) w
      rw [List.cons_append, hdown, hw]
    · intro js k' h j hj w hw
      apply hrejects (k :: js) k' ((List.prefix_cons_inj k).mpr h) j hj w
      rw [List.cons_append, hdown, hw]
  · rintro ⟨hnone, u, hu, haccept, hreject, ⟨v, hv, hi⟩, hbiome, haccepts, hrejects⟩
    have hdown := at?_cons_of_some hu
    -- A prefix of the longer address is empty or starts with the child that was taken.
    refine ⟨⟨v, by rw [hdown, hv], hi⟩, ?_, ?_, ?_⟩
    · intro js h hne w hw
      rcases List.prefix_cons_iff.mp h with rfl | ⟨js, rfl, hjs⟩
      · rw [at?_nil, Option.some.injEq] at hw
        rw [← hw, hnone]
      · rw [hdown] at hw
        exact hbiome js hjs (by simpa using hne) w hw
    · intro js k' h w hw
      cases js with
      | nil =>
        obtain ⟨rfl, -⟩ := List.cons_prefix_cons.mp h
        rw [List.nil_append, at?_singleton, hu, Option.some.injEq] at hw
        rw [← hw, haccept]
      | cons j js =>
        obtain ⟨rfl, hjs⟩ := List.cons_prefix_cons.mp h
        rw [List.cons_append, hdown] at hw
        exact haccepts js k' hjs w hw
    · intro js k' h j hj w hw
      cases js with
      | nil =>
        obtain ⟨rfl, -⟩ := List.cons_prefix_cons.mp h
        rw [List.nil_append, at?_singleton] at hw
        exact hreject j hj w hw
      | cons l js =>
        obtain ⟨rfl, hjs⟩ := List.cons_prefix_cons.mp h
        rw [List.cons_append, hdown] at hw
        exact hrejects js k' hjs j hj w hw

end

/-! ### What the descent finds -/

/-- Of several nodes, the descent goes on in the first one that accepts the place. -/
theorem classifyFirst_eq (p : Point) (ts : List DecisionTree) :
    classifyFirst p ts = (ts.find? fun t => t.accepts p).bind fun t => t.classify p := by
  induction ts with
  | nil => rfl
  | cons t ts ih =>
    rw [classifyFirst, List.find?_cons]
    cases ht : t.accepts p with
    | true => rfl
    | false => exact ih

theorem classify_of_some {t : DecisionTree} {i : BiomeId} (h : t.biome = some i) (p : Point) :
    t.classify p = some i := by
  obtain ⟨b, _, ts⟩ := t
  cases h
  rfl

theorem classify_of_none {t : DecisionTree} (h : t.biome = none) (p : Point) :
    t.classify p = (t.children.find? fun u => u.accepts p).bind fun u => u.classify p := by
  obtain ⟨b, _, ts⟩ := t
  cases h
  exact classifyFirst_eq p ts

section

variable {t : DecisionTree} {p : Point} {ks ks' : List Nat} {i i' : BiomeId}

/-- The descent ends at a first match. -/
theorem exists_isFirstMatch (h : t.classify p = some i) : ∃ ks, t.IsFirstMatch p ks i := by
  induction t using induct with
  | node b c ts ih =>
    cases c with
    | some c => exact ⟨[], isFirstMatch_nil.mpr h⟩
    | none =>
      rw [classify_of_none rfl, Option.bind_eq_some_iff] at h
      -- The search among the children finds the first one that accepts the place.
      obtain ⟨u, hu, h⟩ := h
      obtain ⟨haccept, k, hk, rfl, hreject⟩ := List.find?_eq_some_iff_getElem.mp hu
      obtain ⟨ks, hks⟩ := ih ts[k] (List.getElem_mem hk) h
      refine ⟨k :: ks, isFirstMatch_cons.mpr
        ⟨rfl, ts[k], List.getElem?_eq_getElem hk, haccept, ?_, hks⟩⟩
      intro j hj v hv
      obtain ⟨hlt, rfl⟩ := List.getElem?_eq_some_iff.mp hv
      simpa using hreject j hj

/-- A first match is where the descent ends. -/
theorem IsFirstMatch.classify_eq (h : t.IsFirstMatch p ks i) : t.classify p = some i := by
  induction ks generalizing t with
  | nil => exact classify_of_some (isFirstMatch_nil.mp h) p
  | cons k ks ih =>
    obtain ⟨hnone, u, hu, haccept, hreject, hks⟩ := isFirstMatch_cons.mp h
    obtain ⟨hk, rfl⟩ := List.getElem?_eq_some_iff.mp hu
    have hfind : (t.children.find? fun v => v.accepts p) = some t.children[k] := by
      refine List.find?_eq_some_iff_getElem.mpr ⟨haccept, k, hk, rfl, ?_⟩
      intro j hj
      rw [hreject j hj _ (List.getElem?_eq_getElem (by omega))]
      rfl
    rw [classify_of_none hnone, hfind, Option.bind_some, ih hks]

/-- **The descent computes the first match.** -/
theorem classify_eq_some_iff : t.classify p = some i ↔ ∃ ks, t.IsFirstMatch p ks i :=
  ⟨exists_isFirstMatch, fun ⟨_, h⟩ => h.classify_eq⟩

/-- A place has at most one first match: at each level only one child is the first to accept it. -/
theorem IsFirstMatch.unique (h : t.IsFirstMatch p ks i) (h' : t.IsFirstMatch p ks' i') :
    ks = ks' ∧ i = i' := by
  have hid : i = i' := by
    have := h.classify_eq
    rwa [h'.classify_eq, Option.some.injEq, eq_comm] at this
  refine ⟨?_, hid⟩
  subst hid
  -- Level by level: neither address can stop where the other goes on.
  induction ks generalizing t ks' with
  | nil =>
    cases ks' with
    | nil => rfl
    | cons k' ks' =>
      have hnone := (isFirstMatch_cons.mp h').1
      rw [isFirstMatch_nil.mp h] at hnone
      cases hnone
  | cons k ks ih =>
    obtain ⟨hnone, u, hu, haccept, hreject, hks⟩ := isFirstMatch_cons.mp h
    cases ks' with
    | nil =>
      rw [isFirstMatch_nil.mp h'] at hnone
      cases hnone
    | cons k' ks' =>
      obtain ⟨-, u', hu', haccept', hreject', hks'⟩ := isFirstMatch_cons.mp h'
      -- The earlier of two different children would have to accept the place and to reject it.
      have hk : k = k' := by
        rcases Nat.lt_trichotomy k k' with hlt | heq | hgt
        · rw [hreject' k hlt u hu] at haccept
          cases haccept
        · exact heq
        · rw [hreject k' hgt u' hu'] at haccept'
          cases haccept'
      subst hk
      rw [hu, Option.some.injEq] at hu'
      subst hu'
      rw [ih hks hks']

end

/-- The places whose first match carries a number. -/
def region (t : DecisionTree) (i : BiomeId) : Set Point := {p | ∃ ks, t.IsFirstMatch p ks i}

/-- The regions of two numbers share no place. -/
theorem disjoint_region (t : DecisionTree) {i j : BiomeId} (hij : i ≠ j) :
    Disjoint (t.region i) (t.region j) := by
  rw [Set.disjoint_left]
  rintro p ⟨ks, hi⟩ ⟨ks', hj⟩
  exact hij (hi.unique hj).2

end Biomes.DecisionTree

namespace Biomes.Classifier

/-- **The first match wins.** A place has a biome exactly when a first match in the tree carries it,
and it has none exactly when there is no first match.  A place has at most one first match, so that
the regions of two biomes never overlap. -/
theorem classify_firstMatch (c : Classifier) :
    (∀ p i, c.classify p = some i ↔ ∃ ks, c.tree.IsFirstMatch p ks i) ∧
    (∀ p, c.classify p = none ↔ ∀ ks i, ¬ c.tree.IsFirstMatch p ks i) ∧
    (∀ p ks ks' i i', c.tree.IsFirstMatch p ks i → c.tree.IsFirstMatch p ks' i' →
      ks = ks' ∧ i = i') ∧
    (∀ i j, i ≠ j → Disjoint {p | c.classify p = some i} {p | c.classify p = some j}) := by
  have hiff : ∀ p i, c.classify p = some i ↔ ∃ ks, c.tree.IsFirstMatch p ks i :=
    fun _ _ => DecisionTree.classify_eq_some_iff
  refine ⟨hiff, ?_, fun _ _ _ _ _ h h' => h.unique h', ?_⟩
  · intro p
    rw [Option.eq_none_iff_forall_ne_some]
    constructor
    · intro h ks i hks
      exact h i ((hiff p i).mpr ⟨ks, hks⟩)
    · intro h i hi
      obtain ⟨ks, hks⟩ := (hiff p i).mp hi
      exact h ks i hks
  · intro i j hij
    have hregion : ∀ i, {p | c.classify p = some i} = c.tree.region i :=
      fun i => Set.ext fun p => hiff p i
    rw [hregion, hregion]
    exact c.tree.disjoint_region hij

end Biomes.Classifier
