import Biomes.Proofs.Compile.Leaves
import Biomes.Proofs.Compile.Meaning
import Biomes.Proofs.DecisionTree.FirstMatch
import Biomes.Proofs.Single.Order

/-!
# Parts that tile an axis

Let the parts of an axis follow on one another, each beginning where the one before ends
(`SubRange.Tile`).  Some of them may be empty, and the outer bounds may be infinite.  As a part does
not include its lower end, a value of the span belongs to just one of them, and any other value to
none (`SubRange.Tile.existsUnique_iff`).  So if each part leads to a leaf of its own
(`Graph.FansOut`), the tree that is built has one node for each part, and a place gets the biome of
the leaf whose part holds its value (`Classifier.classify_of_tile`).
-/

namespace Biomes

/-! ### Tilings -/

namespace SubRange

/-- Whether a value belongs to a part. -/
def Holds (r : SubRange) (v : Float32) : Prop := r.min < v ∧ v ≤ r.max

/-- Parts that tile the span between two bounds: none is turned around, and each ends where the next
one begins. -/
inductive Tile : List SubRange → Float32 → Float32 → Prop
  | single {r : SubRange} (hr : r.min ≤ r.max) : Tile [r] r.min r.max
  | cons {r : SubRange} {rs : List SubRange} {lo hi : Float32} (hr : r.min ≤ r.max)
      (hnext : (r.max == lo) = true) (hrs : Tile rs lo hi) : Tile (r :: rs) r.min hi

namespace Tile

variable {rs : List SubRange} {lo hi v : Float32} {r : SubRange}

theorem le (h : Tile rs lo hi) : lo ≤ hi := by
  induction h with
  | single hr => exact hr
  | cons hr hnext _ ih => exact Single.le_trans hr (Single.le_trans (Single.le_of_beq hnext) ih)

/-- The parts lie in the span. -/
theorem bounds (h : Tile rs lo hi) (hr : r ∈ rs) : lo ≤ r.min ∧ r.max ≤ hi := by
  induction h with
  | single hle =>
    obtain rfl := List.mem_singleton.mp hr
    obtain ⟨hmin, hmax⟩ := Single.isNaN_of_le hle
    exact ⟨Single.le_refl hmin, Single.le_refl hmax⟩
  | cons hle hnext hrs ih =>
    have hbetween := Single.le_of_beq hnext
    rcases List.mem_cons.mp hr with rfl | hr
    · exact ⟨Single.le_refl (Single.isNaN_of_le hle).1, Single.le_trans hbetween hrs.le⟩
    · obtain ⟨hmin, hmax⟩ := ih hr
      exact ⟨Single.le_trans hle (Single.le_trans hbetween hmin), hmax⟩

/-- A value of a part is one of the span. -/
theorem span_of_holds (h : Tile rs lo hi) (hr : r ∈ rs) (hrv : r.Holds v) : lo < v ∧ v ≤ hi := by
  obtain ⟨hlo, hhi⟩ := h.bounds hr
  exact ⟨Single.lt_of_le_of_lt hlo hrv.1, Single.le_trans hrv.2 hhi⟩

/-- An earlier part ends before a later one begins. -/
theorem pairwise (h : Tile rs lo hi) : rs.Pairwise fun r s => r.max ≤ s.min := by
  induction h with
  | single => exact List.pairwise_singleton ..
  | cons _ hnext hrs ih =>
    refine List.pairwise_cons.mpr ⟨fun s hs => ?_, ih⟩
    exact Single.le_trans (Single.le_of_beq hnext) (hrs.bounds hs).1

/-- There is no gap. -/
theorem exists_holds (h : Tile rs lo hi) (hlo : lo < v) (hhi : v ≤ hi) : ∃ r ∈ rs, r.Holds v := by
  induction h with
  | single => exact ⟨_, List.mem_cons_self, hlo, hhi⟩
  | @cons r rs lo hi _ hnext _ ih =>
    -- The value lies in the first part, or else above the bound where the others begin.
    by_cases hv : v ≤ r.max
    · exact ⟨r, List.mem_cons_self, hlo, hv⟩
    · have hnan := (Single.isNaN_of_le (Single.le_of_beq hnext)).1
      have habove := (Single.lt_iff_not_le hnan (Single.isNaN_of_le hhi).1).mpr hv
      have hback := Single.le_of_beq (Single.beq_symm hnext)
      obtain ⟨s, hs, hsv⟩ := ih (Single.lt_of_le_of_lt hback habove) hhi
      exact ⟨s, List.mem_cons_of_mem _ hs, hsv⟩

/-- There is no overlap. -/
theorem index_unique (h : Tile rs lo hi) {j k : Nat} {r s : SubRange} (hr : rs[j]? = some r)
    (hs : rs[k]? = some s) (hrv : r.Holds v) (hsv : s.Holds v) : j = k := by
  obtain ⟨hj, rfl⟩ := List.getElem?_eq_some_iff.mp hr
  obtain ⟨hk, rfl⟩ := List.getElem?_eq_some_iff.mp hs
  have happart := List.pairwise_iff_getElem.mp h.pairwise
  rcases Nat.lt_trichotomy j k with hlt | heq | hgt
  · exact absurd (Single.le_trans hrv.2 (happart j k hj hk hlt)) (Single.not_le_of_lt hsv.1)
  · exact heq
  · exact absurd (Single.le_trans hsv.2 (happart k j hk hj hgt)) (Single.not_le_of_lt hrv.1)

/-- **A value of the span belongs to just one part, and any other value to none.** -/
theorem existsUnique_iff (h : Tile rs lo hi) :
    (∃! k : Nat, ∃ r : SubRange, rs[k]? = some r ∧ r.Holds v) ↔ lo < v ∧ v ≤ hi := by
  constructor
  · rintro ⟨k, ⟨r, hr, hrv⟩, -⟩
    exact h.span_of_holds (List.mem_of_getElem? hr) hrv
  · rintro ⟨hlo, hhi⟩
    obtain ⟨r, hr, hrv⟩ := h.exists_holds hlo hhi
    obtain ⟨k, hk⟩ := List.mem_iff_getElem?.mp hr
    exact ⟨k, ⟨r, hk, hrv⟩, fun j ⟨s, hs, hsv⟩ => h.index_unique hs hk hsv hrv⟩

end Tile

/-- The branch of a part. -/
def branch (r : SubRange) (axis : Axis) : Branch := ⟨.within axis r.min r.max, r.name, r.colour⟩

theorem accepts_branch {r : SubRange} {axis : Axis} {p : Point} :
    (r.branch axis).test.accepts p = true ↔ r.Holds (p.get axis) :=
  Test.accepts_within

end SubRange

/-! ### Leaves of their own -/

/-- If all arrivals get numbers, and each is at a leaf of its own, then a leaf is given the biome with
the number of its arrival. -/
theorem Arrival.getLast?_given {l : List Arrival} (hnamed : ∀ a ∈ l, a.isNamed = true)
    (hroom : l.length ≤ BiomeId.capacity) (hnodup : (l.map leaf).Nodup) {k : Nat} {a : Arrival}
    (ha : l[k]? = some a) :
    (given l a.leaf).getLast? = some ⟨.ofIndex k, a.branch.name, a.branch.colour⟩ := by
  -- There are numbers for all arrivals, so each gets that of its place in the list.
  have hbound : bound l = l := by
    rw [bound, List.filter_eq_self.mpr hnamed, List.take_of_length_le hroom]
  obtain ⟨hk, rfl⟩ := List.getElem?_eq_some_iff.mp ha
  have hordered : Biome.Ordered (given l l[k].leaf) := (ordered_biomes l).sublist (given_sublist ..)
  rw [hordered.getLast?_eq_some_iff, given, bindings, hbound]
  refine ⟨List.mem_map.mpr ⟨_, List.mem_filter.mpr
    ⟨List.mem_mapIdx.mpr ⟨k, hk, rfl⟩, decide_eq_true rfl⟩, rfl⟩, ?_⟩
  -- No other arrival is at this leaf.
  intro b hb
  obtain ⟨x, hx, rfl⟩ := List.mem_map.mp hb
  obtain ⟨hx, hleaf⟩ := List.mem_filter.mp hx
  obtain ⟨j, hj, rfl⟩ := List.mem_mapIdx.mp hx
  have hjk : j = k := by
    have hj' : j < (l.map leaf).length := by rwa [List.length_map]
    have hk' : k < (l.map leaf).length := by rwa [List.length_map]
    have hsame : (l.map leaf)[j] = (l.map leaf)[k] := by
      rw [List.getElem_map, List.getElem_map]
      exact of_decide_eq_true hleaf
    exact hnodup.getElem_inj_iff.mp hsame
  exact Nat.le_of_eq (congrArg (fun i => (BiomeId.ofIndex i).index) hjk)

namespace Graph

/-- From a root the parts of an axis lead to leaves, each to one of its own. -/
structure FansOut (g : Graph) (root : NodeId) (axis : Axis) (parts : List SubRange)
    (leaves : List NodeId) : Prop where
  root : g.node? root = some (.switch (.ranges axis parts.toArray))
  attached : parts.map (·.attached) = leaves.map fun n => #[n]
  leaf : ∀ n ∈ leaves, ∃ o, g.node? n = some (.leaf o)
  nodup : leaves.Nodup
  named : ∀ r ∈ parts, r.name.isEmpty = false
  room : parts.length ≤ BiomeId.capacity

/-- The branches of a fan with the leaves that they lead to. -/
def fan (axis : Axis) (parts : List SubRange) (leaves : List NodeId) : List (Branch × NodeId) :=
  (parts.zip leaves).map fun x => (x.1.branch axis, x.2)

theorem branches_ranges {axis : Axis} {parts : List SubRange} {leaves : List NodeId}
    (h : parts.map (·.attached) = leaves.map fun n => #[n]) :
    Switch.branches (.ranges axis parts.toArray) = fan axis parts leaves := by
  rw [Switch.branches, Switch.outlets, List.flatMap_map, fan]
  induction parts generalizing leaves with
  | nil => rfl
  | cons r rs ih =>
    cases leaves with
    | nil => cases h
    | cons n ns =>
      obtain ⟨hr, hrs⟩ := List.cons.inj h
      have hr : r.attached = #[n] := hr
      rw [List.flatMap_cons, ih hrs, List.zip_cons_cons, List.map_cons, hr]
      rfl

/-- On a branch with a name, a leaf grows into a node with the next number. -/
theorem treeFrom_of_leaf {g : Graph} {b : Branch} {path : List NodeId} {n : NodeId} {k : Nat}
    {o : Option Biome} (hn : n ∉ path) (hv : g.node? n = some (.leaf o))
    (hb : b.name.isEmpty = false) (hk : k < BiomeId.capacity) :
    g.treeFrom b path n k = .node b (some (.ofIndex k)) [] := by
  have hending : Prospect.endingWithin? BiomeId.capacity b (g.numbered b k [.leaf n]) =
      some (k, n) := by
    rw [Prospect.endingWithin?, if_neg (by rw [hb]; exact Bool.false_ne_true), numbered, numbered,
      List.filterMap_cons_some (b := (k, n)) (by rw [Prospect.leafWithin?, if_pos hk])]
    rfl
  rw [treeFrom_eq, collect_of_leaf hn hv, hending]
  rfl

/-- Where every branch leads to a leaf and has a name, a node grows for each, and the numbers go up
by one. -/
theorem filterMap_arm?_numbered {g : Graph} {b : Branch} {path : List NodeId}
    (as : List (Branch × NodeId)) {k : Nat}
    (has : ∀ a ∈ as, a.1.name.isEmpty = false ∧ a.2 ∉ path ∧ ∃ o, g.node? a.2 = some (.leaf o))
    (hroom : k + as.length ≤ BiomeId.capacity) :
    (g.numbered b k (as.map fun a => .arm a.1 a.2 path)).filterMap g.arm? =
      (as.zipIdx k).map fun a => .node a.1.1 (some (.ofIndex a.2)) [] := by
  induction as generalizing k with
  | nil => rfl
  | cons a as ih =>
    obtain ⟨hb, hn, o, hv⟩ := has a List.mem_cons_self
    -- The branch takes up one number, that of its leaf.
    have hone : (g.arrivalsThrough b (.arm a.1 a.2 path)).countP Arrival.isNamed = 1 := by
      rw [arrivalsThrough, arrivalsFrom_of_leaf hn hv, List.countP_singleton, Arrival.isNamed, hb]
      rfl
    rw [List.length_cons] at hroom
    have hrest := ih (k := k + 1) (fun a ha => has a (List.mem_cons_of_mem _ ha)) (by omega)
    rw [List.map_cons, numbered, hone, List.zipIdx_cons, List.map_cons, ← hrest,
      List.filterMap_cons_some (b := .node a.1 (some (.ofIndex k)) [])]
    rw [arm?, treeFrom_of_leaf hn hv hb (by omega)]

namespace FansOut

variable {g : Graph} {root : NodeId} {axis : Axis} {parts : List SubRange} {leaves : List NodeId}

theorem length_eq (h : g.FansOut root axis parts leaves) : leaves.length = parts.length := by
  rw [← List.length_map (fun n : NodeId => #[n]), ← h.attached, List.length_map]

theorem length_fan (h : g.FansOut root axis parts leaves) :
    (fan axis parts leaves).length = parts.length := by
  rw [fan, List.length_map, List.length_zip, h.length_eq, Nat.min_self]

/-- Each branch of the fan leads to a leaf below the root, and has a name. -/
theorem mem_fan (h : g.FansOut root axis parts leaves) {a : Branch × NodeId}
    (ha : a ∈ fan axis parts leaves) :
    a.1.name.isEmpty = false ∧ a.2 ∉ [root] ∧ ∃ o, g.node? a.2 = some (.leaf o) := by
  obtain ⟨⟨r, n⟩, hx, rfl⟩ := List.mem_map.mp ha
  obtain ⟨hr, hn⟩ := List.of_mem_zip hx
  obtain ⟨o, ho⟩ := h.leaf n hn
  refine ⟨h.named r hr, fun hroot => ?_, o, ho⟩
  -- The root is a switch and no leaf.
  have hroot : n = root := List.mem_singleton.mp hroot
  rw [hroot, h.root] at ho
  cases ho

theorem exists_leaf (h : g.FansOut root axis parts leaves) {k : Nat} {r : SubRange}
    (hr : parts[k]? = some r) : ∃ n, leaves[k]? = some n := by
  refine ⟨_, List.getElem?_eq_getElem ?_⟩
  rw [h.length_eq]
  exact (List.getElem?_eq_some_iff.mp hr).1

theorem getElem?_fan {k : Nat} {r : SubRange} {n : NodeId} (hr : parts[k]? = some r)
    (hn : leaves[k]? = some n) : (fan axis parts leaves)[k]? = some (r.branch axis, n) := by
  have hzip : (parts.zip leaves)[k]? = some (r, n) := List.getElem?_zip_eq_some.mpr ⟨hr, hn⟩
  rw [fan, List.getElem?_map, hzip]
  rfl

theorem collect_eq (h : g.FansOut root axis parts leaves) :
    g.collect [] root = (fan axis parts leaves).map fun a => .arm a.1 a.2 [root] := by
  rw [collect_of_switch List.not_mem_nil h.root, branches_ranges h.attached]

/-- The leaves of a fan are arrived at one after the other. -/
theorem arrivals_eq (h : g.FansOut root axis parts leaves) :
    g.arrivals root = (fan axis parts leaves).map fun a => ⟨a.2, a.1⟩ := by
  rw [arrivals, arrivalsFrom_of_switch List.not_mem_nil h.root, branches_ranges h.attached,
    List.map_eq_flatMap]
  refine List.flatMap_congr fun a ha => ?_
  obtain ⟨-, hn, o, hv⟩ := h.mem_fan ha
  exact arrivalsFrom_of_leaf hn hv

theorem map_leaf_arrivals (h : g.FansOut root axis parts leaves) :
    (g.arrivals root).map Arrival.leaf = leaves := by
  rw [h.arrivals_eq, fan, List.map_map, List.map_map]
  exact List.map_snd_zip (Nat.le_of_eq h.length_eq)

end FansOut

end Graph

/-! ### The build -/

namespace Classifier

variable {g : Graph} {root : NodeId} {axis : Axis} {parts : List SubRange} {leaves : List NodeId}

/-- The tree of a fan has a node for each part, with the number of the part. -/
theorem tree_build_of_fansOut (c : Classifier) (h : g.FansOut root axis parts leaves) :
    (c.build g root).classifier.tree = .node .start none
      ((Graph.fan axis parts leaves).zipIdx.map fun a =>
        .node a.1.1 (some (.ofIndex a.2)) []) := by
  have hroom : 0 + (Graph.fan axis parts leaves).length ≤ BiomeId.capacity := by
    rw [Nat.zero_add, h.length_fan]
    exact h.room
  rw [tree_build, Graph.treeFrom_eq, h.collect_eq,
    Graph.filterMap_arm?_numbered _ (fun a ha => h.mem_fan ha) hroom]
  rfl

/-- The child for a part leads to the biome with the number of the part. -/
theorem getElem?_children_build (c : Classifier) (h : g.FansOut root axis parts leaves) (k : Nat) :
    (c.build g root).classifier.tree.children[k]? =
      parts[k]?.map fun r => .node (r.branch axis) (some (.ofIndex k)) [] := by
  rw [tree_build_of_fansOut c h, DecisionTree.children, List.getElem?_map, List.getElem?_zipIdx]
  cases hr : parts[k]? with
  | none =>
    rw [List.getElem?_eq_none_iff, ← h.length_fan, ← List.getElem?_eq_none_iff] at hr
    rw [hr]
    rfl
  | some r =>
    obtain ⟨n, hn⟩ := h.exists_leaf hr
    rw [Graph.FansOut.getElem?_fan hr hn, Option.map_some, Option.map_some, Nat.zero_add]
    rfl

/-- The leaf of a part carries the biome with the number of the part. -/
theorem leafBiome?_build_of_fansOut (c : Classifier) (h : g.FansOut root axis parts leaves) {k : Nat}
    {r : SubRange} {n : NodeId} (hr : parts[k]? = some r) (hn : leaves[k]? = some n) :
    (c.build g root).graph.leafBiome? n = some ⟨.ofIndex k, r.name, r.colour⟩ := by
  have harrival : (g.arrivals root)[k]? = some ⟨n, r.branch axis⟩ := by
    rw [h.arrivals_eq, List.getElem?_map, Graph.FansOut.getElem?_fan hr hn]
    rfl
  have hnamed : ∀ a ∈ g.arrivals root, a.isNamed = true := by
    intro a ha
    rw [h.arrivals_eq] at ha
    obtain ⟨x, hx, rfl⟩ := List.mem_map.mp ha
    rw [Arrival.isNamed, (h.mem_fan hx).1]
    rfl
  have hroom : (g.arrivals root).length ≤ BiomeId.capacity := by
    rw [h.arrivals_eq, List.length_map, h.length_fan]
    exact h.room
  have hgiven := Arrival.getLast?_given hnamed hroom (h.map_leaf_arrivals ▸ h.nodup) harrival
  rw [leafBiome?_build, hgiven]
  rfl

/-- A child accepts the places whose value belongs to its part. -/
theorem accepts_child_iff (c : Classifier) (h : g.FansOut root axis parts leaves) {p : Point} {k : Nat}
    {u : DecisionTree} (hu : (c.build g root).classifier.tree.children[k]? = some u) :
    u.accepts p = true ↔ ∃ r : SubRange, parts[k]? = some r ∧ r.Holds (p.get axis) := by
  rw [getElem?_children_build c h] at hu
  obtain ⟨r, hr, rfl⟩ := Option.map_eq_some_iff.mp hu
  constructor
  · intro haccepts
    exact ⟨r, hr, SubRange.accepts_branch.mp haccepts⟩
  · rintro ⟨s, hs, hsv⟩
    obtain rfl : r = s := Option.some.inj (hr.symm.trans hs)
    exact SubRange.accepts_branch.mpr hsv

/-- A place gets its biome from the first child that accepts it. -/
theorem classify_build_of_fansOut (c : Classifier) (h : g.FansOut root axis parts leaves)
    (p : Point) : (c.build g root).classifier.classify p =
      ((c.build g root).classifier.tree.children.find? fun u => u.accepts p).bind fun u =>
        u.classify p := by
  have hbiome : (c.build g root).classifier.tree.biome = none := by
    rw [tree_build_of_fansOut c h]
    rfl
  rw [classify, DecisionTree.classify_of_none hbiome]

/-- A place whose value belongs to a single part gets the biome with the number of the part. -/
theorem classify_build_of_holds (c : Classifier) (h : g.FansOut root axis parts leaves) {p : Point}
    {k : Nat} {r : SubRange} (hr : parts[k]? = some r) (hrv : r.Holds (p.get axis))
    (hunique : ∀ j s, parts[j]? = some s → s.Holds (p.get axis) → j = k) :
    (c.build g root).classifier.classify p = some (.ofIndex k) := by
  have hchild : (c.build g root).classifier.tree.children[k]? =
      some (.node (r.branch axis) (some (.ofIndex k)) []) := by
    rw [getElem?_children_build c h, hr]
    rfl
  obtain ⟨hk, hget⟩ := List.getElem?_eq_some_iff.mp hchild
  have hfind : (c.build g root).classifier.tree.children.find? (fun u => u.accepts p) =
      some (.node (r.branch axis) (some (.ofIndex k)) []) := by
    refine List.find?_eq_some_iff_getElem.mpr
      ⟨(accepts_child_iff c h hchild).mpr ⟨r, hr, hrv⟩, k, hk, hget, ?_⟩
    -- An earlier child that accepts the place would be that of the same part.
    intro j hj
    rw [Bool.not_eq_true']
    refine Bool.eq_false_iff.mpr fun haccepts => ?_
    obtain ⟨s, hs, hsv⟩ := (accepts_child_iff c h (List.getElem?_eq_getElem _)).mp haccepts
    exact Nat.ne_of_lt hj (hunique j s hs hsv)
  rw [classify_build_of_fansOut c h, hfind]
  rfl

/-- No child accepts a place whose value belongs to no part. -/
theorem not_accepts_of_not_holds (c : Classifier) (h : g.FansOut root axis parts leaves) {p : Point}
    (hnone : ∀ r ∈ parts, ¬r.Holds (p.get axis)) :
    ∀ u ∈ (c.build g root).classifier.tree.children, u.accepts p = false := by
  intro u hu
  obtain ⟨k, hk⟩ := List.mem_iff_getElem?.mp hu
  refine Bool.eq_false_iff.mpr fun haccepts => ?_
  obtain ⟨r, hr, hrv⟩ := (accepts_child_iff c h hk).mp haccepts
  exact hnone r (List.mem_of_getElem? hr) hrv

theorem classify_build_of_not_holds (c : Classifier) (h : g.FansOut root axis parts leaves)
    {p : Point} (hnone : ∀ r ∈ parts, ¬r.Holds (p.get axis)) :
    (c.build g root).classifier.classify p = none := by
  have hfind : (c.build g root).classifier.tree.children.find? (fun u => u.accepts p) = none :=
    List.find?_eq_none.mpr fun u hu => by
      rw [not_accepts_of_not_holds c h hnone u hu]
      exact Bool.false_ne_true
  rw [classify_build_of_fansOut c h, hfind]
  rfl

/-- **Parts that tile a span classify it without gap and without overlap.**  Let the parts of an axis
tile a span, and let the root lead from each to a leaf of its own.  The tree that is built has a child
for each part.  A place whose value lies above the lower end of the span and not above its upper end
is accepted by just one of them, that of the part to which the value belongs; where two parts meet,
this is the one that ends there.  The place gets the biome that the leaf of this part carries, which
has the name of the part.  No child accepts any other place, and it gets no biome: among them are
those at the lower end, and those whose value is `NaN`. -/
theorem classify_of_tile (c : Classifier) {lo hi : Float32} (hfan : g.FansOut root axis parts leaves)
    (htile : SubRange.Tile parts lo hi) (p : Point) :
    (c.build g root).classifier.tree.children.length = parts.length ∧
      (lo < p.get axis ∧ p.get axis ≤ hi →
        ∃ (k : Nat) (r : SubRange) (n : NodeId) (b : Biome),
          parts[k]? = some r ∧ leaves[k]? = some n ∧ r.min < p.get axis ∧ p.get axis ≤ r.max ∧
            (∀ j s, parts[j]? = some s → s.min < s.max → (p.get axis == s.max) = true → j = k) ∧
            (∀ j u, (c.build g root).classifier.tree.children[j]? = some u →
              (u.accepts p = true ↔ j = k)) ∧
            (c.build g root).graph.leafBiome? n = some b ∧ b.name = r.name ∧
            (c.build g root).classifier.classify p = some b.id) ∧
      (¬(lo < p.get axis ∧ p.get axis ≤ hi) →
        (∀ u ∈ (c.build g root).classifier.tree.children, u.accepts p = false) ∧
          (c.build g root).classifier.classify p = none) ∧
      ((p.get axis == lo) = true ∨ (p.get axis).isNaN = true →
        (c.build g root).classifier.classify p = none) := by
  have hlength : (c.build g root).classifier.tree.children.length = parts.length := by
    rw [tree_build_of_fansOut c hfan, DecisionTree.children, List.length_map, List.length_zipIdx,
      hfan.length_fan]
  have hnot (hv : ¬(lo < p.get axis ∧ p.get axis ≤ hi)) : ∀ r ∈ parts, ¬r.Holds (p.get axis) :=
    fun r hr hrv => hv (htile.span_of_holds hr hrv)
  refine ⟨hlength, ?_, fun hv => ⟨not_accepts_of_not_holds c hfan (hnot hv),
    classify_build_of_not_holds c hfan (hnot hv)⟩, ?_⟩
  · rintro ⟨hlo, hhi⟩
    obtain ⟨k, ⟨r, hk, hrv⟩, hk_unique⟩ := htile.existsUnique_iff.mpr ⟨hlo, hhi⟩
    obtain ⟨n, hn⟩ := hfan.exists_leaf hk
    have hunique : ∀ j s, parts[j]? = some s → s.Holds (p.get axis) → j = k :=
      fun j s hs hsv => hk_unique j ⟨s, hs, hsv⟩
    refine ⟨k, r, n, _, hk, hn, hrv.1, hrv.2, ?_, ?_, leafBiome?_build_of_fansOut c hfan hk hn, rfl,
      classify_build_of_holds c hfan hk hrv hunique⟩
    · intro j s hs hlt heq
      have hback := Single.le_of_beq (Single.beq_symm heq)
      exact hunique j s hs ⟨Single.lt_of_lt_of_le hlt hback, Single.le_of_beq heq⟩
    · intro j u hu
      rw [accepts_child_iff c hfan hu]
      constructor
      · rintro ⟨s, hs, hsv⟩
        exact hunique j s hs hsv
      · rintro rfl
        exact ⟨r, hk, hrv⟩
  · intro hv
    refine classify_build_of_not_holds c hfan (hnot fun hspan => ?_)
    rcases hv with heq | hnan
    · exact Single.not_le_of_lt hspan.1 (Single.le_of_beq heq)
    · rw [(Single.isNaN_of_le hspan.2).1] at hnan
      cases hnan

end Classifier

/-! ### A seam at zero -/

namespace Graph

variable (colour : Colour)

/-- Land below and above zero, with an empty part between them. -/
def seamParts : List SubRange :=
  [⟨"below", -1, 0, -1, 1, colour, #[.ofIndex 1]⟩, ⟨"seam", -0, 0, -1, 1, colour, #[.ofIndex 2]⟩,
    ⟨"above", -0, 1, -1, 1, colour, #[.ofIndex 3]⟩]

def seam : Graph :=
  ⟨#[.switch (.ranges .height (seamParts colour).toArray), .leaf none, .leaf none, .leaf none]⟩

theorem tile_seamParts : SubRange.Tile (seamParts colour) (-1) 1 :=
  .cons (by show (-1 : Float32) ≤ 0; decide) (by show ((0 : Float32) == -0) = true; decide)
    (.cons (by show (-0 : Float32) ≤ 0; decide) (by show ((0 : Float32) == -0) = true; decide)
      (.single (by show (-0 : Float32) ≤ 1; decide)))

theorem fansOut_seam : (seam colour).FansOut (.ofIndex 0) .height (seamParts colour)
    [.ofIndex 1, .ofIndex 2, .ofIndex 3] where
  root := rfl
  attached := rfl
  leaf := by
    simp only [List.mem_cons, List.not_mem_nil, or_false, forall_eq_or_imp, forall_eq]
    exact ⟨⟨none, rfl⟩, ⟨none, rfl⟩, none, rfl⟩
  nodup := by decide
  named := by simp [seamParts]
  room := by simp [seamParts, BiomeId.capacity]

end Graph

/-- A place at zero belongs to the land below. -/
theorem Classifier.classify_build_seam :
    (Graph.seam .black).FansOut (.ofIndex 0) .height (Graph.seamParts .black)
        [.ofIndex 1, .ofIndex 2, .ofIndex 3] ∧
      SubRange.Tile (Graph.seamParts .black) (-1) 1 ∧
      ∃ b, ((unbuilt defaultTolerance).build (.seam .black) (.ofIndex 0)).graph.leafBiome?
          (.ofIndex 1) = some b ∧ b.name = "below" ∧
        ((unbuilt defaultTolerance).build (.seam .black) (.ofIndex 0)).classifier.classify
          (.sample false 0 0 0) = some b.id := by
  have hfan := Graph.fansOut_seam .black
  have htile := Graph.tile_seamParts .black
  refine ⟨hfan, htile, ?_⟩
  obtain ⟨-, hspan, -⟩ :=
    classify_of_tile (unbuilt defaultTolerance) hfan htile (.sample false 0 0 0)
  obtain ⟨k, r, n, b, hr, hn, -, -, hends, -, hleaf, hname, hclassify⟩ := hspan (by decide)
  obtain rfl : 0 = k := hends 0 _ rfl (by decide) (by decide)
  obtain rfl := Option.some.inj hr
  obtain rfl := Option.some.inj hn
  exact ⟨b, hleaf, hname, hclassify⟩

end Biomes
