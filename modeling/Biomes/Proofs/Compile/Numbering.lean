import Biomes.Proofs.Compile.Growth

/-!
# How biomes are numbered

The biomes of a build are its arrivals on branches with names, numbered one after the other until
the numbers run out.  The tables of the draft say so (`Draft.Accounts`), and so do the nodes of the
tree (`Growth.Sound`): the number on a node is the position of an arrival on the node's own branch,
and no two nodes carry the same one.

* `Draft.Accounts.meet`: what an account of the arrivals says holds throughout a compilation;
* `Growth.Sound.grow`: growing keeps the numbers on the nodes sound;
* `Classifier.build_numbers_arrivals`: what both mean for a build.
-/

namespace Biomes

/-! ### The tables -/

/-- The arrivals that get a biome: those on a branch with a name, as long as there are numbers. -/
def Arrival.bound (l : List Arrival) : List Arrival := (l.filter isNamed).take BiomeId.capacity

/-- The biomes that arrivals get: one for each of those on a branch with a name, as long as there
are numbers. -/
def Arrival.biomes (l : List Arrival) : List Biome :=
  ((l.filter isNamed).take BiomeId.capacity).mapIdx fun k a =>
    ⟨.ofIndex k, a.branch.name, a.branch.colour⟩

theorem Arrival.biomes_eq (l : List Arrival) :
    biomes l = (bound l).mapIdx fun k a => ⟨.ofIndex k, a.branch.name, a.branch.colour⟩ :=
  rfl

theorem Arrival.length_bound (l : List Arrival) :
    (bound l).length = min (l.countP isNamed) BiomeId.capacity := by
  rw [bound, List.length_take, List.countP_eq_length_filter, Nat.min_comm]

theorem Arrival.length_biomes (l : List Arrival) :
    (biomes l).length = min (l.countP isNamed) BiomeId.capacity := by
  rw [biomes_eq, List.length_mapIdx, length_bound]

/-- Biome `k` is that of the arrival `k` on a branch with a name. -/
theorem Arrival.getElem?_biomes (l : List Arrival) {k : Nat} (hk : k < BiomeId.capacity) :
    (biomes l)[k]? =
      (l.filter isNamed)[k]?.map fun a => ⟨.ofIndex k, a.branch.name, a.branch.colour⟩ := by
  rw [biomes, List.getElem?_mapIdx, List.getElem?_take_of_lt hk]

section

variable {l : List Arrival} {a : Arrival}

/-- A further arrival on a branch without a name gets no biome. -/
theorem Arrival.bound_concat_of_unnamed (ha : a.isNamed = false) : bound (l ++ [a]) = bound l := by
  rw [bound, List.filter_append, List.filter_cons_of_neg (by simp [ha]), List.filter_nil,
    List.append_nil, bound]

/-- A further arrival gets the next biome, while there are numbers. -/
theorem Arrival.bound_concat_of_lt (ha : a.isNamed = true)
    (hk : l.countP isNamed < BiomeId.capacity) : bound (l ++ [a]) = bound l ++ [a] := by
  have hlength : (l.filter isNamed).length < BiomeId.capacity := by
    rwa [← List.countP_eq_length_filter]
  rw [bound, List.filter_append, List.filter_cons_of_pos ha, List.filter_nil,
    List.take_of_length_le (by rw [List.length_append]; exact hlength), bound,
    List.take_of_length_le (Nat.le_of_lt hlength)]

/-- A further arrival gets no biome when the numbers have run out. -/
theorem Arrival.bound_concat_of_le (hk : BiomeId.capacity ≤ l.countP isNamed) :
    bound (l ++ [a]) = bound l := by
  rw [List.countP_eq_length_filter] at hk
  rw [bound, List.filter_append, List.take_append_of_le_length hk, bound]

theorem Arrival.biomes_concat_of_unnamed (ha : a.isNamed = false) : biomes (l ++ [a]) = biomes l := by
  rw [biomes_eq, bound_concat_of_unnamed ha, biomes_eq]

theorem Arrival.biomes_concat_of_lt (ha : a.isNamed = true)
    (hk : l.countP isNamed < BiomeId.capacity) :
    biomes (l ++ [a]) =
      biomes l ++ [⟨.ofIndex (l.countP isNamed), a.branch.name, a.branch.colour⟩] := by
  rw [biomes_eq, bound_concat_of_lt ha hk, List.mapIdx_concat, length_bound,
    Nat.min_eq_left (Nat.le_of_lt hk), biomes_eq]

theorem Arrival.biomes_concat_of_le (hk : BiomeId.capacity ≤ l.countP isNamed) :
    biomes (l ++ [a]) = biomes l := by
  rw [biomes_eq, bound_concat_of_le hk, biomes_eq]

end

/-- The leaf of a finding on an arrival whose branch has no name. -/
def Finding.unnamed? : Finding → Option NodeId
  | .unnamedLeaf n _ => some n
  | _ => none

/-- The leaf of a finding on an arrival that came when the numbers had run out. -/
def Finding.exhausted? : Finding → Option NodeId
  | .idsExhausted n => some n
  | _ => none

/-- A biome whose number comes next is entered in a new slot. -/
theorem BiomeTable.slots_insert {t : BiomeTable} {b : Biome} (h : b.id.index = t.slots.size) :
    (t.insert b).slots.toList = t.slots.toList ++ [some b] := by
  unfold insert
  rw [if_neg (by omega), h, Nat.sub_self]
  simp

namespace Draft

theorem table_register (d : Draft) (n : NodeId) (b : Biome) :
    (d.register n b).table = d.table.insert b := by
  rw [register, noteReuse_frame]

/-- The draft is the account of some arrivals: each of them has got a biome or is noted. -/
structure Accounts (d : Draft) (l : List Arrival) : Prop where
  counts : d.Counts (l.countP Arrival.isNamed)
  slots : d.table.slots.toList = (Arrival.biomes l).map some
  unnamed : d.findings.toList.filterMap Finding.unnamed? =
    (l.filter fun a => !a.isNamed).map Arrival.leaf
  exhausted : d.findings.toList.filterMap Finding.exhausted? =
    ((l.filter Arrival.isNamed).drop BiomeId.capacity).map Arrival.leaf

namespace Accounts

variable {d : Draft} {l : List Arrival}

theorem blank (g : Graph) : (Draft.blank g).Accounts [] := ⟨rfl, rfl, rfl, rfl⟩

/-- A finding that is not about an arrival changes no account. -/
theorem note (h : d.Accounts l) {f : Finding} (hunnamed : f.unnamed? = none)
    (hexhausted : f.exhausted? = none) : (d.note f).Accounts l := by
  refine ⟨h.counts, h.slots, ?_, ?_⟩
  · rw [findings_note, List.filterMap_append, List.filterMap_cons_none hunnamed]
    exact (List.append_nil _).trans h.unnamed
  · rw [findings_note, List.filterMap_append, List.filterMap_cons_none hexhausted]
    exact (List.append_nil _).trans h.exhausted

theorem inspectAll (h : d.Accounts l) (n : NodeId) (s : Switch) :
    (d.inspectAll n s).Accounts l := by
  have hread : ∀ f : Finding, f.isAboutOutput = true → f.unnamed? = none ∧ f.exhausted? = none := by
    intro f hf
    cases f <;> first | exact ⟨rfl, rfl⟩ | cases hf
  refine ⟨?_, ?_, ?_, ?_⟩
  · unfold Counts
    rw [counter_inspectAll]
    exact h.counts
  · rw [inspectAll_frame]
    exact h.slots
  · rw [filterMap_findings_inspectAll fun f hf => (hread f hf).1]
    exact h.unnamed
  · rw [filterMap_findings_inspectAll fun f hf => (hread f hf).2]
    exact h.exhausted

/-- Binding a leaf accounts for one arrival more. -/
theorem bind (h : d.Accounts l) (n : NodeId) (b : Branch) (depth : Nat) :
    (d.bind n b depth).2.Accounts (l ++ [Arrival.mk n b]) := by
  have hcounts : (d.bind n b depth).2.Counts ((l ++ [Arrival.mk n b]).countP Arrival.isNamed) := by
    rw [List.countP_append, List.countP_singleton]
    exact h.counts.bind n b depth
  rcases h.counts.bind_cases n b depth with ⟨hb, hd⟩ | ⟨hb, hk, hd⟩ | ⟨hb, hk, hd⟩
  · have hnamed : (Arrival.mk n b).isNamed = false := by simp [Arrival.isNamed, hb]
    rw [hd] at hcounts ⊢
    refine ⟨hcounts, ?_, ?_, ?_⟩
    · rw [Arrival.biomes_concat_of_unnamed hnamed]
      exact h.slots
    · rw [findings_note, List.filterMap_append, h.unnamed]
      simp [Finding.unnamed?, hnamed]
    · rw [findings_note, List.filterMap_append, h.exhausted]
      simp [Finding.exhausted?, hnamed]
  · have hnamed : (Arrival.mk n b).isNamed = true := by simp [Arrival.isNamed, hb]
    -- The table is full up to the counter, so that the biome is entered in a new slot.
    have hindex : (BiomeId.ofIndex (l.countP Arrival.isNamed)).index = d.table.slots.size := by
      rw [BiomeId.index_ofIndex hk, ← Array.length_toList, h.slots, List.length_map,
        Arrival.length_biomes, Nat.min_eq_left (Nat.le_of_lt hk)]
    rw [hd] at hcounts ⊢
    refine ⟨hcounts, ?_, ?_, ?_⟩
    · rw [table_register, BiomeTable.slots_insert hindex, h.slots,
        Arrival.biomes_concat_of_lt hnamed hk, List.map_append]
      rfl
    · rw [filterMap_findings_register (fun _ _ _ => rfl), h.unnamed]
      simp [hnamed]
    · rw [filterMap_findings_register (fun _ _ _ => rfl), h.exhausted]
      rw [List.countP_eq_length_filter] at hk
      rw [List.filter_append, List.drop_of_length_le (Nat.le_of_lt hk), List.drop_of_length_le]
      rw [List.filter_cons_of_pos hnamed, List.length_append]
      exact hk
  · have hnamed : (Arrival.mk n b).isNamed = true := by simp [Arrival.isNamed, hb]
    rw [hd] at hcounts ⊢
    refine ⟨hcounts, ?_, ?_, ?_⟩
    · rw [Arrival.biomes_concat_of_le hk]
      exact h.slots
    · rw [findings_note, List.filterMap_append, h.unnamed]
      simp [Finding.unnamed?, hnamed]
    · rw [List.countP_eq_length_filter] at hk
      rw [findings_note, List.filterMap_append, h.exhausted, List.filter_append,
        List.drop_append_of_le_length hk, List.map_append]
      simp [Finding.exhausted?, hnamed]

theorem meet (h : d.Accounts l) (e : Encounter) :
    (d.meet e).Accounts (l ++ e.arrival?.toList) :=
  meet_cases (P := Accounts) (fun _ _ => h.note rfl rfl) (fun _ _ => h.note rfl rfl) h.bind
    h.inspectAll e

end Accounts

/-- The draft at the end of a compilation is the account of all arrivals. -/
theorem accounts_draft (g : Graph) (root : NodeId) : (g.draft root).Accounts (g.arrivals root) :=
  g.draft_induction root (Accounts.blank g) fun _ _ e h => h.meet e

end Draft

/-! ### The tree -/

namespace DecisionTree

mutual

/-- A node and the nodes below it. -/
def nodes : DecisionTree → List DecisionTree
  | .node b i ts => .node b i ts :: nodesAll ts

/-- Several nodes and the nodes below them. -/
def nodesAll : List DecisionTree → List DecisionTree
  | [] => []
  | t :: ts => t.nodes ++ nodesAll ts

end

/-- The number that a node carries, with the branch that leads to the node. -/
def label? (t : DecisionTree) : Option (BiomeId × Branch) := t.biome.map (·, t.branch)

/-- The numbers of some nodes and the nodes below them, with the branches. -/
def labels (ts : List DecisionTree) : List (BiomeId × Branch) := (nodesAll ts).filterMap label?

/-- The labels of a tree are those of its nodes. -/
theorem labels_singleton_eq (t : DecisionTree) : labels [t] = t.nodes.filterMap label? := by
  rw [labels, nodesAll, nodesAll, List.append_nil]

theorem nodesAll_append (ts us : List DecisionTree) :
    nodesAll (ts ++ us) = nodesAll ts ++ nodesAll us := by
  induction ts with
  | nil => rfl
  | cons t ts ih => rw [List.cons_append, nodesAll, nodesAll, ih, List.append_assoc]

theorem labels_append (ts us : List DecisionTree) : labels (ts ++ us) = labels ts ++ labels us := by
  rw [labels, nodesAll_append, List.filterMap_append, labels, labels]

theorem labels_singleton (b : Branch) (i : Option BiomeId) (ts : List DecisionTree) :
    labels [.node b i ts] = (i.map (·, b)).toList ++ labels ts := by
  rw [labels_singleton_eq, nodes]
  cases i with
  | none => rw [List.filterMap_cons_none (by rfl)]; rfl
  | some i => rw [List.filterMap_cons_some (by rfl)]; rfl

mutual

/-- A place is classified by the number on a node. -/
theorem exists_label_of_classify {p : Point} {i : BiomeId} :
    ∀ t : DecisionTree, t.classify p = some i → ∃ b, (i, b) ∈ labels [t]
  | .node b (some j) ts, h => by
    rw [classify, Option.some.injEq] at h
    rw [labels_singleton, h]
    exact ⟨b, List.mem_append_left _ List.mem_cons_self⟩
  | .node b none ts, h => by
    rw [classify] at h
    rw [labels_singleton]
    exact exists_label_of_classifyFirst ts h

theorem exists_label_of_classifyFirst {p : Point} {i : BiomeId} :
    ∀ ts : List DecisionTree, classifyFirst p ts = some i → ∃ b, (i, b) ∈ labels ts
  | [], h => by
    rw [classifyFirst] at h
    cases h
  | t :: ts, h => by
    rw [classifyFirst] at h
    rw [← List.singleton_append, labels_append]
    split at h
    · obtain ⟨b, hb⟩ := exists_label_of_classify t h
      exact ⟨b, List.mem_append_left _ hb⟩
    · obtain ⟨b, hb⟩ := exists_label_of_classifyFirst ts h
      exact ⟨b, List.mem_append_right _ hb⟩

end

end DecisionTree

/-- The numbers that have grown on a branch, each with the branch of its own node. -/
def Growth.labels (b : Branch) (w : Growth) : List (BiomeId × Branch) :=
  DecisionTree.labels [w.shoot.toTree b]

/-- The numbers that have grown on a branch are sound for a list of arrivals: they are positions from
`lo` up to the count, no two of them the same, and each stands on the branch of its arrival. -/
structure Growth.Sound (l : List Arrival) (lo : Nat) (b : Branch) (w : Growth) : Prop where
  lo_le : lo ≤ w.count
  nodup : ((w.labels b).map Prod.fst).Nodup
  bounds : ∀ x ∈ w.labels b, lo ≤ x.1.index ∧ x.1.index < w.count
  branch_eq : ∀ x ∈ w.labels b, (l[x.1.index]?).map Arrival.branch = some x.2

namespace Growth

variable {l : List Arrival} {lo : Nat} {b : Branch} {w : Growth}

theorem labels_eq (b : Branch) (w : Growth) :
    w.labels b =
      (w.shoot.biome.map (·, b)).toList ++ DecisionTree.labels w.shoot.children.toList :=
  DecisionTree.labels_singleton ..

theorem labels_addArm (b b' : Branch) (w arm : Growth) :
    (w.addArm b' arm).labels b = w.labels b ++ arm.labels b' := by
  rw [labels_eq, labels_eq, addArm, Shoot.push, Array.toList_push, DecisionTree.labels_append,
    List.append_assoc, labels]

namespace Sound

theorem empty (l : List Arrival) (k : Nat) (b : Branch) : Sound l k b ⟨k, .empty⟩ := by
  have hlabels : (Growth.mk k .empty).labels b = [] := by
    rw [labels_eq]
    rfl
  refine ⟨Nat.le_refl k, ?_, ?_, ?_⟩
  · rw [hlabels]
    exact List.nodup_nil
  · rw [hlabels]
    exact fun _ h => absurd h List.not_mem_nil
  · rw [hlabels]
    exact fun _ h => absurd h List.not_mem_nil

/-- What is sound stays so when numbers are passed over. -/
theorem skip (h : Sound l lo b w) : Sound l lo b ⟨w.count + 1, w.shoot⟩ := by
  refine ⟨Nat.le_succ_of_le h.lo_le, h.nodup, fun x hx => ?_, h.branch_eq⟩
  obtain ⟨hlo, hlt⟩ := h.bounds x hx
  exact ⟨hlo, Nat.lt_succ_of_lt hlt⟩

/-- The next number can end the branch, in the place of an earlier one. -/
theorem endWith (h : Sound l lo b w) (hk : w.count < BiomeId.capacity) {n : NodeId}
    (hl : l[w.count]? = some ⟨n, b⟩) :
    Sound l lo b ⟨w.count + 1, w.shoot.endWith (some (.ofIndex w.count))⟩ := by
  have hindex := BiomeId.index_ofIndex hk
  have hsub : (DecisionTree.labels w.shoot.children.toList).Sublist (w.labels b) := by
    rw [labels_eq]
    exact List.sublist_append_right ..
  have hlabels : (Growth.mk (w.count + 1) (w.shoot.endWith (some (.ofIndex w.count)))).labels b =
      (.ofIndex w.count, b) :: DecisionTree.labels w.shoot.children.toList := by
    rw [labels_eq]
    rfl
  refine ⟨Nat.le_succ_of_le h.lo_le, ?_, ?_, ?_⟩
  · rw [hlabels, List.map_cons, List.nodup_cons]
    refine ⟨fun hmem => ?_, h.nodup.sublist (hsub.map _)⟩
    -- All earlier numbers lie below the count.
    obtain ⟨x, hx, heq⟩ := List.mem_map.mp hmem
    have := (h.bounds x (hsub.subset hx)).2
    rw [heq, hindex] at this
    exact Nat.lt_irrefl _ this
  · intro x hx
    rw [hlabels] at hx
    rcases List.mem_cons.mp hx with rfl | hx
    · rw [hindex]
      exact ⟨h.lo_le, Nat.lt_succ_self _⟩
    · exact h.skip.bounds x (hsub.subset hx)
  · intro x hx
    rw [hlabels] at hx
    rcases List.mem_cons.mp hx with rfl | hx
    · rw [hindex, hl]
      rfl
    · exact h.branch_eq x (hsub.subset hx)

theorem leaf (h : Sound l lo b w) {n : NodeId}
    (hl : b.name.isEmpty = false → l[w.count]? = some ⟨n, b⟩) :
    Sound l lo b ((Unfolding.leaf n).grow b w) := by
  rw [Unfolding.grow, BiomeId.ofCount?]
  by_cases hb : b.name.isEmpty = true
  · rw [if_pos hb]
    exact h
  · rw [if_neg hb]
    by_cases hk : w.count < BiomeId.capacity
    · rw [if_pos hk]
      exact h.endWith hk (hl (by simpa using hb))
    · rw [if_neg hk]
      exact h.skip

/-- The numbers on a branch of a switch come after those that were given out before. -/
theorem addArm (h : Sound l lo b w) {b' : Branch} {arm : Growth} (harm : Sound l w.count b' arm) :
    Sound l lo b (w.addArm b' arm) := by
  have hcount : (w.addArm b' arm).count = arm.count := rfl
  refine ⟨Nat.le_trans h.lo_le harm.lo_le, ?_, ?_, ?_⟩
  · -- The two ranges of numbers meet at `w.count`, and neither holds a number of the other.
    rw [labels_addArm, List.map_append, List.nodup_append]
    refine ⟨h.nodup, harm.nodup, fun i hi j hj hij => ?_⟩
    obtain ⟨x, hx, rfl⟩ := List.mem_map.mp hi
    obtain ⟨y, hy, rfl⟩ := List.mem_map.mp hj
    have hxlt := (h.bounds x hx).2
    have hyle := (harm.bounds y hy).1
    rw [hij] at hxlt
    omega
  · intro x hx
    rw [labels_addArm] at hx
    rw [hcount]
    rcases List.mem_append.mp hx with hx | hx
    · obtain ⟨hlo, hlt⟩ := h.bounds x hx
      exact ⟨hlo, Nat.lt_of_lt_of_le hlt harm.lo_le⟩
    · obtain ⟨hlo, hlt⟩ := harm.bounds x hx
      exact ⟨Nat.le_trans h.lo_le hlo, hlt⟩
  · intro x hx
    rw [labels_addArm] at hx
    rcases List.mem_append.mp hx with hx | hx
    · exact h.branch_eq x hx
    · exact harm.branch_eq x hx

/-- What grows in an unfolding is sound, if its arrivals are those that come next in the list. -/
theorem grow (h : Sound l lo b w) (u : Unfolding) (hu : Arrival.Next l w.count (u.arrivals b)) :
    Sound l lo b (u.grow b w) := by
  induction u generalizing b lo w with
  | loop n => rwa [Unfolding.grow]
  | missing n => rwa [Unfolding.grow]
  | leaf n =>
    refine h.leaf fun hb => ?_
    rw [Unfolding.arrivals] at hu
    exact hu.getElem?_eq (by simp [Arrival.isNamed, hb])
  | relay n ts ih =>
    rw [Unfolding.arrivals] at hu
    rw [Unfolding.grow]
    -- What the first target adds is sound up to its count, where the arrivals of the others begin.
    induction ts generalizing w with
    | nil => exact h
    | cons t ts ihs =>
      rw [List.flatMap_cons] at hu
      have hcount := Unfolding.count_grow t b w
      refine ihs (fun t' ht' => ih t' (List.mem_cons_of_mem _ ht'))
        (ih t List.mem_cons_self h hu.left) ?_
      rw [hcount]
      exact hu.right
  | switch n s arms ih =>
    rw [Unfolding.arrivals] at hu
    rw [Unfolding.grow]
    induction arms generalizing w with
    | nil => exact h
    | cons a arms ihs =>
      rw [List.flatMap_cons] at hu
      have hcount := Unfolding.count_grow a.2 a.1 ⟨w.count, .empty⟩
      refine ihs (fun a' ha' => ih a' (List.mem_cons_of_mem _ ha'))
        (h.addArm (ih a List.mem_cons_self (.empty l w.count a.1) hu.left)) ?_
      show Arrival.Next l (a.2.grow a.1 ⟨w.count, .empty⟩).count _
      rw [hcount]
      exact hu.right

end Sound

end Growth

/-! ### The build -/

namespace Classifier

/-- The biomes of a build are those of the arrivals. -/
theorem toList_biomes_build (c : Classifier) (g : Graph) (root : NodeId) :
    (c.build g root).classifier.biomes.toList = Arrival.biomes (g.arrivals root) := by
  rw [build_eq]
  show (g.draft root).table.toArray.toList = _
  rw [BiomeTable.toArray, Array.toList_filterMap, (Draft.accounts_draft g root).slots,
    List.filterMap_map]
  exact List.filterMap_some

/-- The biome with a number is the one at this position. -/
theorem biome?_build (c : Classifier) (g : Graph) (root : NodeId) (i : BiomeId) :
    (c.build g root).classifier.biome? i = (Arrival.biomes (g.arrivals root))[i.index]? := by
  rw [build_eq]
  show (g.draft root).table.get? i = _
  rw [BiomeTable.get?, ← Array.getElem?_toList, (Draft.accounts_draft g root).slots,
    List.getElem?_map]
  cases (Arrival.biomes (g.arrivals root))[i.index]? <;> rfl

/-- The numbers in the tree of a build are sound for its arrivals on branches with names. -/
theorem sound_build (g : Graph) (root : NodeId) :
    Growth.Sound (g.namedArrivals root) 0 .start ((g.unfold root).grow .start ⟨0, .empty⟩) := by
  refine (Growth.Sound.empty _ 0 _).grow _ ?_
  rw [Graph.unfold, Graph.arrivals_unfoldFrom]
  exact .self (g.arrivals root)

/-- The numbers on the nodes of the tree of a build are those that have grown. -/
theorem labels_build (c : Classifier) (g : Graph) (root : NodeId) :
    DecisionTree.labels [(c.build g root).classifier.tree] =
      ((g.unfold root).grow .start ⟨0, .empty⟩).labels .start := by
  rw [build_eq]
  rfl

theorem size_biomes_build (c : Classifier) (g : Graph) (root : NodeId) :
    (c.build g root).classifier.biomes.size =
      min ((g.arrivals root).filter Arrival.isNamed).length BiomeId.capacity := by
  rw [← Array.length_toList, toList_biomes_build, Arrival.length_biomes,
    List.countP_eq_length_filter]

/-- Each biome of a build is that of an arrival. -/
theorem exists_arrival_of_lt {c : Classifier} {g : Graph} {root : NodeId} {k : Nat}
    (hk : k < (c.build g root).classifier.biomes.size) :
    ∃ a, ((g.arrivals root).filter Arrival.isNamed)[k]? = some a ∧ k < BiomeId.capacity ∧
      (Arrival.biomes (g.arrivals root))[k]? = some ⟨.ofIndex k, a.branch.name, a.branch.colour⟩ := by
  rw [size_biomes_build] at hk
  have hlt : k < ((g.arrivals root).filter Arrival.isNamed).length := by omega
  have hcap : k < BiomeId.capacity := by omega
  refine ⟨_, List.getElem?_eq_getElem hlt, hcap, ?_⟩
  rw [Arrival.getElem?_biomes _ hcap, List.getElem?_eq_getElem hlt]
  rfl

/-- The numbers in the tree of a build are those of its biomes. -/
theorem index_lt_of_mem_labels {c : Classifier} {g : Graph} {root : NodeId}
    {x : BiomeId × Branch} (hx : x ∈ DecisionTree.labels [(c.build g root).classifier.tree]) :
    x.1.index < (c.build g root).classifier.biomes.size := by
  rw [labels_build] at hx
  have hcount := ((sound_build g root).bounds x hx).2
  rw [Unfolding.count_grow, Graph.unfold, Graph.arrivals_unfoldFrom, Nat.zero_add,
    List.countP_eq_length_filter] at hcount
  rw [size_biomes_build]
  exact Nat.lt_min.mpr ⟨hcount, x.1.index_lt⟩

theorem nodup_nodes_build (c : Classifier) (g : Graph) (root : NodeId) :
    ((c.build g root).classifier.tree.nodes.filterMap DecisionTree.biome).Nodup := by
  have hbiome : DecisionTree.biome = fun t => t.label?.map Prod.fst := by
    funext t
    cases ht : t.biome <;> simp [DecisionTree.label?, ht]
  rw [hbiome, ← List.map_filterMap, ← DecisionTree.labels_singleton_eq, labels_build]
  exact (sound_build g root).nodup

/-- A node of the tree of a build carries the number of a biome with the name and the colour of its
branch. -/
theorem biome?_of_mem_nodes {c : Classifier} {g : Graph} {root : NodeId} {t : DecisionTree}
    (ht : t ∈ (c.build g root).classifier.tree.nodes) {i : BiomeId} (hi : t.biome = some i) :
    (c.build g root).classifier.biome? i = some ⟨i, t.branch.name, t.branch.colour⟩ := by
  have hmem : (i, t.branch) ∈ DecisionTree.labels [(c.build g root).classifier.tree] := by
    rw [DecisionTree.labels_singleton_eq]
    refine List.mem_filterMap.mpr ⟨t, ht, ?_⟩
    rw [DecisionTree.label?, hi, Option.map_some]
  obtain ⟨a, ha, -, hx⟩ := exists_arrival_of_lt (index_lt_of_mem_labels hmem)
  rw [labels_build] at hmem
  have hbranch := (sound_build g root).branch_eq _ hmem
  rw [Graph.namedArrivals, ha, Option.map_some, Option.some.injEq] at hbranch
  rw [biome?_build, hx, hbranch, BiomeId.ofIndex_index]

/-- The leaves of the arrivals on branches without names are noted. -/
theorem unnamed_build (c : Classifier) (g : Graph) (root : NodeId) :
    (c.build g root).findings.toList.filterMap Finding.unnamed? =
      ((g.arrivals root).filter fun a => !a.isNamed).map Arrival.leaf := by
  rw [build_eq, filterMap_findings_finish (fun _ _ => rfl) (fun _ => rfl) (fun _ => rfl)]
  exact (Draft.accounts_draft g root).unnamed

/-- The leaves of the arrivals past the last number are noted. -/
theorem exhausted_build (c : Classifier) (g : Graph) (root : NodeId) :
    (c.build g root).findings.toList.filterMap Finding.exhausted? =
      (((g.arrivals root).filter Arrival.isNamed).drop BiomeId.capacity).map Arrival.leaf := by
  rw [build_eq, filterMap_findings_finish (fun _ _ => rfl) (fun _ => rfl) (fun _ => rfl)]
  exact (Draft.accounts_draft g root).exhausted

/-- Every arrival of a build becomes a biome or is noted. -/
theorem length_arrivals_build (c : Classifier) (g : Graph) (root : NodeId) :
    (g.arrivals root).length = (c.build g root).classifier.biomes.size +
      ((c.build g root).findings.toList.filterMap Finding.unnamed?).length +
        ((c.build g root).findings.toList.filterMap Finding.exhausted?).length := by
  have hnot : (fun a : Arrival => decide ¬a.isNamed = true) = fun a => !a.isNamed := by
    funext a
    cases a.isNamed <;> rfl
  rw [size_biomes_build, unnamed_build, exhausted_build, List.length_map, List.length_map,
    List.length_drop, ← List.countP_eq_length_filter, ← List.countP_eq_length_filter,
    List.length_eq_countP_add_countP Arrival.isNamed, hnot]
  omega

end Classifier

/-- What a build makes of its arrivals: the ones on branches with names become biomes, numbered in
their order as long as there are numbers, and each of the others is noted. -/
structure Build.Numbers (r : Build) (arrivals : List Arrival) : Prop where
  size_biomes : r.classifier.biomes.size =
    min (arrivals.filter Arrival.isNamed).length BiomeId.capacity
  /-- Entry `k` has the number `k`, and is the biome of the `k`-th arrival on a branch with a name. -/
  getElem?_biomes : ∀ k < r.classifier.biomes.size, ∃ a x,
    (arrivals.filter Arrival.isNamed)[k]? = some a ∧ r.classifier.biomes[k]? = some x ∧
      x.id.index = k ∧ x.name = a.branch.name ∧ x.colour = a.branch.colour
  biome?_of_lt : ∀ i : BiomeId, i.index < r.classifier.biomes.size →
    ∃ x, r.classifier.biome? i = some x ∧ x.id = i
  biome?_of_le : ∀ i : BiomeId, r.classifier.biomes.size ≤ i.index → r.classifier.biome? i = none
  nodup_nodes : (r.classifier.tree.nodes.filterMap DecisionTree.biome).Nodup
  biome?_node : ∀ t ∈ r.classifier.tree.nodes, ∀ i, t.biome = some i →
    ∃ x, r.classifier.biome? i = some x ∧ x.name = t.branch.name ∧ x.colour = t.branch.colour
  classify_lt : ∀ p i, r.classifier.classify p = some i → i.index < r.classifier.biomes.size
  unnamed : r.findings.toList.filterMap Finding.unnamed? =
    (arrivals.filter fun a => !a.isNamed).map Arrival.leaf
  exhausted : r.findings.toList.filterMap Finding.exhausted? =
    ((arrivals.filter Arrival.isNamed).drop BiomeId.capacity).map Arrival.leaf
  /-- So each arrival is a biome or is noted, and none is both. -/
  length_eq : arrivals.length =
    r.classifier.biomes.size + (r.findings.toList.filterMap Finding.unnamed?).length +
      (r.findings.toList.filterMap Finding.exhausted?).length

/-- **Biomes are numbered densely, in the order of their arrivals.**  Whatever the graph, the root and
the classifier before, every leaf that a build comes to becomes the biome with the next number, or is
noted as a leaf without a name or as one too many. -/
theorem Classifier.build_numbers (c : Classifier) (g : Graph) (root : NodeId) :
    (c.build g root).Numbers (g.arrivals root) := by
  refine ⟨c.size_biomes_build g root, ?_, ?_, ?_, c.nodup_nodes_build g root, ?_, ?_,
    c.unnamed_build g root, c.exhausted_build g root, c.length_arrivals_build g root⟩
  · intro k hk
    obtain ⟨a, ha, hcap, hx⟩ := exists_arrival_of_lt hk
    refine ⟨a, ⟨.ofIndex k, a.branch.name, a.branch.colour⟩, ha, ?_, BiomeId.index_ofIndex hcap,
      rfl, rfl⟩
    rw [← Array.getElem?_toList, toList_biomes_build, hx]
  · intro i hi
    obtain ⟨a, -, -, hx⟩ := exists_arrival_of_lt hi
    exact ⟨_, (c.biome?_build g root i).trans hx, i.ofIndex_index⟩
  · intro i hi
    rw [biome?_build, List.getElem?_eq_none_iff, ← toList_biomes_build c g root,
      Array.length_toList]
    exact hi
  · intro t ht i hi
    exact ⟨_, biome?_of_mem_nodes ht hi, rfl, rfl⟩
  · intro p i hi
    obtain ⟨b, hb⟩ := DecisionTree.exists_label_of_classify _ hi
    exact index_lt_of_mem_labels hb

end Biomes
