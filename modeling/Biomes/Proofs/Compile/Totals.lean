import Biomes.Graph.Wiring
import Biomes.Proofs.Compile.Growth
import Biomes.Proofs.Graph.Prune
import Biomes.Proofs.Graph.Visits

/-!
# What the coverage of an axis adds up to

Every time that a search enters a switch, each output that something is attached to takes up a share
of the switch's axis.  The coverage of an axis after a build is the sum of these shares, from zero
and in the order in which the search enters the switches (`Draft.get_coverage_meetAll`,
`Graph.shares_unfoldFrom`).  How many nodes are attached to an output, and whether any of
them leads to a biome, makes no difference, as long as no other switch is behind them
(`Graph.SameButIdle.shares_eq`, `Classifier.coverage_build_connect`).
-/

namespace Biomes

/-! ### Shares -/

/-- The shares of its axis that a switch takes up: half of the water axis for each side, and for a
part of another axis its length against that of the whole, which must be positive.  An output that
nothing is attached to takes up none. -/
def Switch.shares : Switch → List Float32
  | .shore dry wet =>
    [dry, wet].filterMap fun attached => if attached.isEmpty then none else some 0.5
  | .ranges _ parts =>
    parts.toList.filterMap fun r =>
      if r.attached.isEmpty then none
      else if 0 < r.axisMax - r.axisMin then some ((r.max - r.min) / (r.axisMax - r.axisMin))
      else none

/-- The share that an output takes up. -/
def Outlet.taken? (o : Outlet) : Option Float32 := if o.attached.isEmpty then none else o.share

theorem Switch.shares_eq (s : Switch) : s.shares = s.outlets.filterMap Outlet.taken? := by
  cases s with
  | shore dry wet => simp [shares, outlets, Outlet.taken?, List.filterMap_cons]
  | ranges axis parts =>
    rw [shares, outlets, List.filterMap_map]
    exact List.filterMap_congr fun r _ => by simp [Outlet.taken?, SubRange.share]

/-- The shares of an axis that a node takes up. -/
def Node.shares (a : Axis) : Node → List Float32
  | .switch s => if s.axis = a then s.shares else []
  | _ => []

namespace Graph

/-- The shares of an axis that the node with a number takes up. -/
def sharesAt (g : Graph) (a : Axis) (n : NodeId) : List Float32 :=
  ((g.node? n).map (Node.shares a)).getD []

/-- The shares of an axis that are taken up when a search comes to a node on a path. -/
def sharesFrom (g : Graph) (a : Axis) (path : List NodeId) (n : NodeId) : List Float32 :=
  (g.visits path n).flatMap fun x => g.sharesAt a x.node

section

variable {g : Graph} {a : Axis} {path : List NodeId} {n : NodeId}

theorem sharesFrom_of_none (h : g.enter? path n = none) : g.sharesFrom a path n = [] := by
  rw [sharesFrom, visits_of_none h, List.flatMap_nil]

/-- The shares of a node come before those behind it. -/
theorem sharesFrom_of_some {v : Node} (h : g.enter? path n = some v) :
    g.sharesFrom a path n = v.shares a ++ v.references.flatMap (g.sharesFrom a (n :: path)) := by
  have hhere : g.sharesAt a n = v.shares a := by
    rw [sharesAt, (enter?_eq_some_iff.mp h).2]
    rfl
  have hbehind : v.references.flatMap (g.sharesFrom a (n :: path)) =
      v.references.zipIdx.flatMap fun t => g.sharesFrom a (n :: path) t.1 := by
    conv_lhs => rw [← List.zipIdx_map_fst 0 v.references, List.flatMap_map]
  rw [sharesFrom, visits_of_some h, List.flatMap_cons, hhere, hbehind, List.flatMap_assoc]
  congr 1
  exact List.flatMap_congr fun t _ => List.flatMap_map ..

end

end Graph

/-! ### The account -/

/-- The shares of an axis that an encounter takes up. -/
def Encounter.shares (a : Axis) : Encounter → List Float32
  | .switch _ s => (Node.switch s).shares a
  | _ => []

namespace Unfolding

/-- The shares of an axis that are taken up in an unfolding. -/
def shares (a : Axis) : Unfolding → List Float32
  | .loop _ => []
  | .missing _ => []
  | .leaf _ => []
  | .relay _ ts => ts.flatMap fun t => t.shares a
  | .switch _ s arms => (Node.switch s).shares a ++ arms.flatMap fun x => x.2.shares a
termination_by u => sizeOf u
decreasing_by
  · decreasing_tactic
  · have := sizeOf_arm_lt ‹_ ∈ arms›
    decreasing_tactic

/-- Branches and depths make no difference to the shares. -/
theorem flatMap_shares_encounters (u : Unfolding) (a : Axis) (b : Branch) (depth : Nat) :
    (u.encounters b depth).flatMap (Encounter.shares a) = u.shares a := by
  induction u generalizing b depth with
  | loop n => rw [encounters, shares]; rfl
  | missing n => rw [encounters, shares]; rfl
  | leaf n => rw [encounters, shares]; rfl
  | relay n ts ih =>
    rw [encounters, shares, List.flatMap_assoc]
    exact List.flatMap_congr fun t ht => ih t ht b (depth + 1)
  | switch n s arms ih =>
    rw [encounters, shares, List.flatMap_cons, List.flatMap_assoc]
    exact congrArg _ (List.flatMap_congr fun x hx => ih x hx x.1 (depth + 1))

end Unfolding

/-- The shares of an unfolding are those of the nodes that the search enters. -/
theorem Graph.shares_unfoldFrom (g : Graph) (a : Axis) (path : List NodeId) (n : NodeId) :
    (g.unfoldFrom path n).shares a = g.sharesFrom a path n := by
  induction path, n using unfoldFrom.induct g with
  | case1 path n hn =>
    rw [unfoldFrom_of_mem hn, Unfolding.shares, sharesFrom_of_none (enter?_of_mem hn)]
  | case2 path n hn hv =>
    rw [unfoldFrom_of_none hn hv, Unfolding.shares,
      sharesFrom_of_none ((enter?_of_not_mem hn).trans hv)]
  | case3 path n hn o hv =>
    rw [unfoldFrom_of_leaf hn hv, Unfolding.shares,
      sharesFrom_of_some ((enter?_of_not_mem hn).trans hv)]
    rfl
  | case4 path n hn ts hv ih =>
    rw [unfoldFrom_of_relay hn hv, Unfolding.shares,
      sharesFrom_of_some ((enter?_of_not_mem hn).trans hv), List.flatMap_map]
    exact List.flatMap_congr fun t _ => ih t
  | case5 path n hn s hv ih =>
    rw [unfoldFrom_of_switch hn hv, Unfolding.shares,
      sharesFrom_of_some ((enter?_of_not_mem hn).trans hv), List.flatMap_map, Node.references,
      ← s.map_snd_branches, List.flatMap_map]
    exact congrArg _ (List.flatMap_congr fun x _ => ih x.2)

/-- What becomes of the total of an axis when shares of an axis are added. -/
theorem Coverage.get_foldl_add (c : Coverage) (a b : Axis) (xs : List Float32) :
    (xs.foldl (fun c x => c.add b x) c).get a =
      (if b = a then xs else []).foldl (· + ·) (c.get a) := by
  induction xs generalizing c with
  | nil => split <;> rfl
  | cons x xs ih =>
    rw [List.foldl_cons, ih, Coverage.add]
    split
    · rename_i h
      rw [h, PerAxis.get_set_self, List.foldl_cons]
    · rename_i h
      rw [PerAxis.get_set_of_ne _ _ (Ne.symm h)]

namespace Draft

theorem coverage_bind (d : Draft) (n : NodeId) (b : Branch) (depth : Nat) :
    (d.bind n b depth).2.coverage = d.coverage := by
  unfold bind
  split
  · rfl
  · split
    · rfl
    · rw [register, noteReuse_frame]

theorem coverage_inspect (d : Draft) (n : NodeId) (s : Switch) (o : Outlet) (output : Nat) :
    (d.inspect n s o output).coverage =
      o.taken?.toList.foldl (fun c x => c.add s.axis x) d.coverage := by
  unfold inspect Outlet.taken?
  split
  · cases s <;> rfl
  · cases o.share <;> rfl

/-- A switch adds its shares, one after the other. -/
theorem coverage_inspectAll (d : Draft) (n : NodeId) (s : Switch) :
    (d.inspectAll n s).coverage = s.shares.foldl (fun c x => c.add s.axis x) d.coverage := by
  have houtlets : ∀ (os : List Outlet) (k : Nat) (d : Draft),
      ((os.zipIdx k).foldl (fun d o => d.inspect n s o.1 o.2) d).coverage =
        (os.filterMap Outlet.taken?).foldl (fun c x => c.add s.axis x) d.coverage := by
    intro os
    induction os with
    | nil => exact fun _ _ => rfl
    | cons o os ih =>
      intro k d
      rw [List.zipIdx_cons, List.foldl_cons, ih, coverage_inspect, List.filterMap_cons]
      cases o.taken? <;> rfl
  rw [s.shares_eq, ← houtlets s.outlets 0 d, inspectAll]

theorem get_coverage_meet (d : Draft) (e : Encounter) (a : Axis) :
    (d.meet e).coverage.get a = (e.shares a).foldl (· + ·) (d.coverage.get a) := by
  cases e with
  | loop n depth => rfl
  | missing n depth => rfl
  | leaf n b depth => exact congrArg (PerAxis.get · a) (d.coverage_bind n b depth)
  | switch n s =>
    show (d.inspectAll n s).coverage.get a = _
    rw [coverage_inspectAll, Coverage.get_foldl_add]
    rfl

theorem get_coverage_meetAll (d : Draft) (es : List Encounter) (a : Axis) :
    (d.meetAll es).coverage.get a =
      (es.flatMap (Encounter.shares a)).foldl (· + ·) (d.coverage.get a) := by
  induction es generalizing d with
  | nil => rfl
  | cons e es ih =>
    rw [List.flatMap_cons, List.foldl_append, ← get_coverage_meet]
    exact ih (d.meet e)

end Draft

namespace Classifier

theorem coverage_build_eq (c : Classifier) (g : Graph) (root : NodeId) :
    (c.build g root).classifier.coverage = (g.draft root).coverage := by
  rw [build_eq]
  rfl

/-- The coverage of an axis after a build is the sum of its shares. -/
theorem get_coverage_build (c : Classifier) (g : Graph) (root : NodeId) (a : Axis) :
    (c.build g root).classifier.coverage.get a = (g.sharesFrom a [] root).foldl (· + ·) 0 := by
  have htotal := (Draft.blank g).get_coverage_meetAll ((g.unfold root).encounters .start 0) a
  rw [Unfolding.flatMap_shares_encounters, Graph.unfold, Graph.shares_unfoldFrom] at htotal
  have hzero : (Draft.blank g).coverage.get a = 0 := PerAxis.get_const 0 a
  rw [coverage_build_eq, ← hzero, ← htotal]
  rfl

end Classifier

/-! ### Nodes that make no difference -/

namespace Graph

/-- A search from a root comes to a node on a path. -/
inductive ComesTo (g : Graph) (root : NodeId) : List NodeId → NodeId → Prop where
  | root : ComesTo g root [] root
  | step {path : List NodeId} {n t : NodeId} {v : Node} (h : ComesTo g root path n)
    (hv : g.enter? path n = some v) (ht : t ∈ v.references) : ComesTo g root (n :: path) t

/-- A search that comes to a node on a path enters no switch there or behind it: nothing is there,
the node is on the path, or leaves alone are reached. -/
def Idle (g : Graph) (path : List NodeId) (n : NodeId) : Prop :=
  ∀ x ∈ g.visits path n, ∀ s, g.node? x.node ≠ some (.switch s)

/-- Nothing is entered where nothing is, or on the path. -/
theorem idle_of_none {g : Graph} {path : List NodeId} {n : NodeId} (h : g.enter? path n = none) :
    g.Idle path n := by
  intro x hx
  rw [visits_of_none h] at hx
  cases hx

theorem Idle.sharesFrom_eq_nil {g : Graph} {path : List NodeId} {n : NodeId} (h : g.Idle path n)
    (a : Axis) : g.sharesFrom a path n = [] := by
  refine List.flatMap_eq_nil_iff.mpr fun x hx => ?_
  rw [sharesAt]
  cases hv : g.node? x.node with
  | none => rfl
  | some v =>
    cases v with
    | switch s => exact absurd hv (h x hx s)
    | leaf o => rfl
    | relay ts => rfl

/-- Two nodes that a search enters on a path take up the same shares, and refer to the same nodes,
but for such as are idle from there. -/
structure SameNodeButIdle (g g' : Graph) (path : List NodeId) (v v' : Node) : Prop where
  shares_eq : ∀ a, v'.shares a = v.shares a
  references_eq : ∃ keep : NodeId → Bool,
    v'.references.filter keep = v.references.filter keep ∧
      (∀ t ∈ v.references, keep t = false → g.Idle path t) ∧
        ∀ t ∈ v'.references, keep t = false → g'.Idle path t

theorem SameNodeButIdle.refl (g g' : Graph) (path : List NodeId) (v : Node) :
    g.SameNodeButIdle g' path v v where
  shares_eq _ := rfl
  references_eq := ⟨fun _ => true, rfl, by simp, by simp⟩

/-- The graphs are the same wherever a search from the root comes, but for references to nodes that
are idle. -/
structure SameButIdle (g g' : Graph) (root : NodeId) : Prop where
  of_none : ∀ {path n}, g.ComesTo root path n → g.enter? path n = none → g'.Idle path n
  of_some : ∀ {path n v}, g.ComesTo root path n → g.enter? path n = some v →
    ∃ v', g'.enter? path n = some v' ∧ g.SameNodeButIdle g' (n :: path) v v'

namespace SameButIdle

variable {g g' : Graph} {root : NodeId}

/-- **What leads to no switch makes no difference to the shares.** -/
theorem shares_eq (h : g.SameButIdle g' root) (a : Axis) {path : List NodeId} {n : NodeId}
    (hn : g.ComesTo root path n) : g'.sharesFrom a path n = g.sharesFrom a path n := by
  induction path, n using enter_induction g with
  | none path n hv => rw [sharesFrom_of_none hv, (h.of_none hn hv).sharesFrom_eq_nil a]
  | some path n v hv ih =>
    obtain ⟨v', hv', hsame⟩ := h.of_some hn hv
    obtain ⟨keep, hkept, hidle, hidle'⟩ := hsame.references_eq
    rw [sharesFrom_of_some hv', sharesFrom_of_some hv, hsame.shares_eq a,
      ← flatMap_filter_eq fun t ht hkeep => (hidle t ht hkeep).sharesFrom_eq_nil a,
      ← flatMap_filter_eq fun t ht hkeep => (hidle' t ht hkeep).sharesFrom_eq_nil a, hkept]
    congr 1
    exact List.flatMap_congr fun t ht => ih t (hn.step hv (List.mem_of_mem_filter ht))

end SameButIdle

end Graph

/-! ### Attaching further nodes -/

namespace Switch

variable {s : Switch} {output : Nat} {o : Outlet}

theorem outlets_attach (s : Switch) (output : Nat) (t : NodeId) :
    (s.attach output t).outlets =
      s.outlets.modify output fun o => { o with attached := o.attached ++ [t] } := by
  cases s with
  | shore dry wet =>
    match output with
    | 0 | 1 | k + 2 => simp [attach, outlets]
  | ranges axis parts =>
    refine List.ext_getElem? fun k => ?_
    rw [attach, outlets, outlets, List.getElem?_modify, List.getElem?_map, List.getElem?_map,
      Array.getElem?_toList, Array.getElem?_toList, Array.getElem?_modify]
    by_cases hk : output = k
    · cases parts[k]? <;> simp [hk, SubRange.share]
    · cases parts[k]? <;> simp [hk]

theorem axis_attach (s : Switch) (output : Nat) (t : NodeId) :
    (s.attach output t).axis = s.axis := by
  cases s with
  | shore dry wet =>
    match output with
    | 0 | 1 | k + 2 => rfl
  | ranges axis parts => rfl

/-- What does not look at the attached nodes of an output, as long as there are some, sees no
difference when a further one is attached. -/
theorem map_outlets_attach {α : Type} {f : Outlet → α} (s : Switch) (output : Nat) (t : NodeId)
    (h : ∀ o, s.outlets[output]? = some o → f { o with attached := o.attached ++ [t] } = f o) :
    (s.attach output t).outlets.map f = s.outlets.map f := by
  refine List.ext_getElem? fun k => ?_
  rw [outlets_attach, List.getElem?_map, List.getElem?_map, List.getElem?_modify]
  split
  · rename_i hk
    cases ho : s.outlets[k]? with
    | none => rfl
    | some o => exact congrArg some (h o (hk ▸ ho))
  · rw [Option.map_eq_map, Option.map_id']

/-- How many nodes are attached to an output makes no difference to the shares, as long as there are
some. -/
theorem shares_attach (ho : s.outlets[output]? = some o) (hne : o.attached ≠ []) (t : NodeId) :
    (s.attach output t).shares = s.shares := by
  have htaken : (s.attach output t).outlets.map Outlet.taken? = s.outlets.map Outlet.taken? := by
    refine s.map_outlets_attach output t fun o' ho' => ?_
    obtain rfl : o = o' := Option.some.inj (ho.symm.trans ho')
    simp [Outlet.taken?, hne]
  have hshares : ∀ s : Switch, s.shares = (s.outlets.map Outlet.taken?).filterMap id := fun s => by
    rw [shares_eq, List.filterMap_map, Function.id_comp]
  rw [hshares, hshares, htaken]

/-- But for the attached node itself, a switch refers to the same nodes as before. -/
theorem filter_attached_attach (s : Switch) (output : Nat) (t : NodeId) :
    (s.attach output t).attached.filter (· ≠ t) = s.attached.filter (· ≠ t) := by
  have hlists := s.map_outlets_attach (f := fun o => o.attached.filter (· ≠ t)) output t
    fun o _ => by simp
  rw [attached_eq, attached_eq, List.filter_flatMap, List.filter_flatMap, List.flatMap_def,
    List.flatMap_def, hlists]

end Switch

namespace Graph

variable {g : Graph} {path : List NodeId} {n m : NodeId}

theorem Idle.replace (h : g.Idle path m) (hn : n ∈ path) (v : Node) :
    (g.replace n v).Idle path m := by
  intro x hx s
  rw [visits_replace_of_mem hn] at hx
  rw [node?_replace_of_ne (ne_of_mem_of_not_mem hn (not_mem_of_mem_visits hx)).symm]
  exact h x hx s

/-- A node can be replaced by one that takes up the same shares and refers to the same nodes, but for
such as are idle behind it. -/
theorem SameButIdle.replace {v v' : Node} (hv : g.node? n = some v)
    (hshares : ∀ a, v'.shares a = v.shares a) {keep : NodeId → Bool}
    (hkept : v'.references.filter keep = v.references.filter keep)
    (hidle : ∀ t, keep t = false → ∀ path, n ∈ path → g.Idle path t) (root : NodeId) :
    g.SameButIdle (g.replace n v') root where
  of_none {path m} _ hnone := by
    refine idle_of_none ?_
    by_cases hm : m ∈ path
    · exact enter?_of_mem hm
    · rw [enter?_of_not_mem hm] at hnone ⊢
      have hmn : m ≠ n := by
        rintro rfl
        rw [hv] at hnone
        cases hnone
      rw [node?_replace_of_ne hmn, hnone]
  of_some {path m w} _ hw := by
    obtain ⟨hm, hw⟩ := enter?_eq_some_iff.mp hw
    by_cases hmn : m = n
    · subst hmn
      obtain rfl : v = w := Option.some.inj (hv.symm.trans hw)
      have hv' : (g.replace m v').node? m = some v' := by
        rw [node?_replace, if_pos ⟨rfl, index_lt_of_node? hv⟩]
      exact ⟨v', enter?_eq_some_iff.mpr ⟨hm, hv'⟩, hshares, keep, hkept,
        fun t _ hkeep => hidle t hkeep _ List.mem_cons_self,
        fun t _ hkeep => (hidle t hkeep _ List.mem_cons_self).replace List.mem_cons_self v'⟩
    · have hw' := (node?_replace_of_ne (g := g) hmn v').trans hw
      exact ⟨w, enter?_eq_some_iff.mpr ⟨hm, hw'⟩, .refl ..⟩

/-- A connection that is made replaces its source. -/
theorem connect_fst_eq {v : Node} (hv : g.node? n = some v) (output : Nat) (t : NodeId) :
    (g.connect n output t).1 = g ∨ (g.connect n output t).1 = g.replace n (v.attach output t) := by
  unfold connect
  split
  · exact .inl rfl
  · refine .inr (congrArg Graph.mk (Array.ext_getElem? fun i => ?_))
    rw [Array.getElem?_modify, Array.getElem?_setIfInBounds]
    split
    · rename_i hi
      rw [← hi]
      exact (congrArg (Option.map _) hv).trans (if_pos (index_lt_of_node? hv)).symm
    · rfl

end Graph

/-! ### The build -/

namespace Classifier

variable {g g' : Graph} {root : NodeId}

/-- What leads to no switch makes no difference to the coverage. -/
theorem coverage_build_of_sameButIdle (c c' : Classifier) (h : g.SameButIdle g' root) :
    (c'.build g' root).classifier.coverage = (c.build g root).classifier.coverage := by
  refine PerAxis.ext_get fun a => ?_
  rw [get_coverage_build, get_coverage_build, h.shares_eq a .root]

/-- **Connecting a further node to an output changes no coverage**, if some node is attached there
already and the further one leads to no switch from there. -/
theorem coverage_build_connect (c : Classifier) {n t : NodeId} {s : Switch} {output : Nat}
    {o : Outlet} (hs : g.node? n = some (.switch s)) (ho : s.outlets[output]? = some o)
    (hne : o.attached ≠ []) (hidle : ∀ path, n ∈ path → g.Idle path t) (root : NodeId) :
    (c.build (g.connect n output t).1 root).classifier.coverage =
      (c.build g root).classifier.coverage := by
  rcases g.connect_fst_eq hs output t with hsame | hreplaced
  · rw [hsame]
  · have hshares : ∀ a, (Node.switch (s.attach output t)).shares a = (Node.switch s).shares a :=
      fun a => by rw [Node.shares, Node.shares, Switch.shares_attach ho hne, Switch.axis_attach]
    have hidle' : ∀ t', decide (t' ≠ t) = false → ∀ path, n ∈ path → g.Idle path t' := by
      intro t' ht'
      rwa [show t' = t by simpa using ht']
    rw [hreplaced]
    exact c.coverage_build_of_sameButIdle c (.replace hs hshares
      (s.filter_attached_attach output t) hidle' root)

end Classifier

/-- What the coverage after a build of a graph from a root adds up to. -/
structure Build.AddsUpShares (r : Build) (g : Graph) (root : NodeId) : Prop where
  /-- The total of an axis is the sum of the shares of the nodes that the search enters, from zero
  and one after the other. -/
  get_coverage : ∀ a, r.classifier.coverage.get a =
    ((g.visits [] root).flatMap fun x => g.sharesAt a x.node).foldl (· + ·) 0
  /-- The search goes every way along which it enters a node each time, and no other. -/
  mem_visits_iff : ∀ way n, ⟨way, n⟩ ∈ g.visits [] root ↔ g.arrive? [] root way = some n
  /-- It goes them depth first. -/
  pairwise_visits : (g.visits [] root).Pairwise Visit.Before
  /-- So a node counts as often as there are ways to it. -/
  countP_visits : ∀ n (ways : Finset (List Nat)),
    (∀ way, way ∈ ways ↔ g.arrive? [] root way = some n) →
      (g.visits [] root).countP (fun x => x.node = n) = ways.card
  /-- Attached nodes that lead to no switch count for nothing, whatever becomes of them. -/
  coverage_eq : ∀ (c : Classifier) g', g.SameButIdle g' root →
    (c.build g' root).classifier.coverage = r.classifier.coverage

/-- **Coverage counts every connected output once for each time that its switch is entered**,
whatever the graph, the root and the classifier before. -/
theorem Classifier.addsUpShares_build (c : Classifier) (g : Graph) (root : NodeId) :
    (c.build g root).AddsUpShares g root where
  get_coverage := c.get_coverage_build g root
  mem_visits_iff _ _ := Graph.mem_visits_iff
  pairwise_visits := g.pairwise_visits [] root
  countP_visits := g.countP_visits [] root
  coverage_eq c' _ h := c.coverage_build_of_sameButIdle c' h

end Biomes
