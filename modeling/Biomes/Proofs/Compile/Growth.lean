import Biomes.Compile.Classifier
import Biomes.Proofs.Compile.Account

/-!
# What grows on a branch

The tree that a compilation makes of an unfolding depends on the draft through one number only: how
many named leaves were reached before.  `Unfolding.grow` says what grows on a branch from that
number, and `Search.visitsGrow` that the search is nothing else: a visit grows what `grow` says, does
to the draft what the account says, and comes back on the path that it came on.  For a whole
compilation this is `Classifier.build_eq`.
-/

namespace Biomes

/-- What grows on a branch, with the count of the named leaves that have been reached. -/
structure Growth where
  count : Nat
  shoot : Shoot

/-- Adds a node for a branch of a switch, with what has grown on it. -/
def Growth.addArm (w : Growth) (b : Branch) (arm : Growth) : Growth :=
  ⟨arm.count, w.shoot.push (arm.shoot.toTree b)⟩

namespace Unfolding

/-- What grows on a branch when an unfolding is added to it. -/
def grow (b : Branch) : Unfolding → Growth → Growth
  | .loop _, w => w
  | .missing _, w => w
  | .leaf _, w =>
    if b.name.isEmpty then w else ⟨w.count + 1, w.shoot.endWith (BiomeId.ofCount? w.count)⟩
  | .relay _ ts, w => ts.foldl (fun w t => t.grow b w) w
  | .switch _ _ arms, w =>
    arms.foldl (fun w a => w.addArm a.1 (a.2.grow a.1 ⟨w.count, .empty⟩)) w
termination_by u => sizeOf u
decreasing_by
  · decreasing_tactic
  · have := sizeOf_arm_lt ‹_ ∈ arms›
    decreasing_tactic

/-- The count goes on by the number of the named leaves. -/
theorem count_grow (u : Unfolding) (b : Branch) (w : Growth) :
    (u.grow b w).count = w.count + (u.arrivals b).countP Arrival.isNamed := by
  induction u generalizing b w with
  | loop n => rw [grow, arrivals]; rfl
  | missing n => rw [grow, arrivals]; rfl
  | leaf n =>
    rw [grow, arrivals, List.countP_singleton, Arrival.isNamed]
    cases b.name.isEmpty <;> rfl
  | relay n ts ih =>
    rw [grow, arrivals]
    induction ts generalizing w with
    | nil => rfl
    | cons t ts ihs =>
      rw [List.foldl_cons, ihs (fun t' ht' => ih t' (List.mem_cons_of_mem _ ht')),
        ih t List.mem_cons_self, List.flatMap_cons, List.countP_append, Nat.add_assoc]
  | switch n s arms ih =>
    rw [grow, arrivals]
    induction arms generalizing w with
    | nil => rfl
    | cons a arms ihs =>
      rw [List.foldl_cons, ihs (fun a' ha' => ih a' (List.mem_cons_of_mem _ ha')), Growth.addArm,
        ih a List.mem_cons_self, List.flatMap_cons, List.countP_append, Nat.add_assoc]

end Unfolding

/-! ### The search -/

namespace Search

/-- The unfolding of what a search comes to next. -/
def ahead (s : Search) (n : NodeId) : Unfolding := s.draft.graph.unfoldFrom s.path n

/-- The search after some encounters. -/
def meetAll (s : Search) (es : List Encounter) : Search :=
  { s with draft := s.draft.meetAll es }

theorem meetAll_append (s : Search) (es es' : List Encounter) :
    s.meetAll (es ++ es') = (s.meetAll es).meetAll es' :=
  congrArg (Search.mk s.path) (s.draft.meetAll_append es es')

/-- Visits that start from a search grow what its unfoldings grow, and do to the draft what the
account says. -/
def VisitsGrow (s : Search) : Prop :=
  ∀ n b depth (w : Growth), s.draft.Counts w.count →
    (s.visit n b depth w.shoot).1 =
      (((s.ahead n).grow b w).shoot, s.meetAll ((s.ahead n).encounters b depth))

theorem ahead_meetAll (s : Search) (es : List Encounter) : (s.meetAll es).ahead = s.ahead := by
  funext n
  exact ((s.draft.alike_meetAll es).unfoldFrom_eq s.path n).symm

theorem visitAll_eq {s : Search} (hs : ∀ s', s.Returns s' → s'.VisitsGrow) (ns : List NodeId)
    (b : Branch) (depth : Nat) (w : Growth) (hw : s.draft.Counts w.count) :
    (s.visitAll ns b depth w.shoot).1 =
      (((ns.map s.ahead).foldl (fun w u => u.grow b w) w).shoot,
        s.meetAll ((ns.map s.ahead).flatMap fun u => u.encounters b depth)) := by
  induction ns generalizing s w with
  | nil => exact visitAll_nil
  | cons n ns ih =>
    have hn := hs s (.refl s) n b depth w hw
    -- The search that the first visit leaves has come back, so that `hs` applies to it again.
    have hreturns := (s.visit n b depth w.shoot).2
    rw [hn] at hreturns
    rw [visitAll_cons, hn, ih (fun s' h => hs s' (hreturns.trans h)) ((s.ahead n).grow b w),
      ahead_meetAll, List.map_cons, List.foldl_cons, List.flatMap_cons]
    · rw [meetAll_append]
    · rw [Unfolding.count_grow, ← Unfolding.filterMap_arrival?_encounters _ b depth]
      exact hw.meetAll _

theorem visitArms_eq {s : Search} (hs : ∀ s', s.Returns s' → s'.VisitsGrow)
    (arms : List (Branch × NodeId)) (depth : Nat) (w : Growth) (hw : s.draft.Counts w.count) :
    (s.visitArms arms depth w.shoot).1 =
      (((arms.map fun a => (a.1, s.ahead a.2)).foldl
          (fun w a => w.addArm a.1 (a.2.grow a.1 ⟨w.count, .empty⟩)) w).shoot,
        s.meetAll ((arms.map fun a => (a.1, s.ahead a.2)).flatMap
          fun a => a.2.encounters a.1 depth)) := by
  induction arms generalizing s w with
  | nil => exact visitArms_nil
  | cons a arms ih =>
    obtain ⟨b, n⟩ := a
    have hn := hs s (.refl s) n b depth ⟨w.count, .empty⟩ hw
    have hreturns := (s.visit n b depth .empty).2
    rw [hn] at hreturns
    rw [visitArms_cons, hn]
    refine (ih (fun s' h => hs s' (hreturns.trans h))
      (w.addArm b ((s.ahead n).grow b ⟨w.count, .empty⟩)) ?_).trans ?_
    · rw [Growth.addArm, Unfolding.count_grow,
        ← Unfolding.filterMap_arrival?_encounters _ b depth]
      exact hw.meetAll _
    · rw [ahead_meetAll, List.map_cons, List.foldl_cons, List.flatMap_cons]
      rw [meetAll_append]

/-- What a visit of a leaf grows. -/
theorem endWith_bind {d : Draft} {w : Growth} (hw : d.Counts w.count) (n : NodeId) (b : Branch)
    (depth : Nat) :
    w.shoot.endWith (d.bind n b depth).1 = ((Unfolding.leaf n).grow b w).shoot := by
  rw [Unfolding.grow, BiomeId.ofCount?]
  rcases hw.bind_cases n b depth with ⟨hb, hd⟩ | ⟨hb, hk, hd⟩ | ⟨hb, hk, hd⟩
  · rw [hd, if_pos hb]
    rfl
  · rw [hd, if_neg (by simp [hb]), if_pos hk]
  · rw [hd, if_neg (by simp [hb]), if_neg (Nat.not_lt.mpr hk)]

theorem leave_enter_meetAll (s : Search) (n : NodeId) (es : List Encounter) :
    ((s.enter n).meetAll es).leave n = s.meetAll es := by
  simp only [leave, meetAll, enter, List.erase_cons_head]

/-- **The search follows the unfolding.**  A visit grows what the unfolding grows, and leaves a
search that differs from the one before in the draft only, by what the account says. -/
theorem visitsGrow (s : Search) : s.VisitsGrow := by
  -- The induction is on how many nodes can still be entered, which each entered node decreases.
  induction hk : s.unseen using Nat.strongRecOn generalizing s with
  | _ k ih =>
    intro n b depth w hw
    have hinner : ∀ {v}, s.draft.graph.node? n = some v → n ∉ s.path →
        ∀ s', (s.enter n).Returns s' → s'.VisitsGrow := by
      intro v hv hn s' h
      refine ih s'.unseen ?_ s' rfl
      rw [h.unseen_eq, ← hk]
      exact unseen_enter_lt hv hn
    by_cases hn : n ∈ s.path
    · -- The node is on the path: nothing is entered, and nothing has to be left.
      rw [visit_of_mem hn, ahead, Graph.unfoldFrom_of_mem hn, Unfolding.grow, Unfolding.encounters]
      rfl
    · cases hv : s.draft.graph.node? n with
      | none =>
        rw [visit_of_none hn hv, ahead, Graph.unfoldFrom_of_none hn hv, Unfolding.grow,
          Unfolding.encounters]
        exact congrArg (Prod.mk _) (leave_enter_meetAll s n [.missing n depth])
      | some v =>
        cases v with
        | leaf o =>
          rw [visit_of_leaf hn hv, ahead, Graph.unfoldFrom_of_leaf hn hv, Unfolding.encounters,
            ← endWith_bind hw n b depth]
          exact congrArg (Prod.mk _) (leave_enter_meetAll s n [.leaf n b depth])
        | relay ts =>
          rw [visit_of_relay hn hv, visitAll_eq (hinner hv hn) _ _ _ _ hw, ahead,
            Graph.unfoldFrom_of_relay hn hv, Unfolding.grow, Unfolding.encounters]
          exact congrArg (Prod.mk _) (leave_enter_meetAll s n _)
        | switch sw =>
          -- The outputs are noted before anything behind them is visited.
          have hinspect : (s.enter n).inspect n sw = (s.enter n).meetAll [.switch n sw] := rfl
          have hreturns := Returns.inspect (s.enter n) n sw
          have hcounts : ((s.enter n).inspect n sw).draft.Counts w.count :=
            hw.meetAll [.switch n sw]
          rw [visit_of_switch hn hv,
            visitArms_eq (fun s' h => hinner hv hn s' (hreturns.trans h)) _ _ _ hcounts, hinspect,
            ahead_meetAll, ← meetAll_append, ahead, Graph.unfoldFrom_of_switch hn hv,
            Unfolding.grow, Unfolding.encounters]
          exact congrArg (Prod.mk _) (leave_enter_meetAll s n _)

end Search

/-! ### The build -/

/-- The tree that a compilation makes of an unfolding. -/
def Unfolding.tree (u : Unfolding) : DecisionTree := (u.grow .start ⟨0, .empty⟩).shoot.toTree .start

/-- The draft at the end of a compilation. -/
def Graph.draft (g : Graph) (root : NodeId) : Draft :=
  (Draft.blank g).meetAll ((g.unfold root).encounters .start 0)

/-- What holds before a compilation and is kept up by every encounter, for the arrivals so far, holds
for all arrivals at its end. -/
theorem Graph.draft_induction (g : Graph) (root : NodeId) {P : Draft → List Arrival → Prop}
    (hblank : P (.blank g) [])
    (hmeet : ∀ d l e, P d l → P (d.meet e) (l ++ e.arrival?.toList)) :
    P (g.draft root) (g.arrivals root) := by
  have h := Draft.meetAll_induction hmeet hblank ((g.unfold root).encounters .start 0)
  rwa [List.nil_append, Unfolding.filterMap_arrival?_encounters, unfold, arrivals_unfoldFrom] at h

/-- A build depends on the graph through its unfolding, but for the leaves that are written. -/
theorem Classifier.build_eq (c : Classifier) (g : Graph) (root : NodeId) :
    c.build g root = c.finish (g.unfold root).tree (g.draft root) := by
  have hvisit := (Search.start g).visitsGrow root .start 0 ⟨0, .empty⟩ rfl
  rw [build, hvisit]
  rfl

/-- A reading of the findings that knows nothing about those on the whole build comes from the
draft. -/
theorem Classifier.filterMap_findings_finish {α : Type} {read : Finding → Option α}
    (huneven : ∀ a total, read (.unevenCoverage a total) = none)
    (hbuilt : ∀ n, read (.built n) = none) (hdrawn : ∀ t, read (.drawn t) = none) (c : Classifier)
    (t : DecisionTree) (d : Draft) :
    (c.finish t d).findings.toList.filterMap read = d.findings.toList.filterMap read := by
  have hgaps : ((d.coverage.gaps c.tolerance).map
      fun x => Finding.unevenCoverage x.1 x.2).filterMap read = [] := by
    rw [List.filterMap_map]
    exact List.filterMap_eq_nil_iff.mpr fun a _ => huneven a.1 a.2
  simp [finish, hgaps, hbuilt, hdrawn]

end Biomes
