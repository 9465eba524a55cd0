import Biomes.Proofs.Compile.Arms
import Biomes.Proofs.Compile.Totals
import Biomes.Proofs.Single.Product

/-!
# Which axes are reported

An axis whose shares do not add up to one is listed, and a build warns of it, but only if they do
not add up to zero either: a total of zero is taken to mean that the axis is not in use.  It is zero
if no node of the tree tests the axis (`Classifier.reportsCoverage_build`), but may be so, too, if
there are parts of no length.
-/

namespace Biomes

namespace Single

open Float.Model (Format UnpackedFloat)
open Float.Model.UnpackedFloat

variable {x : Float32}

/-! ### Differences are numbers -/

/-- Packing does not make a number a `NaN`. -/
theorem isNaN_unpack_pack {u : UnpackedFloat} (hu : u.isNaN = false) :
    (Float32.Model.pack u).unpack.isNaN = false := by
  -- Only the greatest exponent can belong to a `NaN`.
  have hfinite : ∀ {n : ℕ}, n + 1 < 2 ^ (Format.binary32).exponentBits → ∀ s v,
      (UnpackedFloat.unpack .binary32
        (packComponents .binary32 s (BitVec.ofNat _ n) v)).isNaN = false := by
    intro n hn s v
    unfold UnpackedFloat.unpack
    simp only [unpackMantissa_packComponents, unpackExponent_packComponents,
      if_neg (Decimal.ofNat_ne_neg_one hn)]
    split
    · split <;> rfl
    · rfl
  show (UnpackedFloat.unpack .binary32 (UnpackedFloat.pack .binary32 u)).isNaN = false
  cases u with
  | notANumber => cases hu
  | infinity s => cases s <;> decide
  | zero s => cases s <;> decide
  | finite s m e hm =>
    unfold UnpackedFloat.pack
    dsimp only
    split
    · cases s <;> decide
    · rename_i hlt
      split
      · exact hfinite (Nat.lt_of_not_le hlt) s _
      · exact hfinite (n := 0) (by decide) s _

/-- What is rounded is finite or zero. -/
theorem isNaN_normalize (m : ℤ) (e : ℤ) (s : Sign) :
    (UnpackedFloat.normalize .binary32 m e s).isNaN = false := by
  have hround : ∀ s m e, (UnpackedFloat.round .binary32 s m e).isNaN = false := by
    intro s m e
    unfold UnpackedFloat.round roundWithAccuracy
    dsimp only
    split <;> rfl
  unfold UnpackedFloat.normalize
  split
  · exact hround ..
  · rfl
  · exact hround ..

theorem isNaN_sub_one (hx : x.isNaN = false) : (x - 1).isNaN = false := by
  have hone : ∃ m e hm, (1 : Float32).toModel.unpack = .finite .positive m e hm :=
    ⟨8388608, -23, by decide, by rfl⟩
  obtain ⟨m, e, hm, hone⟩ := hone
  show (Float32.Model.pack (UnpackedFloat.sub .binary32 x.toModel.unpack
    (1 : Float32).toModel.unpack)).unpack.isNaN = false
  refine isNaN_unpack_pack ?_
  rw [hone]
  have hx' : x.toModel.unpack.isNaN = false := hx
  cases hu : x.toModel.unpack with
  | notANumber =>
    rw [hu] at hx'
    cases hx'
  | infinity s => rfl
  | zero s => rfl
  | finite s m' e' hm' => exact isNaN_normalize ..

theorem isNaN_abs (hx : x.isNaN = false) : x.abs.isNaN = false := by
  show (Float32.Model.pack x.toModel.unpack.abs).unpack.isNaN = false
  refine isNaN_unpack_pack ?_
  have hx' : x.toModel.unpack.isNaN = false := hx
  cases hu : x.toModel.unpack with
  | notANumber =>
    rw [hu] at hx'
    cases hx'
  | infinity s => rfl
  | zero s => rfl
  | finite s m' e' hm' => rfl

end Single

/-! ### Totals and lists -/

namespace Coverage

variable {c : Coverage} {a : Axis} {tolerance x : Float32}

/-- A total that is a number shows a gap if it is not zero and not within the tolerance of one. -/
theorem isGap_iff (htolerance : tolerance.isNaN = false) (hx : x.isNaN = false) :
    isGap tolerance x = true ↔ (x == 0) = false ∧ ¬(x - 1).abs ≤ tolerance := by
  rw [isGap, Bool.and_eq_true, decide_eq_true_iff,
    Single.lt_iff_not_le htolerance (Single.isNaN_abs (Single.isNaN_sub_one hx)), bne,
    Bool.not_eq_true']

theorem mem_gaps_iff : (a, x) ∈ c.gaps tolerance ↔ x = c.get a ∧ isGap tolerance x = true := by
  rw [gaps, List.mem_filter, PerAxis.entries, List.mem_map]
  refine and_congr_left fun _ => ?_
  constructor
  · rintro ⟨b, -, hb⟩
    obtain ⟨rfl, rfl⟩ := Prod.mk.inj hb
    rfl
  · rintro rfl
    exact ⟨a, a.mem_all, rfl⟩

/-- No axis is listed twice. -/
theorem filter_gaps (c : Coverage) (tolerance : Float32) (a : Axis) :
    (c.gaps tolerance).filter (fun y => y.1 == a) =
      if isGap tolerance (c.get a) then [(a, c.get a)] else [] := by
  rw [gaps, List.filter_comm]
  have hone : c.entries.filter (fun y => y.1 == a) = [(a, c.get a)] := by cases a <;> rfl
  rw [hone, List.filter_singleton]
  exact Bool.cond_eq_ite ..

end Coverage

/-! ### The axes of a tree -/

/-- The axis that a test looks at. -/
def Test.axis? : Test → Option Axis
  | .never => none
  | .flag a _ => some a
  | .within a _ _ => some a

/-- Whether some node of a tree tests an axis. -/
def DecisionTree.Tests (t : DecisionTree) (a : Axis) : Prop :=
  ∃ u ∈ t.nodes, u.branch.test.axis? = some a

/-- The branches of a switch test its axis. -/
theorem Switch.axis?_of_mem_branches {s : Switch} {b : Branch} {n : NodeId}
    (h : (b, n) ∈ s.branches) : b.test.axis? = some s.axis := by
  obtain ⟨o, ho, hb⟩ := List.mem_flatMap.mp h
  obtain ⟨m, -, hbranch⟩ := List.mem_map.mp hb
  obtain ⟨rfl, rfl⟩ := Prod.mk.inj hbranch
  cases s with
  | shore dry wet =>
    rcases List.mem_cons.mp ho with rfl | ho
    · rfl
    · obtain rfl := List.mem_singleton.mp ho
      rfl
  | ranges axis parts =>
    obtain ⟨r, -, rfl⟩ := List.mem_map.mp ho
    rfl

namespace Draft

variable {d : Draft} {a : Axis}

/-- A switch changes the total of its own axis only, and only if something is attached to it. -/
theorem get_coverage_inspectAll (n : NodeId) (s : Switch)
    (h : s.axis = a → s.branches = []) : (d.inspectAll n s).coverage.get a = d.coverage.get a := by
  rw [coverage_inspectAll, Coverage.get_foldl_add]
  split
  · rename_i haxis
    have hshares : s.shares = [] := by
      rw [s.shares_eq, List.filterMap_eq_nil_iff]
      exact fun o ho => if_pos (Switch.isEmpty_attached (h haxis) ho)
    rw [hshares, List.foldl_nil]
  · rfl

end Draft

namespace Call

variable {a : Axis} {c : Call}

/-- A switch that is come to has no branches if none of them tests its axis. -/
theorem branches_eq_nil (hn : c.node ∉ c.search.path) {sw : Switch}
    (hv : c.search.draft.graph.node? c.node = some (.switch sw))
    (h : ∀ arm ∈ c.arms, arm.branch.test.axis? ≠ some sw.axis) : sw.branches = [] := by
  cases hbranches : sw.branches with
  | nil => rfl
  | cons x xs =>
    -- The first branch would test it.
    have hfirst : ∃ arm ∈ c.inner, arm.branch = x.1 := by
      rw [inner_of_switch hn hv, hbranches]
      exact ⟨_, List.mem_cons_self, rfl⟩
    obtain ⟨arm, harm, hbranch⟩ := hfirst
    rw [arms_of_switch hv] at h
    refine absurd ?_ (h arm (List.mem_flatMap_of_mem harm List.mem_cons_self))
    rw [hbranch]
    exact Switch.axis?_of_mem_branches (n := x.2) (hbranches ▸ List.mem_cons_self)

/-- A call for none of whose branches an axis is tested leaves the total of this axis as it is. -/
theorem coverage_outcome (c : Call) (h : ∀ arm ∈ c.arms, arm.branch.test.axis? ≠ some a) :
    c.outcome.1.2.draft.coverage.get a = c.search.draft.coverage.get a := by
  have hruns : ∀ {depth s s' cs}, Search.Runs depth s cs s' →
      (∀ c ∈ cs, c.outcome.1.2.draft.coverage.get a = c.search.draft.coverage.get a) →
        s'.draft.coverage.get a = s.draft.coverage.get a := fun hruns hcs =>
    (hruns.lasting (R := fun d d' => d'.coverage.get a = d.coverage.get a) (fun _ => rfl)
      (fun h h' => h'.trans h) hcs).1
  induction c using induct with
  | loop c hn =>
    rw [draft_of_mem hn]
    rfl
  | missing c hn hv =>
    rw [draft_of_none hn hv]
    rfl
  | leaf c hn o hv => rw [draft_of_leaf hn hv, Draft.coverage_bind]
  | relay c hn ts hv ih =>
    obtain ⟨s', hcalls, hdraft⟩ := runs_of_relay hn hv
    rw [hdraft]
    rw [arms_of_relay hv] at h
    have hinner := hruns hcalls fun c' hc' => ih c' hc' fun arm harm =>
      h arm (List.mem_flatMap_of_mem hc' harm)
    exact hinner
  | switch c hn sw hv ih =>
    obtain ⟨s', hcalls, hdraft⟩ := runs_of_switch hn hv
    have hinspect := Draft.get_coverage_inspectAll (d := c.search.draft) c.node sw fun haxis =>
      branches_eq_nil hn hv (haxis ▸ h)
    rw [hdraft]
    rw [arms_of_switch hv] at h
    have hinner := hruns hcalls fun c' hc' => ih c' hc' fun arm harm =>
      h arm (List.mem_flatMap_of_mem hc' (List.mem_cons_of_mem _ harm))
    exact hinner.trans hinspect

end Call

/-! ### The build -/

/-- The axis and the total that a finding warns of. -/
def Finding.coverage? : Finding → Option (Axis × Float32)
  | .unevenCoverage a total => some (a, total)
  | _ => none

/-- What is compiled itself gives no warnings of totals. -/
theorem Draft.lasting_coverage? : Draft.Lasting fun d d' =>
    d'.findings.toList.filterMap Finding.coverage? =
      d.findings.toList.filterMap Finding.coverage? where
  refl d := rfl
  trans h h' := h'.trans h
  meet d e := by
    have hnote : ∀ d : Draft, ∀ f : Finding, f.coverage? = none →
        (d.note f).findings.toList.filterMap Finding.coverage? =
          d.findings.toList.filterMap Finding.coverage? := by
      intro d f hf
      rw [filterMap_findings_note, hf]
      exact List.append_nil _
    cases e with
    | loop n depth => exact hnote d _ rfl
    | missing n depth => exact hnote d _ rfl
    | leaf n b depth =>
      show (d.bind n b depth).2.findings.toList.filterMap _ = _
      unfold bind
      split
      · exact hnote d _ rfl
      · split
        · exact hnote d _ rfl
        · exact filterMap_findings_register (fun _ _ _ => rfl) d n _
    | switch n s =>
      refine filterMap_findings_inspectAll (fun f hf => ?_) d n s
      cases f <;> first | rfl | cases hf

namespace Classifier

variable {c : Classifier} {g : Graph} {root : NodeId} {a : Axis}

/-- A build warns of what the coverage lists. -/
theorem filterMap_coverage?_build (c : Classifier) (g : Graph) (root : NodeId) :
    (c.build g root).findings.toList.filterMap Finding.coverage? =
      (c.build g root).classifier.coverage.gaps c.tolerance := by
  have hdraft := (Call.lasting Draft.lasting_coverage? (Call.first g root)).1
  have hgaps : ∀ l : List (Axis × Float32),
      (l.map fun x => Finding.unevenCoverage x.1 x.2).filterMap Finding.coverage? = l := by
    intro l
    rw [List.filterMap_map]
    exact List.filterMap_some
  have hbuild : c.build g root = c.finish ((Call.first g root).outcome.1.1.toTree .start)
      (Call.first g root).outcome.1.2.draft := rfl
  have hblank : (Call.first g root).search.draft.findings.toList.filterMap Finding.coverage? = [] :=
    rfl
  rw [hblank] at hdraft
  rw [hbuild]
  simp [finish, hgaps, hdraft, Finding.coverage?]

/-- An axis that no node tests has a total of zero. -/
theorem coverage_build_of_not_tests (h : ¬(c.build g root).classifier.tree.Tests a) :
    (c.build g root).classifier.coverage.get a = 0 := by
  have hcoverage := (Call.first g root).coverage_outcome (a := a) fun arm harm haxis => by
    refine h ⟨arm.toTree, ?_, haxis⟩
    rw [nodes_build]
    exact List.mem_cons_of_mem _ (List.mem_map_of_mem harm)
  rw [show (c.build g root).classifier.coverage = (Call.first g root).outcome.1.2.draft.coverage
    from rfl, hcoverage]
  exact PerAxis.get_const 0 a

end Classifier

/-- What a build says about the coverage of the axes: which of them are listed, and that it warns of
these. -/
structure Build.ReportsCoverage (r : Build) : Prop where
  /-- A build warns once of each axis that is listed, in their order, and of no other. -/
  warned : r.findings.toList.filterMap Finding.coverage? =
    r.classifier.coverage.gaps r.classifier.tolerance
  /-- An axis in use with a total other than zero that strays from one is listed once. -/
  listed : ∀ a, r.classifier.tree.Tests a →
    (r.classifier.coverage.get a).isNaN = false → (r.classifier.coverage.get a == 0) = false →
      ¬(r.classifier.coverage.get a - 1).abs ≤ r.classifier.tolerance →
        (r.classifier.coverage.gaps r.classifier.tolerance).filter (fun x => x.1 == a) =
          [(a, r.classifier.coverage.get a)]
  /-- An axis is left out only if its total is within the tolerance of one, or zero. -/
  left_out : ∀ a, (r.classifier.coverage.get a).isNaN = false →
    (∀ x, (a, x) ∉ r.classifier.coverage.gaps r.classifier.tolerance) →
      (r.classifier.coverage.get a - 1).abs ≤ r.classifier.tolerance ∨
        (r.classifier.coverage.get a == 0) = true
  /-- An axis that no node tests has a total of zero. -/
  unused : ∀ a, ¬r.classifier.tree.Tests a → r.classifier.coverage.get a = 0

/-- **A build reports every axis in use that is not tiled**, whatever the graph, the root and the
tolerance, as far as its total is a number other than zero. -/
theorem Classifier.reportsCoverage_build (c : Classifier) (g : Graph) (root : NodeId)
    (htolerance : 0 ≤ c.tolerance) : (c.build g root).ReportsCoverage := by
  have htol : c.tolerance.isNaN = false := (Single.isNaN_of_le htolerance).2
  refine ⟨c.filterMap_coverage?_build g root, fun a _ hnan hzero hfar => ?_, fun a hnan hout => ?_,
    fun a => coverage_build_of_not_tests⟩
  · rw [Coverage.filter_gaps]
    exact if_pos ((Coverage.isGap_iff htol hnan).mpr ⟨hzero, hfar⟩)
  · by_contra hcontra
    obtain ⟨hfar, hzero⟩ := not_or.mp hcontra
    refine hout _ (Coverage.mem_gaps_iff.mpr ⟨rfl, ?_⟩)
    exact (Coverage.isGap_iff htol hnan).mpr ⟨by simpa using hzero, hfar⟩

/-! ### A terrace -/

namespace Graph

/-- The only part of a split by height, from `min` to `max` on an axis from zero to one. -/
def terracePart (min max : Float32) : SubRange :=
  { name := "Terrace", min, max, axisMin := 0, axisMax := 1, colour := .white,
    attached := #[.ofIndex 1] }

/-- A switch by height with a single part, which a leaf is attached to. -/
def terrace (min max : Float32) : Graph :=
  ⟨#[.switch (.ranges .height #[terracePart min max]), .leaf none]⟩

theorem unfold_terrace (min max : Float32) : (terrace min max).unfold (.ofIndex 0) =
    .switch (.ofIndex 0) (.ranges .height #[terracePart min max])
      [(⟨.within .height min max, "Terrace", .white⟩, .leaf (.ofIndex 1))] := by
  have hleaf : (terrace min max).unfoldFrom [.ofIndex 0] (.ofIndex 1) = .leaf (.ofIndex 1) :=
    unfoldFrom_of_leaf (by decide) (b := none) rfl
  rw [unfold, unfoldFrom_of_switch List.not_mem_nil
    (s := .ranges .height #[terracePart min max]) rfl, ← hleaf]
  rfl

end Graph

namespace Classifier

/-- The total of the heights is the length of the terrace. -/
theorem coverage_terrace (c : Classifier) (min max : Float32) :
    (c.build (.terrace min max) (.ofIndex 0)).classifier.coverage.get .height =
      0 + (max - min) / (1 - 0) := by
  have hspan : (0 : Float32) < 1 - 0 := by decide
  have hshare : (Graph.terracePart min max).share = some ((max - min) / (1 - 0)) := if_pos hspan
  have hattached : (Graph.terracePart min max).attached.toList.isEmpty = false := rfl
  rw [coverage_build_eq, Graph.draft, Graph.unfold_terrace, Unfolding.encounters, List.flatMap_cons,
    List.flatMap_nil, Unfolding.encounters, Draft.meetAll]
  simp only [List.append_nil, List.foldl_cons, List.foldl_nil, Draft.meet, Draft.coverage_bind,
    Draft.inspectAll, Switch.outlets, List.map_cons, List.map_nil, List.zipIdx_cons,
    List.zipIdx_nil, Draft.inspect, hshare, hattached, Bool.false_eq_true, if_false, Switch.axis,
    Coverage.add, PerAxis.get_set_self, Draft.blank, Coverage.none, PerAxis.get_const]

theorem tests_terrace (c : Classifier) (min max : Float32) :
    (c.build (.terrace min max) (.ofIndex 0)).classifier.tree.Tests .height := by
  have hswitch : (Call.first (.terrace min max) (.ofIndex 0)).search.draft.graph.node?
      (Call.first (.terrace min max) (.ofIndex 0)).node =
        some (.switch (.ranges .height #[Graph.terracePart min max])) := rfl
  have hinner : ∃ arm ∈ (Call.first (.terrace min max) (.ofIndex 0)).inner,
      arm.branch = ⟨.within .height min max, "Terrace", .white⟩ := by
    rw [Call.inner_of_switch List.not_mem_nil hswitch]
    exact ⟨_, List.mem_cons_self, rfl⟩
  obtain ⟨arm, harm, hbranch⟩ := hinner
  refine ⟨arm.toTree, ?_, ?_⟩
  · rw [nodes_build, Call.arms_of_switch hswitch]
    refine List.mem_cons_of_mem _ (List.mem_map_of_mem ?_)
    exact List.mem_flatMap_of_mem harm List.mem_cons_self
  · show arm.branch.test.axis? = some .height
    rw [hbranch]
    rfl

/-- A terrace over half of the heights is listed. -/
theorem reportsCoverage_build_terrace :
    0 ≤ defaultTolerance ∧
      (((unbuilt defaultTolerance).build (.terrace 0 0.5) (.ofIndex 0)).classifier.coverage.gaps
          defaultTolerance).filter (fun x => x.1 == .height) =
        [(.height, 0 + (0.5 - 0) / (1 - 0))] := by
  have htolerance : 0 ≤ defaultTolerance := by decide
  have hreports := reportsCoverage_build (unbuilt defaultTolerance) (.terrace 0 0.5) (.ofIndex 0)
    htolerance
  have hlisted := hreports.listed .height (tests_terrace _ 0 0.5)
  rw [coverage_terrace] at hlisted
  exact ⟨htolerance, hlisted (by decide) (by decide) (by decide)⟩

/-- A terrace without length is not listed, although the heights are tested and their total is far
from one; nor is one at an infinite height, where the total is `NaN`. -/
theorem not_listed_terrace :
    0 ≤ defaultTolerance ∧ ∀ height ∈ [(0.5 : Float32), 1 / 0],
      let r := (unbuilt defaultTolerance).build (.terrace height height) (.ofIndex 0)
      r.classifier.tree.Tests .height ∧
        ¬(r.classifier.coverage.get .height - 1).abs ≤ defaultTolerance ∧
          (∀ x, (.height, x) ∉ r.classifier.coverage.gaps defaultTolerance) ∧
            ∀ x ∈ r.findings.toList.filterMap Finding.coverage?, x.1 ≠ .height := by
  refine ⟨by decide, fun height hheight => ?_⟩
  intro r
  have htotal : r.classifier.coverage.get .height = 0 + (height - height) / (1 - 0) :=
    coverage_terrace (unbuilt defaultTolerance) height height
  have hgap : Coverage.isGap defaultTolerance (r.classifier.coverage.get .height) = false := by
    rw [htotal]
    rcases List.mem_cons.mp hheight with rfl | hheight
    · decide
    · obtain rfl := List.mem_singleton.mp hheight
      decide
  have hout : ∀ x, (Axis.height, x) ∉ r.classifier.coverage.gaps defaultTolerance := by
    intro x hx
    obtain ⟨rfl, hx⟩ := Coverage.mem_gaps_iff.mp hx
    rw [hgap] at hx
    cases hx
  refine ⟨tests_terrace _ height height, ?_, hout, ?_⟩
  · rw [htotal]
    rcases List.mem_cons.mp hheight with rfl | hheight
    · decide
    · obtain rfl := List.mem_singleton.mp hheight
      decide
  · rintro ⟨a, x⟩ hx rfl
    rw [filterMap_coverage?_build] at hx
    exact hout x hx

end Classifier

end Biomes
