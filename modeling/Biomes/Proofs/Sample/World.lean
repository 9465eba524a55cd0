import Biomes.Proofs.Catalog.Overlap
import Biomes.Proofs.Compile.Meaning
import Biomes.Proofs.Single.Product
import Biomes.Sample.World

/-!
# The sample world is the same as a graph and as a catalog

The graph asks one question after the other, with parts of an axis that exclude their lower ends;
the catalog lists boxes, which include them.  Apart from these lower ends the two agree, whatever
the greatest height (`Sample.classify_graph_iff`): at every switch at most one branch accepts a
place, so that it does not matter that the first one is taken and never left again.
-/

namespace Biomes

/-! ### Tests on samples -/

namespace Sample

variable {top : Float32} {water : Bool} {height temperature wetness : Float32} {name : String}

theorem accepts_flag (b : Bool) :
    (Test.flag .water b).accepts (.sample water height temperature wetness) = true ↔
      water = b := by
  rw [Test.accepts, Point.flag_sample, beq_iff_eq]

/-! ### The graph -/

theorem branches_shore : Switch.branches (.shore #[node 2] #[node 3]) =
    [(⟨.flag .water false, "terrestrial", .black⟩, node 2),
      (⟨.flag .water true, "aquatic", .pureBlue⟩, node 3)] := rfl

theorem branches_heightSwitch (top : Float32) : (heightSwitch top).branches =
    [(⟨.within .height 0 (lowlandTop * top), "Lowland", .white⟩, node 4),
      (⟨.within .height (lowlandTop * top) (highlandTop * top), "Highland", .white⟩, node 5),
      (⟨.within .height (highlandTop * top) top, "Peaks", .white⟩, node 6)] := rfl

theorem branches_wetnessSwitch : wetnessSwitch.branches =
    [(⟨.within .wetness 0 0.3, "Desert", .rgb 0.86 0.8 0.55⟩, node 7),
      (⟨.within .wetness 0.3 0.7, "Plains", .rgb 0.5 0.7 0.35⟩, node 8),
      (⟨.within .wetness 0.7 1, "Swamp", .rgb 0.25 0.35 0.2⟩, node 9)] := rfl

theorem branches_temperatureSwitch : temperatureSwitch.branches =
    [(⟨.within .temperature (-1) 0, "Taiga", .rgb 0.3 0.4 0.25⟩, node 10),
      (⟨.within .temperature 0 1, "Forest", .rgb 0.15 0.45 0.2⟩, node 11)] := rfl

/-- A place does not lie in two parts of an axis of which one ends where or before the other
begins. -/
theorem not_both {a : Axis} {min max min' max' : Float32} {p : Point}
    (h : max = min' ∨ max ≤ min') :
    ¬((Test.within a min max).accepts p = true ∧ (Test.within a min' max').accepts p = true) := by
  rw [Test.accepts_within, Test.accepts_within]
  rintro ⟨⟨-, hle⟩, hlt, -⟩
  have hle' : p.get a ≤ min' := by
    rcases h with rfl | h
    · exact hle
    · exact Single.le_trans hle h
  exact Single.not_le_of_lt hlt hle'

/-- Lowland ends before the peaks begin, if there are places in both: the bands are turned around
only if the greatest height is negative, and then no height above zero belongs to the peaks. -/
theorem not_lowland_and_peaks (top : Float32) (p : Point) :
    ¬((Test.within .height 0 (lowlandTop * top)).accepts p = true ∧
      (Test.within .height (highlandTop * top) top).accepts p = true) := by
  rw [Test.accepts_within, Test.accepts_within]
  rintro ⟨⟨hpos, hlow⟩, hhigh, htop⟩
  have hbounds : lowlandTop * top ≤ highlandTop * top :=
    Single.mul_le_mul_right (by decide) (by decide) (Single.lt_of_lt_of_le hpos htop)
  exact Single.not_le_of_lt hhigh (Single.le_trans hlow hbounds)

/-- No height lies in two bands. -/
theorem pairwise_heightSwitch (top : Float32) (p : Point) :
    (heightSwitch top).branches.Pairwise fun x y =>
      ¬(x.1.test.accepts p = true ∧ y.1.test.accepts p = true) := by
  rw [branches_heightSwitch]
  simp only [List.pairwise_cons, List.mem_cons, List.not_mem_nil, or_false, forall_eq_or_imp,
    forall_eq, false_imp_iff, implies_true, List.Pairwise.nil, and_true]
  exact ⟨⟨not_both (.inl rfl), not_lowland_and_peaks top p⟩, not_both (.inl rfl)⟩

theorem pairwise_wetnessSwitch (p : Point) :
    wetnessSwitch.branches.Pairwise fun x y =>
      ¬(x.1.test.accepts p = true ∧ y.1.test.accepts p = true) := by
  rw [branches_wetnessSwitch]
  simp only [List.pairwise_cons, List.mem_cons, List.not_mem_nil, or_false, forall_eq_or_imp,
    forall_eq, false_imp_iff, implies_true, List.Pairwise.nil, and_true]
  exact ⟨⟨not_both (.inl rfl), not_both (.inr (by decide))⟩, not_both (.inl rfl)⟩

theorem pairwise_temperatureSwitch (p : Point) :
    temperatureSwitch.branches.Pairwise fun x y =>
      ¬(x.1.test.accepts p = true ∧ y.1.test.accepts p = true) := by
  rw [branches_temperatureSwitch]
  exact List.pairwise_pair.mpr (not_both (.inl rfl))

theorem pairwise_shore (p : Point) :
    (Switch.branches (.shore #[node 2] #[node 3])).Pairwise fun x y =>
      ¬(x.1.test.accepts p = true ∧ y.1.test.accepts p = true) := by
  rw [branches_shore]
  refine List.pairwise_pair.mpr ?_
  rintro ⟨hdry, hwet⟩
  simp only [Test.accepts, beq_iff_eq] at hdry hwet
  rw [hdry] at hwet
  cases hwet

theorem node?_leaf (top : Float32) {i : Nat} (hi : i ∈ [3, 6, 7, 8, 9, 10, 11]) :
    (graph top).node? (node i) = some (.leaf none) := by
  simp only [List.mem_cons, List.not_mem_nil, or_false] at hi
  rcases hi with rfl | rfl | rfl | rfl | rfl | rfl | rfl <;> rfl

theorem endsAs_leaf {p : Point} {b : Branch} {path : List NodeId} (i : Nat)
    (hi : i ∈ [3, 6, 7, 8, 9, 10, 11]) (hn : node i ∉ path) (hb : b.name.isEmpty = false) :
    (graph top).EndsAs p b path (node i) name ↔ b.name = name :=
  Graph.endsAs_of_leaf hn (node?_leaf top hi) hb

/-- The names of lowland. -/
def IsLowland (p : Point) (name : String) : Prop :=
  (0 < p.get .wetness ∧ p.get .wetness ≤ 0.3) ∧ "Desert" = name ∨
    (0.3 < p.get .wetness ∧ p.get .wetness ≤ 0.7) ∧ "Plains" = name ∨
      (0.7 < p.get .wetness ∧ p.get .wetness ≤ 1) ∧ "Swamp" = name

/-- The names of highland. -/
def IsHighland (p : Point) (name : String) : Prop :=
  (-1 < p.get .temperature ∧ p.get .temperature ≤ 0) ∧ "Taiga" = name ∨
    (0 < p.get .temperature ∧ p.get .temperature ≤ 1) ∧ "Forest" = name

/-- The names of dry land. -/
def IsDry (top : Float32) (p : Point) (name : String) : Prop :=
  (0 < p.get .height ∧ p.get .height ≤ lowlandTop * top) ∧ IsLowland p name ∨
    (lowlandTop * top < p.get .height ∧ p.get .height ≤ highlandTop * top) ∧ IsHighland p name ∨
      (highlandTop * top < p.get .height ∧ p.get .height ≤ top) ∧ "Peaks" = name

theorem endsAs_wetnessSwitch {p : Point} {b : Branch} :
    (graph top).EndsAs p b [node 2, node 1, entry] (node 4) name ↔ IsLowland p name := by
  rw [Graph.endsAs_of_switch (by decide) (s := wetnessSwitch) rfl (pairwise_wetnessSwitch p),
    branches_wetnessSwitch]
  simp only [List.mem_cons, List.not_mem_nil, or_false, exists_eq_or_imp, exists_eq_left,
    Test.accepts_within]
  rw [endsAs_leaf 7 (by decide) (by decide) rfl, endsAs_leaf 8 (by decide) (by decide) rfl,
    endsAs_leaf 9 (by decide) (by decide) rfl, IsLowland]

theorem endsAs_temperatureSwitch {p : Point} {b : Branch} :
    (graph top).EndsAs p b [node 2, node 1, entry] (node 5) name ↔ IsHighland p name := by
  rw [Graph.endsAs_of_switch (by decide) (s := temperatureSwitch) rfl
    (pairwise_temperatureSwitch p), branches_temperatureSwitch]
  simp only [List.mem_cons, List.not_mem_nil, or_false, exists_eq_or_imp, exists_eq_left,
    Test.accepts_within]
  rw [endsAs_leaf 10 (by decide) (by decide) rfl, endsAs_leaf 11 (by decide) (by decide) rfl,
    IsHighland]

theorem endsAs_heightSwitch {p : Point} {b : Branch} :
    (graph top).EndsAs p b [node 1, entry] (node 2) name ↔ IsDry top p name := by
  rw [Graph.endsAs_of_switch (by decide) (s := heightSwitch top) rfl (pairwise_heightSwitch top p),
    branches_heightSwitch]
  simp only [List.mem_cons, List.not_mem_nil, or_false, exists_eq_or_imp, exists_eq_left,
    Test.accepts_within]
  rw [endsAs_wetnessSwitch, endsAs_temperatureSwitch, endsAs_leaf 6 (by decide) (by decide) rfl,
    IsDry]

/-- What the graph says about a sample. -/
theorem endsAs_graph_iff :
    (graph top).EndsAs (.sample water height temperature wetness) .start [] entry name ↔
      water = false ∧ IsDry top (.sample water height temperature wetness) name ∨
        water = true ∧ "aquatic" = name := by
  rw [Graph.endsAs_of_relay (t := node 1) (by decide) rfl,
    Graph.endsAs_of_switch (by decide) (s := .shore #[node 2] #[node 3]) rfl (pairwise_shore _),
    branches_shore]
  simp only [List.mem_cons, List.not_mem_nil, or_false, exists_eq_or_imp, exists_eq_left,
    accepts_flag]
  rw [endsAs_heightSwitch, endsAs_leaf 3 (by decide) (by decide) rfl]

end Sample

/-! ### The catalog -/

/-- Whether a value is accepted, and does not lie on the lower bound either. -/
def Constraint.encloses (c : Constraint) (v : Float32) : Prop :=
  c.enabled = true → c.min < v ∧ v ≤ c.max

/-- Whether a place is accepted and lies above the lower bound on every axis that is constrained,
but for water. -/
def Constraints.Enclose (cs : Constraints) (p : Point) : Prop :=
  cs.accept p = true ∧ ∀ a, a ≠ .water → (cs.get a).enabled = true → (cs.get a).min < p.get a

namespace Constraints

variable {cs : Constraints} {p : Point}

theorem enclose_iff : cs.Enclose p ↔ (cs.get .water).accepts (p.get .water) = true ∧
    ∀ a, a ≠ .water → (cs.get a).encloses (p.get a) := by
  rw [Enclose, accept_iff]
  constructor
  · rintro ⟨haccept, hmin⟩
    refine ⟨haccept .water, fun a ha henabled => ⟨hmin a ha henabled, ?_⟩⟩
    have haccepts := (Constraint.accepts_iff henabled).mp (haccept a)
    exact (Interval.contains_iff.mp haccepts).2
  · rintro ⟨hwater, henclose⟩
    refine ⟨fun a => ?_, fun a ha henabled => (henclose a ha henabled).1⟩
    by_cases ha : a = .water
    · rw [ha]
      exact hwater
    · cases henabled : (cs.get a).enabled with
      | false => exact Constraint.accepts_of_disabled henabled _
      | true =>
        obtain ⟨hlt, hle⟩ := henclose a ha henabled
        exact (Constraint.accepts_iff henabled).mpr
          (Interval.contains_iff.mpr ⟨Single.le_of_lt hlt, hle⟩)

/-- The axes one by one. -/
theorem enclose_sample_iff {water : Bool} {height temperature wetness : Float32} :
    cs.Enclose (.sample water height temperature wetness) ↔
      (cs.get .water).accepts (Constraint.flagValue water) = true ∧
        (cs.get .height).encloses height ∧ (cs.get .temperature).encloses temperature ∧
          (cs.get .wetness).encloses wetness := by
  rw [enclose_iff]
  refine and_congr Iff.rfl ⟨fun h => ⟨h .height (by decide), h .temperature (by decide),
    h .wetness (by decide)⟩, ?_⟩
  rintro ⟨hheight, htemperature, hwetness⟩ a ha
  cases a with
  | water => exact (ha rfl).elim
  | height => exact hheight
  | temperature => exact htemperature
  | wetness => exact hwetness

end Constraints

namespace Constraint

theorem encloses_free (v : Float32) : free.encloses v := fun h => (Bool.false_ne_true h).elim

theorem encloses_within {min max v : Float32} : (within min max).encloses v ↔ min < v ∧ v ≤ max :=
  ⟨fun h => h rfl, fun h _ => h⟩

theorem accepts_flag_iff {b water : Bool} :
    (flag b).accepts (flagValue water) = true ↔ water = b := by
  cases b <;> cases water <;> decide

end Constraint

namespace Catalog

variable {k : Catalog} {c : Cell} {i j : Nat}

/-- The names of the cells with their constraints. -/
def ranges (k : Catalog) : List (String × Constraints) :=
  k.cells.toList.map fun c => (c.name, c.constraints)

theorem ranges_push (h : k.cells.size < capacity) :
    (k.push c).1.ranges = k.ranges ++ [(c.name, c.constraints)] := by
  simp [push, if_pos h, ranges]

/-- A link changes neither names nor constraints. -/
theorem ranges_addLink : (k.addLink i j).ranges = k.ranges := by
  rw [ranges, ranges, addLink, Array.toList_modify]
  refine List.ext_getElem? fun m => ?_
  rw [List.getElem?_map, List.getElem?_map, List.getElem?_modify]
  cases k.cells.toList[m]? with
  | none => rfl
  | some c =>
    simp only [Option.map_eq_map, Option.map_some]
    split
    · split <;> rfl
    · rfl

theorem ranges_link : (k.link i j).1.ranges = k.ranges := by
  unfold link
  split
  · rfl
  · rw [ranges_addLink, ranges_addLink]

theorem length_ranges (k : Catalog) : k.ranges.length = k.cells.size := by
  rw [ranges, List.length_map, Array.length_toList]

theorem exists_cell_iff {P : String → Constraints → Prop} :
    (∃ c ∈ k.cells, P c.name c.constraints) ↔ ∃ r ∈ k.ranges, P r.1 r.2 := by
  simp only [ranges, List.mem_map, Array.mem_toList_iff, exists_exists_and_eq_and]

end Catalog

namespace Sample

variable {top : Float32} {water : Bool} {height temperature wetness : Float32} {name : String}

theorem ranges_addCell {k : Catalog} (h : k.cells.size < Catalog.capacity) (c : Cell) :
    (addCell k c).ranges = k.ranges ++ [(c.name, c.constraints)] := by
  unfold addCell
  dsimp only
  split
  · split
    · rw [Catalog.ranges_link, Catalog.ranges_push h]
    · exact Catalog.ranges_push h
  · exact Catalog.ranges_push h

theorem ranges_foldl_addCell (cs : List Cell) {k : Catalog}
    (h : k.cells.size + cs.length ≤ Catalog.capacity) :
    (cs.foldl addCell k).ranges = k.ranges ++ cs.map fun c => (c.name, c.constraints) := by
  induction cs generalizing k with
  | nil => exact (List.append_nil _).symm
  | cons c cs ih =>
    rw [List.length_cons] at h
    have hadd := ranges_addCell (show k.cells.size < Catalog.capacity by omega) c
    have hsize : (addCell k c).cells.size = k.cells.size + 1 := by
      rw [← Catalog.length_ranges, hadd, List.length_append, Catalog.length_ranges]
      rfl
    rw [List.foldl_cons, ih (by omega), hadd, List.append_assoc]
    rfl

theorem ranges_catalog (top : Float32) :
    (catalog top).ranges = (cells top).map fun c => (c.name, c.constraints) :=
  ranges_foldl_addCell (cells top) (show 0 + 7 ≤ Catalog.capacity by decide)

/-- What the catalog says about a sample. -/
theorem exists_enclose_iff :
    (∃ c ∈ (catalog top).cells, c.name = name ∧
        c.constraints.Enclose (.sample water height temperature wetness)) ↔
      water = false ∧ IsDry top (.sample water height temperature wetness) name ∨
        water = true ∧ "aquatic" = name := by
  have hcells := Catalog.exists_cell_iff (k := catalog top)
    (P := fun n cs => n = name ∧ cs.Enclose (.sample water height temperature wetness))
  rw [hcells, ranges_catalog, cells]
  simp only [List.map_cons, List.map_nil, List.mem_cons, List.not_mem_nil, or_false,
    exists_eq_or_imp, exists_eq_left, Cell.plain, Constraints.enclose_sample_iff, dryBand,
    Constraints.none, PerAxis.get, PerAxis.set, PerAxis.const, Constraint.accepts_flag_iff,
    Constraint.encloses_within, Constraint.encloses_free, and_true, true_and]
  -- What the cells of a band have in common is asked once by the graph.
  simp only [IsDry, IsLowland, IsHighland, Point.sample, PerAxis.get, and_or_left, or_assoc,
    and_assoc, and_comm, and_left_comm]

/-- A search of the graph comes to seven leaves. -/
theorem length_arrivals_graph (top : Float32) : ((graph top).arrivals entry).length = 7 := by
  have hleaf : ∀ {b : Branch} {path : List NodeId} (i : Nat), i ∈ [3, 6, 7, 8, 9, 10, 11] →
      node i ∉ path → (graph top).arrivalsFrom b path (node i) = [⟨node i, b⟩] := fun i hi hn =>
    Graph.arrivalsFrom_of_leaf hn (node?_leaf top hi)
  have hlowland : ∀ b,
      ((graph top).arrivalsFrom b [node 2, node 1, entry] (node 4)).length = 3 := fun b => by
    rw [Graph.arrivalsFrom_of_switch (by decide) (s := wetnessSwitch) rfl, branches_wetnessSwitch]
    simp only [List.flatMap_cons, List.flatMap_nil]
    rw [hleaf 7 (by decide) (by decide), hleaf 8 (by decide) (by decide),
      hleaf 9 (by decide) (by decide)]
    rfl
  have hhighland : ∀ b,
      ((graph top).arrivalsFrom b [node 2, node 1, entry] (node 5)).length = 2 := fun b => by
    rw [Graph.arrivalsFrom_of_switch (by decide) (s := temperatureSwitch) rfl,
      branches_temperatureSwitch]
    simp only [List.flatMap_cons, List.flatMap_nil]
    rw [hleaf 10 (by decide) (by decide), hleaf 11 (by decide) (by decide)]
    rfl
  have hdry : ∀ b, ((graph top).arrivalsFrom b [node 1, entry] (node 2)).length = 6 := fun b => by
    rw [Graph.arrivalsFrom_of_switch (by decide) (s := heightSwitch top) rfl,
      branches_heightSwitch]
    simp only [List.flatMap_cons, List.flatMap_nil, List.length_append, hlowland, hhighland]
    rw [hleaf 6 (by decide) (by decide)]
    rfl
  have hshore : ∀ b, ((graph top).arrivalsFrom b [entry] (node 1)).length = 7 := fun b => by
    rw [Graph.arrivalsFrom_of_switch (by decide) (s := .shore #[node 2] #[node 3]) rfl,
      branches_shore]
    simp only [List.flatMap_cons, List.flatMap_nil, List.length_append, hdry]
    rw [hleaf 3 (by decide) (by decide)]
    rfl
  have hentry : (graph top).node? entry = some (.relay #[node 1]) := rfl
  rw [Graph.arrivals, Graph.arrivalsFrom_of_relay List.not_mem_nil hentry]
  simp only [List.flatMap_cons, List.flatMap_nil, List.length_append, hshore, List.length_nil]

/-- **The sample world is the same as a graph and as a catalog.**  Whatever the greatest height,
even a negative or infinite one or `NaN`, the classifier that is built from the graph gives a sample
the biome with a name if and only if the catalog has a cell with this name that accepts the sample,
and the sample lies above the lower bound of the cell on every axis that the cell constrains, but
for water. -/
theorem classify_graph_iff (c : Classifier) (top : Float32) (water : Bool)
    (height temperature wetness : Float32) (name : String) :
    (∃ i b, (c.build (graph top) entry).classifier.classify
          (.sample water height temperature wetness) = some i ∧
        (c.build (graph top) entry).classifier.biome? i = some b ∧ b.name = name) ↔
      ∃ cell ∈ (catalog top).cells, cell.name = name ∧
        cell.constraints.accept (.sample water height temperature wetness) = true ∧
          ∀ a, a ≠ .water → (cell.constraints.get a).enabled = true →
            (cell.constraints.get a).min <
              (Point.sample water height temperature wetness).get a := by
  have hroom : ((graph top).namedArrivals entry).length ≤ BiomeId.capacity := by
    refine Nat.le_trans (List.length_filter_le _ _) ?_
    rw [length_arrivals_graph]
    decide
  rw [Classifier.exists_biome_build_iff c (graph top) entry _ hroom]
  exact endsAs_graph_iff.trans exists_enclose_iff.symm

end Sample

end Biomes
