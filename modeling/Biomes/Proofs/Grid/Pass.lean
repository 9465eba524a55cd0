import Biomes.Grid.Pass

/-!
# Passes over a grid

A pass classifies each cell on its own.  What it has collected after some cells is a function of
their answers, in the order of the cells (`Tally.Counts`); one cell keeps this up
(`Tally.Counts.visit`), and so do a row and the whole grid (`Tally.Counts.grid`).

* `Region.place?`: the place of a cell, read with a check of every access to the samples;
* `Region.place?_eq`: on samples that fit, no access fails;
* `Classifier.chart_cells`: a pass over a flat region answers for each cell what the classifier
  answers for its place, if a vector holds the cells of the map.
-/

namespace Biomes

/-! ### Places -/

namespace Region

/-- The sample at a position, read as zero if the set was not taken.  There is none past the end. -/
def sample? (samples : Option (Array Float32)) (i : Nat) : Option Float32 :=
  match samples with
  | none => some 0
  | some xs => xs[i]?

/-- Whether there is a sample above zero at a position, which is not so if the set was not taken. -/
def positive? (samples : Option (Array Float32)) (i : Nat) : Option Bool :=
  match samples with
  | none => some false
  | some xs => xs[i]?.map fun x => decide (0 < x)

/-- The place at a position, if all samples that are read are there. -/
def place? (r : Region) (i : Nat) : Option Point := do
  let water ← positive? (if r.isWaterless then none else r.waterHeight) i
  let height ← sample? (r.terrain.bind (·.heights?)) i
  let temperature ← sample? r.temperature i
  let wetness ← sample? r.wetness i
  return .sample water height temperature wetness

variable {cells : Nat}

theorem sample?_eq {samples : Option (Array Float32)} (h : ∀ xs ∈ samples, xs.size = cells)
    (i : Fin cells) : sample? samples i = some (sampleAt samples h i) := by
  cases samples with
  | none => rfl
  | some xs =>
    have hi : i.val < xs.size := by
      rw [h xs rfl]
      exact i.isLt
    exact Array.getElem?_eq_getElem hi

theorem positive?_eq {samples : Option (Array Float32)} (h : ∀ xs ∈ samples, xs.size = cells)
    (i : Fin cells) : positive? samples i = some (wetAt samples h i) := by
  cases samples with
  | none => rfl
  | some xs =>
    have hi : i.val < xs.size := by
      rw [h xs rfl]
      exact i.isLt
    exact congrArg (Option.map _) (Array.getElem?_eq_getElem hi)

/-- On samples that fit, the place of every cell can be read. -/
theorem place?_eq {r : Region} (fits : r.Fits cells) (i : Fin cells) :
    r.place? i = some (r.pointAt fits i) := by
  have hwater : positive? (if r.isWaterless then none else r.waterHeight) i =
      some (wetAt _ fits.water i) :=
    positive?_eq fits.water i
  rw [place?, hwater, sample?_eq fits.heights, sample?_eq fits.temperature, sample?_eq fits.wetness]
  rfl

end Region

/-! ### Counting -/

/-- A budget of which some warnings have been raised. -/
theorem WarningBudget.spend_eq (max raised : Nat) :
    (WarningBudget.mk max (min raised max) (raised - max)).spend =
      ⟨max, min (raised + 1) max, raised + 1 - max⟩ := by
  unfold spend isOpen
  by_cases h : raised < max
  · rw [if_pos (by simp; omega)]
    congr 1 <;> dsimp only <;> omega
  · rw [if_neg (by simp; omega)]
    congr 1 <;> dsimp only <;> omega

namespace Tally

variable {cells : Nat}

/-- The tally of the first cells, by their answers. -/
structure Counts (t : Tally cells) (max : Nat) (answers : List (Option BiomeId)) : Prop where
  biomes : t.biomes.toList = answers ++ List.replicate (cells - answers.length) none
  present : t.present.toList = (answers.filterMap id).eraseDups
  nodup : t.present.toList.Nodup
  assigned : t.assigned = answers.countP Option.isSome
  unassigned : t.unassigned = answers.countP Option.isNone
  budget : t.budget = ⟨max, min t.unassigned max, t.unassigned - max⟩

namespace Counts

variable {t : Tally cells} {max : Nat} {answers : List (Option BiomeId)} {i : Fin cells}

theorem start (cells max : Nat) (records : Array Record) :
    (Tally.start cells max records).Counts max [] := by
  refine ⟨?_, rfl, List.nodup_nil, rfl, rfl, ?_⟩
  · exact Vector.toList_replicate
  · show WarningBudget.mk max 0 0 = ⟨max, min 0 max, 0 - max⟩
    rw [Nat.zero_min, Nat.zero_sub]

/-- The next cell gets a biome. -/
theorem assign (h : t.Counts max answers) (hi : answers.length = i) (b : BiomeId) :
    (t.assign i b).Counts max (answers ++ [some b]) := by
  have hcells := i.isLt
  have hfilter : (answers ++ [some b]).filterMap id = answers.filterMap id ++ [b] := by
    rw [List.filterMap_append]
    rfl
  refine ⟨?_, ?_, ?_, ?_, ?_, h.budget⟩
  · -- Cell `i` is the first of those that are still blank.
    have hsplit : cells - answers.length = cells - (answers.length + 1) + 1 := by omega
    show (t.biomes.set i (some b)).toList = _
    rw [Vector.toList_set, h.biomes, ← hi, List.set_append_right _ _ (Nat.le_refl _), Nat.sub_self,
      hsplit, List.replicate_succ, List.set_cons_zero, List.append_assoc, List.length_append]
    rfl
  · -- A biome that is present already is not entered again.
    show (if t.present.contains b then t.present else t.present.push b).toList = _
    rw [hfilter, List.eraseDups_append, ← h.present]
    by_cases hb : t.present.contains b = true
    · have hmem : b ∈ answers.filterMap id := by
        rw [← List.mem_eraseDups, ← h.present]
        simpa using hb
      rw [if_pos hb, List.removeAll, List.filter_cons_of_neg (by simpa using hmem)]
      exact (List.append_nil _).symm
    · have hmem : b ∉ answers.filterMap id := by
        rw [← List.mem_eraseDups, ← h.present]
        simpa using hb
      rw [if_neg hb, List.removeAll, List.filter_cons_of_pos (by simpa using hmem), Array.toList_push]
      rfl
  · show (if t.present.contains b then t.present else t.present.push b).toList.Nodup
    by_cases hb : t.present.contains b = true
    · rw [if_pos hb]
      exact h.nodup
    · rw [if_neg hb, Array.toList_push, List.nodup_append]
      refine ⟨h.nodup, by simp, fun x hx y hy hxy => hb ?_⟩
      rw [List.mem_singleton.mp hy] at hxy
      simpa [← hxy] using hx
  · rw [List.countP_append, ← h.assigned]
    rfl
  · rw [List.countP_append, ← h.unassigned]
    rfl

/-- The next cell gets no biome. -/
theorem miss (h : t.Counts max answers) (hi : answers.length < cells) (warning : Record) :
    (t.miss warning).Counts max (answers ++ [none]) := by
  have hfilter : (answers ++ [none]).filterMap id = answers.filterMap id := by
    rw [List.filterMap_append]
    exact List.append_nil _
  refine ⟨?_, ?_, h.nodup, ?_, ?_, ?_⟩
  · have hsplit : cells - answers.length = cells - (answers.length + 1) + 1 := by omega
    show t.biomes.toList = _
    rw [h.biomes, hsplit, List.replicate_succ, List.append_assoc, List.length_append]
    rfl
  · rw [hfilter]
    exact h.present
  · rw [List.countP_append, ← h.assigned]
    rfl
  · rw [List.countP_append, ← h.unassigned]
    rfl
  · show t.budget.spend = ⟨max, min (t.unassigned + 1) max, t.unassigned + 1 - max⟩
    rw [h.budget, WarningBudget.spend_eq]

/-- Every answer is counted once. -/
theorem total (h : t.Counts max answers) : t.assigned + t.unassigned = answers.length := by
  have hnone : (fun b : Option BiomeId => decide ¬b.isSome = true) = Option.isNone := by
    funext b
    cases b <;> rfl
  rw [h.assigned, h.unassigned, List.length_eq_countP_add_countP Option.isSome, hnone]

/-- A cell keeps the tally up. -/
theorem visit {c : Classifier} {r : Region} {side : Nat} {fits : r.Fits (side * side)}
    {t : Tally (side * side)} (h : t.Counts max answers) {x y : Fin side}
    (hi : answers.length = cellIndex x y) :
    (t.visit c r fits x y).Counts max
      (answers ++ [c.classify (r.pointAt fits (cellIndex x y))]) := by
  cases hc : c.classify (r.pointAt fits (cellIndex x y)) with
  | none =>
    have hvisit : t.visit c r fits x y =
        t.miss (Pass.unmatched x y (r.pointAt fits (cellIndex x y))) := by
      rw [Tally.visit, hc]
    rw [hvisit]
    refine h.miss ?_ _
    rw [hi]
    exact (cellIndex x y).isLt
  | some b =>
    have hvisit : t.visit c r fits x y = t.assign (cellIndex x y) b := by
      rw [Tally.visit, hc]
    rw [hvisit]
    exact h.assign hi b

end Counts

end Tally

/-- What holds before a loop and is kept up by its steps holds after it. -/
theorem foldl_induction {α : Type} {n : Nat} (P : Nat → α → Prop) {f : α → Fin n → α} {a : α}
    (hstart : P 0 a) (hstep : ∀ (i : Fin n) (a : α), P i a → P (i + 1) (f a i)) :
    P n (Fin.foldl n f a) := by
  induction n with
  | zero =>
    rw [Fin.foldl_zero]
    exact hstart
  | succ n ih =>
    rw [Fin.foldl_succ_last]
    exact hstep (.last n) _ (ih fun i a h => hstep i.castSucc a h)

namespace Tally

/-- **Going through the grid keeps the tally up**, cell by cell and row by row. -/
theorem Counts.grid {c : Classifier} {r : Region} {side : Nat} (fits : r.Fits (side * side))
    {t : Tally (side * side)} {max : Nat} (h : t.Counts max []) :
    (Fin.foldl side (fun t x => Fin.foldl side (fun t y => t.visit c r fits x y) t) t).Counts max
      (List.ofFn fun i => c.classify (r.pointAt fits i)) := by
  -- The invariant of both loops: the tally is that of the answers up to the current cell.
  let answers := List.ofFn fun i => c.classify (r.pointAt fits i)
  have hlength : answers.length = side * side := List.length_ofFn
  have htake : ∀ i : Fin (side * side),
      answers.take (i + 1) = answers.take i ++ [c.classify (r.pointAt fits i)] := by
    intro i
    rw [List.take_succ_eq_append_getElem (by rw [hlength]; exact i.isLt), List.getElem_ofFn]
  have hrow : ∀ (x : Fin side) (t : Tally (side * side)), t.Counts max (answers.take (x * side)) →
      (Fin.foldl side (fun t y => t.visit c r fits x y) t).Counts max
        (answers.take ((x + 1) * side)) := by
    intro x t ht
    rw [Nat.succ_mul]
    refine foldl_induction (fun y t => Counts t max (answers.take (x * side + y))) ht ?_
    intro y t ht
    have hi := (cellIndex x y).isLt
    have hcell := htake (cellIndex x y)
    refine Eq.mp (congrArg _ hcell.symm) (ht.visit ?_)
    rw [List.length_take, hlength]
    exact Nat.min_eq_left (Nat.le_of_lt hi)
  have hgrid := foldl_induction (fun x t => Counts t max (answers.take (x * side)))
    (by rw [Nat.zero_mul]; exact h) hrow
  rwa [List.take_of_length_le (Nat.le_of_eq hlength)] at hgrid

end Tally

/-! ### The pass -/

namespace Classifier

/-- Without a set of samples that does not fit, there is no misfit. -/
theorem misfit?_of_fits {r : Region} {cells : Nat} (h : r.Fits cells) : misfit? r cells = none := by
  rw [misfit?, Option.map_eq_none_iff, List.find?_eq_none]
  intro s hs
  simpa using h s hs

section

variable {c : Classifier} (o : PassOptions) {r : Region} {terrain : Terrain}

/-- A pass over a flat region on which all samples fit goes through its cells, unless there are more
of them than a vector holds. -/
theorem chart_of_fits (hbuilt : c.built = true) (hterrain : r.terrain = some terrain)
    (hflat : r.isVolumetric = false)
    (hword : terrain.side.toNat * terrain.side.toNat < wordLimit)
    (hfits : r.Fits (terrain.side.toNat * terrain.side.toNat)) :
    c.chart o r =
      let records := if 1 < o.blendCount then #[Pass.blendingIgnored o.blendCount] else #[]
      if vectorLimit ≤ terrain.side.toNat * terrain.side.toNat then
        ⟨.error (.mapTooLarge terrain.side), r, records⟩
      else c.chartCells o r terrain.side.toNat terrain.step records hfits := by
  have hmul : mulWord? terrain.side.toNat terrain.side.toNat =
      some (terrain.side.toNat * terrain.side.toNat) := if_pos hword
  -- None of the earlier reasons to return applies.
  unfold chart
  rw [hbuilt, if_neg (by simp), hterrain]
  dsimp only
  split
  · simp_all
  · rename_i cells hcells
    obtain rfl := mulWord?_eq_some hcells
    split
    · rename_i e he
      rw [misfit?_of_fits hfits] at he
      cases he
    · rw [if_neg (by simp [hflat])]

/-- If there are more, it breaks off, and changes nothing. -/
theorem mapTooLarge_of_fits (hbuilt : c.built = true) (hterrain : r.terrain = some terrain)
    (hflat : r.isVolumetric = false)
    (hword : terrain.side.toNat * terrain.side.toNat < wordLimit)
    (hfull : vectorLimit ≤ terrain.side.toNat * terrain.side.toNat)
    (hfits : r.Fits (terrain.side.toNat * terrain.side.toNat)) :
    (c.chart o r).outcome = .error (.mapTooLarge terrain.side) ∧ (c.chart o r).region = r := by
  rw [chart_of_fits o hbuilt hterrain hflat hword hfits]
  dsimp only
  rw [if_pos hfull]
  exact ⟨rfl, rfl⟩

theorem chart_eq_chartCells (hbuilt : c.built = true) (hterrain : r.terrain = some terrain)
    (hflat : r.isVolumetric = false)
    (hroom : terrain.side.toNat * terrain.side.toNat < vectorLimit)
    (hfits : r.Fits (terrain.side.toNat * terrain.side.toNat)) :
    c.chart o r = c.chartCells o r terrain.side.toNat terrain.step
      (if 1 < o.blendCount then #[Pass.blendingIgnored o.blendCount] else #[]) hfits := by
  have hword := Nat.lt_trans hroom vectorLimit_lt_wordLimit
  rw [chart_of_fits o hbuilt hterrain hflat hword hfits]
  exact if_neg (Nat.not_le.mpr hroom)

end

/-- **A pass over a flat region classifies every cell on its own.**  If all samples fit, and a vector
holds the cells of the map, the pass succeeds, and every access to the samples does.  The map holds
for each cell what the classifier says to its place; the biomes that are present are those on the
map, in the order in which they first occur; every cell is counted once, and warnings are given until
the budget is used up.  Nothing else of the region changes.  If a vector does not hold the cells, the
pass breaks off, and nothing changes at all. -/
theorem chart_cells (c : Classifier) (o : PassOptions) (r : Region) {terrain : Terrain}
    (hbuilt : c.built = true) (hterrain : r.terrain = some terrain) (hflat : r.isVolumetric = false)
    (hword : terrain.side.toNat * terrain.side.toNat < wordLimit)
    (hfits : r.Fits (terrain.side.toNat * terrain.side.toNat)) :
    (terrain.side.toNat * terrain.side.toNat < vectorLimit →
      ∃ (stats : PassStats) (map : BiomeMap) (present : Array BiomeId),
      (c.chart o r).outcome = .ok stats ∧
      (c.chart o r).region = { r with map := some map, present := present } ∧
      map.side = terrain.side.toNat ∧ map.step = terrain.step ∧
      map.cells.size = terrain.side.toNat * terrain.side.toNat ∧
      (∀ x < terrain.side.toNat, ∀ y < terrain.side.toNat,
        ∃ p, r.place? (x * terrain.side.toNat + y) = some p ∧ map.get x y = .ok (c.classify p)) ∧
      present.toList = (map.cells.toList.filterMap id).eraseDups ∧ present.toList.Nodup ∧
      stats.assigned = map.cells.toList.countP Option.isSome ∧
      stats.unassigned = map.cells.toList.countP Option.isNone ∧
      stats.assigned + stats.unassigned = terrain.side.toNat * terrain.side.toNat ∧
      stats.emitted = min stats.unassigned o.maxWarnings ∧
      stats.suppressed = stats.unassigned - stats.emitted) ∧
    (vectorLimit ≤ terrain.side.toNat * terrain.side.toNat →
      (c.chart o r).outcome = .error (.mapTooLarge terrain.side) ∧ (c.chart o r).region = r) := by
  refine ⟨fun hroom => ?_,
    fun hfull => mapTooLarge_of_fits o hbuilt hterrain hflat hword hfull hfits⟩
  rw [chart_eq_chartCells o hbuilt hterrain hflat hroom hfits]
  have hcounts := (Tally.Counts.start (terrain.side.toNat * terrain.side.toNat) o.maxWarnings
    (if 1 < o.blendCount then #[Pass.blendingIgnored o.blendCount] else #[])).grid (c := c) hfits
  unfold chartCells
  dsimp only
  generalize Fin.foldl _ _ _ = t at hcounts ⊢
  have hcells : t.biomes.toArray.toList = List.ofFn fun i => c.classify (r.pointAt hfits i) := by
    have := hcounts.biomes
    rwa [List.length_ofFn, Nat.sub_self, List.replicate_zero, List.append_nil] at this
  rw [← hcells] at hcounts
  have hemitted : t.budget.emitted = min t.unassigned o.maxWarnings := by rw [hcounts.budget]
  have hsuppressed : t.budget.suppressed = t.unassigned - o.maxWarnings := by rw [hcounts.budget]
  refine ⟨t.stats, ⟨terrain.side.toNat, terrain.step, t.biomes.toArray⟩, t.present, rfl, rfl, rfl,
    rfl, t.biomes.size_toArray, ?_, hcounts.present, hcounts.nodup, hcounts.assigned,
    hcounts.unassigned, ?_, hemitted, ?_⟩
  · intro x hx y hy
    refine ⟨_, Region.place?_eq hfits (cellIndex ⟨x, hx⟩ ⟨y, hy⟩), ?_⟩
    have hi : x * terrain.side.toNat + y < terrain.side.toNat * terrain.side.toNat :=
      (cellIndex ⟨x, hx⟩ ⟨y, hy⟩).isLt
    have hget : t.biomes.toArray[x * terrain.side.toNat + y]? =
        some (c.classify (r.pointAt hfits (cellIndex ⟨x, hx⟩ ⟨y, hy⟩))) := by
      rw [← Array.getElem?_toList, hcells, List.getElem?_ofFn, dif_pos hi]
      rfl
    rw [BiomeMap.get, BiomeMap.index, if_pos ⟨hx, hy⟩]
    exact congrArg (Except.ok ∘ Option.join) hget
  · have hsize : t.biomes.toArray.toList.length = _ := t.biomes.size_toArray
    have hnone : (fun b : Option BiomeId => decide ¬b.isSome = true) = Option.isNone := by
      funext b
      cases b <;> rfl
    show t.assigned + t.unassigned = _
    rw [List.length_eq_countP_add_countP Option.isSome, hnone] at hsize
    rw [hcounts.assigned, hcounts.unassigned, hsize]
  · show t.budget.suppressed = t.unassigned - t.budget.emitted
    rw [hemitted, hsuppressed]
    omega

end Classifier

/-- A waterless plot of four cells.  The water samples do not fit, and are not read. -/
def Region.plot : Region :=
  { Region.unknown with
    terrain := some (.heightField 2 1 #[0, 1, 2, 3])
    waterHeight := some #[5]
    isWaterless := true
    temperature := some #[0, 0, 1, 1] }

/-- All four cells of the plot are counted. -/
theorem Classifier.chart_plot :
    ∃ stats, (((unbuilt defaultTolerance).build .empty (.ofIndex 0)).classifier.chart .standard
        .plot).outcome = .ok stats ∧ stats.assigned + stats.unassigned = 4 := by
  have hfits : Region.plot.Fits 4 := by
    intro s hs
    have hs' : s = ("heights", #[0, 1, 2, 3]) ∨ s = ("temperature", #[0, 0, 1, 1]) := by
      simpa [Region.plot, Region.unknown, Region.sampleSets, Region.waterSamples,
        Terrain.heights?] using hs
    rcases hs' with rfl | rfl <;> rfl
  obtain ⟨stats, map, present, hok, -, -, -, -, -, -, -, -, -, hsum, -⟩ :=
    (chart_cells ((unbuilt defaultTolerance).build .empty (.ofIndex 0)).classifier .standard .plot
      (built_build ..) rfl rfl (by decide) hfits).1 (by decide)
  exact ⟨stats, hok, hsum⟩

/-- A plain of which nothing is known, the smallest whose cells a vector does not hold. -/
def Region.plain : Region := { Region.unknown with terrain := some (.volume 1518500250 1) }

/-- The number of cells of the plain is a machine word, and there are no samples that do not fit.
But the pass breaks off before it writes anything. -/
theorem Classifier.not_mapped_plain :
    ((unbuilt defaultTolerance).build .empty (.ofIndex 0)).classifier.built = true ∧
      Region.plain.terrain = some (.volume 1518500250 1) ∧ Region.plain.isVolumetric = false ∧
      1518500249 * 1518500249 < vectorLimit ∧ 1518500250 * 1518500250 < wordLimit ∧
      Region.plain.Fits (1518500250 * 1518500250) ∧
      (((unbuilt defaultTolerance).build .empty (.ofIndex 0)).classifier.chart .standard
        .plain).outcome = .error (.mapTooLarge 1518500250) ∧
      (((unbuilt defaultTolerance).build .empty (.ofIndex 0)).classifier.chart .standard
        .plain).region = .plain := by
  have hbuilt := built_build (unbuilt defaultTolerance) .empty (.ofIndex 0)
  have hfits : Region.plain.Fits (1518500250 * 1518500250) :=
    fun s hs => absurd hs List.not_mem_nil
  have hterrain : Region.plain.terrain = some (.volume 1518500250 1) := rfl
  have hrefused := mapTooLarge_of_fits .standard hbuilt hterrain rfl (by decide) (by decide) hfits
  exact ⟨hbuilt, hterrain, rfl, by decide, by decide, hfits, hrefused⟩

end Biomes
