import Mathlib
import Biomes.Proofs.Grid.History

/-!
# Warnings of a pass

A pass over the cells warns of those that no branch accepts (`Classifier.misses`), row by row, until
the budget is used up, and sums up the rest at the end: `Pass.log` says what is reported.  The loop
keeps this up cell by cell (`Tally.Logs.visit`), and as it is one fold over the cells, so does the
whole grid (`Classifier.logs_tally`).  The budget has no other effect
(`Classifier.records_chart`).
-/

namespace Biomes

/-! ### What is sampled in a cell -/

/-- The samples that are taken in a cell. -/
structure Sounding where
  x : Nat
  y : Nat
  water : Bool
  height : Float32
  temperature : Float32
  wetness : Float32
  deriving DecidableEq, Repr

namespace Sounding

/-- The place that a cell stands for. -/
def place (s : Sounding) : Point := .sample s.water s.height s.temperature s.wetness

/-- The warning that no branch accepts a cell.  It says what was sampled there, and where it is. -/
def warning (s : Sounding) : Record :=
  { level := .warn
    target := "biome_switch::classify"
    message := s!"can't choose biome with water: {s.water}, temp: {shown s.temperature}, " ++
      s!"wet: {shown s.wetness}, height: {shown s.height}"
    fields := [("x", .count s.x), ("y", .count s.y)] }

theorem unmatched_place (s : Sounding) : Pass.unmatched s.x s.y s.place = s.warning := by
  have hwater : s.place.flag .water = s.water := Point.flag_sample ..
  rw [Pass.unmatched, hwater]
  rfl

end Sounding

namespace Region

variable {r : Region} {side : Nat}

/-- The samples of a cell, if all that are read are there. -/
def sounding? (r : Region) (side x y : Nat) : Option Sounding := do
  let i := x * side + y
  let water ← positive? (if r.isWaterless then none else r.waterHeight) i
  let height ← sample? (r.terrain.bind (·.heights?)) i
  let temperature ← sample? r.temperature i
  let wetness ← sample? r.wetness i
  return { x, y, water, height, temperature, wetness }

/-- The samples of all cells, row by row. -/
def soundings (r : Region) (side : Nat) : List Sounding :=
  (List.range side ×ˢ List.range side).filterMap fun c => r.sounding? side c.1 c.2

/-- On samples that fit, the samples of every cell can be read. -/
theorem exists_sounding (fits : r.Fits (side * side)) (x y : Fin side) :
    ∃ s, r.sounding? side x y = some s ∧ s.x = x ∧ s.y = y ∧
      s.place = r.pointAt fits (cellIndex x y) := by
  have hwater : positive? (if r.isWaterless then none else r.waterHeight) (x * side + y) =
      some (wetAt _ fits.water (cellIndex x y)) :=
    positive?_eq fits.water (cellIndex x y)
  have hheight := sample?_eq fits.heights (cellIndex x y)
  have htemperature := sample?_eq fits.temperature (cellIndex x y)
  have hwetness := sample?_eq fits.wetness (cellIndex x y)
  rw [cellIndex] at hheight htemperature hwetness
  rw [sounding?, hwater, hheight, htemperature, hwetness]
  exact ⟨_, rfl, rfl, rfl, rfl⟩

end Region

/-! ### The cells as one list -/

/-- The cells of a grid, row by row. -/
def gridCells (side : Nat) : List (Fin side × Fin side) :=
  List.finRange side ×ˢ List.finRange side

theorem map_gridCells (side : Nat) :
    (gridCells side).map (fun c => (c.1.val, c.2.val)) = List.range side ×ˢ List.range side := by
  simp only [gridCells, SProd.sprod, List.product, ← List.map_coe_finRange_eq_range,
    List.map_flatMap, List.flatMap_map, List.map_map]
  rfl

/-- Going through rows and columns is going through the cells. -/
theorem foldl_gridCells {α : Type} {side : Nat} (f : α → Fin side → Fin side → α) (a : α) :
    Fin.foldl side (fun a x => Fin.foldl side (fun a y => f a x y) a) a =
      (gridCells side).foldl (fun a c => f a c.1 c.2) a := by
  simp only [Fin.foldl_eq_foldl_finRange, gridCells, SProd.sprod, List.product,
    List.flatMap_def, List.foldl_flatten, List.foldl_map]

/-- On samples that fit, every cell is sampled. -/
theorem Region.coordinates_soundings {r : Region} {side : Nat} (fits : r.Fits (side * side)) :
    (r.soundings side).map (fun s => (s.x, s.y)) = List.range side ×ˢ List.range side := by
  have hcell : ∀ cell : Fin side × Fin side,
      (r.sounding? side cell.1 cell.2).map (fun s => (s.x, s.y)) =
        some (cell.1.val, cell.2.val) := by
    intro cell
    obtain ⟨s, hs, hx, hy, -⟩ := exists_sounding fits cell.1 cell.2
    rw [hs, Option.map_some, hx, hy]
  rw [soundings, List.map_filterMap, ← map_gridCells, List.filterMap_map]
  simp only [Function.comp_def, hcell]
  exact congrFun List.filterMap_eq_map _

/-! ### The log -/

namespace Pass

/-- The closing record, which says how many warnings were not given. -/
def closing (suppressed max : Nat) : Record :=
  { level := .warn
    target := "biome_switch::diagnostics"
    message := s!"unmatched biome cells: {suppressed} further warnings suppressed after the first {max}"
    fields := [("suppressed", .count suppressed)] }

/-- What a pass over cells reports: that blending was asked for, the first cells that no branch
accepts, and how many more of them there are. -/
def log (blendCount max : Nat) (misses : List Sounding) : List Record :=
  (if 1 < blendCount then [blendingIgnored blendCount] else []) ++
    (misses.take max).map Sounding.warning ++
    if max < misses.length then [closing (misses.length - max) max] else []

end Pass

namespace Tally

variable {cells : Nat}

/-- The tally of cells of which some are to be warned about: the first warnings have been given, as
many as the budget allows. -/
structure Logs (t : Tally cells) (before : Array Record) (max : Nat) (warnings : List Record) :
    Prop where
  records : t.records.toList = before.toList ++ warnings.take max
  unassigned : t.unassigned = warnings.length
  budget : t.budget = ⟨max, min warnings.length max, warnings.length - max⟩

namespace Logs

variable {t : Tally cells} {before : Array Record} {max : Nat} {warnings : List Record}

theorem start (cells max : Nat) (before : Array Record) :
    (Tally.start cells max before).Logs before max [] := by
  refine ⟨?_, rfl, ?_⟩
  · rw [List.take_nil, List.append_nil]
    rfl
  · rw [List.length_nil, Nat.zero_min, Nat.zero_sub]
    rfl

theorem assign (h : t.Logs before max warnings) (i : Fin cells) (b : BiomeId) :
    (t.assign i b).Logs before max warnings :=
  ⟨h.records, h.unassigned, h.budget⟩

theorem miss (h : t.Logs before max warnings) (warning : Record) :
    (t.miss warning).Logs before max (warnings ++ [warning]) := by
  refine ⟨?_, ?_, ?_⟩
  · show (if t.budget.isOpen then t.records.push warning else t.records).toList = _
    rw [h.budget, WarningBudget.isOpen]
    -- As long as the budget is open, all warnings so far have been given, and so is this one.
    by_cases hlt : warnings.length < max
    · rw [if_pos (decide_eq_true (lt_of_le_of_lt (Nat.min_le_left _ _) hlt)), Array.toList_push, h.records,
        List.take_of_length_le (Nat.le_of_lt hlt), List.take_of_length_le, List.append_assoc]
      rw [List.length_append]
      exact hlt
    · rw [if_neg (by simpa using hlt), h.records,
        List.take_append_of_le_length (Nat.le_of_not_lt hlt)]
  · rw [List.length_append, ← h.unassigned]
    rfl
  · show t.budget.spend = _
    rw [h.budget, WarningBudget.spend_eq, List.length_append]
    rfl

/-- A cell keeps the log up. -/
theorem visit {c : Classifier} {r : Region} {side : Nat} (fits : r.Fits (side * side))
    {t : Tally (side * side)} (h : t.Logs before max warnings) (x y : Fin side) :
    (t.visit c r fits x y).Logs before max (warnings ++
      (((r.sounding? side x y).filter fun s => (c.classify s.place).isNone).map
        Sounding.warning).toList) := by
  obtain ⟨s, hs, hx, hy, hplace⟩ := Region.exists_sounding fits x y
  rw [hs, Tally.visit, ← hplace]
  cases hc : c.classify s.place with
  | none =>
    have hwarning : Pass.unmatched x y s.place = s.warning := by
      rw [← hx, ← hy]
      exact s.unmatched_place
    dsimp only
    rw [Option.filter_some, hc, hwarning]
    exact h.miss s.warning
  | some b =>
    rw [Option.filter_some, hc]
    exact (List.append_nil warnings).symm ▸ h.assign _ b

/-- At the end, what was not given is summed up. -/
theorem log {misses : List Sounding} {blendCount : Nat}
    (h : t.Logs (if 1 < blendCount then #[Pass.blendingIgnored blendCount] else #[]) max
      (misses.map Sounding.warning)) :
    t.records ++ t.budget.summary "unmatched biome cells" =
      (Pass.log blendCount max misses).toArray := by
  have hsummary : t.budget.summary "unmatched biome cells" =
      if max < misses.length then [Pass.closing (misses.length - max) max] else [] := by
    rw [h.budget, List.length_map, WarningBudget.summary]
    by_cases hlt : max < misses.length
    · rw [if_pos hlt, if_pos (Nat.sub_pos_of_lt hlt)]
      rfl
    · rw [if_neg hlt, if_neg (by simpa using hlt)]
  have hbefore : (if 1 < blendCount then #[Pass.blendingIgnored blendCount] else #[]).toList =
      if 1 < blendCount then [Pass.blendingIgnored blendCount] else [] :=
    apply_ite Array.toList ..
  rw [← Array.toList_inj, Array.toList_appendList, h.records, hsummary, hbefore, Pass.log,
    List.map_take]

end Logs

end Tally

/-! ### The pass -/

namespace Classifier

/-- The cells that no branch accepts, row by row, with their samples. -/
def misses (c : Classifier) (r : Region) (side : Nat) : List Sounding :=
  (r.soundings side).filter fun s => (c.classify s.place).isNone

/-- The tally of all cells. -/
def tally (c : Classifier) (r : Region) {side : Nat} (fits : r.Fits (side * side)) (max : Nat)
    (before : Array Record) : Tally (side * side) :=
  Fin.foldl side (fun t x => Fin.foldl side (fun t y => t.visit c r fits x y) t)
    (Tally.start (side * side) max before)

variable {c : Classifier} {o : PassOptions} {r : Region} {side max : Nat} {before : Array Record}

/-- Going through some cells adds the warnings of those that no branch accepts. -/
theorem logs_foldl_visit {fits : r.Fits (side * side)} (cells : List (Fin side × Fin side))
    {t : Tally (side * side)} {warnings : List Record} (h : t.Logs before max warnings) :
    (cells.foldl (fun t cell => t.visit c r fits cell.1 cell.2) t).Logs before max (warnings ++
      ((cells.filterMap fun cell => r.sounding? side cell.1 cell.2).filter fun s =>
        (c.classify s.place).isNone).map Sounding.warning) := by
  induction cells generalizing t warnings with
  | nil => exact (List.append_nil warnings).symm ▸ h
  | cons cell cells ih =>
    have hrest := ih (h.visit (c := c) fits cell.1 cell.2)
    rw [List.append_assoc] at hrest
    obtain ⟨s, hs, -⟩ := Region.exists_sounding fits cell.1 cell.2
    have hsoundings : (cell :: cells).filterMap (fun cell => r.sounding? side cell.1 cell.2) =
        s :: cells.filterMap fun cell => r.sounding? side cell.1 cell.2 :=
      List.filterMap_cons_some hs
    rw [hs, Option.filter_some] at hrest
    rw [List.foldl_cons, hsoundings, List.filter_cons]
    by_cases hmiss : (c.classify s.place).isNone = true
    · rw [if_pos hmiss] at hrest ⊢
      exact hrest
    · rw [if_neg hmiss] at hrest ⊢
      exact hrest

/-- **Going through the grid logs the cells that no branch accepts**, up to the budget. -/
theorem logs_tally (fits : r.Fits (side * side)) :
    (c.tally r fits max before).Logs before max ((c.misses r side).map Sounding.warning) := by
  have hsoundings : r.soundings side =
      (gridCells side).filterMap fun cell => r.sounding? side cell.1 cell.2 := by
    rw [Region.soundings, ← map_gridCells, List.filterMap_map]
    rfl
  rw [tally, foldl_gridCells, misses, hsoundings]
  exact logs_foldl_visit _ (.start _ max before)

end Classifier

/-- The pass over cells with these answers, which warns of these cells. -/
def Pass.mapped (o : PassOptions) (r : Region) (side : Nat) (step : Float32)
    (answers : List (Option BiomeId)) (misses : List Sounding) : Pass :=
  { outcome := .ok ⟨answers.countP Option.isSome, misses.length,
      min misses.length o.maxWarnings, misses.length - o.maxWarnings⟩
    region := { r with
      map := some ⟨side, step, answers.toArray⟩
      present := (answers.filterMap id).eraseDups.toArray }
    records := (Pass.log o.blendCount o.maxWarnings misses).toArray }

namespace Classifier

variable {c : Classifier} {o : PassOptions} {r : Region} {t : Terrain} {stats : PassStats}

theorem chartCells_eq_mapped {side : Nat} (step : Float32) (fits : r.Fits (side * side)) :
    c.chartCells o r side step
        (if 1 < o.blendCount then #[Pass.blendingIgnored o.blendCount] else #[]) fits =
      .mapped o r side step (List.ofFn fun i => c.classify (r.pointAt fits i))
        (c.misses r side) := by
  let before := if 1 < o.blendCount then #[Pass.blendingIgnored o.blendCount] else #[]
  have hcounts : (c.tally r fits o.maxWarnings before).Counts o.maxWarnings _ :=
    (Tally.Counts.start _ _ _).grid fits
  have hlogs : (c.tally r fits o.maxWarnings before).Logs before o.maxWarnings _ := logs_tally fits
  show Pass.mk (.ok (c.tally r fits o.maxWarnings before).stats)
    { r with
      map := some ⟨side, step, (c.tally r fits o.maxWarnings before).biomes.toArray⟩
      present := (c.tally r fits o.maxWarnings before).present }
    ((c.tally r fits o.maxWarnings before).records ++
      (c.tally r fits o.maxWarnings before).budget.summary "unmatched biome cells") = _
  generalize c.tally r fits o.maxWarnings before = t at hcounts hlogs ⊢
  have hcells : t.biomes.toArray = (List.ofFn fun i => c.classify (r.pointAt fits i)).toArray := by
    rw [← Array.toList_inj]
    have := hcounts.biomes
    rwa [List.length_ofFn, Nat.sub_self, List.replicate_zero, List.append_nil] at this
  have hpresent := Array.toList_inj.mp hcounts.present
  rw [hcells, hpresent, hlogs.log, Tally.stats, hcounts.assigned, hcounts.budget,
    hlogs.unassigned, List.length_map]
  rfl

/-- A pass over cells that succeeds does so with any budget, and depends on it in its log and in two
counts only. -/
theorem chart_eq_mapped (hok : (c.chart o r).outcome = .ok stats) (hterrain : r.terrain = some t)
    (hflat : r.isVolumetric = false) : ∃ answers, ∀ max,
      c.chart { o with maxWarnings := max } r =
        .mapped { o with maxWarnings := max } r t.side.toNat t.step answers
          (c.misses r t.side.toNat) := by
  have hcharts := c.charts_chart o (wordLimit_of_ok hok)
  have hfits : r.Fits (t.side.toNat * t.side.toNat) := hcharts.fits_of_ok hok hterrain
  have hroom := hcharts.room_of_ok hok hterrain hflat
  refine ⟨List.ofFn fun i => c.classify (r.pointAt hfits i), fun max => ?_⟩
  rw [chart_eq_chartCells _ (hcharts.built_of_ok hok) hterrain hflat hroom hfits]
  exact chartCells_eq_mapped t.step hfits

/-- **A pass logs the first cells that no branch accepts, and sums up the others.**  Let a pass over
cells succeed.  The samples of the cells can all be read, row by row.  Those that no branch accepts
are counted, and up to the budget they are reported in this order, each with where it is and what was
sampled there; the others are summed up at the end.  With another budget, the pass succeeds as well
and changes the region in the same way; only this log and the numbers of warnings that were and were
not given are different. -/
theorem records_chart (hok : (c.chart o r).outcome = .ok stats) (hterrain : r.terrain = some t)
    (hflat : r.isVolumetric = false) :
    (r.soundings t.side.toNat).map (fun s => (s.x, s.y)) =
        List.range t.side.toNat ×ˢ List.range t.side.toNat ∧
      (c.misses r t.side.toNat).length = stats.unassigned ∧
      (c.chart o r).records.toList =
        Pass.log o.blendCount o.maxWarnings (c.misses r t.side.toNat) ∧
      ∀ max, c.chart { o with maxWarnings := max } r =
        { outcome := .ok { stats with
            emitted := min stats.unassigned max
            suppressed := stats.unassigned - max }
          region := (c.chart o r).region
          records := (Pass.log o.blendCount max (c.misses r t.side.toNat)).toArray } := by
  obtain ⟨answers, hchart⟩ := chart_eq_mapped hok hterrain hflat
  have hsame : c.chart o r = .mapped o r t.side.toNat t.step answers (c.misses r t.side.toNat) :=
    hchart o.maxWarnings
  have hfits := (c.charts_chart o (wordLimit_of_ok hok)).fits_of_ok hok hterrain
  rw [hsame] at hok ⊢
  obtain rfl := Except.ok.inj hok
  exact ⟨Region.coordinates_soundings hfits, rfl, rfl, hchart⟩

end Classifier

/-! ### A desert -/

/-- Four cells of which nothing is known. -/
def Region.desert : Region := { unknown with terrain := some (.volume 2 1) }

/-- The classifier of an empty graph, which accepts nothing. -/
def Classifier.barren : Classifier :=
  ((unbuilt defaultTolerance).build .empty (.ofIndex 0)).classifier

theorem Classifier.classify_barren (p : Point) : barren.classify p = none := by
  rw [barren, classify_build_eq_map, Graph.evaluateWithin_of_none]
  · rfl
  · rw [Graph.collect_of_none List.not_mem_nil rfl]
    rfl
  · intro i b t path h
    rw [Graph.collect_of_none List.not_mem_nil rfl] at h
    cases h

/-- With a budget of one, a pass over the desert warns of the first cell and sums up the others. -/
theorem Classifier.records_chart_desert :
    ∃ stats, (barren.chart ⟨2, 1⟩ .desert).outcome = .ok stats ∧ stats.unassigned = 4 ∧
      Region.desert.terrain = some (.volume 2 1) ∧ Region.desert.isVolumetric = false ∧
      (barren.chart ⟨2, 1⟩ .desert).records.toList =
        [Pass.blendingIgnored 2, (Sounding.mk 0 0 false 0 0 0).warning, Pass.closing 3 1] := by
  have hfits : Region.desert.Fits (Terrain.volume 2 1).cells := fun s hs => absurd hs List.not_mem_nil
  obtain ⟨stats, hok⟩ := exists_ok_of_fits (c := barren) (o := ⟨2, 1⟩) (built_build ..) rfl
    (by decide) hfits
  obtain ⟨-, hunassigned, hrecords, -⟩ :=
    records_chart (t := .volume 2 1) hok rfl rfl
  have hmisses : barren.misses .desert 2 = [⟨0, 0, false, 0, 0, 0⟩, ⟨0, 1, false, 0, 0, 0⟩,
      ⟨1, 0, false, 0, 0, 0⟩, ⟨1, 1, false, 0, 0, 0⟩] := by
    simp only [misses, classify_barren]
    rfl
  have hside : (Terrain.volume 2 1).side.toNat = 2 := rfl
  rw [hside, hmisses] at hunassigned hrecords
  exact ⟨stats, hok, hunassigned.symm, rfl, rfl, hrecords⟩

end Biomes
