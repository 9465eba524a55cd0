import Biomes.Proofs.Compile.Meaning
import Biomes.Proofs.Grid.Outcome

/-!
# Passes one after another

The samples of a region change, and passes are made over it, in any order.  The biomes that are
present should be those that the latest pass has written (`Pass.UpToDate`).  A pass over the cells
sees to that (`Classifier.drawn_of_flat`).  One over volumetric samples writes no biome, but does
not take away those of an earlier pass either (`Classifier.blank_of_volumetric`).  So what is
present after a history is what the last pass over the cells has written (`Region.present_run`), and
it is out of date after a pass over volumetric samples if there was anything to take away
(`Region.upToDate_run_iff`).
-/

namespace Biomes

/-! ### What a pass writes -/

/-- The biomes that a pass writes into a region, cell by cell and row by row, each as often as it is
written.  Volumetric samples get an empty cube. -/
def Classifier.written (c : Classifier) (r : Region) : List BiomeId :=
  match r.terrain with
  | none => []
  | some t =>
    if r.isVolumetric then []
    else (List.ofFn fun i : Fin t.cells => (r.place? i).bind c.classify).filterMap id

/-- After a pass, the biomes present are those that it has written, each once, in the order in which
they were first written. -/
def Pass.UpToDate (pass : Pass) (c : Classifier) (r : Region) : Prop :=
  pass.region.present.toList = (c.written r).eraseDups

/-- A pass with these statistics has drawn a map, and counted and listed what it has written. -/
structure Pass.Drawn (pass : Pass) (c : Classifier) (r : Region) (stats : PassStats) : Prop where
  region : ∃ map, pass.region = { r with map := some map, present := pass.region.present } ∧
    map.cells.toList.filterMap id = c.written r
  upToDate : pass.UpToDate c r
  assigned : stats.assigned = (c.written r).length
  present_eq_empty_iff : pass.region.present = #[] ↔ stats.assigned = 0

/-- A pass with these statistics has written nothing but an empty cube. -/
structure Pass.Blank (pass : Pass) (c : Classifier) (r : Region) (t : Terrain) (stats : PassStats) :
    Prop where
  region : pass.region = { r with cube := some (.blank t.side t.step) }
  written : c.written r = []
  stats : stats = .zero

namespace Classifier

variable {c : Classifier} {o : PassOptions} {r : Region} {t : Terrain} {stats : PassStats}

theorem written_of_volumetric (h : r.isVolumetric = true) : c.written r = [] := by
  unfold written
  cases r.terrain with
  | none => rfl
  | some t => exact if_pos h

/-- On samples that fit, the places of all cells are classified. -/
theorem written_of_fits (hterrain : r.terrain = some t) (hflat : r.isVolumetric = false)
    (hfits : r.Fits t.cells) :
    c.written r = (List.ofFn fun i => c.classify (r.pointAt hfits i)).filterMap id := by
  have hplace : ∀ i : Fin t.cells, (r.place? i).bind c.classify = c.classify (r.pointAt hfits i) :=
    fun i => by rw [Region.place?_eq hfits i, Option.bind_some]
  unfold written
  rw [hterrain]
  dsimp only
  rw [hflat, if_neg Bool.false_ne_true]
  simp only [hplace]

/-- A number of cells that is no machine word stops a pass of a classifier that is built. -/
theorem tooManyCells_of_wordLimit_le (hbuilt : c.built = true) (hterrain : r.terrain = some t)
    (hlimit : wordLimit ≤ t.cells) :
    (c.chart o r).outcome = .error (.tooManyCells t.side) ∧ (c.chart o r).region = r := by
  have hmul : mulWord? t.side.toNat t.side.toNat = none :=
    if_neg (Nat.not_lt.mpr hlimit)
  unfold chart
  rw [hbuilt, if_neg (by simp), hterrain]
  dsimp only
  split
  · exact ⟨rfl, rfl⟩
  · simp_all

/-- Such a number stops every pass before it has changed anything. -/
theorem refused_of_wordLimit_le (hterrain : r.terrain = some t) (hlimit : wordLimit ≤ t.cells) :
    (∃ e, (c.chart o r).outcome = .error e) ∧ (c.chart o r).region = r := by
  cases hbuilt : c.built with
  | false =>
    unfold chart
    rw [hbuilt, if_pos (by simp)]
    exact ⟨⟨_, rfl⟩, rfl⟩
  | true =>
    obtain ⟨herror, hregion⟩ := tooManyCells_of_wordLimit_le (o := o) hbuilt hterrain hlimit
    exact ⟨⟨_, herror⟩, hregion⟩

theorem wordLimit_of_ok (hok : (c.chart o r).outcome = .ok stats) :
    ∀ t ∈ r.terrain, t.cells < wordLimit := by
  intro t hterrain
  by_contra hlimit
  obtain ⟨⟨e, he⟩, -⟩ := refused_of_wordLimit_le (c := c) (o := o) hterrain (Nat.not_lt.mp hlimit)
  rw [he] at hok
  cases hok

/-- A pass over cells that succeeds has taken the tally of all of them. -/
theorem exists_tally (hok : (c.chart o r).outcome = .ok stats) (hterrain : r.terrain = some t)
    (hflat : r.isVolumetric = false) :
    ∃ (answers : List (Option BiomeId)) (tally : Tally (t.side.toNat * t.side.toNat)),
      tally.Counts o.maxWarnings answers ∧ tally.biomes.toList = answers ∧
      c.written r = answers.filterMap id ∧ stats = tally.stats ∧
      (c.chart o r).region =
        { r with
          map := some ⟨t.side.toNat, t.step, tally.biomes.toArray⟩, present := tally.present } := by
  have hcharts := c.charts_chart o (wordLimit_of_ok hok)
  have hfits : r.Fits (t.side.toNat * t.side.toNat) := hcharts.fits_of_ok hok hterrain
  have hroom := hcharts.room_of_ok hok hterrain hflat
  have hcounts := (Tally.Counts.start (t.side.toNat * t.side.toNat) o.maxWarnings
    (if 1 < o.blendCount then #[Pass.blendingIgnored o.blendCount] else #[])).grid (c := c) hfits
  have hchart := chart_eq_chartCells o (hcharts.built_of_ok hok) hterrain hflat hroom hfits
  rw [hchart, chartCells] at hok ⊢
  refine ⟨_, _, hcounts, ?_, written_of_fits hterrain hflat hfits, (Except.ok.inj hok).symm, rfl⟩
  -- No cell is left over.
  rw [hcounts.biomes, List.length_ofFn, Nat.sub_self, List.replicate_zero, List.append_nil]

/-- **A pass over cells is up to date.**  What it has written is on the map, is counted, and is
present. -/
theorem drawn_of_flat (hok : (c.chart o r).outcome = .ok stats) (hterrain : r.terrain = some t)
    (hflat : r.isVolumetric = false) : (c.chart o r).Drawn c r stats := by
  obtain ⟨answers, tally, hcounts, hbiomes, hwritten, rfl, hregion⟩ :=
    exists_tally hok hterrain hflat
  have hassigned : tally.stats.assigned = (c.written r).length := by
    rw [hwritten, List.length_filterMap_eq_countP]
    exact hcounts.assigned
  have hupToDate : (c.chart o r).UpToDate c r := by
    rw [Pass.UpToDate, hregion, hwritten]
    exact hcounts.present
  refine ⟨⟨⟨t.side.toNat, t.step, tally.biomes.toArray⟩, ?_, ?_⟩, hupToDate, hassigned, ?_⟩
  · rw [hregion]
  · rw [hwritten, ← hbiomes]
    rfl
  · rw [← Array.toList_eq_nil_iff, hupToDate, hassigned, List.length_eq_zero_iff]
    simp only [List.eq_nil_iff_forall_not_mem, List.mem_eraseDups]

/-- **A pass over volumetric samples writes no biome and takes none away.** -/
theorem blank_of_volumetric (hok : (c.chart o r).outcome = .ok stats)
    (hterrain : r.terrain = some t) (hvolume : r.isVolumetric = true) :
    (c.chart o r).Blank c r t stats := by
  have hcharts := c.charts_chart o (wordLimit_of_ok hok)
  obtain ⟨hzero, hregion⟩ := hcharts.of_volume (hcharts.built_of_ok hok) hterrain
    (hcharts.fits_of_ok hok hterrain) hvolume
  exact ⟨hregion, written_of_volumetric hvolume, Except.ok.inj (hok.symm.trans hzero)⟩

/-- A pass over terrain succeeds if all samples fit and there is room for a map. -/
theorem exists_ok_of_fits (hbuilt : c.built = true) (hterrain : r.terrain = some t)
    (hroom : t.cells < vectorLimit) (hfits : r.Fits t.cells) :
    ∃ stats, (c.chart o r).outcome = .ok stats := by
  have hcharts := c.charts_chart o (r := r) fun t' ht' =>
    Option.some.inj (hterrain.symm.trans ht') ▸ Nat.lt_trans hroom vectorLimit_lt_wordLimit
  cases hvolume : r.isVolumetric with
  | true => exact ⟨_, (hcharts.of_volume hbuilt hterrain hfits hvolume).1⟩
  | false =>
    rcases hcharts.of_flat hbuilt hterrain hfits hvolume with ⟨hfull, -⟩ | ⟨-, stats, -, -, hok, -⟩
    · exact (Nat.not_le.mpr hroom hfull).elim
    · exact ⟨stats, hok⟩

/-- A pass that does not succeed changes nothing. -/
theorem region_of_error {e : PassError} (he : (c.chart o r).outcome = .error e) :
    (c.chart o r).region = r := by
  by_cases hword : ∀ t ∈ r.terrain, t.cells < wordLimit
  · exact ((c.charts_chart o hword).refused e he).1
  · simp only [not_forall, Nat.not_lt] at hword
    obtain ⟨t, hterrain, hlimit⟩ := hword
    exact (refused_of_wordLimit_le hterrain hlimit).2

/-- Neither does one without terrain. -/
theorem region_of_bare (hterrain : r.terrain = none) : (c.chart o r).region = r := by
  cases houtcome : (c.chart o r).outcome with
  | error e => exact region_of_error houtcome
  | ok stats =>
    have hcharts := c.charts_chart o (wordLimit_of_ok houtcome)
    exact (hcharts.of_bare (hcharts.built_of_ok houtcome) hterrain).2

/-- What a pass writes on the map, if it draws one. -/
def draws? (c : Classifier) (o : PassOptions) (r : Region) : Option (List BiomeId) :=
  if (c.chart o r).outcome.isOk && r.terrain.isSome && !r.isVolumetric then some (c.written r)
  else none

/-- A pass leaves the biomes present on the map that it draws, or else those that were. -/
theorem present_chart (c : Classifier) (o : PassOptions) (r : Region) :
    (c.chart o r).region.present.toList =
      ((c.draws? o r).map List.eraseDups).getD r.present.toList := by
  unfold draws?
  cases houtcome : (c.chart o r).outcome with
  | error e =>
    rw [region_of_error houtcome]
    rfl
  | ok stats =>
    cases hterrain : r.terrain with
    | none =>
      rw [region_of_bare hterrain]
      rfl
    | some t =>
      cases hvolume : r.isVolumetric with
      | true =>
        rw [(blank_of_volumetric houtcome hterrain hvolume).region]
        rfl
      | false => exact (drawn_of_flat houtcome hterrain hvolume).upToDate

end Classifier

/-! ### Histories -/

/-- A set of samples of a region. -/
inductive SampleSet where
  | water | temperature | wetness | air3d | wind3d | wetness3d | temperature3d
  deriving DecidableEq, Repr

/-- Something that happens to a region. -/
inductive Event where
  | ground (terrain : Option Terrain)
  | drain (isWaterless : Bool)
  | sample (set : SampleSet) (samples : Option (Array Float32))
  | pass (c : Classifier) (o : PassOptions)

namespace Region

/-- Takes a set of samples, or drops it. -/
def sample (r : Region) (set : SampleSet) (samples : Option (Array Float32)) : Region :=
  match set with
  | .water => { r with waterHeight := samples }
  | .temperature => { r with temperature := samples }
  | .wetness => { r with wetness := samples }
  | .air3d => { r with air3d := samples }
  | .wind3d => { r with wind3d := samples }
  | .wetness3d => { r with wetness3d := samples }
  | .temperature3d => { r with temperature3d := samples }

@[simp] theorem present_sample (r : Region) (set : SampleSet) (samples : Option (Array Float32)) :
    (r.sample set samples).present = r.present := by
  cases set <;> rfl

/-- The region after an event. -/
def step (r : Region) : Event → Region
  | .ground terrain => { r with terrain }
  | .drain isWaterless => { r with isWaterless }
  | .sample set samples => r.sample set samples
  | .pass c o => (c.chart o r).region

/-- The region after some events. -/
def run (r : Region) (es : List Event) : Region := es.foldl step r

/-- What an event writes on the map, if it draws one. -/
def draws? (r : Region) : Event → Option (List BiomeId)
  | .pass c o => c.draws? o r
  | _ => none

/-- What has been written on each of the maps that were drawn, one after another. -/
def drawn (r : Region) : List Event → List (List BiomeId)
  | [] => []
  | e :: es => (r.draws? e).toList ++ (r.step e).drawn es

/-- The biomes on the latest map that was drawn, each once, or those that were present at first. -/
def latest (r : Region) (es : List Event) : List BiomeId :=
  ((r.drawn es).getLast?.map List.eraseDups).getD r.present.toList

/-- An event leaves the biomes present on the map that it draws, or else those that were. -/
theorem present_step (r : Region) (e : Event) :
    (r.step e).present.toList = ((r.draws? e).map List.eraseDups).getD r.present.toList := by
  cases e with
  | ground terrain => rfl
  | drain isWaterless => rfl
  | sample set samples => exact congrArg Array.toList (r.present_sample set samples)
  | pass c o => exact c.present_chart o r

/-- **What is present is what the latest map shows**, whatever has happened since. -/
theorem present_run (r : Region) (es : List Event) :
    (r.run es).present.toList = r.latest es := by
  induction es generalizing r with
  | nil => rfl
  | cons e es ih =>
    show ((r.step e).run es).present.toList = _
    rw [ih, latest, latest, drawn, List.getLast?_append, present_step]
    cases (r.step e |>.drawn es).getLast? with
    | some ids => rfl
    | none => cases r.draws? e <;> rfl

/-- **Only a pass over the cells brings the biomes that are present up to date.**  After any
history, let a pass over terrain succeed, of any classifier.  If it goes over the cells, it draws a
map, and what is present is what it has written there, each biome once and in the order in which
they come; nothing is present if and only if no cell was assigned.  If there are volumetric samples,
it writes nothing, and what the latest map shows stays present.  So the pass leaves its region up to
date if and only if it went over the cells, or there was nothing to take away. -/
theorem upToDate_run_iff (r : Region) (es : List Event) (c : Classifier) (o : PassOptions)
    {stats : PassStats} {t : Terrain} (hok : (c.chart o (r.run es)).outcome = .ok stats)
    (hterrain : (r.run es).terrain = some t) :
    ((r.run es).isVolumetric = false → (c.chart o (r.run es)).Drawn c (r.run es) stats) ∧
      ((r.run es).isVolumetric = true →
        (c.chart o (r.run es)).Blank c (r.run es) t stats ∧
          (c.chart o (r.run es)).region.present.toList = r.latest es) ∧
      ((c.chart o (r.run es)).UpToDate c (r.run es) ↔
        (r.run es).isVolumetric = false ∨ r.latest es = []) := by
  have hdrawn := Classifier.drawn_of_flat (c := c) hok hterrain
  have hblank : (r.run es).isVolumetric = true → (c.chart o (r.run es)).Blank c (r.run es) t stats ∧
      (c.chart o (r.run es)).region.present.toList = r.latest es := by
    intro hvolume
    have hblank := Classifier.blank_of_volumetric hok hterrain hvolume
    exact ⟨hblank, by rw [hblank.region]; exact r.present_run es⟩
  refine ⟨hdrawn, hblank, ?_⟩
  cases hvolume : (r.run es).isVolumetric with
  | false => exact ⟨fun _ => .inl rfl, fun _ => (hdrawn hvolume).upToDate⟩
  | true =>
    obtain ⟨hblank, hpresent⟩ := hblank hvolume
    -- There is nothing to be present, but what was present still is.
    rw [Pass.UpToDate, hpresent, hblank.written]
    simp

end Region

/-! ### Wind over a mesa -/

namespace Graph

/-- A switch with a leaf on its dry side. -/
def mesa : Graph := ⟨#[.switch (.shore #[.ofIndex 1] #[]), .leaf none]⟩

theorem collect_mesa : mesa.collect [] (.ofIndex 0) =
    [.arm ⟨.flag .water false, "terrestrial", .black⟩ (.ofIndex 1) [.ofIndex 0]] := by
  rw [collect_of_switch List.not_mem_nil (s := .shore #[.ofIndex 1] #[]) (by decide)]
  rfl

theorem evaluateWithin_mesa {p : Point} (hp : p.flag .water = false) :
    mesa.evaluateWithin BiomeId.capacity p .start [] (.ofIndex 0) 0 =
      some (0, ⟨.ofIndex 1, ⟨.flag .water false, "terrestrial", .black⟩⟩) := by
  have hfind : (mesa.numbered .start 0 (mesa.collect [] (.ofIndex 0))).find? (·.2.accepts p) =
      some (0, .arm ⟨.flag .water false, "terrestrial", .black⟩ (.ofIndex 1) [.ofIndex 0]) := by
    rw [collect_mesa]
    exact List.find?_cons_of_pos (by simp [Prospect.accepts, Test.accepts, hp])
  refine (evaluateWithin_of_arm (if_pos (by decide)) hfind).trans (evaluateWithin_of_ending ?_)
  rw [collect_of_leaf (by decide) (o := none) (by decide)]
  rfl

end Graph

/-- The classifier of the mesa. -/
def Classifier.mesa : Classifier :=
  ((unbuilt defaultTolerance).build .mesa (.ofIndex 0)).classifier

/-- A single cell of dry land. -/
def Region.mesa : Region := { unknown with terrain := some (.heightField 1 1 #[0]) }

/-- The mesa is mapped, and then the wind over it is measured. -/
def Region.gust : List Event := [.pass .mesa .standard, .sample .wind3d (some #[])]

namespace Classifier

theorem classify_mesa {p : Point} (hp : p.flag .water = false) :
    mesa.classify p = some (.ofIndex 0) := by
  rw [mesa, classify_build_eq_map, Graph.evaluateWithin_mesa hp]
  rfl

theorem written_mesa : mesa.written .mesa = [.ofIndex 0] := by
  have hplace : (Region.mesa.place? 0).bind mesa.classify = some (.ofIndex 0) := classify_mesa rfl
  show (List.ofFn fun i : Fin 1 => (Region.mesa.place? i).bind mesa.classify).filterMap id = _
  rw [List.ofFn_succ, List.ofFn_zero]
  exact List.filterMap_cons_some hplace

end Classifier

theorem Region.fits_mesa (map : Option BiomeMap) (present : Array BiomeId)
    (wind : Option (Array Float32)) :
    { Region.mesa with map := map, present := present, wind3d := wind }.Fits 1 := by
  intro s hs
  have hs' : s = ("heights", #[0]) := by
    simpa [Region.mesa, Region.unknown, Region.sampleSets, Region.waterSamples,
      Terrain.heights?] using hs
  rw [hs']
  rfl

/-- After the gust, the biome on the map of the mesa is present. -/
theorem Region.run_gust : ∃ map, mesa.run gust =
    { mesa with map := some map, present := #[.ofIndex 0], wind3d := some #[] } := by
  obtain ⟨stats, hok⟩ := Classifier.exists_ok_of_fits (c := .mesa) (o := .standard)
    (Classifier.built_build ..) (r := mesa) rfl (by decide) (fits_mesa none #[] none)
  have hdrawn := Classifier.drawn_of_flat hok rfl rfl
  have hpresent : (Classifier.mesa.chart .standard mesa).region.present = #[.ofIndex 0] := by
    rw [← Array.toList_inj, hdrawn.upToDate, Classifier.written_mesa]
    rfl
  obtain ⟨map, hregion, -⟩ := hdrawn.region
  rw [hpresent] at hregion
  exact ⟨map, congrArg (fun r : Region => { r with wind3d := some #[] }) hregion⟩

/-- A pass over the mesa after the gust succeeds, over volumetric samples. -/
theorem Region.chart_gust : (Classifier.mesa.chart .standard (mesa.run gust)).outcome = .ok .zero ∧
    (mesa.run gust).terrain = some (.heightField 1 1 #[0]) ∧
    (mesa.run gust).isVolumetric = true := by
  obtain ⟨map, hrun⟩ := run_gust
  rw [hrun]
  obtain ⟨stats, hok⟩ := Classifier.exists_ok_of_fits (c := .mesa) (o := .standard)
    (Classifier.built_build ..) (t := .heightField 1 1 #[0]) rfl (by decide)
    (fits_mesa (some map) #[.ofIndex 0] (some #[]))
  exact ⟨(Classifier.blank_of_volumetric hok rfl rfl).stats ▸ hok, rfl, rfl⟩

/-- A pass over the mesa after the gust leaves what the map from before shows. -/
theorem Region.present_chart_gust :
    (Classifier.mesa.chart .standard (mesa.run gust)).outcome = .ok .zero ∧
      (Classifier.mesa.chart .standard (mesa.run gust)).region.present.toList =
        mesa.latest gust := by
  obtain ⟨hok, hterrain, hvolume⟩ := chart_gust
  exact ⟨hok, ((upToDate_run_iff mesa gust .mesa .standard hok hterrain).2.1 hvolume).2⟩

/-- Though it succeeds and writes nothing, a biome is present after it. -/
theorem Region.not_upToDate_gust :
    (Classifier.mesa.chart .standard (mesa.run gust)).outcome = .ok .zero ∧
      (mesa.run gust).terrain.isSome = true ∧
      (Classifier.mesa.chart .standard (mesa.run gust)).region.present = #[.ofIndex 0] ∧
      ¬(Classifier.mesa.chart .standard (mesa.run gust)).UpToDate .mesa (mesa.run gust) := by
  obtain ⟨hok, hterrain, hvolume⟩ := chart_gust
  have hblank := Classifier.blank_of_volumetric hok hterrain hvolume
  have hpresent : (Classifier.mesa.chart .standard (mesa.run gust)).region.present =
      #[.ofIndex 0] := by
    rw [hblank.region]
    obtain ⟨map, hrun⟩ := run_gust
    rw [hrun]
  refine ⟨hok, by rw [hterrain]; rfl, hpresent, ?_⟩
  rw [Pass.UpToDate, hpresent, hblank.written]
  exact List.cons_ne_nil _ _

end Biomes
