import Biomes.Proofs.Grid.Pass

/-!
# Outcomes of passes

A pass goes one of six ways (`Classifier.Charts`): it is refused before the first build, there is no
terrain, a set of samples does not fit and it is refused for the first of them
(`Region.FirstMisfit`), there are volumetric samples, there are more cells than a vector holds, or
the cells are mapped.  Which one it is depends on the classifier and the region alone, and is decided
before anything is written (`Classifier.chart_decided`).
-/

namespace Biomes

/-- The number of cells of a terrain. -/
def Terrain.cells (t : Terrain) : Nat := t.side.toNat * t.side.toNat

/-! ### The first misfit -/

/-- Whether a set of samples, if it was taken, holds one value for each cell. -/
def SamplesFit (samples : Option (Array Float32)) (cells : Nat) : Prop :=
  ∀ xs ∈ samples, xs.size = cells

/-- The first set of samples that does not fit the number of cells, by its name, and how many samples
it holds.  Water is passed over on waterless land. -/
inductive Region.FirstMisfit (r : Region) (cells : Nat) : String → Nat → Prop
  | heights {xs : Array Float32} (hxs : r.terrain.bind (·.heights?) = some xs)
      (hsize : xs.size ≠ cells) : FirstMisfit r cells "heights" xs.size
  | water {xs : Array Float32} (hheights : SamplesFit (r.terrain.bind (·.heights?)) cells)
      (hwet : r.isWaterless = false) (hxs : r.waterHeight = some xs) (hsize : xs.size ≠ cells) :
      FirstMisfit r cells "water_height" xs.size
  | temperature {xs : Array Float32} (hheights : SamplesFit (r.terrain.bind (·.heights?)) cells)
      (hwater : r.isWaterless = false → SamplesFit r.waterHeight cells)
      (hxs : r.temperature = some xs) (hsize : xs.size ≠ cells) :
      FirstMisfit r cells "temperature" xs.size
  | wetness {xs : Array Float32} (hheights : SamplesFit (r.terrain.bind (·.heights?)) cells)
      (hwater : r.isWaterless = false → SamplesFit r.waterHeight cells)
      (htemperature : SamplesFit r.temperature cells)
      (hxs : r.wetness = some xs) (hsize : xs.size ≠ cells) :
      FirstMisfit r cells "wetness" xs.size

namespace Region

variable {r : Region} {cells : Nat}

theorem waterSamples_eq_some_iff {xs : Array Float32} :
    r.waterSamples = some xs ↔ r.isWaterless = false ∧ r.waterHeight = some xs := by
  unfold waterSamples
  cases r.isWaterless <;> simp

theorem samplesFit_waterSamples_iff :
    SamplesFit r.waterSamples cells ↔ (r.isWaterless = false → SamplesFit r.waterHeight cells) := by
  unfold waterSamples
  cases r.isWaterless <;> simp [SamplesFit]

/-- The first misfit among named sets is the first set, if it was taken and does not fit, or else the
first misfit among the others. -/
theorem find?_misfit_cons {name : String} {samples : Option (Array Float32)}
    {sets : List (String × Option (Array Float32))} {s : String × Array Float32} :
    ((((name, samples) :: sets).filterMap fun (name, samples) => samples.map (name, ·)).find?
        fun (_, xs) => xs.size != cells) = some s ↔
      (∃ xs, samples = some xs ∧ xs.size ≠ cells ∧ s = (name, xs)) ∨
        SamplesFit samples cells ∧
          ((sets.filterMap fun (name, samples) => samples.map (name, ·)).find?
            fun (_, xs) => xs.size != cells) = some s := by
  cases samples with
  | none => simp [SamplesFit]
  | some xs =>
    by_cases hxs : xs.size = cells
    · simp [SamplesFit, hxs]
    · rw [List.filterMap_cons_some (by rfl), List.find?_cons_of_pos (by simpa using hxs)]
      simp [SamplesFit, hxs, eq_comm (a := s)]

/-- The search through the samples comes to the first misfit. -/
theorem find?_sampleSets_iff {s : String × Array Float32} :
    (r.sampleSets.find? fun (_, xs) => xs.size != cells) = some s ↔
      (∃ xs, r.terrain.bind (·.heights?) = some xs ∧ xs.size ≠ cells ∧ s = ("heights", xs)) ∨
      SamplesFit (r.terrain.bind (·.heights?)) cells ∧
        ((∃ xs, r.waterSamples = some xs ∧ xs.size ≠ cells ∧ s = ("water_height", xs)) ∨
        SamplesFit r.waterSamples cells ∧
          ((∃ xs, r.temperature = some xs ∧ xs.size ≠ cells ∧ s = ("temperature", xs)) ∨
          SamplesFit r.temperature cells ∧
            ∃ xs, r.wetness = some xs ∧ xs.size ≠ cells ∧ s = ("wetness", xs))) := by
  rw [sampleSets, find?_misfit_cons, find?_misfit_cons, find?_misfit_cons, find?_misfit_cons]
  simp

end Region

namespace Classifier

variable {c : Classifier} {r : Region} {cells : Nat}

/-- The check of the samples reports the first misfit. -/
theorem misfit?_eq_some_iff {e : PassError} : misfit? r cells = some e ↔
    ∃ field actual, r.FirstMisfit cells field actual ∧ e = .sampleLength field cells actual := by
  rw [misfit?, Option.map_eq_some_iff]
  constructor
  · rintro ⟨s, hs, rfl⟩
    rw [Region.find?_sampleSets_iff, Region.samplesFit_waterSamples_iff] at hs
    rcases hs with ⟨xs, hxs, hsize, rfl⟩ | ⟨hheights, ⟨xs, hxs, hsize, rfl⟩ | ⟨hwater,
      ⟨xs, hxs, hsize, rfl⟩ | ⟨htemperature, xs, hxs, hsize, rfl⟩⟩⟩
    · exact ⟨_, _, .heights hxs hsize, rfl⟩
    · obtain ⟨hwet, hxs⟩ := Region.waterSamples_eq_some_iff.mp hxs
      exact ⟨_, _, .water hheights hwet hxs hsize, rfl⟩
    · exact ⟨_, _, .temperature hheights hwater hxs hsize, rfl⟩
    · exact ⟨_, _, .wetness hheights hwater htemperature hxs hsize, rfl⟩
  · rintro ⟨field, actual, hmisfit, rfl⟩
    simp only [Region.find?_sampleSets_iff, Region.samplesFit_waterSamples_iff]
    cases hmisfit with
    | heights hxs hsize => exact ⟨_, .inl ⟨_, hxs, hsize, rfl⟩, rfl⟩
    | water hheights hwet hxs hsize =>
      have hxs := Region.waterSamples_eq_some_iff.mpr ⟨hwet, hxs⟩
      exact ⟨_, .inr ⟨hheights, .inl ⟨_, hxs, hsize, rfl⟩⟩, rfl⟩
    | temperature hheights hwater hxs hsize =>
      exact ⟨_, .inr ⟨hheights, .inr ⟨hwater, .inl ⟨_, hxs, hsize, rfl⟩⟩⟩, rfl⟩
    | wetness hheights hwater htemperature hxs hsize =>
      exact ⟨_, .inr ⟨hheights, .inr ⟨hwater, .inr ⟨htemperature, _, hxs, hsize, rfl⟩⟩⟩, rfl⟩

/-- There is at most one first misfit. -/
theorem firstMisfit_unique {field field' : String} {actual actual' : Nat}
    (h : r.FirstMisfit cells field actual) (h' : r.FirstMisfit cells field' actual') :
    field = field' ∧ actual = actual' := by
  have hsome := misfit?_eq_some_iff.mpr ⟨field, actual, h, rfl⟩
  rw [misfit?_eq_some_iff.mpr ⟨field', actual', h', rfl⟩] at hsome
  simpa [eq_comm] using hsome

/-- All samples fit if and only if there is no first misfit. -/
theorem fits_iff : r.Fits cells ↔ ∀ field actual, ¬r.FirstMisfit cells field actual := by
  constructor
  · intro h field actual hmisfit
    have hsome := misfit?_eq_some_iff.mpr ⟨field, actual, hmisfit, rfl⟩
    rw [misfit?_of_fits h] at hsome
    cases hsome
  · intro h
    cases he : misfit? r cells with
    | none => exact fits_of_misfit? he
    | some e =>
      obtain ⟨field, actual, hmisfit, -⟩ := misfit?_eq_some_iff.mp he
      exact (h field actual hmisfit).elim

/-! ### The ways of a pass -/

/-- The ways in which a pass can go, each with its outcome and the region that it leaves behind. -/
inductive Charts (c : Classifier) (r : Region) : Except PassError PassStats → Region → Prop
  | notBuilt (hbuilt : c.built = false) : Charts c r (.error .notBuilt) r
  | bare (hbuilt : c.built = true) (hterrain : r.terrain = none) : Charts c r (.ok .zero) r
  | misfit (hbuilt : c.built = true) {t : Terrain} (hterrain : r.terrain = some t) {field : String}
      {actual : Nat} (hmisfit : r.FirstMisfit t.cells field actual) :
      Charts c r (.error (.sampleLength field t.cells actual)) r
  | volume (hbuilt : c.built = true) {t : Terrain} (hterrain : r.terrain = some t)
      (hfits : r.Fits t.cells) (hvolume : r.isVolumetric = true) :
      Charts c r (.ok .zero) { r with cube := some (.blank t.side t.step) }
  | full (hbuilt : c.built = true) {t : Terrain} (hterrain : r.terrain = some t)
      (hfits : r.Fits t.cells) (hflat : r.isVolumetric = false) (hfull : vectorLimit ≤ t.cells) :
      Charts c r (.error (.mapTooLarge t.side)) r
  | flat (hbuilt : c.built = true) {t : Terrain} (hterrain : r.terrain = some t)
      (hfits : r.Fits t.cells) (hflat : r.isVolumetric = false) (hroom : t.cells < vectorLimit)
      (stats : PassStats) (map : BiomeMap) (present : Array BiomeId) :
      Charts c r (.ok stats) { r with map := some map, present := present }

/-- Every pass goes one of these ways, if the number of cells is a machine word. -/
theorem charts_chart (c : Classifier) (o : PassOptions) {r : Region}
    (hword : ∀ t ∈ r.terrain, t.cells < wordLimit) :
    c.Charts r (c.chart o r).outcome (c.chart o r).region := by
  unfold chart
  -- The cases are the checks of the pass, in their order.
  cases hbuilt : c.built with
  | false => exact .notBuilt hbuilt
  | true =>
    rw [if_neg (by simp)]
    dsimp only
    split
    · exact .bare hbuilt ‹_›
    · rename_i t hterrain
      have hmul : mulWord? t.side.toNat t.side.toNat = some t.cells :=
        if_pos (hword t hterrain)
      split
      · -- The number of cells is no machine word.
        simp_all
      · rename_i cells hcells
        obtain rfl : t.cells = cells := (mulWord?_eq_some hcells).symm
        split
        · rename_i e he
          obtain ⟨field, actual, hmisfit, rfl⟩ := misfit?_eq_some_iff.mp he
          exact .misfit hbuilt hterrain hmisfit
        · rename_i hnone
          have hfits := fits_of_misfit? hnone
          cases hvolume : r.isVolumetric with
          | true => exact .volume hbuilt hterrain hfits hvolume
          | false =>
            rw [if_neg Bool.false_ne_true]
            by_cases hroom : t.cells < vectorLimit
            · rw [if_neg (Nat.not_le.mpr hroom)]
              exact .flat hbuilt hterrain hfits hvolume hroom _ _ _
            · rw [if_pos (Nat.not_lt.mp hroom)]
              exact .full hbuilt hterrain hfits hvolume (Nat.not_lt.mp hroom)

end Classifier

/-- How the outcome of a pass of a classifier over a region, and what it leaves of the region, is
decided. -/
structure Pass.Decided (pass : Pass) (c : Classifier) (r : Region) : Prop where
  /-- The first check is whether anything has been built. -/
  notBuilt_iff : pass.outcome = .error .notBuilt ↔ c.built = false
  /-- Without terrain, no samples are looked at. -/
  bare : c.built = true → r.terrain = none → pass.outcome = .ok .zero ∧ pass.region = r
  /-- Then the samples must fit, even if there are volumetric ones. -/
  sampleLength_iff : ∀ field expected actual,
    pass.outcome = .error (.sampleLength field expected actual) ↔
      c.built = true ∧ ∃ t, r.terrain = some t ∧ expected = t.cells ∧
        r.FirstMisfit t.cells field actual
  /-- The only other reason to refuse a pass is a map with more cells than a vector holds, and a pass
  that is refused changes nothing. -/
  refused : ∀ e, pass.outcome = .error e → pass.region = r ∧
    (e = .notBuilt ∨ (∃ field expected actual, e = .sampleLength field expected actual) ∨
      ∃ t, r.terrain = some t ∧ r.isVolumetric = false ∧ vectorLimit ≤ t.cells ∧
        e = .mapTooLarge t.side)
  /-- Volumetric samples get an empty cube, and nothing else changes. -/
  volume : c.built = true → ∀ t, r.terrain = some t →
    (∀ field actual, ¬r.FirstMisfit t.cells field actual) → r.isVolumetric = true →
      pass.outcome = .ok .zero ∧
        pass.region = { r with cube := some (.blank t.side t.step) }
  /-- Otherwise the cells are mapped, if a vector holds them. -/
  flat : c.built = true → ∀ t, r.terrain = some t →
    (∀ field actual, ¬r.FirstMisfit t.cells field actual) → r.isVolumetric = false →
      t.cells < vectorLimit →
      ∃ stats map present, pass.outcome = .ok stats ∧
        pass.region = { r with map := some map, present := present }
  /-- If it does not, the pass breaks off. -/
  full : c.built = true → ∀ t, r.terrain = some t →
    (∀ field actual, ¬r.FirstMisfit t.cells field actual) → r.isVolumetric = false →
      vectorLimit ≤ t.cells → pass.outcome = .error (.mapTooLarge t.side)
  /-- When a pass succeeds, the samples of all cells are there to be read. -/
  reads : ∀ stats, pass.outcome = .ok stats → ∀ t, r.terrain = some t → ∀ i < t.cells,
    (r.place? i).isSome = true

namespace Classifier

namespace Charts

variable {c : Classifier} {r : Region} {outcome : Except PassError PassStats} {region : Region}

theorem notBuilt_iff (h : c.Charts r outcome region) :
    outcome = .error .notBuilt ↔ c.built = false := by
  cases h <;> simp_all

theorem built_of_ok (h : c.Charts r outcome region) {stats : PassStats} (hok : outcome = .ok stats) :
    c.built = true := by
  cases hbuilt : c.built with
  | true => rfl
  | false =>
    rw [h.notBuilt_iff.mpr hbuilt] at hok
    cases hok

theorem of_bare (h : c.Charts r outcome region) (hbuilt : c.built = true)
    (hterrain : r.terrain = none) : outcome = .ok .zero ∧ region = r := by
  cases h <;> simp_all

/-- Over terrain, the samples decide, then whether there are volumetric ones, and then whether there
is room for the map. -/
theorem of_terrain (h : c.Charts r outcome region) (hbuilt : c.built = true) {t : Terrain}
    (hterrain : r.terrain = some t) :
    (∃ field actual, r.FirstMisfit t.cells field actual ∧
      outcome = .error (.sampleLength field t.cells actual)) ∨
    (r.Fits t.cells ∧ r.isVolumetric = true ∧ outcome = .ok .zero ∧
      region = { r with cube := some (.blank t.side t.step) }) ∨
    (r.Fits t.cells ∧ r.isVolumetric = false ∧
      (vectorLimit ≤ t.cells ∧ outcome = .error (.mapTooLarge t.side) ∨
        t.cells < vectorLimit ∧ ∃ stats map present, outcome = .ok stats ∧
          region = { r with map := some map, present := present })) := by
  have hsame : ∀ {t'}, r.terrain = some t' → t = t' := fun h' =>
    Option.some.inj (hterrain.symm.trans h')
  cases h with
  | notBuilt hunbuilt => simp_all
  | bare _ hbare => simp_all
  | misfit _ hterrain' hmisfit =>
    obtain rfl := hsame hterrain'
    exact .inl ⟨_, _, hmisfit, rfl⟩
  | volume _ hterrain' hfits hvolume =>
    obtain rfl := hsame hterrain'
    exact .inr (.inl ⟨hfits, hvolume, rfl, rfl⟩)
  | full _ hterrain' hfits hflat hfull =>
    obtain rfl := hsame hterrain'
    exact .inr (.inr ⟨hfits, hflat, .inl ⟨hfull, rfl⟩⟩)
  | flat _ hterrain' hfits hflat hroom stats map present =>
    obtain rfl := hsame hterrain'
    exact .inr (.inr ⟨hfits, hflat, .inr ⟨hroom, stats, map, present, rfl, rfl⟩⟩)

theorem sampleLength_iff (h : c.Charts r outcome region) (field : String) (expected actual : Nat) :
    outcome = .error (.sampleLength field expected actual) ↔
      c.built = true ∧ ∃ t, r.terrain = some t ∧ expected = t.cells ∧
        r.FirstMisfit t.cells field actual := by
  constructor
  · rintro rfl
    cases h with
    | misfit hbuilt hterrain hmisfit => exact ⟨hbuilt, _, hterrain, rfl, hmisfit⟩
  · rintro ⟨hbuilt, t, hterrain, rfl, hmisfit⟩
    rcases h.of_terrain hbuilt hterrain with ⟨field', actual', hmisfit', herror⟩ | ⟨hfits, -⟩ |
      ⟨hfits, -⟩
    · obtain ⟨rfl, rfl⟩ := firstMisfit_unique hmisfit hmisfit'
      exact herror
    · exact (fits_iff.mp hfits _ _ hmisfit).elim
    · exact (fits_iff.mp hfits _ _ hmisfit).elim

/-- A pass is refused for one of three reasons, and changes nothing. -/
theorem refused (h : c.Charts r outcome region) (e : PassError) (he : outcome = .error e) :
    region = r ∧
      (e = .notBuilt ∨ (∃ field expected actual, e = .sampleLength field expected actual) ∨
        ∃ t, r.terrain = some t ∧ r.isVolumetric = false ∧ vectorLimit ≤ t.cells ∧
          e = .mapTooLarge t.side) := by
  subst he
  cases h with
  | notBuilt => exact ⟨rfl, .inl rfl⟩
  | misfit => exact ⟨rfl, .inr (.inl ⟨_, _, _, rfl⟩)⟩
  | full _ hterrain _ hflat hfull => exact ⟨rfl, .inr (.inr ⟨_, hterrain, hflat, hfull, rfl⟩)⟩

/-- If all samples fit and there are volumetric ones, there is an empty cube. -/
theorem of_volume (h : c.Charts r outcome region) (hbuilt : c.built = true) {t : Terrain}
    (hterrain : r.terrain = some t) (hfits : r.Fits t.cells) (hvolume : r.isVolumetric = true) :
    outcome = .ok .zero ∧ region = { r with cube := some (.blank t.side t.step) } := by
  rcases h.of_terrain hbuilt hterrain with ⟨field, actual, hmisfit, -⟩ | ⟨-, -, hpass⟩ |
    ⟨-, hflat, -⟩
  · exact (fits_iff.mp hfits field actual hmisfit).elim
  · exact hpass
  · rw [hvolume] at hflat
    cases hflat

/-- If all samples fit and none is volumetric, it depends on the room for the map. -/
theorem of_flat (h : c.Charts r outcome region) (hbuilt : c.built = true) {t : Terrain}
    (hterrain : r.terrain = some t) (hfits : r.Fits t.cells) (hflat : r.isVolumetric = false) :
    vectorLimit ≤ t.cells ∧ outcome = .error (.mapTooLarge t.side) ∨
      t.cells < vectorLimit ∧ ∃ stats map present, outcome = .ok stats ∧
        region = { r with map := some map, present := present } := by
  rcases h.of_terrain hbuilt hterrain with ⟨field, actual, hmisfit, -⟩ | ⟨-, hvolume, -⟩ |
    ⟨-, -, hpass⟩
  · exact (fits_iff.mp hfits field actual hmisfit).elim
  · rw [hflat] at hvolume
    cases hvolume
  · exact hpass

/-- A pass over terrain that succeeds has found all samples to fit. -/
theorem fits_of_ok (h : c.Charts r outcome region) {stats : PassStats} (hok : outcome = .ok stats)
    {t : Terrain} (hterrain : r.terrain = some t) : r.Fits t.cells := by
  rcases h.of_terrain (h.built_of_ok hok) hterrain with ⟨field, actual, -, herror⟩ | ⟨hfits, -⟩ |
    ⟨hfits, -⟩
  · rw [herror] at hok
    cases hok
  · exact hfits
  · exact hfits

/-- A pass over cells that succeeds has found room for the map. -/
theorem room_of_ok (h : c.Charts r outcome region) {stats : PassStats} (hok : outcome = .ok stats)
    {t : Terrain} (hterrain : r.terrain = some t) (hflat : r.isVolumetric = false) :
    t.cells < vectorLimit := by
  rcases h.of_flat (h.built_of_ok hok) hterrain (h.fits_of_ok hok hterrain) hflat with
    ⟨-, herror⟩ | ⟨hroom, -⟩
  · rw [herror] at hok
    cases hok
  · exact hroom

/-- Whichever way a pass goes, it is decided as it should be. -/
theorem decided {pass : Pass} (h : c.Charts r pass.outcome pass.region) : pass.Decided c r where
  notBuilt_iff := h.notBuilt_iff
  bare := h.of_bare
  sampleLength_iff := h.sampleLength_iff
  refused := h.refused
  volume hbuilt _ hterrain hnone hvolume :=
    h.of_volume hbuilt hterrain (fits_iff.mpr hnone) hvolume
  flat hbuilt _ hterrain hnone hflat hroom :=
    ((h.of_flat hbuilt hterrain (fits_iff.mpr hnone) hflat).resolve_left
      fun hfull => Nat.not_le.mpr hroom hfull.1).2
  full hbuilt _ hterrain hnone hflat hfull :=
    ((h.of_flat hbuilt hterrain (fits_iff.mpr hnone) hflat).resolve_right
      fun hroom => Nat.not_le.mpr hroom.1 hfull).2
  reads stats hok t hterrain i hi := by
    rw [Region.place?_eq (h.fits_of_ok hok hterrain) ⟨i, hi⟩]
    rfl

end Charts

/-- The classifier after some builds. -/
def buildAll (c : Classifier) (builds : List (Graph × NodeId)) : Classifier :=
  builds.foldl (fun c b => (c.build b.1 b.2).classifier) c

/-- A classifier is built once there has been a build, and stays so. -/
theorem built_buildAll (c : Classifier) (builds : List (Graph × NodeId)) :
    (c.buildAll builds).built = (c.built || !builds.isEmpty) := by
  induction builds generalizing c with
  | nil => exact (Bool.or_false _).symm
  | cons b builds ih =>
    show ((c.build b.1 b.2).classifier.buildAll builds).built = _
    rw [ih, built_build, Bool.true_or]
    exact (Bool.or_true _).symm

/-- **The outcome of a pass is decided before anything is written.**  If the number of cells is a
machine word, the pass is refused if and only if nothing has been built, or else there is terrain
with a set of samples that does not fit; the first of these is reported.  A pass that is refused
leaves the region as it is, and so does one without terrain; one over volumetric samples only adds an
empty cube.  Where cells are to be mapped and a vector does not hold them, the pass breaks off and
leaves the region as it is, too.  A pass that succeeds has a sample of every set for every cell. -/
theorem chart_decided (c : Classifier) (o : PassOptions) (r : Region)
    (hword : ∀ t ∈ r.terrain, t.cells < wordLimit) :
    (c.chart o r).Decided c r ∧
      ∀ tolerance builds, (((unbuilt tolerance).buildAll builds).chart o r).outcome =
        .error .notBuilt ↔ builds = [] := by
  refine ⟨(c.charts_chart o hword).decided, fun tolerance builds => ?_⟩
  rw [(charts_chart _ o hword).notBuilt_iff, built_buildAll]
  cases builds <;> simp [unbuilt]

end Classifier

/-! ### A gorge -/

/-- A waterless piece of land of four cells with volumetric samples.  A height is missing; neither do
the water samples fit. -/
def Region.gorge : Region :=
  { Region.unknown with
    terrain := some (.heightField 2 1 #[0, 1, 2])
    waterHeight := some #[5]
    isWaterless := true
    air3d := some #[] }

/-- The heights are reported, and the gorge stays as it is. -/
theorem Classifier.chart_gorge :
    (((unbuilt defaultTolerance).build .empty (.ofIndex 0)).classifier.chart .standard
        .gorge).outcome = .error (.sampleLength "heights" 4 3) ∧
      (((unbuilt defaultTolerance).build .empty (.ofIndex 0)).classifier.chart .standard
        .gorge).region = .gorge := by
  have hdecided := (chart_decided ((unbuilt defaultTolerance).build .empty (.ofIndex 0)).classifier
    .standard .gorge (by rintro t ⟨⟩; decide)).1
  have hmisfit : Region.gorge.FirstMisfit 4 "heights" (#[0, 1, 2] : Array Float32).size :=
    .heights rfl (by decide)
  have houtcome := (hdecided.sampleLength_iff "heights" 4 3).mpr
    ⟨built_build .., _, rfl, rfl, hmisfit⟩
  exact ⟨houtcome, (hdecided.refused _ houtcome).1⟩

end Biomes
