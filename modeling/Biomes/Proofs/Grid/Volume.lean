import Biomes.Proofs.Grid.BiomeMap
import Biomes.Proofs.Grid.Warnings

/-!
# Passes over volumes

A cube of biomes costs nothing until it is written to, and its number of cells need not be a machine
word: each of its cells can be read, however large it is (`BiomeCube.get_blank`).  A pass over a
volume should make such a cube for every side (`Pass.SafeOverVolume`).  It has to know the number of
cells in a layer, though, with which the flat samples are compared, and computes it before it looks
at what was sampled.  So it is safe exactly as long as this number is a machine word
(`Classifier.safeOverVolume_chart_iff`).
-/

namespace Biomes

/-! ### Cubes -/

/-- On a new cube no cell has a biome, even if its position is not a machine word. -/
theorem BiomeCube.get_blank (side : UInt64) (step : Float32) {x y z : Nat} (hx : x < side.toNat)
    (hy : y < side.toNat) (hz : z < side.toNat) : (blank side step).get x y z = .ok none := by
  have hcell : ((blank side step).index? x y z).bind (fun i => (blank side step).cells[i]?.join) =
      none := by
    cases (blank side step).index? x y z with
    | none => rfl
    | some i => rfl
  rw [get, if_pos ⟨hx, hy, hz⟩, hcell]

/-! ### Layers -/

/-- Whether each of the flat samples that a pass over a volume compares holds one value for each cell
of a layer.  Water is passed over on waterless land. -/
def Region.LayersFit (r : Region) (cells : Nat) : Prop :=
  (r.isWaterless = false → SamplesFit r.waterHeight cells) ∧ SamplesFit r.temperature cells ∧
    SamplesFit r.wetness cells

/-- A pass over a volume with this side and step is safe.  If a set of flat samples does not fit, the
first that does not is reported, with the number of cells that it should hold, and nothing changes.
Otherwise the pass succeeds, and all that it changes is the cube: this has the side and the step of
the volume, and none of its cells has a biome. -/
structure Pass.SafeOverVolume (pass : Pass) (r : Region) (side : UInt64) (step : Float32) :
    Prop where
  refused : ¬r.LayersFit (side.toNat * side.toNat) →
    (∃ field actual, r.FirstMisfit (side.toNat * side.toNat) field actual ∧
      pass.outcome = .error (.sampleLength field (side.toNat * side.toNat) actual)) ∧
    pass.region = r
  accepted : r.LayersFit (side.toNat * side.toNat) →
    (∃ stats, pass.outcome = .ok stats) ∧
    ∃ cube : BiomeCube, pass.region = { r with cube := some cube } ∧
      cube.side = side ∧ cube.step = step ∧
      ∀ x < side.toNat, ∀ y < side.toNat, ∀ z < side.toNat, cube.get x y z = .ok none

namespace Region

variable {r : Region} {cells : Nat} {side : UInt64} {step : Float32}

/-- A volume has no heights, so that the other samples decide whether all fit. -/
theorem fits_iff_layersFit (hterrain : r.terrain = some (.volume side step)) :
    r.Fits cells ↔ r.LayersFit cells := by
  constructor
  · intro h
    exact ⟨samplesFit_waterSamples_iff.mp h.water, h.temperature, h.wetness⟩
  · rintro ⟨hwater, htemperature, hwetness⟩
    have hheights : SamplesFit (r.terrain.bind (·.heights?)) cells := by
      intro xs hxs
      rw [hterrain] at hxs
      cases hxs
    rw [Classifier.fits_iff]
    intro field actual hmisfit
    cases hmisfit with
    | heights hxs hsize => exact hsize (hheights _ hxs)
    | water _ hwet hxs hsize => exact hsize (hwater hwet _ hxs)
    | temperature _ _ hxs hsize => exact hsize (htemperature _ hxs)
    | wetness _ _ _ hxs hsize => exact hsize (hwetness _ hxs)

end Region

namespace Classifier

variable {c : Classifier} {o : PassOptions} {r : Region} {side : UInt64} {step : Float32}

/-! ### Small volumes -/

/-- As long as the number of cells in a layer is a machine word, a pass over a volume is safe. -/
theorem safeOverVolume_of_lt (hbuilt : c.built = true)
    (hterrain : r.terrain = some (.volume side step)) (hvolume : r.isVolumetric = true)
    (hside : side.toNat < 2 ^ 32) : (c.chart o r).SafeOverVolume r side step := by
  have hword : ∀ t ∈ r.terrain, t.cells < wordLimit := by
    intro t ht
    obtain rfl : .volume side step = t := Option.some.inj (hterrain.symm.trans ht)
    exact mul_self_lt_wordLimit_iff.mpr hside
  have hcharts := c.charts_chart o hword
  rcases hcharts.of_terrain hbuilt hterrain with ⟨field, actual, hmisfit, herror⟩ |
    ⟨hfits, -, hok, hregion⟩ | ⟨-, hflat, -⟩
  · -- The samples do not fit.
    constructor
    · intro _
      exact ⟨⟨field, actual, hmisfit, herror⟩, (hcharts.refused _ herror).1⟩
    · intro hlayers
      have hfits := (Region.fits_iff_layersFit hterrain).mpr hlayers
      exact (fits_iff.mp hfits field actual hmisfit).elim
  · -- The samples fit, and there is a new cube.
    constructor
    · intro hlayers
      exact (hlayers ((Region.fits_iff_layersFit hterrain).mp hfits)).elim
    · intro _
      refine ⟨⟨.zero, hok⟩, .blank side step, hregion, rfl, rfl, ?_⟩
      intro x hx y hy z hz
      exact BiomeCube.get_blank side step hx hy hz
  · rw [hvolume] at hflat
    cases hflat

/-! ### Large volumes -/

/-- A larger volume is refused for its number of cells. -/
theorem tooManyCells_of_volume (hbuilt : c.built = true)
    (hterrain : r.terrain = some (.volume side step)) (hside : 2 ^ 32 ≤ side.toNat) :
    (c.chart o r).outcome = .error (.tooManyCells side) ∧ (c.chart o r).region = r := by
  apply tooManyCells_of_wordLimit_le hbuilt hterrain
  apply Nat.le_of_not_lt
  intro hlt
  have hsmall : side.toNat < 2 ^ 32 := mul_self_lt_wordLimit_iff.mp hlt
  omega

/-- This is neither of the ways in which a safe pass ends. -/
theorem not_safeOverVolume_of_le (hbuilt : c.built = true)
    (hterrain : r.terrain = some (.volume side step)) (hside : 2 ^ 32 ≤ side.toNat) :
    ¬(c.chart o r).SafeOverVolume r side step := by
  intro hsafe
  obtain ⟨herror, -⟩ := tooManyCells_of_volume (o := o) hbuilt hterrain hside
  by_cases hlayers : r.LayersFit (side.toNat * side.toNat)
  · obtain ⟨⟨stats, hok⟩, -⟩ := hsafe.accepted hlayers
    rw [herror] at hok
    cases hok
  · obtain ⟨⟨field, actual, -, hlength⟩, -⟩ := hsafe.refused hlayers
    rw [herror] at hlength
    cases hlength

/-- **A pass over a volume is safe as long as a layer of it has a machine word of cells**: for sides
below `2 ^ 32`, and for no others.  For all others the pass breaks off, whatever was sampled; not
even then does it take a set of samples for complete, or change the region. -/
theorem safeOverVolume_chart_iff (hbuilt : c.built = true)
    (hterrain : r.terrain = some (.volume side step)) (hvolume : r.isVolumetric = true) :
    ((c.chart o r).SafeOverVolume r side step ↔ side.toNat < 2 ^ 32) ∧
      (2 ^ 32 ≤ side.toNat →
        (c.chart o r).outcome = .error (.tooManyCells side) ∧ (c.chart o r).region = r) := by
  refine ⟨⟨?_, safeOverVolume_of_lt hbuilt hterrain hvolume⟩,
    tooManyCells_of_volume hbuilt hterrain⟩
  intro hsafe
  apply Nat.lt_of_not_le
  intro hside
  exact not_safeOverVolume_of_le hbuilt hterrain hside hsafe

end Classifier

/-! ### An abyss -/

/-- A volume with no other samples than volumetric ones. -/
def Region.abyss (side : UInt64) : Region :=
  { unknown with terrain := some (.volume side 1), air3d := some #[] }

/-- The largest abyss over which a pass is safe. -/
theorem Classifier.safeOverVolume_abyss :
    barren.built = true ∧ (Region.abyss 0xffffffff).terrain = some (.volume 0xffffffff 1) ∧
      (Region.abyss 0xffffffff).isVolumetric = true ∧
      (barren.chart .standard (.abyss 0xffffffff)).SafeOverVolume (.abyss 0xffffffff) 0xffffffff
        1 :=
  ⟨built_build .., rfl, rfl, (safeOverVolume_chart_iff (built_build ..) rfl rfl).1.mpr (by decide)⟩

/-- Over the next larger one it is not. -/
theorem Classifier.not_safeOverVolume_abyss :
    barren.built = true ∧ (Region.abyss 0x100000000).terrain = some (.volume 0x100000000 1) ∧
      (Region.abyss 0x100000000).isVolumetric = true ∧
      ¬(barren.chart .standard (.abyss 0x100000000)).SafeOverVolume (.abyss 0x100000000)
        0x100000000 1 :=
  ⟨built_build .., rfl, rfl, not_safeOverVolume_of_le (built_build ..) rfl (by decide)⟩

end Biomes
