import Biomes.Proofs.Grid.Warnings
import Biomes.Proofs.Sample.Landscape
import Biomes.Proofs.Single.Difference

/-!
# The water level of the sample landscape

Water is sampled as the difference between the water level and the ground, and a cell counts as water
where this difference is positive.  So water covers the cells below the water level
(`Sample.submerged_landscape`), for all heights and levels and whatever is rounded on the way.  A
cell that lies exactly at the water level is dry.
-/

namespace Biomes

/-- A pass over a flat region on which all samples fit draws a map on which each cell is classified as
the place that was sampled there. -/
theorem Classifier.exists_map_of_fits {c : Classifier} (o : PassOptions) {r : Region} {t : Terrain}
    (hbuilt : c.built = true) (hterrain : r.terrain = some t) (hflat : r.isVolumetric = false)
    (hroom : t.side.toNat * t.side.toNat < vectorLimit)
    (hfits : r.Fits (t.side.toNat * t.side.toNat)) :
    ∃ (stats : PassStats) (m : BiomeMap), (c.chart o r).outcome = .ok stats ∧
      (c.chart o r).region.map = some m ∧
      ∀ x < t.side.toNat, ∀ y < t.side.toNat, ∃ p, r.place? (x * t.side.toNat + y) = some p ∧
        m.get x y = .ok (c.classify p) := by
  rw [chart_eq_chartCells o hbuilt hterrain hflat hroom hfits, chartCells_eq_mapped]
  refine ⟨_, _, rfl, rfl, ?_⟩
  intro x hx y hy
  exact ⟨_, Region.place?_eq hfits (cellIndex ⟨x, hx⟩ ⟨y, hy⟩),
    BiomeMap.get_ofFn t.step _ ⟨x, hx⟩ ⟨y, hy⟩⟩

namespace Sample

variable (source : NoiseSource) (s : DemoSettings)

/-- The height of a cell of the sample landscape. -/
def heightAt (x y : Nat) : Float32 :=
  share (Noise.fractal (source (heightSeed s.seed)) octaves heightFrequency
      (Float.ofNat x * Single.toDouble s.cellStep) (Float.ofNat y * Single.toDouble s.cellStep)) *
    s.maxHeight.value

/-- What is sampled at a cell of the sample landscape: its height, and water where this is below the
water level. -/
theorem place?_landscape {x y : Nat} (hx : x < s.gridSize.toNat) (hy : y < s.gridSize.toNat) :
    ∃ temperature wetness, (landscape source s).place? (x * s.gridSize.toNat + y) =
      some (.sample (heightAt source s x y < s.waterLevel.value) (heightAt source s x y) temperature
        wetness) := by
  simp only [Region.place?, landscape, Region.unknown, Region.positive?, Region.sample?,
    Terrain.heights?, Option.bind_some, Bool.false_eq_true, if_false, Array.getElem?_map,
    getElem?_sampleField s _ _ _ hx hy, Option.map_some, Single.zero_lt_sub_iff]
  exact ⟨_, _, rfl⟩

/-- The place that is sampled at a cell has the height of the cell, and is under water if and only if
this is below the water level. -/
theorem exists_place_landscape {x y : Nat} (hx : x < s.gridSize.toNat) (hy : y < s.gridSize.toNat) :
    ∃ p, (landscape source s).place? (x * s.gridSize.toNat + y) = some p ∧
      p.height = heightAt source s x y ∧
      (p.flag .water = true ↔ p.height < s.waterLevel.value) ∧
      ((p.flag .water = true ↔ p.height ≤ s.waterLevel.value) ↔
        (p.height == s.waterLevel.value) = false) := by
  obtain ⟨temperature, wetness, hp⟩ := place?_landscape source s hx hy
  have hflag : (Point.sample (heightAt source s x y < s.waterLevel.value) (heightAt source s x y)
      temperature wetness).flag .water = true ↔ heightAt source s x y < s.waterLevel.value := by
    rw [Point.flag_sample, decide_eq_true_eq]
  refine ⟨_, hp, rfl, hflag, ?_⟩
  show (_ ↔ heightAt source s x y ≤ s.waterLevel.value) ↔
    (heightAt source s x y == s.waterLevel.value) = false
  rw [hflag, Single.le_iff_lt_or_beq]
  by_cases hlt : heightAt source s x y < s.waterLevel.value
  · simp [hlt, Single.not_beq_of_lt hlt]
  · simp [hlt]

/-- **Water covers the cells of the sample landscape that lie below the water level**, for any noise
and all settings.  The place that is sampled at a cell has the height of the cell, and is under water
if and only if the height is below the water level.  So it is under water if and only if it lies at
or below the water level, unless it lies exactly at the water level: there it is dry.  Where there is
room for the samples, the pass over the landscape succeeds and draws a map, on which each cell is
classified as the place that was sampled there. -/
theorem submerged_landscape (o : PassOptions) {c : Classifier} (hbuilt : c.built = true) :
    (∀ x < s.gridSize.toNat, ∀ y < s.gridSize.toNat, ∃ p,
      (landscape source s).place? (x * s.gridSize.toNat + y) = some p ∧
      p.height = heightAt source s x y ∧
      (p.flag .water = true ↔ p.height < s.waterLevel.value) ∧
      ((p.flag .water = true ↔ p.height ≤ s.waterLevel.value) ↔
        (p.height == s.waterLevel.value) = false)) ∧
    (hasRoom s = true → ∃ (stats : PassStats) (m : BiomeMap),
      (c.chart o (landscape source s)).outcome = .ok stats ∧
      (c.chart o (landscape source s)).region.map = some m ∧
      ∀ x < s.gridSize.toNat, ∀ y < s.gridSize.toNat, ∃ p,
        (landscape source s).place? (x * s.gridSize.toNat + y) = some p ∧
        m.get x y = .ok (c.classify p)) := by
  refine ⟨fun x hx y hy => exists_place_landscape source s hx hy, fun hroom => ?_⟩
  obtain ⟨t, hterrain, hside, hcells⟩ := terrain_landscape source s
  have hfits : (landscape source s).Fits (t.side.toNat * t.side.toNat) := by
    rw [hside]
    exact fits_landscape source s
  have hmap := Classifier.exists_map_of_fits o hbuilt hterrain rfl (hcells hroom) hfits
  rwa [hside] at hmap

/-! ### A beach -/

/-- Noise that is zero everywhere. -/
def calm : NoiseSource := fun _ => ⟨fun _ _ => true, fun _ _ => 0⟩

/-- A single cell, halfway up to the greatest height, with this water level. -/
def beach (level : Float32) : DemoSettings :=
  { Settings.default.demo with gridSize := 1, waterLevel := .number level }

theorem heightAt_beach (level : Float32) : heightAt calm (beach level) 0 0 = 50 := by
  have hheight : heightAt calm (beach 0) 0 0 = 50 := by decide +kernel
  exact hheight

/-- Below the water level the beach is under water, and it is mapped. -/
theorem submerged_landscape_beach :
    Classifier.barren.built = true ∧ hasRoom (beach 60) = true ∧
      ∃ p, (landscape calm (beach 60)).place? 0 = some p ∧ p.height = 50 ∧
        p.flag .water = true ∧
        ∃ m, (Classifier.barren.chart .standard (landscape calm (beach 60))).region.map = some m ∧
          m.get 0 0 = .ok (Classifier.barren.classify p) := by
  have hbuilt : Classifier.barren.built = true := Classifier.built_build ..
  have hroom : hasRoom (beach 60) = true := by decide
  obtain ⟨hplaces, hmaps⟩ := submerged_landscape calm (beach 60) .standard hbuilt
  obtain ⟨p, hp, hheight, hflag, -⟩ := hplaces 0 (by decide) 0 (by decide)
  obtain ⟨stats, m, -, hmap, hcells⟩ := hmaps hroom
  obtain ⟨p', hp', hget⟩ := hcells 0 (by decide) 0 (by decide)
  obtain rfl := Option.some.inj (hp.symm.trans hp')
  rw [heightAt_beach] at hheight
  refine ⟨hbuilt, hroom, p, hp, hheight, hflag.mpr ?_, m, hmap, hget⟩
  rw [hheight]
  decide

/-- Exactly at the water level it is not. -/
theorem not_submerged_beach :
    ∃ p, (landscape calm (beach 50)).place? 0 = some p ∧
      p.height = (beach 50).waterLevel.value ∧ p.height ≤ (beach 50).waterLevel.value ∧
      p.flag .water = false := by
  obtain ⟨temperature, wetness, hp⟩ :=
    place?_landscape calm (beach 50) (x := 0) (y := 0) (by decide) (by decide)
  refine ⟨_, hp, heightAt_beach 50, ?_, ?_⟩
  · show heightAt calm (beach 50) 0 0 ≤ 50
    rw [heightAt_beach]
    decide
  · rw [Point.flag_sample, heightAt_beach]
    decide

end Sample

end Biomes
