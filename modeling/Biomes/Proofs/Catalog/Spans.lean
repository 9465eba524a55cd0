import Biomes.Proofs.Catalog.Overlap

/-!
# Spans are as tight as they can be

The span of an axis is the hull of the intervals that cells ask for on it, which is built up one
interval after the other from the first.  It reaches from the least of their lower ends to the
greatest of their upper ends, and both are ends of intervals that are asked for
(`Interval.IsHull`).  This determines the hull up to the sign of zero, so that the order of the
intervals does not matter (`Interval.IsHull.beq_of_mem_iff`).  Intervals may be empty or infinite;
only `NaN` is excluded.
-/

namespace Biomes

/-! ### The smaller and the larger of two numbers -/

namespace Single

variable {a b : Float32}

theorem lesser_eq_or (a b : Float32) : lesser a b = a ∨ lesser a b = b := by
  unfold lesser
  split
  · exact .inr rfl
  · split
    · exact .inl rfl
    · split
      · exact .inr rfl
      · exact .inl rfl

theorem greater_eq_or (a b : Float32) : greater a b = a ∨ greater a b = b := by
  unfold greater
  split
  · exact .inr rfl
  · split
    · exact .inl rfl
    · split
      · exact .inr rfl
      · exact .inl rfl

/-- The smaller of two numbers is at most the first, whatever the second is. -/
theorem lesser_le_left (ha : a.isNaN = false) (b : Float32) : lesser a b ≤ a := by
  unfold lesser
  rw [if_neg (Bool.eq_false_iff.mp ha)]
  split
  · exact le_refl ha
  · split
    · rename_i hlt
      exact le_of_lt hlt
    · exact le_refl ha

theorem lesser_le_right (a : Float32) (hb : b.isNaN = false) : lesser a b ≤ b := by
  unfold lesser
  split
  · exact le_refl hb
  · rename_i ha
    rw [if_neg (Bool.eq_false_iff.mp hb)]
    split
    · exact le_refl hb
    · rename_i hlt
      rwa [lt_iff_not_le hb (Bool.eq_false_iff.mpr ha), not_not] at hlt

/-- The larger of two numbers is at least the first, whatever the second is. -/
theorem le_greater_left (ha : a.isNaN = false) (b : Float32) : a ≤ greater a b := by
  unfold greater
  rw [if_neg (Bool.eq_false_iff.mp ha)]
  split
  · exact le_refl ha
  · split
    · rename_i hlt
      exact le_of_lt hlt
    · exact le_refl ha

theorem le_greater_right (a : Float32) (hb : b.isNaN = false) : b ≤ greater a b := by
  unfold greater
  split
  · exact le_refl hb
  · rename_i ha
    rw [if_neg (Bool.eq_false_iff.mp hb)]
    split
    · exact le_refl hb
    · rename_i hlt
      rwa [lt_iff_not_le (Bool.eq_false_iff.mpr ha) hb, not_not] at hlt

end Single

/-! ### Hulls -/

namespace Interval

/-- Whether both ends of an interval are numbers.  It may be empty, and its ends may be infinite. -/
structure IsNumeric (i : Interval) : Prop where
  min : i.min.isNaN = false
  max : i.max.isNaN = false

/-- Whether an interval reaches from the least lower end of some intervals to the greatest upper
end. -/
structure IsHull (i : Interval) (is : List Interval) : Prop where
  min_le : ∀ j ∈ is, i.min ≤ j.min
  exists_min : ∃ j ∈ is, i.min = j.min
  le_max : ∀ j ∈ is, j.max ≤ i.max
  exists_max : ∃ j ∈ is, i.max = j.max

namespace IsHull

variable {i i' j : Interval} {is is' js : List Interval}

theorem isNumeric (h : i.IsHull is) (his : ∀ j ∈ is, j.IsNumeric) : i.IsNumeric := by
  obtain ⟨j, hj, hmin⟩ := h.exists_min
  obtain ⟨j', hj', hmax⟩ := h.exists_max
  exact ⟨hmin ▸ (his j hj).min, hmax ▸ (his j' hj').max⟩

theorem singleton (hi : i.IsNumeric) : i.IsHull [i] where
  min_le := List.forall_mem_singleton.mpr (Single.le_refl hi.min)
  exists_min := ⟨i, List.mem_singleton_self i, rfl⟩
  le_max := List.forall_mem_singleton.mpr (Single.le_refl hi.max)
  exists_max := ⟨i, List.mem_singleton_self i, rfl⟩

/-- A further interval moves the ends as far as it has to, and no further. -/
theorem concat (h : i.IsHull is) (hi : i.IsNumeric) (hj : j.IsNumeric) :
    (i.hull j).IsHull (is ++ [j]) := by
  obtain ⟨l, hl, hmin⟩ := h.exists_min
  obtain ⟨u, hu, hmax⟩ := h.exists_max
  refine ⟨?_, ?_, ?_, ?_⟩
  · intro m hm
    rcases List.mem_append.mp hm with hm | hm
    · exact Single.le_trans (Single.lesser_le_left hi.min j.min) (h.min_le m hm)
    · rw [List.mem_singleton.mp hm]
      exact Single.lesser_le_right i.min hj.min
  · rcases Single.lesser_eq_or i.min j.min with heq | heq
    · exact ⟨l, List.mem_append_left _ hl, heq.trans hmin⟩
    · exact ⟨j, List.mem_concat_self, heq⟩
  · intro m hm
    rcases List.mem_append.mp hm with hm | hm
    · exact Single.le_trans (h.le_max m hm) (Single.le_greater_left hi.max j.max)
    · rw [List.mem_singleton.mp hm]
      exact Single.le_greater_right i.max hj.max
  · rcases Single.greater_eq_or i.max j.max with heq | heq
    · exact ⟨u, List.mem_append_left _ hu, heq.trans hmax⟩
    · exact ⟨j, List.mem_concat_self, heq⟩

/-- **Taking in one interval after the other gives the hull of all of them.** -/
theorem foldl (h : i.IsHull is) (his : ∀ j ∈ is ++ js, j.IsNumeric) :
    (js.foldl hull i).IsHull (is ++ js) := by
  induction js generalizing i is with
  | nil =>
    rw [List.append_nil]
    exact h
  | cons j js ih =>
    have hsplit : is ++ j :: js = is ++ [j] ++ js := (List.append_cons ..)
    rw [hsplit] at his ⊢
    refine ih (h.concat (h.isNumeric fun m hm => his m ?_) (his j ?_)) his
    · simp [hm]
    · simp

/-- A hull depends on which intervals there are only, but for the sign of zero. -/
theorem beq_of_mem_iff (h : i.IsHull is) (h' : i'.IsHull is') (hmem : ∀ j, j ∈ is ↔ j ∈ is') :
    (i.min == i'.min) = true ∧ (i.max == i'.max) = true := by
  obtain ⟨l, hl, hmin⟩ := h.exists_min
  obtain ⟨l', hl', hmin'⟩ := h'.exists_min
  obtain ⟨u, hu, hmax⟩ := h.exists_max
  obtain ⟨u', hu', hmax'⟩ := h'.exists_max
  constructor
  · refine Single.beq_of_le_of_le ?_ ?_
    · rw [hmin']
      exact h.min_le l' ((hmem l').mpr hl')
    · rw [hmin]
      exact h'.min_le l ((hmem l).mp hl)
  · refine Single.beq_of_le_of_le ?_ ?_
    · rw [hmax]
      exact h'.le_max u ((hmem u).mp hu)
    · rw [hmax']
      exact h.le_max u' ((hmem u').mpr hu')

end IsHull

end Interval

/-! ### Spans -/

namespace Catalog

variable {k : Catalog} {a : Axis}

/-- Whether some cell constrains an axis. -/
def Constrains (k : Catalog) (a : Axis) : Prop :=
  ∃ c ∈ k.cells, (c.constraints.get a).enabled = true

/-- Whether all intervals that cells ask for end in numbers. -/
def IsNumeric (k : Catalog) : Prop :=
  ∀ c ∈ k.cells, ∀ a, (c.constraints.get a).enabled = true →
    (c.constraints.get a).toInterval.IsNumeric

/-- The intervals that cells ask for on an axis, in the order of the cells. -/
def asked (k : Catalog) (a : Axis) : List Interval :=
  ((k.cells.toList.map (·.constraints.get a)).filter (·.enabled)).map (·.toInterval)

theorem mem_asked_iff {i : Interval} : i ∈ k.asked a ↔
    ∃ c ∈ k.cells, (c.constraints.get a).enabled = true ∧ (c.constraints.get a).toInterval = i := by
  simp only [asked, List.mem_map, List.mem_filter, Array.mem_toList_iff]
  constructor
  · rintro ⟨_, ⟨⟨c, hc, rfl⟩, hon⟩, rfl⟩
    exact ⟨c, hc, hon, rfl⟩
  · rintro ⟨c, hc, hon, rfl⟩
    exact ⟨_, ⟨⟨c, hc, rfl⟩, hon⟩, rfl⟩

theorem asked_eq_nil_iff : k.asked a = [] ↔ ¬k.Constrains a := by
  rw [List.eq_nil_iff_forall_not_mem]
  simp only [mem_asked_iff, Constrains]
  constructor
  · rintro h ⟨c, hc, hon⟩
    exact h _ ⟨c, hc, hon, rfl⟩
  · rintro h i ⟨c, hc, hon, -⟩
    exact h ⟨c, hc, hon⟩

theorem exists_asked_eq_cons (ha : k.Constrains a) : ∃ i is, k.asked a = i :: is :=
  List.exists_cons_of_ne_nil (mt asked_eq_nil_iff.mp (not_not.mpr ha))

theorem IsNumeric.asked (h : k.IsNumeric) (a : Axis) : ∀ i ∈ k.asked a, i.IsNumeric := by
  intro i hi
  obtain ⟨c, hc, hon, rfl⟩ := mem_asked_iff.mp hi
  exact h c hc a hon

theorem span_of_nil (h : k.asked a = []) : k.span a = ⟨0, 0⟩ := by
  rw [asked, List.map_eq_nil_iff] at h
  rw [span, h]

theorem span_of_cons {i : Interval} {is : List Interval} (h : k.asked a = i :: is) :
    k.span a = is.foldl Interval.hull i := by
  obtain ⟨c, cs, hcs, rfl, rfl⟩ := List.map_eq_cons_iff.mp h
  rw [span, hcs, List.foldl_map]

/-- The span of an axis that is constrained is the hull of what is asked for. -/
theorem isHull_span (h : k.IsNumeric) (ha : k.Constrains a) : (k.span a).IsHull (k.asked a) := by
  obtain ⟨i, is, hasked⟩ := exists_asked_eq_cons ha
  have hnumeric := h.asked a
  rw [hasked] at hnumeric
  rw [span_of_cons hasked, hasked]
  exact Interval.IsHull.foldl (.singleton (hnumeric i List.mem_cons_self)) hnumeric

/-- A cell that is pushed asks for its interval after all others. -/
theorem asked_push (k : Catalog) (c : Cell) (a : Axis) :
    (k.push c).1.asked a = k.asked a ∨
      (k.push c).1.asked a = k.asked a ++ [(c.constraints.get a).toInterval] := by
  unfold push
  dsimp only
  split
  · cases hon : (c.constraints.get a).enabled with
    | false =>
      left
      simp [asked, hon]
    | true =>
      right
      simp [asked, hon]
  · exact .inl rfl

/-- A cell that is pushed moves no end of a span inwards, even if it asks for `NaN`. -/
theorem span_push_le (h : k.IsNumeric) (ha : k.Constrains a) (c : Cell) :
    ((k.push c).1.span a).min ≤ (k.span a).min ∧ (k.span a).max ≤ ((k.push c).1.span a).max := by
  obtain ⟨i, is, hasked⟩ := exists_asked_eq_cons ha
  have hnumeric := (isHull_span h ha).isNumeric (h.asked a)
  rcases asked_push k c a with hpush | hpush
  · rw [span_of_cons (hpush.trans hasked), ← span_of_cons hasked]
    exact ⟨Single.le_refl hnumeric.min, Single.le_refl hnumeric.max⟩
  · -- The new interval may end in `NaN`, so that there need not be a hull of all of them.
    rw [hasked, List.cons_append] at hpush
    rw [span_of_cons hpush, List.foldl_concat, ← span_of_cons hasked]
    exact ⟨Single.lesser_le_left hnumeric.min _, Single.le_greater_left hnumeric.max _⟩

/-- The order of the cells does not matter. -/
theorem beq_span_of_perm {k' : Catalog} (h : k.IsNumeric)
    (hperm : (k'.cells.toList.map (·.constraints)).Perm (k.cells.toList.map (·.constraints)))
    (a : Axis) : ((k'.span a).min == (k.span a).min) = true ∧
      ((k'.span a).max == (k.span a).max) = true := by
  have hcells : ∀ k : Catalog, k.asked a =
      (((k.cells.toList.map (·.constraints)).map (·.get a)).filter (·.enabled)).map
        (·.toInterval) := by
    intro k
    rw [asked, List.map_map]
    rfl
  have hasked : (k'.asked a).Perm (k.asked a) := by
    rw [hcells, hcells]
    exact ((hperm.map _).filter _).map _
  have hnumeric : k'.IsNumeric := by
    intro c hc b hon
    obtain ⟨d, hd, heq⟩ := List.mem_map.mp
      (hperm.mem_iff.mp (List.mem_map_of_mem (Array.mem_toList_iff.mpr hc)))
    rw [← heq] at hon ⊢
    exact h d (Array.mem_toList_iff.mp hd) b hon
  by_cases ha : k.Constrains a
  · have ha' : k'.Constrains a := by
      by_contra hnot
      rw [← asked_eq_nil_iff] at hnot
      rw [hnot, List.nil_perm, asked_eq_nil_iff] at hasked
      exact hasked ha
    exact (isHull_span hnumeric ha').beq_of_mem_iff (isHull_span h ha) fun j => hasked.mem_iff
  · rw [← asked_eq_nil_iff] at ha
    rw [ha, List.perm_nil] at hasked
    rw [span_of_nil ha, span_of_nil hasked]
    exact ⟨rfl, rfl⟩

/-- What the spans of a catalog say about its cells. -/
structure SpansTightly (k : Catalog) : Prop where
  unused : ∀ a, ¬k.Constrains a → k.spans.get a = ⟨0, 0⟩
  min_le : ∀ c ∈ k.cells, ∀ a, (c.constraints.get a).enabled = true →
    (k.spans.get a).min ≤ (c.constraints.get a).min
  exists_min : ∀ a, k.Constrains a → ∃ c ∈ k.cells, (c.constraints.get a).enabled = true ∧
    (k.spans.get a).min = (c.constraints.get a).min
  le_max : ∀ c ∈ k.cells, ∀ a, (c.constraints.get a).enabled = true →
    (c.constraints.get a).max ≤ (k.spans.get a).max
  exists_max : ∀ a, k.Constrains a → ∃ c ∈ k.cells, (c.constraints.get a).enabled = true ∧
    (k.spans.get a).max = (c.constraints.get a).max
  /-- A point that is accepted lies within the spans of the axes that are asked for. -/
  of_accept : ∀ c ∈ k.cells, ∀ p, c.constraints.accept p = true →
    ∀ a, (c.constraints.get a).enabled = true →
      (k.spans.get a).min ≤ p.get a ∧ p.get a ≤ (k.spans.get a).max
  /-- Further cells only widen a span. -/
  push : ∀ c a, k.Constrains a → ((k.push c).1.spans.get a).min ≤ (k.spans.get a).min ∧
    (k.spans.get a).max ≤ ((k.push c).1.spans.get a).max
  /-- The cells may come in any order. -/
  perm : ∀ k' : Catalog,
    (k'.cells.toList.map (·.constraints)).Perm (k.cells.toList.map (·.constraints)) →
      ∀ a, ((k'.spans.get a).min == (k.spans.get a).min) = true ∧
        ((k'.spans.get a).max == (k.spans.get a).max) = true

/-- **Spans are as tight as they can be.**  If no cell asks for `NaN`, the span of an axis that cells
constrain is the smallest interval with all that they ask for: its ends are the least of their lower
ends and the greatest of their upper ends.  So it holds every point that such a cell accepts, further
cells only widen it, and it does not depend on the order of the cells. -/
theorem spans_tight (k : Catalog) (h : k.IsNumeric) : k.SpansTightly := by
  have hget : ∀ (k : Catalog) a, k.spans.get a = k.span a := fun k a => PerAxis.get_ofFn k.span a
  have hasked : ∀ c ∈ k.cells, ∀ a, (c.constraints.get a).enabled = true →
      (k.span a).IsHull (k.asked a) ∧ (c.constraints.get a).toInterval ∈ k.asked a :=
    fun c hc a hon => ⟨isHull_span h ⟨c, hc, hon⟩, mem_asked_iff.mpr ⟨c, hc, hon, rfl⟩⟩
  refine ⟨?_, ?_, ?_, ?_, ?_, ?_, ?_, ?_⟩
  · intro a ha
    rw [hget]
    exact span_of_nil (asked_eq_nil_iff.mpr ha)
  · intro c hc a hon
    rw [hget]
    obtain ⟨hhull, hmem⟩ := hasked c hc a hon
    exact hhull.min_le _ hmem
  · intro a ha
    rw [hget]
    obtain ⟨i, hi, hmin⟩ := (isHull_span h ha).exists_min
    obtain ⟨c, hc, hon, rfl⟩ := mem_asked_iff.mp hi
    exact ⟨c, hc, hon, hmin⟩
  · intro c hc a hon
    rw [hget]
    obtain ⟨hhull, hmem⟩ := hasked c hc a hon
    exact hhull.le_max _ hmem
  · intro a ha
    rw [hget]
    obtain ⟨i, hi, hmax⟩ := (isHull_span h ha).exists_max
    obtain ⟨c, hc, hon, rfl⟩ := mem_asked_iff.mp hi
    exact ⟨c, hc, hon, hmax⟩
  · intro c hc p hp a hon
    rw [hget]
    obtain ⟨hhull, hmem⟩ := hasked c hc a hon
    have hcontains := (Constraint.accepts_iff hon).mp (Constraints.accept_iff.mp hp a)
    obtain ⟨hmin, hmax⟩ := Interval.contains_iff.mp hcontains
    exact ⟨Single.le_trans (hhull.min_le _ hmem) hmin,
      Single.le_trans hmax (hhull.le_max _ hmem)⟩
  · intro c a ha
    rw [hget, hget]
    exact span_push_le h ha c
  · intro k' hperm a
    rw [hget, hget]
    exact beq_span_of_perm h hperm a

/-- Two bands of a ridge, of which one is turned around and the other has no upper end; and the air
above it, of which the height is not asked. -/
def ridge : Catalog :=
  ⟨#[.plain "Crest" { Constraints.none with height := .within 5 3 },
    .plain "Sky" { Constraints.none with height := .within (-2) (1 / 0) },
    .plain "Air" { Constraints.none with wetness := .within 0 1 }]⟩

/-- The span of the heights of the ridge begins with the second band and never ends, and nothing is
asked of its water. -/
theorem spans_tight_ridge : ridge.IsNumeric ∧ ridge.spans.get .water = ⟨0, 0⟩ ∧
    (ridge.spans.get .height).min ≤ -2 ∧ 1 / 0 ≤ (ridge.spans.get .height).max := by
  have hnumeric : ridge.IsNumeric := by
    intro c hc a _
    simp only [ridge, List.mem_toArray, List.mem_cons, List.not_mem_nil, or_false] at hc
    rcases hc with rfl | rfl | rfl <;> cases a <;> exact ⟨rfl, rfl⟩
  have htight := spans_tight ridge hnumeric
  have hsky : ridge.cells[1] ∈ ridge.cells := Array.getElem_mem _
  refine ⟨hnumeric, htight.unused .water ?_, htight.min_le _ hsky .height rfl,
    htight.le_max _ hsky .height rfl⟩
  rintro ⟨c, hc, hon⟩
  simp only [ridge, List.mem_toArray, List.mem_cons, List.not_mem_nil, or_false] at hc
  rcases hc with rfl | rfl | rfl <;> cases hon

end Catalog

end Biomes
