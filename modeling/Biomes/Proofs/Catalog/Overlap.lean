import Biomes.Catalog.Basic
import Biomes.Proofs.Single.Order
import Mathlib.Data.List.Basic

/-!
# Which cells compete

Two cells compete for a point that both accept.  The catalog finds competitors without looking at
points: on each axis it asks whether the two intervals meet.

* `Catalog.mem_overlappingPairs`: what is listed, and `Catalog.pairwise_overlappingPairs`: in which
  order;
* `Constraints.overlap_of_accept`: cells that accept the same point overlap;
* `Constraints.exists_sample`: cells that overlap accept a point in common, if their intervals are
  not empty and their constraints on water are flags.
-/

namespace Biomes

/-! ### One axis -/

namespace Interval

variable {i j : Interval} {v : Float32}

theorem contains_iff : i.contains v = true ↔ i.min ≤ v ∧ v ≤ i.max := by
  rw [contains, Bool.and_eq_true, decide_eq_true_iff, decide_eq_true_iff]

theorem meets_iff : i.meets j = true ↔ i.min ≤ j.max ∧ j.min ≤ i.max := by
  rw [meets, Bool.and_eq_true, decide_eq_true_iff, decide_eq_true_iff]

/-- Intervals with a value in common meet. -/
theorem meets_of_contains (hi : i.contains v = true) (hj : j.contains v = true) :
    i.meets j = true := by
  obtain ⟨hil, hiu⟩ := contains_iff.mp hi
  obtain ⟨hjl, hju⟩ := contains_iff.mp hj
  exact meets_iff.mpr ⟨Single.le_trans hil hju, Single.le_trans hjl hiu⟩

/-- Intervals that are not empty and meet have a value in common: the larger of the lower ends. -/
theorem exists_contains (hi : i.min ≤ i.max) (hj : j.min ≤ j.max) (h : i.meets j = true) :
    ∃ v, i.contains v = true ∧ j.contains v = true := by
  obtain ⟨hij, hji⟩ := meets_iff.mp h
  have himin := (Single.isNaN_of_le hi).1
  have hjmin := (Single.isNaN_of_le hj).1
  rcases Single.le_total himin hjmin with hle | hle
  · exact ⟨j.min, contains_iff.mpr ⟨hle, hji⟩, contains_iff.mpr ⟨Single.le_refl hjmin, hj⟩⟩
  · exact ⟨i.min, contains_iff.mpr ⟨Single.le_refl himin, hi⟩, contains_iff.mpr ⟨hle, hij⟩⟩

end Interval

namespace Constraint

variable {c d : Constraint} {v : Float32} {b b' : Bool}

theorem accepts_of_disabled (hc : c.enabled = false) (v : Float32) : c.accepts v = true := by
  rw [accepts, hc]
  rfl

theorem accepts_iff (hc : c.enabled = true) :
    c.accepts v = true ↔ c.toInterval.contains v = true := by
  rw [accepts, hc]
  exact Iff.rfl

theorem compatible_iff (hc : c.enabled = true) (hd : d.enabled = true) :
    c.compatible d = true ↔ c.toInterval.meets d.toInterval = true := by
  rw [compatible, hc, hd]
  exact Iff.rfl

/-- Constraints that accept the same value are compatible. -/
theorem compatible_of_accepts (hc : c.accepts v = true) (hd : d.accepts v = true) :
    c.compatible d = true := by
  by_cases hboth : c.enabled = true ∧ d.enabled = true
  · obtain ⟨hce, hde⟩ := hboth
    rw [accepts_iff hce] at hc
    rw [accepts_iff hde] at hd
    exact (compatible_iff hce hde).mpr (Interval.meets_of_contains hc hd)
  · -- A constraint that is off keeps nothing apart.
    have hoff : (c.enabled && d.enabled) = false := by simpa using hboth
    rw [compatible, hoff]
    rfl

/-- Compatible constraints accept a value in common, if no interval that is asked for is empty. -/
theorem exists_accepts (hc : c.enabled = true → c.min ≤ c.max)
    (hd : d.enabled = true → d.min ≤ d.max) (h : c.compatible d = true) :
    ∃ v, c.accepts v = true ∧ d.accepts v = true := by
  have hmin : ∀ e : Constraint, e.enabled = true → e.min ≤ e.max → e.accepts e.min = true :=
    fun e he hle =>
      (accepts_iff he).mpr (Interval.contains_iff.mpr
        ⟨Single.le_refl (Single.isNaN_of_le hle).1, hle⟩)
  cases hce : c.enabled with
  | false =>
    cases hde : d.enabled with
    | false => exact ⟨0, accepts_of_disabled hce 0, accepts_of_disabled hde 0⟩
    | true => exact ⟨d.min, accepts_of_disabled hce d.min, hmin d hde (hd hde)⟩
  | true =>
    cases hde : d.enabled with
    | false => exact ⟨c.min, hmin c hce (hc hce), accepts_of_disabled hde c.min⟩
    | true =>
      have hmeets := (compatible_iff hce hde).mp h
      obtain ⟨v, hcv, hdv⟩ := Interval.exists_contains (hc hce) (hd hde) hmeets
      exact ⟨v, (accepts_iff hce).mpr hcv, (accepts_iff hde).mpr hdv⟩

/-! ### Flags -/

/-- A constraint that asks for a flag, if it asks for anything. -/
def IsFlag (c : Constraint) : Prop :=
  c.enabled = true → ∃ b, c.same (.flag b) = true

/-- The number that stands for a flag. -/
def flagValue (b : Bool) : Float32 := if b then 1 else 0

theorem flag_eq (b : Bool) : flag b = within (flagValue b) (flagValue b) := by
  cases b <;> rfl

theorem min_max_of_same (h : c.same (.flag b) = true) :
    (c.min == flagValue b) = true ∧ (c.max == flagValue b) = true := by
  rw [flag_eq, same, Bool.and_eq_true, Bool.and_eq_true] at h
  exact ⟨h.1.2, h.2⟩

theorem flagValue_le_iff : flagValue b ≤ flagValue b' ↔ (b = true → b' = true) := by
  cases b <;> cases b' <;> decide

/-- The flag that a constraint asks for is accepted. -/
theorem accepts_flagValue (h : c.same (.flag b) = true) : c.accepts (flagValue b) = true := by
  obtain ⟨hmin, hmax⟩ := min_max_of_same h
  have hself : (flagValue b == flagValue b) = true := by cases b <;> decide
  have hcontains : c.toInterval.contains (flagValue b) = true :=
    Interval.contains_iff.mpr ⟨(Single.le_congr hmin hself).mpr (flagValue_le_iff.mpr id),
      (Single.le_congr hself hmax).mpr (flagValue_le_iff.mpr id)⟩
  rw [accepts, hcontains, Bool.or_true]

/-- Constraints that ask for flags and are compatible ask for the same one. -/
theorem eq_of_compatible (hce : c.enabled = true) (hde : d.enabled = true)
    (hc : c.same (.flag b) = true) (hd : d.same (.flag b') = true) (h : c.compatible d = true) :
    b = b' := by
  obtain ⟨hcmin, hcmax⟩ := min_max_of_same hc
  obtain ⟨hdmin, hdmax⟩ := min_max_of_same hd
  obtain ⟨hcd, hdc⟩ := Interval.meets_iff.mp ((compatible_iff hce hde).mp h)
  have hle := flagValue_le_iff.mp ((Single.le_congr hcmin hdmax).mp hcd)
  have hge := flagValue_le_iff.mp ((Single.le_congr hdmin hcmax).mp hdc)
  exact Bool.eq_iff_iff.mpr ⟨hle, hge⟩

/-- Compatible constraints that ask for flags accept a flag in common. -/
theorem exists_flag (hc : c.IsFlag) (hd : d.IsFlag) (h : c.compatible d = true) :
    ∃ b, c.accepts (flagValue b) = true ∧ d.accepts (flagValue b) = true := by
  cases hce : c.enabled with
  | false =>
    cases hde : d.enabled with
    | false => exact ⟨true, accepts_of_disabled hce _, accepts_of_disabled hde _⟩
    | true =>
      obtain ⟨b, hb⟩ := hd hde
      exact ⟨b, accepts_of_disabled hce _, accepts_flagValue hb⟩
  | true =>
    obtain ⟨b, hb⟩ := hc hce
    cases hde : d.enabled with
    | false => exact ⟨b, accepts_flagValue hb, accepts_of_disabled hde _⟩
    | true =>
      obtain ⟨b', hb'⟩ := hd hde
      obtain rfl := eq_of_compatible hce hde hb hb' h
      exact ⟨b, accepts_flagValue hb, accepts_flagValue hb'⟩

end Constraint

/-! ### All axes -/

namespace Constraints

variable {cs ds : Constraints} {p : Point}

theorem accept_iff : cs.accept p = true ↔ ∀ a, (cs.get a).accepts (p.get a) = true := by
  rw [accept, List.all_eq_true]
  exact ⟨fun h a => h a a.mem_all, fun h a _ => h a⟩

theorem overlap_iff : cs.overlap ds = true ↔ ∀ a, (cs.get a).compatible (ds.get a) = true := by
  rw [overlap, List.all_eq_true]
  exact ⟨fun h a => h a a.mem_all, fun h a _ => h a⟩

/-- Constraints that accept the same point overlap. -/
theorem overlap_of_accept (hc : cs.accept p = true) (hd : ds.accept p = true) :
    cs.overlap ds = true :=
  overlap_iff.mpr fun a =>
    Constraint.compatible_of_accepts (accept_iff.mp hc a) (accept_iff.mp hd a)

/-- No interval that is asked for is empty or has an end that is no number, and water is asked for
as a flag. -/
structure IsProper (cs : Constraints) : Prop where
  min_le_max : ∀ a, (cs.get a).enabled = true → (cs.get a).min ≤ (cs.get a).max
  water : (cs.get .water).IsFlag

/-- Proper constraints that overlap accept a sample in common, which is found axis by axis. -/
theorem exists_sample (hc : cs.IsProper) (hd : ds.IsProper) (h : cs.overlap ds = true) :
    ∃ water height temperature wetness,
      cs.accept (.sample water height temperature wetness) = true ∧
        ds.accept (.sample water height temperature wetness) = true := by
  rw [overlap_iff] at h
  have hvalue := fun a => Constraint.exists_accepts (hc.min_le_max a) (hd.min_le_max a) (h a)
  obtain ⟨water, hcw, hdw⟩ := Constraint.exists_flag hc.water hd.water (h .water)
  obtain ⟨height, hch, hdh⟩ := hvalue .height
  obtain ⟨temperature, hct, hdt⟩ := hvalue .temperature
  obtain ⟨wetness, hce, hde⟩ := hvalue .wetness
  refine ⟨water, height, temperature, wetness, accept_iff.mpr fun a => ?_,
    accept_iff.mpr fun a => ?_⟩
  · cases a with
    | water => exact hcw
    | height => exact hch
    | temperature => exact hct
    | wetness => exact hce
  · cases a with
    | water => exact hdw
    | height => exact hdh
    | temperature => exact hdt
    | wetness => exact hde

end Constraints

/-! ### The pairs of a catalog -/

namespace Catalog

variable {k : Catalog} {i j : Nat} {c d : Cell} {p : Point}

/-- The numbered items of a list from a position on. -/
theorem mem_drop_zipIdx {α : Type} {l : List α} {n j : Nat} {x : α} :
    (x, j) ∈ l.zipIdx.drop n ↔ n ≤ j ∧ l[j]? = some x := by
  have hdrop : l.zipIdx.drop n = (l.drop n).zipIdx n := by
    refine List.ext_getElem? fun m => ?_
    rw [List.getElem?_drop, List.getElem?_zipIdx, List.getElem?_zipIdx, List.getElem?_drop,
      Nat.zero_add]
  rw [hdrop, List.mk_mem_zipIdx_iff_le_and_getElem?_sub, List.getElem?_drop]
  refine and_congr_right fun hle => ?_
  rw [Nat.add_sub_cancel' hle]

theorem pairwise_zipIdx {α : Type} (l : List α) : l.zipIdx.Pairwise fun x y => x.2 < y.2 := by
  rw [← List.pairwise_map (f := Prod.snd), List.zipIdx_map_snd]
  exact List.pairwise_lt_range'

/-- A pair is listed if its positions, the smaller first, are those of cells that overlap. -/
theorem mem_overlappingPairs :
    (i, j) ∈ k.overlappingPairs ↔ i < j ∧ ∃ c d, k.cells[i]? = some c ∧ k.cells[j]? = some d ∧
      c.constraints.overlap d.constraints = true := by
  simp only [overlappingPairs, List.mem_flatMap, List.mem_filterMap, Prod.exists,
    List.mk_mem_zipIdx_iff_getElem?, mem_drop_zipIdx, Array.getElem?_toList,
    Option.ite_none_right_eq_some, Option.some.injEq, Prod.mk.injEq]
  constructor
  · rintro ⟨c, _, hc, d, _, ⟨hlt, hd⟩, hoverlap, rfl, rfl⟩
    exact ⟨hlt, c, d, hc, hd, hoverlap⟩
  · rintro ⟨hlt, c, d, hc, hd, hoverlap⟩
    exact ⟨c, i, hc, d, j, ⟨hlt, hd⟩, hoverlap, rfl, rfl⟩

/-- The pairs are listed in the order of their first positions, and then of their second ones. -/
theorem pairwise_overlappingPairs (k : Catalog) :
    k.overlappingPairs.Pairwise (Prod.Lex (· < ·) (· < ·)) := by
  have hnumbered := pairwise_zipIdx k.cells.toList
  refine List.pairwise_flatMap.mpr ⟨fun x _ => ?_, hnumbered.imp fun {x y} hxy => ?_⟩
  · -- The pairs with one first position.
    refine List.pairwise_filterMap.mpr ((hnumbered.drop).imp ?_)
    rintro y z hyz _ hy _ hz
    obtain ⟨-, ⟨⟩⟩ := Option.ite_none_right_eq_some.mp hy
    obtain ⟨-, ⟨⟩⟩ := Option.ite_none_right_eq_some.mp hz
    exact .right _ hyz
  · intro q hq r hr
    obtain ⟨_, -, hq⟩ := List.mem_filterMap.mp hq
    obtain ⟨_, -, hr⟩ := List.mem_filterMap.mp hr
    obtain ⟨-, ⟨⟩⟩ := Option.ite_none_right_eq_some.mp hq
    obtain ⟨-, ⟨⟩⟩ := Option.ite_none_right_eq_some.mp hr
    exact .left _ _ hxy

/-- Which of two cells comes first does not matter. -/
theorem mem_overlappingPairs_swap {k' : Catalog} (hi : k'.cells[i]? = k.cells[j]?)
    (hj : k'.cells[j]? = k.cells[i]?) :
    (i, j) ∈ k'.overlappingPairs ↔ (i, j) ∈ k.overlappingPairs := by
  rw [mem_overlappingPairs, mem_overlappingPairs, hi, hj]
  refine and_congr_right fun _ => ?_
  constructor
  · rintro ⟨c, d, hc, hd, hoverlap⟩
    exact ⟨d, c, hd, hc, by rwa [Constraints.overlap_comm]⟩
  · rintro ⟨c, d, hc, hd, hoverlap⟩
    exact ⟨d, c, hd, hc, by rwa [Constraints.overlap_comm]⟩

/-- Two cells that accept the same point are listed. -/
theorem mem_overlappingPairs_of_accept (hij : i < j) (hc : k.cells[i]? = some c)
    (hd : k.cells[j]? = some d) (hcp : c.constraints.accept p = true)
    (hdp : d.constraints.accept p = true) : (i, j) ∈ k.overlappingPairs :=
  mem_overlappingPairs.mpr ⟨hij, c, d, hc, hd, Constraints.overlap_of_accept hcp hdp⟩

/-- The cell that is found is the first that accepts the point. -/
theorem find?_eq_some_iff : k.find? p = some c ↔ ∃ i : Nat, k.cells[i]? = some c ∧
    c.constraints.accept p = true ∧
      ∀ j < i, ∀ d : Cell, k.cells[j]? = some d → d.constraints.accept p = false := by
  rw [find?, Array.find?_eq_some_iff_getElem]
  constructor
  · rintro ⟨hc, i, hi, rfl, hbefore⟩
    refine ⟨i, Array.getElem?_eq_getElem hi, hc, fun j hj d hd => ?_⟩
    obtain ⟨hjlt, rfl⟩ := Array.getElem?_eq_some_iff.mp hd
    simpa using hbefore j hj
  · rintro ⟨i, hget, hc, hbefore⟩
    obtain ⟨hi, rfl⟩ := Array.getElem?_eq_some_iff.mp hget
    refine ⟨hc, i, hi, rfl, fun j hj => ?_⟩
    have := hbefore j hj _ (Array.getElem?_eq_getElem (Nat.lt_trans hj hi))
    simpa using this

/-- What the pairs of a catalog say about its cells. -/
structure ListsCompetitors (k : Catalog) : Prop where
  /-- The pairs increase strictly, so that none is listed twice. -/
  increasing : k.overlappingPairs.Pairwise (Prod.Lex (· < ·) (· < ·))
  lt : ∀ i j : Nat, (i, j) ∈ k.overlappingPairs → i < j ∧ j < k.cells.size
  /-- It does not matter from which of the two cells one looks at the other. -/
  overlap_iff : ∀ i j c d, i < j → k.cells[i]? = some c → k.cells[j]? = some d →
    ((i, j) ∈ k.overlappingPairs ↔ c.constraints.overlap d.constraints = true) ∧
      ((i, j) ∈ k.overlappingPairs ↔ d.constraints.overlap c.constraints = true)
  /-- Nor does it matter which of them comes first in the catalog. -/
  swap : ∀ (k' : Catalog) i j, k'.cells[i]? = k.cells[j]? → k'.cells[j]? = k.cells[i]? →
    ((i, j) ∈ k'.overlappingPairs ↔ (i, j) ∈ k.overlappingPairs)
  /-- Two cells that accept the same point are listed. -/
  of_accept : ∀ p i j c d, i < j → k.cells[i]? = some c → k.cells[j]? = some d →
    c.constraints.accept p = true → d.constraints.accept p = true → (i, j) ∈ k.overlappingPairs
  find?_none : ∀ p, k.find? p = none ↔
    ∀ (i : Nat) c, k.cells[i]? = some c → c.constraints.accept p = false
  /-- The cell that is found is the first that accepts the point, and is listed with all others. -/
  find?_some : ∀ p c, k.find? p = some c → ∃ i : Nat, k.cells[i]? = some c ∧
    c.constraints.accept p = true ∧
      ∀ (j : Nat) d, k.cells[j]? = some d → d.constraints.accept p = true → j ≠ i →
        i < j ∧ (i, j) ∈ k.overlappingPairs
  /-- No pair is listed in vain, if the constraints are proper. -/
  exists_sample : (∀ c ∈ k.cells, c.constraints.IsProper) →
    ∀ i j, (i, j) ∈ k.overlappingPairs → ∃ c d water height temperature wetness,
      k.cells[i]? = some c ∧ k.cells[j]? = some d ∧
        c.constraints.accept (.sample water height temperature wetness) = true ∧
          d.constraints.accept (.sample water height temperature wetness) = true

/-- **The pairs of a catalog are its competitors.**  Whatever the cells, two of them that accept the
same point are listed; and two that are listed accept some sample in common, if no interval is empty
or has an end that is no number, and water is asked for as a flag. -/
theorem lists_competitors (k : Catalog) : k.ListsCompetitors := by
  refine ⟨k.pairwise_overlappingPairs, fun i j h => ?_, fun i j c d hij hc hd => ?_,
    fun k' i j hi hj => mem_overlappingPairs_swap hi hj,
    fun p i j c d hij hc hd => mem_overlappingPairs_of_accept hij hc hd, fun p => ?_,
    fun p c h => ?_, fun hproper i j h => ?_⟩
  · obtain ⟨hij, c, d, -, hd, -⟩ := mem_overlappingPairs.mp h
    exact ⟨hij, (Array.getElem?_eq_some_iff.mp hd).1⟩
  · have hlisted : (i, j) ∈ k.overlappingPairs ↔ c.constraints.overlap d.constraints = true := by
      simp [mem_overlappingPairs, hij, hc, hd]
    exact ⟨hlisted, by rw [hlisted, Constraints.overlap_comm]⟩
  · rw [find?, Array.find?_eq_none]
    constructor
    · intro h i c hc
      simpa using h c (Array.mem_of_getElem? hc)
    · intro h c hc
      obtain ⟨i, hi⟩ := Array.mem_iff_getElem?.mp hc
      simp [h i c hi]
  · obtain ⟨i, hc, hcp, hbefore⟩ := find?_eq_some_iff.mp h
    refine ⟨i, hc, hcp, fun j d hd hdp hne => ?_⟩
    -- A cell that accepts the point does not come before the one that is found.
    have hle : i ≤ j := by
      by_contra hlt
      rw [hbefore j (Nat.lt_of_not_le hlt) d hd] at hdp
      cases hdp
    have hij : i < j := Nat.lt_of_le_of_ne hle (Ne.symm hne)
    exact ⟨hij, mem_overlappingPairs_of_accept hij hc hd hcp hdp⟩
  · obtain ⟨-, c, d, hc, hd, hoverlap⟩ := mem_overlappingPairs.mp h
    obtain ⟨water, height, temperature, wetness, hcp, hdp⟩ :=
      Constraints.exists_sample (hproper c (Array.mem_of_getElem? hc))
        (hproper d (Array.mem_of_getElem? hd)) hoverlap
    exact ⟨c, d, water, height, temperature, wetness, hc, hd, hcp, hdp⟩

/-! ### Two cells that touch -/

/-- A beach up to a height of one, and dunes from there on. -/
def coast : Catalog :=
  ⟨#[.plain "Beach" ((Constraints.none.set .water (.flag false)).set .height (.within 0 1)),
    .plain "Dunes" (Constraints.none.set .height (.within 1 2))]⟩

/-- The beach and the dunes touch, and both accept the place where they do. -/
theorem lists_competitors_coast :
    (0, 1) ∈ coast.overlappingPairs ∧ ∃ c d water height temperature wetness,
      coast.cells[0]? = some c ∧ coast.cells[1]? = some d ∧
        c.constraints.accept (.sample water height temperature wetness) = true ∧
          d.constraints.accept (.sample water height temperature wetness) = true := by
  have hlisted : (0, 1) ∈ coast.overlappingPairs := by decide
  refine ⟨hlisted, coast.lists_competitors.exists_sample (fun c hc => ?_) 0 1 hlisted⟩
  have hcells : c ∈ coast.cells.toList := Array.mem_toList_iff.mpr hc
  rcases List.mem_cons.mp hcells with rfl | hcells
  · exact ⟨fun a => by cases a <;> decide, fun _ => ⟨false, by decide⟩⟩
  · obtain rfl := List.mem_singleton.mp hcells
    exact ⟨fun a => by cases a <;> decide, fun h => absurd h (by decide)⟩

end Catalog

end Biomes
