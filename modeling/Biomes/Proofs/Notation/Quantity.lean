import Biomes.Decimal.Float
import Biomes.Proofs.Decimal.Reading
import Biomes.Proofs.Decimal.Shortest
import Biomes.Proofs.Notation.Number

/-!
# The text of a single precision number is read as the number

A decimal that is laid out is spelled, and stands for the same number (`exists_spelling`).  As the
shortest decimal of a single precision number is covered by it, it is read as this number again
(`quantity_singleText`): for the zeros with their sign, the infinities and `NaN` as well.
-/

namespace Biomes.Notation

/-! ### Written decimals -/

section Written

open Decimal (Scaled Layout)

variable (l : Layout) (d : Scaled)

theorem exists_spelling_exponentText :
    ∃ s : Spelling, Layout.exponentText (Nat.toDigits 10 d.digits)
        ((Nat.toDigits 10 d.digits).length + d.exponent - 1) = s.text ∧
      s.value = d.digits * 10 ^ d.exponent := by
  have hdigits := isDigit_of_mem_toDigits (n := d.digits)
  have hvalue := decimalValue_toDigits d.digits
  obtain ⟨c, ds, hcons⟩ :=
    List.exists_cons_of_ne_nil (Nat.toDigits_ne_nil (n := d.digits) (b := 10))
  rw [hcons] at hdigits hvalue ⊢
  refine ⟨⟨[c], ds, some ((c :: ds).length + d.exponent - 1), List.cons_ne_nil c [], ?_, ?_⟩,
    rfl, ?_⟩
  · exact fun b hb => hdigits b (by simp_all)
  · exact fun b hb => hdigits b (List.mem_cons_of_mem c hb)
  · have hexponent : ((c :: ds).length + d.exponent - 1 - ds.length : ℤ) = d.exponent := by
      rw [List.length_cons]
      push_cast
      ring
    rw [Spelling.value, Spelling.number, List.singleton_append, hvalue, Option.getD_some, hexponent]

theorem isDigit_zeros (k : ℕ) : ∀ c ∈ List.replicate k '0', c.isDigit = true := by
  intro c hc
  rw [List.eq_of_mem_replicate hc]
  rfl

section Positional

variable {ds : List Char} {n : ℕ} {e : ℤ} (hdigits : ∀ c ∈ ds, c.isDigit = true) (hne : ds ≠ [])
  (hvalue : decimalValue ds = n)

include hdigits hne hvalue

/-- The digits stand behind the point, after zeros. -/
theorem exists_spelling_behind {k : ℕ} (hk : -(ds.length + e) = k) :
    ∃ s : Spelling, '0' :: '.' :: List.replicate k '0' ++ ds = s.text ∧ s.value = n * 10 ^ e := by
  refine ⟨⟨['0'], List.replicate k '0' ++ ds, none, List.cons_ne_nil _ _, by simp, ?_⟩, ?_, ?_⟩
  · exact fun c hc => (List.mem_append.mp hc).elim (isDigit_zeros k c) (hdigits c)
  · have hempty : (List.replicate k '0' ++ ds).isEmpty = false := by simp [hne]
    rw [Spelling.text]
    simp [hempty, Spelling.exponentMark]
  · have hall : decimalValue (['0'] ++ (List.replicate k '0' ++ ds)) = n := by
      have hfront := decimalValue_zeros (k + 1)
      rw [List.replicate_succ] at hfront
      rw [← List.append_assoc, decimalValue_append, hvalue, List.singleton_append, hfront,
        Nat.zero_mul, Nat.zero_add]
    have hexponent : (0 - (List.replicate k '0' ++ ds).length : ℤ) = e := by
      rw [List.length_append, List.length_replicate]
      push_cast
      omega
    rw [Spelling.value, Spelling.number, hall, Option.getD_none, hexponent]

/-- The point stands among the digits. -/
theorem exists_spelling_among {k : ℕ} (hk : ds.length + e = k) (hpos : 0 < k)
    (hlt : k < ds.length) :
    ∃ s : Spelling, ds.take k ++ '.' :: ds.drop k = s.text ∧ s.value = n * 10 ^ e := by
  have hlength : (ds.drop k).length = ds.length - k := List.length_drop
  refine ⟨⟨ds.take k, ds.drop k, none, ?_, ?_, ?_⟩, ?_, ?_⟩
  · simp [hne]
    omega
  · exact fun c hc => hdigits c (List.mem_of_mem_take hc)
  · exact fun c hc => hdigits c (List.mem_of_mem_drop hc)
  · have hempty : (ds.drop k).isEmpty = false := by
      simp
      omega
    rw [Spelling.text]
    simp [hempty, Spelling.exponentMark]
  · have hexponent : (0 - (ds.drop k).length : ℤ) = e := by
      rw [hlength]
      omega
    rw [Spelling.value, Spelling.number, List.take_append_drop, hvalue, Option.getD_none,
      hexponent]

/-- The digits stand in front of the point, before zeros. -/
theorem exists_spelling_before {k : ℕ} (hk : e = k) :
    ∃ s : Spelling, ds ++ List.replicate k '0' ++ (if l.pointed then ['.', '0'] else []) = s.text ∧
      s.value = n * 10 ^ e := by
  have hwhole : ∀ c ∈ ds ++ List.replicate k '0', c.isDigit = true :=
    fun c hc => (List.mem_append.mp hc).elim (hdigits c) (isDigit_zeros k c)
  have hscaled : decimalValue (ds ++ List.replicate k '0') = n * 10 ^ k := by
    rw [decimalValue_append, hvalue, decimalValue_zeros, List.length_replicate, Nat.add_zero]
  cases l.pointed with
  | false =>
    refine ⟨⟨ds ++ List.replicate k '0', [], none, by simp [hne], hwhole, by simp⟩, ?_, ?_⟩
    · simp [Spelling.text, Spelling.exponentMark]
    · rw [Spelling.value, Spelling.number, List.append_nil, hscaled]
      simp [hk]
  | true =>
    have hzero : decimalValue ['0'] = 0 := rfl
    refine ⟨⟨ds ++ List.replicate k '0', ['0'], none, by simp [hne], hwhole, by simp⟩, ?_, ?_⟩
    · simp [Spelling.text, Spelling.exponentMark]
    · rw [Spelling.value, Spelling.number, decimalValue_append, hscaled]
      simp [hk, hzero]

end Positional

theorem exists_spelling_positionalText :
    ∃ s : Spelling, l.positionalText (Nat.toDigits 10 d.digits)
        ((Nat.toDigits 10 d.digits).length + d.exponent) = s.text ∧
      s.value = d.digits * 10 ^ d.exponent := by
  have hdigits := isDigit_of_mem_toDigits (n := d.digits)
  have hvalue := decimalValue_toDigits d.digits
  have hne := Nat.toDigits_ne_nil (n := d.digits) (b := 10)
  generalize Nat.toDigits 10 d.digits = ds at *
  unfold Layout.positionalText
  dsimp only
  split
  · rename_i hplaces
    exact exists_spelling_behind hdigits hne hvalue (by omega)
  split
  · rename_i hplaces hcount
    exact exists_spelling_among hdigits hne hvalue (by omega) (by omega) (by omega)
  · rename_i hplaces hcount
    exact exists_spelling_before l hdigits hne hvalue (by omega)

/-- **A written decimal is spelled out.** -/
theorem exists_spelling :
    ∃ s : Spelling, l.write d = s.text ∧ s.value = d.digits * 10 ^ d.exponent := by
  unfold Layout.write
  dsimp only
  split
  · exact exists_spelling_exponentText d
  · exact exists_spelling_positionalText l d

end Written

/-! ### Single precision numbers -/

open Decimal (Canonical Reach isNarrow)
open Float.Model (UnpackedFloat)

variable (l : Decimal.Layout)

theorem neg_pack {m : ℕ} {q : ℤ} (hc : Canonical .binary32 m q) (hq : q ≤ 104) :
    -(Float32.ofModel (.pack (.finite .positive m q hc.pos))) =
      .ofModel (.pack (.finite .negative m q hc.pos)) := by
  have hneg : (Float32.Model.pack (.finite .positive m q hc.pos)).unpack.neg =
      .finite .negative m q hc.pos := by
    rw [Single.unpack_pack hc hq]
    rfl
  exact congrArg (Float32.ofModel ∘ Float32.Model.pack) hneg

/-- A decimal with a sign is read as the single precision number that covers it. -/
theorem toSingle_eq {m : ℕ} {q : ℤ} (hc : Canonical .binary32 m q) (hq : q ≤ 104) {d : ℕ} {e : ℤ}
    (hx : (Reach.ofBinary m q (isNarrow .binary32 m q)).Covers (d * 10 ^ e)) (negative : Bool) :
    (DecimalNumber.mk negative d e).toSingle =
      .ofModel (.pack (.finite (if negative then .negative else .positive) m q hc.pos)) := by
  have hpositive : (DecimalNumber.mk false d e).toSingle =
      .ofModel (.pack (.finite .positive m q hc.pos)) := by
    cases e with
    | ofNat k => exact Single.ofScientific_eq (b := false) hc hq hx
    | negSucc k => exact Single.ofScientific_eq (b := true) hc hq hx
  cases negative with
  | false => exact hpositive
  | true =>
    have hminus : (DecimalNumber.mk true d e).toSingle = -(DecimalNumber.mk false d e).toSingle :=
      rfl
    rw [hminus, hpositive]
    exact neg_pack hc hq

theorem toSingle_number {m : ℕ} {q : ℤ} (hc : Canonical .binary32 m q) (hq : q ≤ 104) (s : Spelling)
    (hx : (Reach.ofBinary m q (isNarrow .binary32 m q)).Covers s.value) (negative : Bool) :
    (s.number negative).toSingle =
      .ofModel (.pack (.finite (if negative then .negative else .positive) m q hc.pos)) :=
  toSingle_eq hc hq hx negative

theorem toList_signed (s : UnpackedFloat.Sign) (text : List Char) :
    (Decimal.signed s text).toList = Spelling.mark (s == .negative) ++ text := by
  cases s <;> exact String.toList_ofList

/-- The text of zero. -/
def zeroSpelling (pointed : Bool) : Spelling :=
  ⟨['0'], if pointed then ['0'] else [], none, List.cons_ne_nil _ _,
    List.forall_mem_singleton.mpr rfl, by cases pointed <;> simp⟩

theorem text_zeroSpelling : (zeroSpelling l.pointed).text = l.zero := by
  rw [Decimal.Layout.zero]
  cases l.pointed <;> rfl

theorem toSingle_zero (pointed : Bool) (s : UnpackedFloat.Sign) :
    ((zeroSpelling pointed).number (s == .negative)).toSingle = .ofModel (.pack (.zero s)) := by
  cases pointed <;> cases s <;> decide +kernel

/-- The text of a single precision number is a word for it, or spells it out. -/
theorem singleText_cases (x : Float32) :
    (∃ w, (w, .number x) ∈ quantityWords ∧ singleText l x = w) ∨
      ∃ (s : Spelling) (negative : Bool), (s.number negative).toSingle = x ∧
        (singleText l x).toList = Spelling.mark negative ++ s.text := by
  have hx := Single.ofModel_pack_unpack x
  have hcanonical : ∀ {s m q hm}, x.toModel.unpack = .finite s m q hm →
      Canonical .binary32 m q ∧ q ≤ 104 := fun h => Decimal.canonical_of_unpack (by decide) h
  unfold singleText
  generalize x.toModel.unpack = u at hx hcanonical ⊢
  subst hx
  cases u with
  | notANumber =>
    have hnan : (0 / 0 : Float32) = .ofModel (.pack .notANumber) := by decide +kernel
    rw [← hnan]
    exact .inl ⟨"NaN", by simp [quantityWords], rfl⟩
  | infinity s =>
    have hinf : (1 / 0 : Float32) = .ofModel (.pack (.infinity .positive)) := by decide +kernel
    have hminus : (-1 / 0 : Float32) = .ofModel (.pack (.infinity .negative)) := by decide +kernel
    cases s with
    | positive =>
      rw [← hinf]
      exact .inl ⟨"inf", by simp [quantityWords], rfl⟩
    | negative =>
      rw [← hminus]
      exact .inl ⟨"-inf", by simp [quantityWords], rfl⟩
  | zero s =>
    refine .inr ⟨zeroSpelling l.pointed, s == .negative, toSingle_zero l.pointed s, ?_⟩
    rw [text_zeroSpelling]
    exact toList_signed s _
  | finite s m q hm =>
    obtain ⟨hc, hq⟩ := hcanonical rfl
    obtain ⟨spelling, htext, hvalue⟩ :=
      exists_spelling l (Decimal.shortest m q (isNarrow .binary32 m q))
    have hcovers := Decimal.shortest_covers hm q (isNarrow .binary32 m q)
    have hsign : (if (s == .negative) = true then .negative else .positive) = s := by
      cases s <;> rfl
    have hread := toSingle_number hc hq spelling (hvalue ▸ hcovers) (s == .negative)
    rw [hsign] at hread
    exact .inr ⟨spelling, s == .negative, hread, htext ▸ toList_signed s _⟩

/-- **The text of a single precision number is read as the number.** -/
theorem quantity_singleText (x : Float32) (rest : List Char) :
    quantity ((singleText l x).toList ++ ',' :: rest) = some (.number x, ',' :: rest) := by
  rcases singleText_cases l x with ⟨w, hw, htext⟩ | ⟨s, negative, hx, htext⟩
  · rw [htext]
    exact quantity_word hw rest
  · rw [htext, List.append_assoc, quantity_text, hx]

/-- Different numbers have different texts. -/
theorem singleText_injective : Function.Injective (singleText l) := by
  intro x y h
  have hx := quantity_singleText l x []
  rw [h, quantity_singleText l y [], Option.some.injEq, Prod.mk.injEq] at hx
  exact (Quantity.number.inj hx.1).symm

theorem startsToken_quantityWord : ∀ w ∈ quantityWords.map (·.1), StartsToken w.toList := by
  decide

theorem startsToken_singleText (x : Float32) : StartsToken (singleText l x).toList := by
  rcases singleText_cases l x with ⟨w, hw, htext⟩ | ⟨s, negative, -, htext⟩
  · rw [htext]
    exact startsToken_quantityWord w (List.mem_map_of_mem hw)
  · rw [htext]
    exact s.startsToken_mark_text negative

/-- There is nothing blank in the text of a number. -/
theorem not_isWhitespace_of_mem_singleText (x : Float32) :
    ∀ c ∈ (singleText l x).toList, c.isWhitespace = false := by
  have hwords : ∀ w ∈ quantityWords.map (·.1), w.toList.any Char.isWhitespace = false := by decide
  intro c hc
  rcases singleText_cases l x with ⟨w, hw, htext⟩ | ⟨s, negative, -, htext⟩
  · rw [htext] at hc
    exact Bool.eq_false_iff.mpr fun hblank => Bool.eq_false_iff.mp
      (hwords w (List.mem_map_of_mem hw)) (List.any_eq_true.mpr ⟨c, hc, hblank⟩)
  · rw [htext] at hc
    rcases s.isNumeral_or_point negative c hc with hnumeral | rfl
    · exact hnumeral.isWhitespace
    · rfl

end Biomes.Notation
