import Biomes.Notation.Number
import Biomes.Proofs.Notation.Blank
import Mathlib.Tactic.Ring
import Mathlib.Data.Rat.Defs

/-!
# Numbers are read where they are written

An integer is written with its decimal digits, and read up to the comma behind it
(`integer_toDigits`).  A quantity is written as a `Spelling`: digits in front of a point and behind
it, and an exponent; or as a word.  Both are read as what they stand for (`quantity_text`,
`quantity_word`).
-/

namespace Biomes.Notation

/-! ### Digits -/

section Digits

variable {c : Char} {ds cs rest : List Char}

theorem digitValue?_of_isDigit (hc : c.isDigit = true) :
    digitValue? c = some (c.toNat - '0'.toNat) := by
  have h := Char.isDigit_iff_toNat.mp hc
  exact if_pos h

theorem digit_lt_ten (hc : c.isDigit = true) : c.toNat - '0'.toNat < 10 := by
  have h := Char.isDigit_iff_toNat.mp hc
  have : '9'.toNat = 57 := rfl
  have : '0'.toNat = 48 := rfl
  omega

theorem isToken_of_isDigit (hc : c.isDigit = true) : IsToken c :=
  isToken_of_isAlphanum (by rw [Char.isAlphanum, hc, Bool.or_true, Bool.true_or])

/-- A digit is none of the characters that numbers are made of besides. -/
theorem ne_of_isDigit {d : Char} (hc : c.isDigit = true) (hd : d.isDigit = false) : c ≠ d := by
  rintro rfl
  simp [hc] at hd

theorem sign_digits (hne : ds ≠ []) (hds : ∀ c ∈ ds, c.isDigit = true) (rest : List Char) :
    sign (ds ++ rest) = (false, ds ++ rest) := by
  obtain ⟨c, ds, rfl⟩ := List.exists_cons_of_ne_nil hne
  have hplus := ne_of_isDigit (hds c List.mem_cons_self) (d := '+') rfl
  have hminus := ne_of_isDigit (hds c List.mem_cons_self) (d := '-') rfl
  rw [List.cons_append]
  unfold sign
  split <;> simp_all

theorem takeWhile_digits (hds : ∀ c ∈ ds, c.isDigit = true)
    (hrest : rest.head?.any Char.isDigit = false) :
    (ds ++ rest).takeWhile Char.isDigit = ds := by
  rw [List.takeWhile_append_of_pos hds]
  cases rest with
  | nil => exact List.append_nil ds
  | cons c rest =>
    rw [List.takeWhile_cons_of_neg (by simpa using hrest), List.append_nil]

theorem decimalValue_eq (ds : List Char) : decimalValue ds = Nat.ofDigitChars 10 ds 0 :=
  Nat.ofDigitChars_eq_foldl.symm

theorem decimalValue_toDigits (n : ℕ) : decimalValue (Nat.toDigits 10 n) = n := by
  rw [decimalValue_eq, Nat.ofDigitChars_ten_toDigits]

theorem decimalValue_append (ds es : List Char) :
    decimalValue (ds ++ es) = decimalValue ds * 10 ^ es.length + decimalValue es := by
  rw [decimalValue_eq, decimalValue_eq, decimalValue_eq, Nat.ofDigitChars_append,
    Nat.ofDigitChars_eq_ofDigitChars_zero, Nat.mul_comm]

theorem decimalValue_zeros (k : ℕ) : decimalValue (List.replicate k '0') = 0 := by
  rw [decimalValue_eq, Nat.ofDigitChars_replicate_zero]
  simp

theorem isDigit_of_mem_toDigits {n : ℕ} : ∀ c ∈ Nat.toDigits 10 n, c.isDigit = true :=
  fun _ hc => Nat.isDigit_of_mem_toDigits (by decide) (by decide) hc

end Digits

/-! ### Integers -/

theorem digitsValue?_digits {ds : List Char} (hds : ∀ c ∈ ds, c.isDigit = true) :
    digitsValue? 10 ds = some (decimalValue ds) := by
  unfold digitsValue? decimalValue
  generalize 0 = n
  induction ds generalizing n with
  | nil => rfl
  | cons c ds ih =>
    have hc := hds c List.mem_cons_self
    have hunderscore : (c == '_') = false := by simpa using ne_of_isDigit hc (d := '_') rfl
    rw [List.foldlM_cons, List.foldl_cons, ← ih fun c hc => hds c (List.mem_cons_of_mem _ hc)]
    rw [hunderscore, if_neg Bool.false_ne_true, digitValue?_of_isDigit hc, Nat.mul_comm 10 n]
    simp only [Option.bind_eq_bind, Option.bind_some, if_pos (digit_lt_ten hc), Option.pure_def]

/-- There is no mark of a base in front of digits, though the first of them may be zero. -/
theorem baseMark_digits {ds rest : List Char} (hds : ∀ c ∈ ds, c.isDigit = true) :
    baseMark (ds ++ ',' :: rest) = (10, ds ++ ',' :: rest) := by
  unfold baseMark
  split
  case h_4 => rfl
  -- A mark would have a letter where there is a digit or the comma.
  all_goals
    rename_i h
    match ds with
    | [] => simp at h
    | [c] => simp at h
    | c :: d :: ds => have := hds d (by simp); simp_all

theorem magnitude_toDigits (n : ℕ) (rest : List Char) :
    magnitude (Nat.toDigits 10 n ++ ',' :: rest) = some (n, ',' :: rest) := by
  have hdigits := isDigit_of_mem_toDigits (n := n)
  have hrun : (Nat.toDigits 10 n ++ ',' :: rest).takeWhile isIntegerChar = Nat.toDigits 10 n := by
    rw [List.takeWhile_append_of_pos fun c hc => by
      rw [isIntegerChar, digitValue?_of_isDigit (hdigits c hc)]; rfl]
    exact (congrArg _ rfl).trans (List.append_nil _)
  have hhead : ((Nat.toDigits 10 n).isEmpty || (Nat.toDigits 10 n).head? == some '_') = false := by
    obtain ⟨c, ds, hcs⟩ := List.exists_cons_of_ne_nil (Nat.toDigits_ne_nil (n := n) (b := 10))
    have hc := ne_of_isDigit (hdigits c (hcs ▸ List.mem_cons_self)) (d := '_') rfl
    simpa [hcs] using hc
  unfold magnitude
  rw [baseMark_digits hdigits]
  dsimp only
  rw [hrun, hhead, digitsValue?_digits hdigits, decimalValue_toDigits, List.drop_left]
  rfl

/-- **An integer is read as its digits say**, if it is in the range of its type. -/
theorem integer_toDigits {bits n : ℕ} (hn : n < 2 ^ bits) (rest : List Char) :
    integer (.unsigned bits) (Nat.toDigits 10 n ++ ',' :: rest) =
      some ((false, n), ',' :: rest) := by
  have hsign := sign_digits Nat.toDigits_ne_nil (isDigit_of_mem_toDigits (n := n)) (',' :: rest)
  have hfits : (IntegerType.unsigned bits).fits false n = true := by
    have : n ≤ 2 ^ bits - 1 := by omega
    exact decide_eq_true this
  have hnames : ∀ t ∈ integerTypes,
      t.name.toList.head? = some 'i' ∨ t.name.toList.head? = some 'u' := by
    decide +kernel
  have hmark : typeMark? (',' :: rest) = none := by
    refine List.findSome?_eq_none_iff.mpr fun t ht => ?_
    have hname : afterWord? t.name (',' :: rest) = none := by
      rcases hnames t ht with h | h <;> exact afterWord?_of_ne h (by decide)
    rw [hname, Option.map_none]
  unfold integer
  rw [hsign]
  dsimp only
  rw [magnitude_toDigits, Option.bind_eq_bind, Option.bind_some]
  dsimp only
  rw [hfits, hmark]
  rfl

/-! ### Spelled decimals -/

/-- A decimal as it is written: digits with a point and an exponent where needed. -/
structure Spelling where
  whole : List Char
  part : List Char
  exponent : Option ℤ
  whole_ne_nil : whole ≠ []
  isDigit_whole : ∀ c ∈ whole, c.isDigit = true
  isDigit_part : ∀ c ∈ part, c.isDigit = true

namespace Spelling

/-- The mark of an exponent, and its digits. -/
def exponentMark (e : Option ℤ) : List Char := e.elim [] fun e => 'e' :: (toString e).toList

/-- The text of a decimal. -/
def text (s : Spelling) : List Char :=
  s.whole ++ (if s.part.isEmpty then [] else '.' :: s.part) ++ exponentMark s.exponent

/-- The decimal that is read from the text, with a sign. -/
def number (s : Spelling) (negative : Bool) : DecimalNumber :=
  ⟨negative, decimalValue (s.whole ++ s.part), s.exponent.getD 0 - s.part.length⟩

/-- The number that a text stands for. -/
def value (s : Spelling) : ℚ := (s.number false).digits * 10 ^ (s.number false).exponent

/-- A sign in front of a text. -/
def mark (negative : Bool) : List Char := if negative then ['-'] else []

variable (s : Spelling)

theorem startsToken_mark_text (negative : Bool) : StartsToken (mark negative ++ s.text) := by
  cases negative with
  | true => exact (by decide : IsToken '-')
  | false =>
    obtain ⟨c, cs, hcons⟩ := List.exists_cons_of_ne_nil s.whole_ne_nil
    rw [mark, if_neg Bool.false_ne_true, List.nil_append, text, hcons]
    exact isToken_of_isDigit (s.isDigit_whole c (hcons ▸ List.mem_cons_self))

theorem sign_text (negative : Bool) (rest : List Char) :
    sign (mark negative ++ (s.text ++ rest)) = (negative, s.text ++ rest) := by
  cases negative with
  | true => rfl
  | false =>
    rw [mark, if_neg Bool.false_ne_true, List.nil_append, text, List.append_assoc,
      List.append_assoc]
    exact sign_digits s.whole_ne_nil s.isDigit_whole _

/-! #### Reading -/

theorem exponent?_digits {cs : List Char} {b : Bool} {n : ℕ}
    (hcs : sign cs = (b, Nat.toDigits 10 n)) : exponent? cs = some (if b then -(n : ℤ) else n) := by
  have hall : (Nat.toDigits 10 n).all Char.isDigit = true :=
    List.all_eq_true.mpr isDigit_of_mem_toDigits
  have hempty : (Nat.toDigits 10 n).isEmpty = false :=
    List.isEmpty_eq_false_iff.mpr Nat.toDigits_ne_nil
  unfold exponent?
  rw [hcs]
  dsimp only
  rw [hempty, hall, decimalValue_toDigits]
  rfl

theorem toList_toString_ofNat (n : ℕ) :
    (toString (Int.ofNat n)).toList = Nat.toDigits 10 n := Nat.toList_repr

theorem toList_toString_negSucc (n : ℕ) :
    (toString (Int.negSucc n)).toList = '-' :: Nat.toDigits 10 (n + 1) := by
  show ("-" ++ Nat.repr (n + 1)).toList = _
  rw [String.toList_append, Nat.toList_repr]
  rfl

theorem exponent?_toString (e : ℤ) : exponent? (toString e).toList = some e := by
  cases e with
  | ofNat n =>
    have hsign := sign_digits Nat.toDigits_ne_nil (isDigit_of_mem_toDigits (n := n)) []
    rw [List.append_nil] at hsign
    rw [toList_toString_ofNat]
    exact exponent?_digits hsign
  | negSucc n =>
    have hsign : sign ('-' :: Nat.toDigits 10 (n + 1)) = (true, Nat.toDigits 10 (n + 1)) := rfl
    rw [toList_toString_negSucc]
    exact exponent?_digits hsign

/-- A spelled decimal is understood. -/
theorem decimal?_text (negative : Bool) :
    decimal? (mark negative ++ s.text) = some (s.number negative) := by
  have hsign := s.sign_text negative []
  rw [List.append_nil] at hsign
  unfold decimal?
  rw [hsign]
  obtain ⟨whole, part, exponent, hne, hwhole, hpart⟩ := s
  have hempty : whole.isEmpty = false := List.isEmpty_eq_false_iff.mpr hne
  dsimp only [text, number]
  have hrun : ∀ {rest}, rest.head?.any Char.isDigit = false →
      (whole ++ rest).takeWhile Char.isDigit = whole := takeWhile_digits hwhole
  have hrun' : ∀ {rest}, rest.head?.any Char.isDigit = false →
      (part ++ rest).takeWhile Char.isDigit = part := takeWhile_digits hpart
  have hmark : (exponentMark exponent).head?.any Char.isDigit = false := by
    cases exponent <;> rfl
  rw [List.append_assoc]
  cases part with
  | nil =>
    rw [List.isEmpty_nil, if_pos rfl, List.nil_append, hrun hmark, List.drop_left]
    cases exponent with
    | none => simp [exponentMark, hempty]
    | some e =>
      have he : exponent? e.repr.toList = some e := exponent?_toString e
      simp [exponentMark, hempty, he]
  | cons p part =>
    rw [List.isEmpty_cons, if_neg Bool.false_ne_true, List.cons_append, hrun rfl, List.drop_left]
    simp only [hrun' hmark, List.drop_left]
    cases exponent with
    | none => simp [exponentMark, hempty]
    | some e =>
      have he : exponent? e.repr.toList = some e := exponent?_toString e
      simp [exponentMark, hempty, he]

theorem quantityRun_append {ds : List Char}
    (hds : ∀ c ∈ ds, isQuantityChar c = true ∧ c ≠ '.') (rest : List Char) :
    quantityRun (ds ++ rest) = ds ++ quantityRun rest := by
  induction ds with
  | nil => rfl
  | cons c ds ih =>
    obtain ⟨hchar, hpoint⟩ := hds c List.mem_cons_self
    rw [List.cons_append, quantityRun, if_pos hchar,
      ih fun c hc => hds c (List.mem_cons_of_mem _ hc)]
    · rfl
    · simp [hpoint]

theorem quantityRun_point {c : Char} (hc : c ≠ '.') (cs : List Char) :
    quantityRun ('.' :: c :: cs) = '.' :: quantityRun (c :: cs) := by
  rw [quantityRun]
  · rfl
  · simp [hc]

theorem dropUnderscores_eq {cs : List Char} (hcs : ∀ c ∈ cs, c ≠ '_') (allowed : Bool) :
    dropUnderscores allowed cs = some cs := by
  induction cs generalizing allowed with
  | nil => rfl
  | cons c cs ih =>
    have hc : ¬(c == '_') = true := by simpa using hcs c List.mem_cons_self
    rw [dropUnderscores, if_neg hc]
    dsimp only
    rw [ih fun c hc => hcs c (List.mem_cons_of_mem _ hc), Option.map_some]

/-- The characters of a spelled decimal, the point apart. -/
def IsNumeral (c : Char) : Prop := c.isDigit = true ∨ c = '-' ∨ c = 'e'

theorem IsNumeral.isQuantityChar {c : Char} (hc : IsNumeral c) :
    isQuantityChar c = true ∧ c ≠ '.' ∧ c ≠ '_' := by
  rcases hc with hc | rfl | rfl
  · refine ⟨?_, ne_of_isDigit hc rfl, ne_of_isDigit hc rfl⟩
    rw [Notation.isQuantityChar, hc]
    rfl
  · decide
  · decide

theorem IsNumeral.isWhitespace {c : Char} (hc : IsNumeral c) : c.isWhitespace = false := by
  rcases hc with hc | rfl | rfl
  · refine Bool.eq_false_iff.mpr fun hblank => ?_
    simp only [Char.isWhitespace, Bool.or_eq_true, decide_eq_true_eq] at hblank
    rcases hblank with ((rfl | rfl) | rfl) | rfl <;> cases hc
  · rfl
  · rfl

theorem isNumeral_exponentMark {exponent : Option ℤ} :
    ∀ c ∈ exponentMark exponent, IsNumeral c := by
  have hdigits : ∀ n : ℕ, ∀ c ∈ Nat.toDigits 10 n, IsNumeral c :=
    fun n c hc => .inl (isDigit_of_mem_toDigits c hc)
  intro c hc
  match exponent with
  | none => simp [exponentMark] at hc
  | some (.ofNat n) =>
    rw [exponentMark, Option.elim_some, toList_toString_ofNat] at hc
    rcases List.mem_cons.mp hc with rfl | hc
    · exact .inr (.inr rfl)
    · exact hdigits n c hc
  | some (.negSucc n) =>
    rw [exponentMark, Option.elim_some, toList_toString_negSucc] at hc
    rcases List.mem_cons.mp hc with rfl | hc
    · exact .inr (.inr rfl)
    · rcases List.mem_cons.mp hc with rfl | hc
      · exact .inr (.inl rfl)
      · exact hdigits _ c hc

theorem isNumeral_mark (negative : Bool) : ∀ c ∈ mark negative, IsNumeral c := by
  cases negative
  · simp [mark]
  · simp [mark, IsNumeral]

/-- The run of characters that may belong to a number ends at the comma behind it. -/
theorem quantityRun_text (negative : Bool) (rest : List Char) :
    quantityRun (mark negative ++ (s.text ++ ',' :: rest)) = mark negative ++ s.text := by
  have happend : ∀ {ds : List Char}, (∀ c ∈ ds, IsNumeral c) → ∀ rest,
      quantityRun (ds ++ rest) = ds ++ quantityRun rest := fun hds =>
    quantityRun_append fun c hc => ⟨(hds c hc).isQuantityChar.1, (hds c hc).isQuantityChar.2.1⟩
  have hwhole : ∀ c ∈ s.whole, IsNumeral c := fun c hc => .inl (s.isDigit_whole c hc)
  have hpart : ∀ c ∈ s.part, IsNumeral c := fun c hc => .inl (s.isDigit_part c hc)
  have hend : quantityRun (',' :: rest) = [] := rfl
  rw [text, List.append_assoc, List.append_assoc, happend (isNumeral_mark negative), happend hwhole]
  split
  · rw [List.nil_append, List.append_nil, happend isNumeral_exponentMark, hend, List.append_nil]
  · rename_i hne
    obtain ⟨p, part, hcons⟩ := List.exists_cons_of_ne_nil (mt List.isEmpty_iff.mpr hne)
    have hp : p ≠ '.' := ne_of_isDigit (s.isDigit_part p (hcons ▸ List.mem_cons_self)) rfl
    rw [hcons] at hpart ⊢
    rw [List.cons_append, List.cons_append, quantityRun_point hp, ← List.cons_append, happend hpart,
      happend isNumeral_exponentMark, hend, List.append_nil, List.append_assoc]
    rfl

/-- A spelled decimal is made of such characters and of points. -/
theorem isNumeral_or_point (negative : Bool) :
    ∀ c ∈ mark negative ++ s.text, IsNumeral c ∨ c = '.' := by
  intro c hc
  rw [List.mem_append, text, List.mem_append, List.mem_append] at hc
  rcases hc with hc | (hc | hc) | hc
  · exact .inl (isNumeral_mark negative c hc)
  · exact .inl (.inl (s.isDigit_whole c hc))
  · split at hc
    · simp at hc
    · rcases List.mem_cons.mp hc with rfl | hc
      · exact .inr rfl
      · exact .inl (.inl (s.isDigit_part c hc))
  · exact .inl (isNumeral_exponentMark c hc)

theorem dropUnderscores_text (negative : Bool) :
    dropUnderscores false (mark negative ++ s.text) = some (mark negative ++ s.text) := by
  refine dropUnderscores_eq (fun c hc => ?_) _
  rcases s.isNumeral_or_point negative c hc with hnumeral | rfl
  · exact hnumeral.isQuantityChar.2.2
  · decide

end Spelling

theorem sign_append {ws : List Char} (hws : ws ≠ []) (rest : List Char) :
    sign (ws ++ rest) = ((sign ws).1, (sign ws).2 ++ rest) := by
  obtain ⟨c, ws, rfl⟩ := List.exists_cons_of_ne_nil hws
  rw [List.cons_append]
  unfold sign
  split <;> simp_all

theorem afterText?_eq_some {ws cs rest : List Char} (h : afterText? ws cs = some rest) :
    cs = ws ++ rest := by
  induction ws generalizing cs with
  | nil => simpa [afterText?] using h
  | cons w ws ih =>
    cases cs with
    | nil => simp [afterText?, afterChar?] at h
    | cons c cs =>
      by_cases hc : c = w
      · subst hc
        rw [afterText?, afterChar?_self, Option.bind_some] at h
        rw [ih h, List.cons_append]
      · simp [afterText?_of_ne hc] at h

theorem afterWord?_eq_some {w : String} {cs rest : List Char} (h : afterWord? w cs = some rest) :
    cs = w.toList ++ rest := by
  unfold afterWord? at h
  split at h
  · rename_i hfound
    split at h
    · cases h
    · cases h
      exact afterText?_eq_some hfound
  · cases h

/-- Where a digit comes next, there is no word. -/
theorem quantityWord_eq_none {cs : List Char} (hcs : (sign cs).2.head?.any Char.isDigit = true)
    (types : List String) : quantityWord types cs = none := by
  have hwords : ∀ w ∈ quantityWords.map (·.1),
      (sign w.toList).2 ≠ [] ∧ (sign w.toList).2.head?.any Char.isDigit = false := by
    decide
  refine List.findSome?_eq_none_iff.mpr fun ⟨w, x⟩ hw => ?_
  refine List.findSome?_eq_none_iff.mpr fun t _ => ?_
  cases hfound : afterWord? (w ++ t) cs with
  | none => rfl
  | some rest =>
    exfalso
    obtain ⟨hne, hhead⟩ := hwords w (List.mem_map_of_mem hw)
    have hwne : w.toList ≠ [] := by
      intro h
      exact hne (by rw [h]; rfl)
    rw [afterWord?_eq_some hfound, String.toList_append, List.append_assoc, sign_append hwne] at hcs
    dsimp only at hcs
    obtain ⟨c, cs, hcons⟩ := List.exists_cons_of_ne_nil hne
    rw [hcons, List.cons_append] at hcs
    rw [hcons] at hhead
    exact absurd (hhead.symm.trans hcs) Bool.false_ne_true

/-- No word is the front of another one. -/
theorem pairwise_quantityWords :
    quantityWords.Pairwise fun a b => ¬a.1.toList <+: b.1.toList ∧ ¬b.1.toList <+: a.1.toList := by
  decide

/-- A word is read where no identifier goes on behind it. -/
theorem quantityWord_append {w : String} {x : Quantity} (hw : (w, x) ∈ quantityWords)
    (types : List String) {rest : List Char}
    (hrest : rest.head?.any Text.continuesIdentifier = false) :
    quantityWord types (w.toList ++ rest) = some (x, rest) := by
  obtain ⟨before, after, hsplit⟩ := List.append_of_mem hw
  have hpairs := pairwise_quantityWords
  rw [hsplit, List.pairwise_append] at hpairs
  -- The words are tried in their order, but none in front of this one fits.
  have hbefore : ∀ e ∈ before, ("" :: types).findSome? (fun t =>
      (afterWord? (e.1 ++ t) (w.toList ++ rest)).map (e.2, ·)) = none := by
    intro e he
    obtain ⟨hstarts, hstarts'⟩ := hpairs.2.2 e he (w, x) List.mem_cons_self
    refine List.findSome?_eq_none_iff.mpr fun t _ => ?_
    cases hfound : afterWord? (e.1 ++ t) (w.toList ++ rest) with
    | none => rfl
    | some other =>
      exfalso
      have hboth := afterWord?_eq_some hfound
      rw [String.toList_append, List.append_assoc] at hboth
      rcases List.prefix_or_prefix_of_prefix (List.prefix_append w.toList rest)
        (hboth ▸ List.prefix_append e.1.toList _) with h | h
      · exact hstarts' h
      · exact hstarts h
  unfold quantityWord
  rw [hsplit, List.findSome?_append, List.findSome?_eq_none_iff.mpr fun e he => hbefore e he,
    Option.none_or, List.findSome?_cons]
  dsimp only
  rw [List.findSome?_cons, String.append_empty, afterWord?_append w hrest]
  rfl

/-- **A word for a quantity is read as the quantity.** -/
theorem quantity_word {w : String} {x : Quantity} (hw : (w, x) ∈ quantityWords) (rest : List Char) :
    quantity (w.toList ++ ',' :: rest) = some (x, ',' :: rest) := by
  have hword := quantityWord_append hw ["f32"] (continuesIdentifier_comma_cons rest)
  unfold quantity quantityOf
  rw [hword]

/-- **A spelled decimal is read as the number it stands for.** -/
theorem quantity_text (s : Spelling) (negative : Bool) (rest : List Char) :
    quantity (Spelling.mark negative ++ (s.text ++ ',' :: rest)) =
      some (.number (s.number negative).toSingle, ',' :: rest) := by
  have hsign := s.sign_text negative (',' :: rest)
  have hword : quantityWord ["f32"] (Spelling.mark negative ++ (s.text ++ ',' :: rest)) = none := by
    refine quantityWord_eq_none ?_ _
    obtain ⟨c, whole, hcons⟩ := List.exists_cons_of_ne_nil s.whole_ne_nil
    rw [hsign, Spelling.text, hcons]
    exact s.isDigit_whole c (hcons ▸ List.mem_cons_self)
  have htype : (["f32"].findSome? fun t => afterWord? t (',' :: rest)) = none := rfl
  unfold quantity quantityOf
  rw [hword, s.quantityRun_text]
  dsimp only
  rw [s.dropUnderscores_text, ← List.append_assoc, List.drop_left, Option.bind_eq_bind,
    Option.bind_some, s.decimal?_text, htype]
  rfl

end Biomes.Notation
