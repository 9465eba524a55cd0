import Biomes.Notation.Blank

/-!
# What follows blanks, words and names

Where a text starts with something that the notation knows, the rest behind it is found: blanks are
passed over, words are recognized, and names end at their colon.
-/

namespace Biomes.Text

/-! ### Characters of identifiers -/

/-- Below a bound only the changes below it matter. -/
theorem CharSet.contains_eq {s : CharSet} {low high : List Nat} {bound : Nat}
    (hs : s.changes.toList = low ++ high) (hhigh : high.all (bound ≤ ·) = true) {c : Char}
    (hc : c.toNat < bound) : s.contains c = (low.countP (· ≤ c.toNat) % 2 == 1) := by
  have hnone : high.countP (fun x => decide (x ≤ c.toNat)) = 0 := by
    rw [List.countP_eq_zero]
    intro x hx
    have := List.all_eq_true.mp hhigh x hx
    simp only [decide_eq_true_eq] at this ⊢
    omega
  unfold CharSet.contains
  rw [← Array.countP_toList, hs, List.countP_append, hnone, Nat.add_zero]

theorem continuesIdentifier_ascii {c : Char} (hc : c.toNat < 0x80) :
    continuesIdentifier c = (c.isAlphanum || c == '_') := by
  have hsplit := CharSet.contains_eq (s := identifierParts) (List.take_append_drop 8 _).symm
    (by decide +kernel) hc
  have hall : ∀ n < 0x80, ((identifierParts.changes.toList.take 8).countP (· ≤ n) % 2 == 1) =
      ((Char.ofNat n).isAlphanum || Char.ofNat n == '_') := by decide +kernel
  have := hall _ hc
  rw [Char.ofNat_toNat] at this
  exact hsplit.trans this

theorem startsIdentifier_ascii {c : Char} (hc : c.toNat < 0x80) :
    startsIdentifier c = (c.isAlpha || c == '_') := by
  have hsplit := CharSet.contains_eq (s := identifierStarts) (List.take_append_drop 4 _).symm
    (by decide +kernel) hc
  have hall : ∀ n < 0x80, ((identifierStarts.changes.toList.take 4).countP (· ≤ n) % 2 == 1) =
      (Char.ofNat n).isAlpha := by decide +kernel
  have := hall _ hc
  rw [Char.ofNat_toNat] at this
  exact (congrArg (c == '_' || ·) (hsplit.trans this)).trans (Bool.or_comm ..)

end Biomes.Text

namespace Biomes.Notation

variable {c d : Char} {cs rest : List Char}

/-! ### Blanks -/

/-- Where no comment starts, the next character decides. -/
theorem skipBetween_blank_cons (hslash : c ≠ '/') :
    skipBetween .blank (c :: cs) = if isBlank c then skipBetween .blank cs else some (c :: cs) := by
  have hbeq : (c == '/') = false := by simpa using hslash
  conv =>
    lhs
    unfold skipBetween
  split
  case h_4 h =>
    simp only [List.cons.injEq] at h
    obtain ⟨rfl, rfl⟩ := h
    rw [hbeq, if_neg Bool.false_ne_true]
  all_goals simp_all

theorem skipBlanks_blank (hc : isBlank c = true) : skipBlanks (c :: cs) = skipBlanks cs := by
  have hslash : c ≠ '/' := by
    rintro rfl
    exact absurd hc (by decide)
  exact (skipBetween_blank_cons hslash).trans (if_pos hc)

/-- Whether a character is neither a blank nor the start of a comment. -/
def IsToken (c : Char) : Prop := isBlank c = false ∧ c ≠ '/'

instance (c : Char) : Decidable (IsToken c) := inferInstanceAs (Decidable (_ ∧ _))

/-- Whether a text starts with a token. -/
def StartsToken : List Char → Prop
  | [] => False
  | c :: _ => IsToken c

instance : DecidablePred StartsToken
  | [] => inferInstanceAs (Decidable False)
  | c :: _ => inferInstanceAs (Decidable (IsToken c))

/-- Nothing is passed over where a token starts. -/
theorem StartsToken.skipBlanks_eq (h : StartsToken cs) : skipBlanks cs = some cs := by
  cases cs with
  | nil => cases h
  | cons c cs =>
    exact (skipBetween_blank_cons h.2).trans (if_neg (by rw [h.1]; exact Bool.false_ne_true))

theorem StartsToken.append (h : StartsToken cs) (rest : List Char) : StartsToken (cs ++ rest) := by
  cases cs with
  | nil => cases h
  | cons c cs => exact h

theorem skipBlanks_spaces (n : Nat) (cs : List Char) :
    skipBlanks (List.replicate n ' ' ++ cs) = skipBlanks cs := by
  induction n with
  | zero => rfl
  | succ n ih =>
    rw [List.replicate_succ, List.cons_append, skipBlanks_blank (by decide), ih]

/-! ### Words -/

@[simp] theorem afterChar?_self : afterChar? c (c :: cs) = some cs := if_pos rfl

@[simp] theorem afterChar?_of_ne (h : d ≠ c) : afterChar? c (d :: cs) = none := if_neg h

@[simp] theorem afterText?_append (ws cs : List Char) : afterText? ws (ws ++ cs) = some cs := by
  induction ws with
  | nil => rfl
  | cons w ws ih => rw [List.cons_append, afterText?, afterChar?_self, Option.bind_some, ih]

theorem afterText?_of_ne {ws : List Char} (h : d ≠ c) : afterText? (c :: ws) (d :: cs) = none := by
  rw [afterText?, afterChar?_of_ne h, Option.bind_none]

/-- A word is found where no identifier goes on behind it. -/
theorem afterWord?_append (w : String) (h : rest.head?.any Text.continuesIdentifier = false) :
    afterWord? w (w.toList ++ rest) = some rest := by
  unfold afterWord?
  rw [afterText?_append]
  dsimp only
  rw [h, if_neg Bool.false_ne_true]

/-- A word is not found where another character comes next. -/
theorem afterWord?_of_ne {w : String} (hw : w.toList.head? = some c) (h : d ≠ c) :
    afterWord? w (d :: cs) = none := by
  obtain ⟨ws, hws⟩ := List.head?_eq_some_iff.mp hw
  unfold afterWord?
  rw [hws, afterText?_of_ne h]

/-! ### Names -/

/-- A mark with a character that does not belong to an identifier is not found at the front of
one. -/
theorem afterText?_of_mark {mark w : List Char} (hw : ∀ c ∈ w, Text.continuesIdentifier c = true)
    (hcolon : ':' ∉ mark) (hmark : ∃ c ∈ mark, Text.continuesIdentifier c = false) :
    afterText? mark (w ++ ':' :: rest) = none := by
  induction mark generalizing w with
  | nil => simp at hmark
  | cons c mark ih =>
    have hne : ':' ≠ c := fun h => hcolon (h ▸ List.mem_cons_self)
    cases w with
    | nil => exact afterText?_of_ne hne
    | cons d w =>
      by_cases hdc : d = c
      · subst hdc
        obtain ⟨e, he, hcontinues⟩ := hmark
        have hd := hw d List.mem_cons_self
        rcases List.mem_cons.mp he with rfl | he
        · simp [hd] at hcontinues
        · rw [List.cons_append, afterText?, afterChar?_self, Option.bind_some]
          exact ih (fun c hc => hw c (List.mem_cons_of_mem _ hc))
            (fun h => hcolon (List.mem_cons_of_mem _ h)) ⟨e, he, hcontinues⟩
      · exact afterText?_of_ne hdc

theorem continuesIdentifier_colon : Text.continuesIdentifier ':' = false :=
  (Text.continuesIdentifier_ascii (by decide)).trans (by decide)

theorem continuesIdentifier_comma : Text.continuesIdentifier ',' = false :=
  (Text.continuesIdentifier_ascii (by decide)).trans (by decide)

theorem continuesIdentifier_comma_cons (rest : List Char) :
    (',' :: rest).head?.any Text.continuesIdentifier = false := by
  rw [List.head?_cons, Option.any_some, continuesIdentifier_comma]

theorem continuesIdentifier_hash : Text.continuesIdentifier '#' = false :=
  (Text.continuesIdentifier_ascii (by decide)).trans (by decide)

/-- Whether a text is made up as names usually are: of letters, digits and underscores, but no digit
in front. -/
def IsName (id : String) : Prop :=
  id.toList.head?.any (fun c => c.isAlpha || c == '_') = true ∧
    id.toList.all (fun c => c.isAlphanum || c == '_') = true

instance (id : String) : Decidable (IsName id) := inferInstanceAs (Decidable (_ ∧ _))

theorem toNat_lt_of_isAlphanum {c : Char} (h : (c.isAlphanum || c == '_') = true) :
    c.toNat < 0x80 := by
  -- The ranges of the letters and the digits.
  change (decide (65 ≤ c.val ∧ c.val ≤ 90) || (decide (97 ≤ c.val) && decide (c.val ≤ 122)) ||
    (decide (48 ≤ c.val) && decide (c.val ≤ 57)) || c == '_') = true at h
  simp only [Bool.or_eq_true, Bool.and_eq_true, decide_eq_true_eq, beq_iff_eq] at h
  rcases h with ((h | h) | h) | rfl
  · exact UInt32.lt_iff_toNat_lt.mp (UInt32.lt_of_le_of_lt h.2 (by decide : (90 : UInt32) < 0x80))
  · exact UInt32.lt_iff_toNat_lt.mp (UInt32.lt_of_le_of_lt h.2 (by decide : (122 : UInt32) < 0x80))
  · exact UInt32.lt_iff_toNat_lt.mp (UInt32.lt_of_le_of_lt h.2 (by decide : (57 : UInt32) < 0x80))
  · decide

theorem isToken_of_isAlphanum {c : Char} (hc : (c.isAlphanum || c == '_') = true) : IsToken c := by
  have hblank : ∀ b, isBlank b = true → (b.isAlphanum || b == '_') = false := by
    intro b hb
    simp only [isBlank, Bool.or_eq_true, beq_iff_eq, or_assoc] at hb
    rcases hb with rfl | rfl | rfl | rfl | rfl | rfl | rfl | rfl | rfl | rfl | rfl <;> decide
  refine ⟨?_, ?_⟩
  · cases h : isBlank c with
    | false => rfl
    | true => rw [hblank c h] at hc; cases hc
  · rintro rfl
    exact absurd hc (by decide)

theorem IsName.of_mem {id : String} (hid : IsName id) (hc : c ∈ id.toList) :
    (c.isAlphanum || c == '_') = true :=
  List.all_eq_true.mp hid.2 c hc

theorem IsName.startsToken {id : String} (hid : IsName id) : StartsToken id.toList := by
  have hstart := hid.1
  cases hcs : id.toList with
  | nil => simp [hcs] at hstart
  | cons c cs => exact isToken_of_isAlphanum (hid.of_mem (hcs ▸ List.mem_cons_self))

theorem IsName.head?_ne {id : String} (hid : IsName id) (hd : (d.isAlphanum || d == '_') = false)
    (rest : List Char) : (id.toList ++ rest).head? ≠ some d := by
  have hstart := hid.1
  cases hcs : id.toList with
  | nil => simp [hcs] at hstart
  | cons c cs =>
    intro hhead
    have hcd : c = d := Option.some.inj hhead
    have hc := hid.of_mem (hcs ▸ List.mem_cons_self)
    rw [hcd, hd] at hc
    cases hc

theorem identifier_eq (hmark : startsMarkedQuote cs = false)
    (hraw : afterText? ['r', '#'] cs = none) (hcs : cs.head? = some c)
    (hc : Text.startsIdentifier c = true) :
    identifier cs = some (String.ofList (cs.takeWhile Text.continuesIdentifier),
      cs.drop (cs.takeWhile Text.continuesIdentifier).length) := by
  obtain ⟨cs, rfl⟩ := List.head?_eq_some_iff.mp hcs
  unfold identifier
  rw [if_neg (by rw [hmark]; exact Bool.false_ne_true), hraw]
  exact if_pos hc

theorem name_eq {id : String} (hid : identifier cs = some (id, rest))
    (hraw : afterText? ['r', '#'] cs = none) (hrest : rest.head?.any isRawPart = false) :
    name cs = some (id, rest) := by
  unfold name
  rw [hid, hraw]
  exact if_neg (by rw [hrest]; exact Bool.false_ne_true)

theorem startsMarkedQuote_of_name {w : List Char}
    (hw : ∀ c ∈ w, Text.continuesIdentifier c = true) (rest : List Char) :
    startsMarkedQuote (w ++ ':' :: rest) = false := by
  have hmarks : (["r\"", "r#\"", "r##", "b\"", "b'", "br\"", "br#"].all fun mark =>
      !mark.toList.contains ':' &&
        mark.toList.any fun c => decide (c.toNat < 0x80) && !(c.isAlphanum || c == '_')) =
      true := by
    decide
  rw [startsMarkedQuote, List.any_eq_false]
  intro mark hmark
  have hmark' := List.all_eq_true.mp hmarks mark hmark
  rw [Bool.and_eq_true, Bool.not_eq_true', List.contains_eq_mem, decide_eq_false_iff_not,
    List.any_eq_true] at hmark'
  obtain ⟨hcolon, c, hc, hother⟩ := hmark'
  rw [Bool.and_eq_true, decide_eq_true_eq, Bool.not_eq_true'] at hother
  obtain ⟨hascii, hother⟩ := hother
  rw [afterText?_of_mark hw hcolon ⟨c, hc, (Text.continuesIdentifier_ascii hascii).trans hother⟩]
  exact Bool.false_ne_true

/-- **A name is read up to its colon.** -/
theorem name_append {id : String} (hid : IsName id) (rest : List Char) :
    name (id.toList ++ ':' :: rest) = some (id, ':' :: rest) := by
  have hstart := hid.1
  have hcontinues : ∀ c ∈ id.toList, Text.continuesIdentifier c = true := fun c hc => by
    rw [Text.continuesIdentifier_ascii (toNat_lt_of_isAlphanum (hid.of_mem hc)), hid.of_mem hc]
  have hmark := startsMarkedQuote_of_name hcontinues rest
  have hraw : afterText? ['r', '#'] (id.toList ++ ':' :: rest) = none :=
    afterText?_of_mark hcontinues (by decide) ⟨'#', by decide, continuesIdentifier_hash⟩
  have hrun : (id.toList ++ ':' :: rest).takeWhile Text.continuesIdentifier = id.toList := by
    rw [List.takeWhile_append_of_pos hcontinues, List.takeWhile_cons_of_neg (by
      rw [continuesIdentifier_colon]; exact Bool.false_ne_true), List.append_nil]
  have hend : (':' :: rest).head?.any isRawPart = false := by
    rw [List.head?_cons, Option.any_some, isRawPart, continuesIdentifier_colon]
    rfl
  refine name_eq ?_ hraw hend
  obtain ⟨c, hc⟩ : ∃ c, id.toList.head? = some c := by
    cases hhead : id.toList.head? with
    | none => simp [hhead] at hstart
    | some c => exact ⟨c, rfl⟩
  rw [hc, Option.any_some] at hstart
  have hstarts : Text.startsIdentifier c = true := by
    have hascii := toNat_lt_of_isAlphanum (hid.of_mem (List.mem_of_head? hc))
    rw [Text.startsIdentifier_ascii hascii, hstart]
  have hhead : (id.toList ++ ':' :: rest).head? = some c := by
    rw [List.head?_append, hc]
    rfl
  have hfound := identifier_eq hmark hraw hhead hstarts
  rwa [hrun, String.ofList_toList, List.drop_left] at hfound

end Biomes.Notation
