import Biomes.Notation.Quoted
import Biomes.Proofs.Notation.Blank

/-!
# A quoted text is read as it was

Each character is written in a way of its own, and each is read in one round (`quotedChars_escape`):
as itself, behind a backslash, or as a code point in braces.
-/

namespace Biomes.Notation

variable {c : Char} {cs rest : List Char} {n : Nat}

/-! ### Code points -/

theorem digitValue?_digitChar : ∀ d < 16, digitValue? d.digitChar = some d := by decide

/-- Reads a hexadecimal digit behind others. -/
def hexStep (n : Nat) (c : Char) : Option Nat := do return 16 * n + (← digitValue? c)

/-- Hexadecimal digits are read as the number. -/
theorem foldlM_toDigits (n : Nat) : (Nat.toDigits 16 n).foldlM hexStep 0 = some n := by
  induction n using Nat.strongRecOn with
  | ind n ih =>
    by_cases hn : n < 16
    · rw [Nat.toDigits_of_lt_base hn]
      simp [hexStep, digitValue?_digitChar n hn]
    · have hlast := digitValue?_digitChar (n % 16) (Nat.mod_lt n (by decide))
      rw [Nat.toDigits_of_base_le (by decide) (Nat.le_of_not_lt hn), List.foldlM_append,
        ih (n / 16) (by omega)]
      simp [hexStep, hlast]
      omega

theorem ne_brace_of_mem_toDigits (n : Nat) : ∀ c ∈ Nat.toDigits 16 n, c ≠ '\x7d' := by
  have hdigit : ∀ d < 16, d.digitChar ≠ '\x7d' := by decide
  induction n using Nat.strongRecOn with
  | ind n ih =>
    intro c hc
    by_cases hn : n < 16
    · rw [Nat.toDigits_of_lt_base hn, List.mem_singleton] at hc
      exact hc ▸ hdigit n hn
    · rw [Nat.toDigits_of_base_le (by decide) (Nat.le_of_not_lt hn), List.mem_append,
        List.mem_singleton] at hc
      rcases hc with hc | hc
      · exact ih (n / 16) (by omega) c hc
      · exact hc ▸ hdigit (n % 16) (Nat.mod_lt n (by decide))

theorem length_toDigits_le (c : Char) : (Nat.toDigits 16 c.toNat).length ≤ 6 := by
  rw [Nat.length_toDigits_le_iff (by decide) (by decide)]
  have hc : c.toNat < 0x110000 := by
    rcases c.valid with h | h
    · exact Nat.lt_trans h (by decide)
    · exact h.2
  exact Nat.lt_trans hc (by decide)

/-- A code point in braces is read as its character. -/
theorem codePoint_toDigits (c : Char) (rest : List Char) :
    codePoint ('\x7b' :: (Nat.toDigits 16 c.toNat ++ '\x7d' :: rest)) = some (c, rest) := by
  have hrun : ((Nat.toDigits 16 c.toNat ++ '\x7d' :: rest).take 6).takeWhile (· != '\x7d') =
      Nat.toDigits 16 c.toNat := by
    have hdigits : ∀ d ∈ Nat.toDigits 16 c.toNat, (d != '\x7d') = true :=
      fun d hd => bne_iff_ne.mpr (ne_brace_of_mem_toDigits c.toNat d hd)
    rw [List.take_append, List.take_of_length_le (length_toDigits_le c),
      List.takeWhile_append_of_pos hdigits]
    cases 6 - (Nat.toDigits 16 c.toNat).length with
    | zero => exact List.append_nil _
    | succ k =>
      rw [List.take_succ_cons, List.takeWhile_cons_of_neg (by decide), List.append_nil]
  have hempty : (Nat.toDigits 16 c.toNat).isEmpty = false :=
    List.isEmpty_eq_false_iff.mpr Nat.toDigits_ne_nil
  have hvalue := foldlM_toDigits c.toNat
  have hvalid : c.toNat.isValidChar := c.valid
  unfold hexStep at hvalue
  unfold codePoint
  rw [afterChar?_self, Option.bind_eq_bind, Option.bind_some]
  dsimp only
  rw [hrun, hempty, if_neg Bool.false_ne_true, List.drop_left, hvalue, afterChar?_self,
    Option.bind_eq_bind, Option.bind_some, Option.bind_some, dif_pos hvalid]
  rfl

/-! ### Texts -/

theorem quotedChars_backslash (n : Nat) (hbreak : afterBreak? cs = none)
    (hescaped : escaped false cs = some (c, rest)) :
    quotedChars (n + 1) ('\\' :: cs) =
      (quotedChars n rest).map fun (t, rest) => (c :: t, rest) := by
  rw [quotedChars, hbreak]
  dsimp only
  rw [hescaped, Option.bind_eq_bind, Option.bind_some]
  dsimp only
  cases quotedChars n rest <;> rfl

theorem quotedChars_cons (n : Nat) (hquote : c ≠ '"') (hbackslash : c ≠ '\\') :
    quotedChars (n + 1) (c :: cs) = (quotedChars n cs).map fun (t, rest) => (c :: t, rest) := by
  rw [quotedChars]
  · cases quotedChars n cs <;> rfl
  · exact hquote
  · exact hbackslash

/-- **A character is read as it was written, in one round.** -/
theorem quotedChars_escape (n : Nat) (c : Char) (cs : List Char) :
    quotedChars (n + 1) (escape c ++ cs) =
      (quotedChars n cs).map fun (t, rest) => (c :: t, rest) := by
  unfold escape
  split
  case isTrue h => subst h; exact quotedChars_backslash n rfl rfl
  split
  case isTrue h => subst h; exact quotedChars_backslash n rfl rfl
  split
  case isTrue h => subst h; exact quotedChars_backslash n rfl rfl
  split
  case isTrue h => subst h; exact quotedChars_backslash n rfl rfl
  split
  case isTrue h => rcases h with rfl | rfl | rfl <;> exact quotedChars_backslash n rfl rfl
  rename_i h
  split
  · exact quotedChars_cons n (fun hc => h (.inr (.inl hc))) fun hc => h (.inr (.inr hc))
  · have hcode := codePoint_toDigits c cs
    rw [List.append_assoc, List.append_assoc]
    exact quotedChars_backslash n rfl hcode

/-- Each character takes a round, and the quote behind them one more. -/
theorem quotedChars_flatMap (hn : cs.length < n) (rest : List Char) :
    quotedChars n (cs.flatMap escape ++ '"' :: rest) = some (cs, rest) := by
  induction cs generalizing n with
  | nil =>
    obtain ⟨m, rfl⟩ : ∃ m, n = m + 1 := Nat.exists_eq_succ_of_ne_zero (Nat.ne_zero_of_lt hn)
    rfl
  | cons c cs ih =>
    obtain ⟨m, rfl⟩ : ∃ m, n = m + 1 := Nat.exists_eq_succ_of_ne_zero (Nat.ne_zero_of_lt hn)
    rw [List.flatMap_cons, List.append_assoc, quotedChars_escape,
      ih (Nat.lt_of_succ_lt_succ hn), Option.map_some]

theorem escape_ne_nil (c : Char) : escape c ≠ [] := by
  unfold escape
  grind

theorem length_le_flatMap_escape (cs : List Char) : cs.length ≤ (cs.flatMap escape).length := by
  induction cs with
  | nil => exact Nat.le_refl 0
  | cons c cs ih =>
    have := List.length_pos_iff.mpr (escape_ne_nil c)
    rw [List.flatMap_cons, List.length_append, List.length_cons]
    omega

/-- **A quoted text is read as it was.** -/
theorem quoted_writeQuoted (s : String) (rest : List Char) :
    quoted (writeQuoted s ++ rest) = some (s, rest) := by
  have hlength := length_le_flatMap_escape s.toList
  have htext : writeQuoted s ++ rest = '"' :: (s.toList.flatMap escape ++ '"' :: rest) := by
    rw [writeQuoted, List.append_assoc]
    rfl
  have hrounds : s.toList.length < (s.toList.flatMap escape ++ '"' :: rest).length + 1 := by
    rw [List.length_append]
    omega
  rw [htext, quoted, quotedChars_flatMap hrounds, Option.map_some]
  dsimp only
  rw [String.ofList_toList]

end Biomes.Notation
