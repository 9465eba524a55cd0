import Biomes.DecisionTree
import Biomes.Proofs.Notation.Quantity

/-!
# What a line shows

A line shows a node: its depth by the blanks in front, then the test and the name of its branch, and
its biome.  Nothing in it is escaped, and the name may look like any other part.  Still the line
tells how to read it.  What stands in front of the name (`Test.lead`) ends where it says itself, as
there is no blank in the text of a number; what stands behind it (`DecisionTree.arrow`) is read from
the end, as there are only digits behind the last hash.  So lines are the same only if they show the
same (`DecisionTree.line_inj`).
-/

namespace Biomes

/-! ### Cutting texts -/

/-- A text is cut at the first place where a mark stands. -/
theorem append_cons_inj {α : Type} [DecidableEq α] {a : α} {xs ys us vs : List α} (hxs : a ∉ xs)
    (hys : a ∉ ys) (h : xs ++ a :: us = ys ++ a :: vs) : xs = ys ∧ us = vs := by
  have hlength : xs.length = ys.length := by
    have hindex := congrArg (List.idxOf a) h
    rwa [List.idxOf_append_of_notMem hxs, List.idxOf_append_of_notMem hys, List.idxOf_cons_self,
      List.idxOf_cons_self] at hindex
  obtain ⟨hfront, hback⟩ := List.append_inj h hlength
  exact ⟨hfront, (List.cons.inj hback).2⟩

theorem takeWhile_blanks {cs : List Char} (n : Nat) (hcs : cs.head? ≠ some ' ') :
    (List.replicate n ' ' ++ cs).takeWhile (· == ' ') = List.replicate n ' ' := by
  rw [List.takeWhile_append_of_pos (by simp)]
  cases cs with
  | nil => exact List.append_nil _
  | cons c cs =>
    have hc : c ≠ ' ' := fun hc => hcs (congrArg some hc)
    rw [List.takeWhile_cons_of_neg (by simpa using hc), List.append_nil]

/-! ### Numbers -/

theorem shown_injective : Function.Injective shown := Notation.singleText_injective .positional

/-- There is nothing blank in the text of a number. -/
theorem not_mem_shown {c : Char} (hc : c.isWhitespace = true) (x : Float32) :
    c ∉ (shown x).toList := fun h =>
  Bool.eq_false_iff.mp (Notation.not_isWhitespace_of_mem_singleText .positional x c h) hc

/-! ### Tests -/

theorem Axis.name_injective : Function.Injective Axis.name := by
  intro a a' h
  rw [← Option.some_inj, ← a.ofName?_name, ← a'.ofName?_name, h]

namespace Test

/-- What stands in front of the name of a branch. -/
def lead : Test → List Char
  | .never => "non-initialized switch".toList
  | .flag axis value =>
    '[' :: axis.name.toList ++ ']' :: ':' :: ' ' :: (toString value).toList ++ [' ', '(']
  | .within axis min max =>
    '[' :: axis.name.toList ++ ']' :: ':' :: ' ' :: (shown min).toList ++
      ' ' :: '-' :: '>' :: ' ' :: (shown max).toList ++ [' ', '(']

theorem lead_flag (a : Axis) (b : Bool) (us : List Char) :
    (flag a b).lead ++ us =
      '[' :: (a.name.toList ++ ']' :: ':' :: ' ' :: ((toString b).toList ++ ' ' :: '(' :: us)) := by
  show ('[' :: a.name.toList ++ ']' :: ':' :: ' ' :: (toString b).toList ++ [' ', '(']) ++ us = _
  simp only [List.cons_append, List.append_assoc, List.nil_append]

theorem lead_within (a : Axis) (min max : Float32) (us : List Char) :
    (within a min max).lead ++ us =
      '[' :: (a.name.toList ++ ']' :: ':' :: ' ' :: ((shown min).toList ++
        ' ' :: '-' :: '>' :: ' ' :: ((shown max).toList ++ ' ' :: '(' :: us))) := by
  show ('[' :: a.name.toList ++ ']' :: ':' :: ' ' :: (shown min).toList ++
    ' ' :: '-' :: '>' :: ' ' :: (shown max).toList ++ [' ', '(']) ++ us = _
  simp only [List.cons_append, List.append_assoc, List.nil_append]

theorem not_bracket_mem_name (a : Axis) : ']' ∉ a.name.toList := by
  cases a <;> decide

theorem not_blank_mem_value (b : Bool) : ' ' ∉ (toString b).toList := by
  cases b <;> decide

theorem not_newline_mem_lead (t : Test) : '\n' ∉ t.lead := by
  have hname (a : Axis) : '\n' ∉ a.name.toList := by cases a <;> decide
  have hvalue (b : Bool) : '\n' ∉ (toString b).toList := by cases b <;> decide
  cases t with
  | never =>
    show '\n' ∉ "non-initialized switch".toList
    decide
  | flag a b =>
    rw [← List.append_nil (flag a b).lead, lead_flag]
    simp [hname, hvalue]
  | within a min max =>
    rw [← List.append_nil (within a min max).lead, lead_within]
    simp [hname, not_mem_shown]

/-- A test does not begin with a blank. -/
theorem head?_lead_ne (t : Test) (us : List Char) : (t.lead ++ us).head? ≠ some ' ' := by
  cases t with
  | never =>
    show some 'n' ≠ some ' '
    decide
  | flag a b =>
    rw [lead_flag]
    exact fun h => absurd (Option.some.inj h) (by decide)
  | within a min max =>
    rw [lead_within]
    exact fun h => absurd (Option.some.inj h) (by decide)

/-- The start is told from a test on an axis by the first letter. -/
theorem lead_never_ne (us vs : List Char) : Test.never.lead ++ us ≠ '[' :: vs := by
  intro h
  have hhead : some 'n' = some '[' := congrArg List.head? h
  exact absurd hhead (by decide)

/-- The axis is read up to the bracket behind it. -/
theorem axis_inj {a a' : Axis} {us vs : List Char}
    (h : '[' :: (a.name.toList ++ ']' :: ':' :: ' ' :: us) =
      '[' :: (a'.name.toList ++ ']' :: ':' :: ' ' :: vs)) : a = a' ∧ us = vs := by
  obtain ⟨hname, hrest⟩ := append_cons_inj (not_bracket_mem_name a) (not_bracket_mem_name a')
    (List.cons.inj h).2
  exact ⟨Axis.name_injective (String.toList_injective hname),
    (List.cons.inj (List.cons.inj hrest).2).2⟩

/-- **Where the test of a branch ends can be told from the test.** -/
theorem lead_inj {t t' : Test} {us vs : List Char} (h : t.lead ++ us = t'.lead ++ vs) :
    t = t' ∧ us = vs := by
  cases t with
  | never =>
    cases t' with
    | never => exact ⟨rfl, List.append_cancel_left h⟩
    | flag a' b' =>
      rw [lead_flag] at h
      exact (lead_never_ne _ _ h).elim
    | within a' min' max' =>
      rw [lead_within] at h
      exact (lead_never_ne _ _ h).elim
  | flag a b =>
    rw [lead_flag] at h
    cases t' with
    | never => exact (lead_never_ne _ _ h.symm).elim
    | flag a' b' =>
      rw [lead_flag] at h
      obtain ⟨rfl, hrest⟩ := axis_inj h
      obtain ⟨hvalue, hrest⟩ :=
        append_cons_inj (not_blank_mem_value b) (not_blank_mem_value b') hrest
      have hb : b = b' := by
        revert hvalue
        cases b <;> cases b' <;> decide
      exact ⟨hb ▸ rfl, (List.cons.inj hrest).2⟩
    | within a' min' max' =>
      -- Behind the first number there is an arrow, where the name would begin.
      rw [lead_within] at h
      obtain ⟨-, hrest⟩ := axis_inj h
      obtain ⟨-, hrest⟩ :=
        append_cons_inj (not_blank_mem_value b) (not_mem_shown rfl min') hrest
      exact absurd (List.cons.inj hrest).1 (by decide)
  | within a min max =>
    rw [lead_within] at h
    cases t' with
    | never => exact (lead_never_ne _ _ h.symm).elim
    | flag a' b' =>
      rw [lead_flag] at h
      obtain ⟨-, hrest⟩ := axis_inj h
      obtain ⟨-, hrest⟩ :=
        append_cons_inj (not_mem_shown rfl min) (not_blank_mem_value b') hrest
      exact absurd (List.cons.inj hrest).1 (by decide)
    | within a' min' max' =>
      rw [lead_within] at h
      obtain ⟨rfl, hrest⟩ := axis_inj h
      obtain ⟨hmin, harrow⟩ :=
        append_cons_inj (not_mem_shown rfl min) (not_mem_shown rfl min') hrest
      obtain ⟨hmax, hname⟩ := append_cons_inj (not_mem_shown rfl max) (not_mem_shown rfl max')
        (List.cons.inj (List.cons.inj (List.cons.inj harrow).2).2).2
      obtain rfl := shown_injective (String.toList_injective hmin)
      obtain rfl := shown_injective (String.toList_injective hmax)
      exact ⟨rfl, (List.cons.inj hname).2⟩

end Test

namespace DecisionTree

/-! ### Biomes -/

/-- What shows the biome of a node. -/
def arrow : Option BiomeId → List Char
  | none => []
  | some i => ' ' :: '=' :: '>' :: ' ' :: '#' :: Nat.toDigits 10 i.index

theorem toList_text (i : BiomeId) : i.text.toList = '#' :: Nat.toDigits 10 i.index := by
  show ("#" ++ Nat.repr i.index).toList = _
  rw [String.toList_append, Nat.toList_repr]
  rfl

theorem not_hash_mem_digits (n : Nat) : '#' ∉ Nat.toDigits 10 n := fun h =>
  Notation.ne_of_isDigit (Notation.isDigit_of_mem_toDigits _ h) (by decide) rfl

/-- A line that shows a biome ends in a digit. -/
theorem getLast?_arrow (cs : List Char) (i : BiomeId) :
    ∃ d : Char, d.isDigit = true ∧ (cs ++ arrow (some i)).getLast? = some d := by
  rcases List.eq_nil_or_concat' (Nat.toDigits 10 i.index) with hnil | ⟨ds, d, hds⟩
  · exact (Nat.toDigits_ne_nil hnil).elim
  · have hend : cs ++ arrow (some i) = cs ++ " => #".toList ++ ds ++ [d] := by
      simp [arrow, hds]
    refine ⟨d, Notation.isDigit_of_mem_toDigits _ (hds ▸ List.mem_concat_self), ?_⟩
    rw [hend, List.getLast?_concat]

/-- So it is not one that shows none. -/
theorem name_arrow_ne (ns ns' : List Char) (i : BiomeId) :
    ns ++ ')' :: arrow none ≠ ns' ++ ')' :: arrow (some i) := by
  intro h
  obtain ⟨d, hd, hlast⟩ := getLast?_arrow (ns' ++ [')']) i
  rw [List.append_assoc, List.singleton_append, ← h, arrow, List.getLast?_concat,
    Option.some.injEq] at hlast
  rw [← hlast] at hd
  exact absurd hd (by decide)

/-- **The name of a branch and the biome at its end are read from the end.** -/
theorem name_arrow_inj {ns ns' : List Char} {i i' : Option BiomeId}
    (h : ns ++ ')' :: arrow i = ns' ++ ')' :: arrow i') : ns = ns' ∧ i = i' := by
  cases i with
  | none =>
    cases i' with
    | none => exact ⟨List.append_cancel_right h, rfl⟩
    | some i' => exact (name_arrow_ne _ _ _ h).elim
  | some i =>
    cases i' with
    | none => exact (name_arrow_ne _ _ _ h.symm).elim
    | some i' =>
      -- Seen from the end, there are digits up to the last hash.
      have hend (ms : List Char) (j : BiomeId) : (ms ++ ')' :: arrow (some j)).reverse =
          (Nat.toDigits 10 j.index).reverse ++ '#' :: (' ' :: '>' :: '=' :: ' ' :: ')' ::
            ms.reverse) := by
        simp [arrow]
      have hhash (j : BiomeId) : '#' ∉ (Nat.toDigits 10 j.index).reverse := fun hj =>
        not_hash_mem_digits _ (List.mem_reverse.mp hj)
      have hreverse := congrArg List.reverse h
      rw [hend, hend] at hreverse
      obtain ⟨hdigits, hnames⟩ := append_cons_inj (hhash i) (hhash i') hreverse
      have hindex : i.index = i'.index := by
        rw [← Notation.decimalValue_toDigits i.index, List.reverse_injective hdigits,
          Notation.decimalValue_toDigits]
      refine ⟨List.reverse_injective ?_, ?_⟩
      · simpa using hnames
      · rw [← i.ofIndex_index, hindex, i'.ofIndex_index]

/-! ### Lines -/

/-- What stands behind the lead of a branch: its name, in brackets, and the biome at its end.  The start
has no name. -/
def tail (b : Branch) (i : Option BiomeId) : List Char :=
  match b.test with
  | .never => arrow i
  | _ => b.name.toList ++ ')' :: arrow i

theorem toList_branch (b : Branch) (i : Option BiomeId) :
    b.text.toList ++ arrow i = b.test.lead ++ tail b i := by
  obtain ⟨test, name, colour⟩ := b
  cases test with
  | never => rfl
  | flag a v =>
    show s!"[{a.name}]: {v} ({name})".toList ++ arrow i = _
    rw [Test.lead_flag]
    simp only [String.toList_append, List.append_assoc]
    rfl
  | within a min max =>
    show s!"[{a.name}]: {shown min} -> {shown max} ({name})".toList ++ arrow i = _
    rw [Test.lead_within]
    simp only [String.toList_append, List.append_assoc]
    rfl

theorem toList_line (depth : Nat) (b : Branch) (i : Option BiomeId) :
    (line depth b i).toList = List.replicate (2 * depth) ' ' ++ (b.test.lead ++ tail b i) := by
  rw [← toList_branch, ← List.append_assoc]
  cases i with
  | none =>
    show (String.ofList (List.replicate (2 * depth) ' ') ++ b.text ++ "").toList = _
    rw [String.toList_append, String.toList_append, String.toList_ofList, arrow]
    exact congrArg _ String.toList_empty
  | some i =>
    show (String.ofList (List.replicate (2 * depth) ' ') ++ b.text ++ (" => " ++ i.text)).toList = _
    rw [String.toList_append, String.toList_append, String.toList_append, String.toList_ofList,
      toList_text]
    rfl

/-- The blanks in front of a line. -/
def indentation (l : String) : Nat := (l.toList.takeWhile (· == ' ')).length

/-- A line is indented by twice the depth of its node. -/
theorem indentation_line (depth : Nat) (b : Branch) (i : Option BiomeId) :
    indentation (line depth b i) = 2 * depth := by
  rw [indentation, toList_line, takeWhile_blanks _ (b.test.head?_lead_ne _), List.length_replicate]

/-- There is no line break in a line, if there is none in the name. -/
theorem not_newline_mem_line {b : Branch} (hb : '\n' ∉ b.name.toList) (depth : Nat)
    (i : Option BiomeId) : '\n' ∉ (line depth b i).toList := by
  have harrow : '\n' ∉ arrow i := by
    cases i with
    | none => exact List.not_mem_nil
    | some i =>
      have hdigits : '\n' ∉ Nat.toDigits 10 i.index := fun h =>
        Notation.ne_of_isDigit (Notation.isDigit_of_mem_toDigits _ h) (by decide) rfl
      simp [arrow, hdigits]
  have htail : '\n' ∉ tail b i := by
    unfold tail
    split
    · exact harrow
    · simp [hb, harrow]
  rw [toList_line, List.mem_append, List.mem_append]
  rintro (hmem | hmem | hmem)
  · exact absurd (List.eq_of_mem_replicate hmem) (by decide)
  · exact b.test.not_newline_mem_lead hmem
  · exact htail hmem

/-- **Lines that are the same show the same**: the depth of a node, the test and the name of its
branch, and its biome.  What is not tested has no name. -/
theorem line_inj {depth depth' : Nat} {b b' : Branch} {i i' : Option BiomeId}
    (hb : b.test = .never → b.name = "") (hb' : b'.test = .never → b'.name = "")
    (h : line depth b i = line depth' b' i') :
    depth = depth' ∧ b.test = b'.test ∧ b.name = b'.name ∧ i = i' := by
  have hdepth : depth = depth' := by
    have hindentation := congrArg indentation h
    rw [indentation_line, indentation_line] at hindentation
    omega
  have hlist := congrArg String.toList h
  rw [toList_line, toList_line, hdepth] at hlist
  obtain ⟨htest, htail⟩ := Test.lead_inj (List.append_cancel_left hlist)
  obtain ⟨test, name, colour⟩ := b
  obtain ⟨test', name', colour'⟩ := b'
  dsimp only at htest hb hb' ⊢
  subst htest
  cases test with
  | never =>
    have harrow : [] ++ ')' :: arrow i = [] ++ ')' :: arrow i' := congrArg (List.cons ')') htail
    exact ⟨hdepth, rfl, (hb rfl).trans (hb' rfl).symm, (name_arrow_inj harrow).2⟩
  | flag | within =>
    obtain ⟨hname, hbiome⟩ := name_arrow_inj htail
    exact ⟨hdepth, rfl, String.toList_injective hname, hbiome⟩

end DecisionTree

end Biomes
