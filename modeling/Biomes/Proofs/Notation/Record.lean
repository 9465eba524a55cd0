import Biomes.Notation.Record
import Biomes.Proofs.Notation.Quantity
import Biomes.Proofs.Notation.Quoted

/-!
# A record is read as it was written

A format reads back a value if it reads its text, up to the comma behind it, as the value.  All
formats of single values do (`Format.word32_readsBack` and its kind), and so does a record of fields
with different names, each of which copies its part (`Format.record_read`).
-/

namespace Biomes.Notation

namespace Format

/-- Whether a format reads a value from its text as the value. -/
structure ReadsBack {α : Type} (f : Format α) (a : α) : Prop where
  startsToken : ∀ level, StartsToken (f.write level a)
  reads : ∀ level rest, f.read .none (f.write level a ++ ',' :: rest) = some (a, ',' :: rest)

theorem bool_readsBack (b : Bool) : bool.ReadsBack b where
  startsToken _ := by
    cases b with
    | true => exact (by decide : IsToken 't')
    | false => exact (by decide : IsToken 'f')
  reads level rest := by
    have hword := fun w => afterWord?_append w (continuesIdentifier_comma_cons rest)
    have hfalse : afterWord? "true" ("false".toList ++ ',' :: rest) = none :=
      afterWord?_of_ne rfl (by decide)
    unfold bool
    dsimp only
    cases b with
    | true => rw [if_pos rfl, hword]
    | false => rw [if_neg Bool.false_ne_true, hfalse, hword, Option.map_some]

theorem unsigned_readsBack {bits n : ℕ} (hn : n < 2 ^ bits) : (unsigned bits).ReadsBack n where
  startsToken _ := by
    have hdigits := isDigit_of_mem_toDigits (n := n)
    show StartsToken (Nat.toDigits 10 n)
    cases h : Nat.toDigits 10 n with
    | nil => exact absurd h Nat.toDigits_ne_nil
    | cons c cs => exact isToken_of_isDigit (hdigits c (h ▸ List.mem_cons_self))
  reads level rest := congrArg (Option.map _) (integer_toDigits hn rest)

/-- A format reads back what another one does, if the way there and back ends where it started. -/
theorem ReadsBack.imap {α β : Type} {f : Format α} {forth : α → β} {back : β → α} {b : β}
    (h : f.ReadsBack (back b)) (hb : forth (back b) = b) : (f.imap forth back).ReadsBack b where
  startsToken := h.startsToken
  reads level rest := by
    have hread : (f.imap forth back).read .none ((f.imap forth back).write level b ++ ',' :: rest) =
        some (forth (back b), ',' :: rest) := congrArg (Option.map _) (h.reads level rest)
    rw [hread, hb]

theorem word32_readsBack (n : UInt32) : word32.ReadsBack n :=
  (unsigned_readsBack n.toNat_lt).imap UInt32.ofNat_toNat

theorem word64_readsBack (n : UInt64) : word64.ReadsBack n :=
  (unsigned_readsBack n.toNat_lt).imap UInt64.ofNat_toNat

theorem quantity_readsBack (x : Quantity) : quantity.ReadsBack x where
  startsToken _ := by
    cases x with
    | number x => exact startsToken_singleText .general x
    | minusNaN => exact (by decide : StartsToken "-NaN".toList)
  reads level rest := by
    unfold quantity
    dsimp only
    cases x with
    | number x => exact quantity_singleText .general x rest
    | minusNaN => exact quantity_word (by simp [quantityWords]) rest

theorem single_readsBack (x : Float32) : single.ReadsBack x :=
  (quantity_readsBack (.number x)).imap rfl

theorem text_readsBack (s : String) : text.ReadsBack s where
  startsToken _ := (by decide : IsToken '"')
  reads _ rest := quoted_writeQuoted s (',' :: rest)

end Format

/-! ### Fields -/

variable {σ : Type} {s t u : σ}

/-- Whether a field, read from the text of its part of `s`, turns `t` into `u`. -/
structure Field.Copies (f : Field σ) (s t u : σ) : Prop where
  isName : IsName f.name
  startsToken : ∀ level, StartsToken (f.write level s)
  reads : ∀ level rest, f.read .none t (f.write level s ++ ',' :: rest) = some (u, ',' :: rest)

theorem Format.ReadsBack.copies {α : Type} {f : Format α} {get : σ → α} (h : f.ReadsBack (get s))
    {name : String} (hname : IsName name) (set : σ → α → σ) (t : σ) :
    (Field.of name f get set).Copies s t (set t (get s)) where
  isName := hname
  startsToken := h.startsToken
  reads level rest := congrArg (Option.map _) (h.reads level rest)

/-- Whether fields, read from the texts of their parts of `s` one after the other, turn a record
into another one. -/
inductive Copied (s : σ) : List (Field σ) → σ → σ → Prop
  | nil (t : σ) : Copied s [] t t
  | cons {f : Field σ} {fs : List (Field σ)} {t u v : σ} (head : f.Copies s t u)
      (tail : Copied s fs u v) : Copied s (f :: fs) t v

/-- The lines of fields, and what follows them in a record. -/
def fieldLines (s : σ) (level : ℕ) (fs : List (Field σ)) (rest : List Char) : List Char :=
  fs.flatMap (writeField (level + 1) s) ++ (margin level ++ ')' :: rest)

/-- The lines of fields without the margin in front. -/
def fieldTokens (s : σ) (level : ℕ) (rest : List Char) : List (Field σ) → List Char
  | [] => ')' :: rest
  | f :: fs =>
    f.name.toList ++ ':' :: ' ' ::
      (f.write (level + 1) s ++ ',' :: '\n' :: fieldLines s level fs rest)

theorem startsToken_fieldTokens {fs : List (Field σ)} {level : ℕ} {rest : List Char}
    (h : Copied s fs t u) : StartsToken (fieldTokens s level rest fs) := by
  cases h with
  | nil => exact (by decide : IsToken ')')
  | cons head => exact head.isName.startsToken.append _

/-- The margin of the first line is skipped. -/
theorem skipBlanks_fieldLines {fs : List (Field σ)} {level : ℕ} {rest : List Char}
    (h : Copied s fs t u) :
    skipBlanks (fieldLines s level fs rest) = some (fieldTokens s level rest fs) := by
  rw [← (startsToken_fieldTokens h).skipBlanks_eq]
  cases h with
  | nil => exact skipBlanks_spaces _ _
  | @cons f fs =>
    have hline : fieldLines s level (f :: fs) rest =
        margin (level + 1) ++ fieldTokens s level rest (f :: fs) := by
      rw [fieldLines, List.flatMap_cons, writeField, fieldTokens, fieldLines]
      simp only [List.append_assoc, List.cons_append, List.nil_append]
    rw [hline]
    exact skipBlanks_spaces _ _

/-- A field is read, and its name is kept. -/
theorem readField_line {fields : List (Field σ)} {f : Field σ}
    (hfind : fields.find? (·.name == f.name) = some f) {seen : List String} (hseen : f.name ∉ seen)
    (h : f.Copies s t u) (budget level : ℕ) (rest : List Char) :
    readField fields budget .none (t, seen)
        (f.name.toList ++ ':' :: ' ' :: (f.write level s ++ ',' :: rest)) =
      some ((u, f.name :: seen), ',' :: rest) := by
  have hcolon : ∀ cs, skipBlanks (':' :: cs) = some (':' :: cs) :=
    fun cs => StartsToken.skipBlanks_eq (by decide : IsToken ':')
  have hvalue : skipBlanks (' ' :: (f.write level s ++ ',' :: rest)) =
      some (f.write level s ++ ',' :: rest) :=
    (skipBlanks_spaces 1 _).trans ((h.startsToken level).append _).skipBlanks_eq
  unfold readField
  dsimp only
  rw [name_append h.isName, Option.bind_eq_bind, Option.bind_some]
  dsimp only
  rw [hcolon, Option.bind_eq_bind, Option.bind_some, afterChar?_self, Option.bind_some, hvalue,
    Option.bind_some, hfind]
  dsimp only
  rw [if_neg (by simpa using hseen), h.reads level rest]
  rfl

/-- A comma leads on to the next line. -/
theorem comma_line (level : ℕ) (rest : List Char) {fs : List (Field σ)} (h : Copied s fs t u) :
    comma (',' :: '\n' :: fieldLines s level fs rest) =
      some (true, fieldTokens s level rest fs) := by
  have hcomma : skipBlanks (',' :: '\n' :: fieldLines s level fs rest) =
      some (',' :: '\n' :: fieldLines s level fs rest) :=
    StartsToken.skipBlanks_eq (by decide : IsToken ',')
  have hline : skipBlanks ('\n' :: fieldLines s level fs rest) =
      some (fieldTokens s level rest fs) :=
    (skipBlanks_blank (by decide)).trans (skipBlanks_fieldLines h)
  unfold comma
  rw [hcomma, Option.bind_eq_bind, Option.bind_some, afterChar?_self]
  dsimp only
  rw [hline]
  rfl

/-- Where names differ, a field is found by its name. -/
theorem find?_of_nodup {before fs : List (Field σ)} {f : Field σ}
    (hnames : ((before ++ f :: fs).map (·.name)).Nodup) :
    (before ++ f :: fs).find? (·.name == f.name) = some f ∧ f.name ∉ before.map (·.name) := by
  rw [List.map_append, List.map_cons, List.nodup_append] at hnames
  have hbefore : ∀ g ∈ before, g.name ≠ f.name := fun g hg =>
    hnames.2.2 g.name (List.mem_map_of_mem hg) f.name List.mem_cons_self
  constructor
  · have hnone : before.find? (·.name == f.name) = none :=
      List.find?_eq_none.mpr fun g hg => by simpa using hbefore g hg
    rw [List.find?_append, hnone, Option.none_or, List.find?_cons_of_pos (by simp)]
  · rw [List.mem_map]
    rintro ⟨g, hg, hname⟩
    exact hbefore g hg hname

/-- Blanks in front of entries do not matter. -/
theorem entries_skipBlanks {entry : σ → Reader σ} {close : Char} {rounds : ℕ} {b : Bool}
    {cs tokens : List Char} (hcs : skipBlanks cs = some tokens) (htokens : StartsToken tokens) :
    entries entry close rounds b t cs = entries entry close rounds b t tokens := by
  cases rounds with
  | zero => rfl
  | succ rounds =>
    unfold entries
    rw [hcs, htokens.skipBlanks_eq]

theorem length_le_fieldLines (s : σ) (level : ℕ) (fs : List (Field σ)) (rest : List Char) :
    fs.length ≤ (fieldLines s level fs rest).length := by
  induction fs with
  | nil => exact Nat.zero_le _
  | cons f fs ih =>
    rw [fieldLines, List.length_append] at ih ⊢
    rw [List.flatMap_cons, List.length_append, writeField, List.length_append, List.length_cons]
    simp only [List.length_cons, List.length_nil]
    omega

/-- **Fields are read as they were written**, behind others. -/
theorem entries_fieldTokens {fields fs : List (Field σ)} (before : List (Field σ))
    (hsplit : fields = before ++ fs)
    (hnames : (fields.map (·.name)).Nodup) (h : Copied s fs t u) (budget level : ℕ)
    (rest : List Char) {rounds : ℕ} (hrounds : fs.length < rounds) :
    ∃ seen, entries (readField fields budget .none) ')' rounds true
      (t, (before.map (·.name)).reverse) (fieldTokens s level rest fs) =
        some ((u, seen), ')' :: rest) := by
  induction h generalizing before rounds with
  | nil t =>
    obtain ⟨k, rfl⟩ : ∃ k, rounds = k + 1 :=
      Nat.exists_eq_succ_of_ne_zero (Nat.ne_zero_of_lt hrounds)
    refine ⟨(before.map (·.name)).reverse, ?_⟩
    unfold entries
    rw [(startsToken_fieldTokens (.nil t)).skipBlanks_eq]
    rfl
  | @cons f fs t u v head tail ih =>
    obtain ⟨k, rfl⟩ : ∃ k, rounds = k + 1 :=
      Nat.exists_eq_succ_of_ne_zero (Nat.ne_zero_of_lt hrounds)
    obtain ⟨hfind, hseen⟩ := find?_of_nodup (hsplit ▸ hnames)
    rw [← hsplit] at hfind
    have hclose : (fieldTokens s level rest (f :: fs)).head? ≠ some ')' :=
      head.isName.head?_ne (by decide) _
    have hfield := readField_line hfind (mt List.mem_reverse.mp hseen) head budget (level + 1)
      ('\n' :: fieldLines s level fs rest)
    obtain ⟨seen, hrest⟩ := ih (before ++ [f]) (by rw [hsplit, List.append_assoc]; rfl)
      (Nat.lt_of_succ_lt_succ hrounds)
    rw [List.map_append, List.map_singleton, List.reverse_append, List.reverse_singleton] at hrest
    refine ⟨seen, ?_⟩
    unfold entries
    rw [(startsToken_fieldTokens (.cons head tail)).skipBlanks_eq, Option.bind_eq_bind,
      Option.bind_some, if_neg hclose]
    dsimp only [fieldTokens]
    rw [hfield]
    rw [if_neg (by decide), Option.bind_eq_bind, Option.bind_some]
    dsimp only
    rw [comma_line level rest tail]
    exact hrest

/-- **A record is read as it was written.** -/
theorem Format.record_read {fields : List (Field σ)} {d : σ} (hnames : (fields.map (·.name)).Nodup)
    (h : Copied s fields d s) (title : String) (budget level : ℕ) (rest : List Char) :
    (Format.record title fields d budget).read .none
      ((Format.record title fields d budget).write level s ++ rest) = some (s, rest) := by
  have htext : (Format.record title fields d budget).write level s ++ rest =
      '(' :: '\n' :: fieldLines s level fields rest := by
    unfold Format.record fieldLines
    simp only [List.append_assoc, List.cons_append, List.nil_append]
  have htitle : ∀ cs, afterTitle title .none ('(' :: cs) = some ('(' :: cs) := by
    intro cs
    have hparen : Text.continuesIdentifier '(' = false :=
      (Text.continuesIdentifier_ascii (by decide)).trans (by decide)
    unfold afterTitle
    rw [List.head?_cons, Option.any_some, hparen, if_neg Bool.false_ne_true]
    rfl
  have hparen : ∀ cs, skipBlanks ('(' :: cs) = some ('(' :: cs) :=
    fun cs => StartsToken.skipBlanks_eq (by decide : IsToken '(')
  have hrounds : fields.length < ('\n' :: fieldLines s level fields rest).length + 1 := by
    have := length_le_fieldLines s level fields rest
    rw [List.length_cons]
    omega
  have hclose : skipBlanks (')' :: rest) = some (')' :: rest) :=
    StartsToken.skipBlanks_eq (by decide : IsToken ')')
  have hlines : skipBlanks ('\n' :: fieldLines s level fields rest) =
      some (fieldTokens s level rest fields) :=
    (skipBlanks_blank (by decide)).trans (skipBlanks_fieldLines h)
  obtain ⟨seen, hfields⟩ :=
    entries_fieldTokens [] fields.nil_append.symm hnames h budget level rest hrounds
  rw [htext]
  unfold Format.record
  dsimp only
  rw [htitle, Option.bind_eq_bind, Option.bind_some, hparen, Option.bind_some, afterChar?_self,
    Option.bind_some, entries_skipBlanks hlines (startsToken_fieldTokens h)]
  rw [List.map_nil, List.reverse_nil] at hfields
  rw [hfields, Option.bind_eq_bind, Option.bind_some]
  dsimp only
  rw [hclose, Option.bind_some, afterChar?_self]
  rfl

theorem Format.record_readsBack {fields : List (Field σ)} {d : σ}
    (hnames : (fields.map (·.name)).Nodup)
    (h : Copied s fields d s) (title : String) (budget : ℕ) :
    (Format.record title fields d budget).ReadsBack s where
  startsToken _ := (by decide : IsToken '(')
  reads level rest := Format.record_read hnames h title budget level (',' :: rest)

/-- **The text of a record is parsed as the record.** -/
theorem Format.parse_print_record {fields : List (Field σ)} {d : σ}
    (hnames : (fields.map (·.name)).Nodup)
    (h : Copied s fields d s) (title : String) (budget : ℕ) :
    (Format.record title fields d budget).parse ((Format.record title fields d budget).print s) =
      some s := by
  have hread := Format.record_read hnames h title budget 0 []
  rw [List.append_nil] at hread
  obtain ⟨cs, hcs⟩ : ∃ cs, (Format.record title fields d budget).write 0 s = '(' :: cs := ⟨_, rfl⟩
  have hparen : skipBlanks ('(' :: cs) = some ('(' :: cs) :=
    StartsToken.skipBlanks_eq (by decide : IsToken '(')
  unfold Format.parse Format.print
  rw [String.toList_ofList, hcs, hparen, Option.bind_eq_bind, Option.bind_some]
  rw [hcs] at hread
  have hattributes : attributes (('(' :: cs).length + 1) .none ('(' :: cs) =
      some (.none, '(' :: cs) :=
    rfl
  rw [hattributes, Option.bind_eq_bind, Option.bind_some]
  dsimp only
  rw [hread]
  rfl

end Biomes.Notation
