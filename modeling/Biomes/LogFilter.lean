import Biomes.Notation.Number
import Biomes.Pattern
import Biomes.Record
import Biomes.Text.Alphanumeric
import Biomes.Text.Blank

/-!
# Log filters

A directive says which records are let through: rules separated by commas.  A rule is a level, or a
target with a level behind an equals sign, and it speaks for every part of the program whose name
begins with the target.  Between the two there may be a bracket with the name of a field, so that
the rule speaks only for records which carry it.

Of several rules that speak for a record the one with the longest target decides, then one with a
field, then the one whose field comes last in the order of names.
-/

namespace Biomes

/-- What is let through of the records that carry a field and come from the targets that begin with
a text: nothing, or the records of a level and all more serious ones. -/
structure LogRule where
  target : String
  field : Option String
  threshold : Option Level
  deriving DecidableEq, Repr, Inhabited

/-- Why a rule cannot be read. -/
inductive LogRuleError where
  | malformed
  /-- A part would begin or end inside a character. -/
  | cutCharacter
  deriving DecidableEq, Repr

namespace LogRule

/-! ### Levels -/

/-- The number that digits stand for, which may follow a plus. -/
def number? (s : String) : Option Nat :=
  let digits := match s.toList with
    | '+' :: cs => cs
    | cs => cs
  if digits.isEmpty || !digits.all Char.isDigit then none
  else some (Notation.decimalValue digits)

/-- The threshold that a text names: a level in letters of either case, or a number. -/
def threshold? (s : String) : Option (Option Level) :=
  match number? s with
  | some 0 => some none
  | some 1 => some (some .error)
  | some 2 => some (some .warn)
  | some 3 => some (some .info)
  | some 4 => some (some .debug)
  | some 5 => some (some .trace)
  | _ =>
    match s.toLower with
    | "off" => some none
    | "error" => some (some .error)
    | "warn" => some (some .warn)
    | "info" => some (some .info)
    | "debug" => some (some .debug)
    | "trace" => some (some .trace)
    | _ => none

/-- The threshold behind an equals sign.  Where nothing stands there, everything is let through. -/
def assigned (s : String) : Except LogRuleError (Option Level) :=
  if s.isEmpty then .ok (some .trace)
  else
    match threshold? s with
    | some t => .ok t
    | none => .error .malformed

/-! ### Values of a field -/

/-- Whether a text is a number: decimal, with a point and an exponent as needed, infinite, or none
at all. -/
def isNumber (cs : List Char) : Bool :=
  let (_, cs) := Notation.sign cs
  let whole := cs.takeWhile Char.isDigit
  let (point, rest) := match cs.drop whole.length with
    | '.' :: rest => (true, rest)
    | rest => (false, rest)
  let places := if point then rest.takeWhile Char.isDigit else []
  let exponent := match rest.drop places.length with
    | [] => true
    | c :: rest =>
      let (_, digits) := Notation.sign rest
      c.toLower == 'e' && !digits.isEmpty && digits.all Char.isDigit
  ["inf", "infinity", "nan"].contains (String.ofList (cs.map Char.toLower)) ||
    (!(whole ++ places).isEmpty && exponent)

/-- Whether a field may be asked for a value: a number, or a pattern.  Truth values are patterns
too. -/
def isValue (cs : List Char) : Bool := isNumber cs || isPattern cs

/-- The value that a field is asked for, if there is one. -/
def value? (field : List Char) : Option (List Char) :=
  match field.dropWhile (· != '=') with
  | [] => none
  | _ :: cs => some (cs.takeWhile (· != '='))

/-! ### Parts of a rule

The parts of a rule are found in the rule without the blanks around it, and then cut out of the
whole rule at the same positions, counted in bytes.  With blanks in front every part begins and
ends too early by as many bytes. -/

/-- A rule without the blanks around it. -/
def trim (cs : List Char) : List Char :=
  ((cs.dropWhile Text.isBlank).reverse.dropWhile Text.isBlank).reverse

/-- How many bytes a text takes up. -/
def width (cs : List Char) : Nat := cs.foldl (fun n c => n + c.utf8Size) 0

/-- A text without a number of bytes at its front, unless that would cut a character. -/
def dropBytes? : Nat → List Char → Option (List Char)
  | 0, cs => some cs
  | _ + 1, [] => none
  | n + 1, c :: cs => if c.utf8Size ≤ n + 1 then dropBytes? (n + 1 - c.utf8Size) cs else none

/-- A number of bytes at the front of a text, unless that would cut a character. -/
def takeBytes? : Nat → List Char → Option (List Char)
  | 0, _ => some []
  | _ + 1, [] => none
  | n + 1, c :: cs =>
    if c.utf8Size ≤ n + 1 then (takeBytes? (n + 1 - c.utf8Size) cs).map (c :: ·) else none

/-- The text that a part of a rule comes to, if it is not cut inside a character. -/
def part : Option (List Char) → Except LogRuleError String
  | some cs => .ok (String.ofList cs)
  | none => .error .cutCharacter

/-- The part of a rule from a position on, over a number of bytes. -/
def slice (rule : List Char) (start bytes : Nat) : Except LogRuleError String :=
  part ((dropBytes? start rule).bind (takeBytes? bytes))

/-- The part of a rule from a position on. -/
def suffix (rule : List Char) (start : Nat) : Except LogRuleError String :=
  part (dropBytes? start rule)

/-! ### Reading -/

/-- Whether a target, or a level, may begin with a character. -/
def startsTarget (c : Char) : Bool := c == '-' || c == ':' || c == '_' || Text.isAlphanumeric c

/-- Reads what follows a bracket that ends at a position. -/
def afterBracket (rule : List Char) (position : Nat) :
    List Char → Except LogRuleError (Option Level)
  | [] => .ok (some .trace)
  | '=' :: _ => do assigned (← suffix rule (position + 1))
  | _ => .error .malformed

/-- Reads the field in the braces of a bracket, which open before a position.  A field with a value
asks for a stretch of work that began with this value, and no records are made in such a one. -/
def braced (rule : List Char) (target : String) (position : Nat) (cs : List Char) :
    Except LogRuleError (Option LogRule) := do
  let inside := cs.takeWhile (· != '\x7d')
  match cs.drop inside.length with
  | _ :: rest =>
    let field ← slice rule position (width inside)
    let value := value? field.toList
    if field.isEmpty || !value.all isValue then .error .malformed
    else
      match rest with
      | ']' :: rest => do
        let threshold ← afterBracket rule (position + width inside + 2) rest
        return if value.isSome then none else some ⟨target, some field, threshold⟩
      | _ => .error .malformed
  | [] => .error .malformed

/-- Reads a bracket that opens before a position, and what follows it.  A name in it is that of a
stretch of work; records are not made in any, so that such a rule says nothing about them. -/
def bracketed (rule : List Char) (target : String) (position : Nat) (cs : List Char) :
    Except LogRuleError (Option LogRule) := do
  let name := cs.takeWhile fun c => c != ']' && c != '\x7b'
  let stop := position + width name
  match cs.drop name.length with
  | ']' :: rest =>
    let _ ← slice rule position (width name)
    let _ ← afterBracket rule (stop + 1) rest
    return none
  | _ :: rest =>
    let named ← slice rule position (width name)
    let r ← braced rule target (stop + 1) rest
    return if named.isEmpty then r else none
  | [] => .error .malformed

/-- Reads a rule that has no further parts: a level for every target, or a target from which
everything is let through. -/
def whole (rule : String) : LogRule :=
  match threshold? rule with
  | some t => ⟨"", none, t⟩
  | none => ⟨rule, none, some .trace⟩

/-- Reads one rule; none comes of one that says nothing about records. -/
def ofChars (rule : List Char) : Except LogRuleError (Option LogRule) :=
  let seen := trim rule
  let head := seen.takeWhile fun c => c != '=' && c != '['
  if !seen.head?.any (fun c => c == '[' || startsTarget c) then .error .malformed
  else
    match seen.drop head.length with
    | [] => .ok (some (whole (String.ofList rule)))
    | mark :: rest => do
      let target ← slice rule 0 (width head)
      if mark == '=' then
        let threshold ← assigned (← suffix rule (width head + 1))
        return some ⟨target, none, threshold⟩
      else bracketed rule target (width head + 1) rest

/-! ### Records -/

/-- Whether a rule speaks for a record. -/
def covers (r : LogRule) (record : Record) : Bool :=
  r.target.toList.isPrefixOf record.target.toList && r.field.all record.carries

/-- Whether a rule lets a level through. -/
def admits (r : LogRule) (l : Level) : Bool :=
  match r.threshold with
  | some t => l.verbosity ≤ t.verbosity
  | none => false

/-- Whether the field of a rule counts for no more than that of another one. -/
def yields : Option String → Option String → Bool
  | none, _ => true
  | some _, none => false
  | some a, some b => a ≤ b

/-- Whether a rule gives way to a later one that speaks for the same record. -/
def givesWay (r later : LogRule) : Bool :=
  r.target.length < later.target.length ||
    (r.target.length == later.target.length && yields r.field later.field)

end LogRule

/-- The rules of a directive, in their order. -/
structure LogFilter where
  rules : List LogRule
  deriving DecidableEq, Repr, Inhabited

namespace LogFilter

/-- Reads rules, and passes over malformed ones; none come of rules that would be cut inside a
character. -/
def gather : List (List Char) → Option (List (Option LogRule))
  | [] => some []
  | part :: parts =>
    match LogRule.ofChars part with
    | .ok r => (gather parts).map (r :: ·)
    | .error .malformed => gather parts
    | .error .cutCharacter => none

/-- Reads a directive.  If all of its rules are malformed, only errors are let through. -/
def ofDirective? (s : String) : Option LogFilter :=
  (gather (s.toList.splitOn ',')).map fun rules =>
    if rules.isEmpty then ⟨[⟨"", none, some .error⟩]⟩ else ⟨rules.filterMap id⟩

/-- The rule that decides about a record. -/
def rule? (f : LogFilter) (r : Record) : Option LogRule :=
  (f.rules.filter (·.covers r)).foldl
    (fun best rule =>
      match best with
      | some b => if b.givesWay rule then some rule else some b
      | none => some rule)
    none

/-- Whether a record is let through. -/
def allows (f : LogFilter) (r : Record) : Bool :=
  match f.rule? r with
  | some rule => rule.admits r.level
  | none => false

end LogFilter

end Biomes
