import Biomes.Notation.Quoted

/-!
# Attributes of the settings notation

In front of the value of a text there may be attributes.  `#![enable(…)]` names extensions of the
notation, which hold in the whole text; `#![type = "…"]` and `#![schema = "…"]` say for other
readers what the text holds, and are passed over.
-/

namespace Biomes.Notation

/-- The extensions of the notation that can be enabled, as far as they change what is well formed
where neither options nor wrapped values are expected. -/
structure Extensions where
  /-- An option may be given by what it holds alone. -/
  implicitSome : Bool
  /-- An option holds the fields or entries of what it wraps without brackets of their own. -/
  unwrapVariants : Bool
  /-- A record has to begin with the name of its type. -/
  namedRecords : Bool
  deriving DecidableEq, Repr, Inhabited

namespace Extensions

/-- No extensions. -/
def none : Extensions := ⟨false, false, false⟩

/-- The extensions of either. -/
def union (a b : Extensions) : Extensions :=
  ⟨a.implicitSome || b.implicitSome, a.unwrapVariants || b.unwrapVariants,
    a.namedRecords || b.namedRecords⟩

/-- The extension with a name.  One of them concerns wrapped values only. -/
def ofName? : String → Option Extensions
  | "implicit_some" => some { none with implicitSome := true }
  | "unwrap_variant_newtypes" => some { none with unwrapVariants := true }
  | "explicit_struct_names" => some { none with namedRecords := true }
  | "unwrap_newtypes" => some none
  | _ => Option.none

end Extensions

/-! ### Reading -/

/-- What follows a text and the blanks behind it. -/
def afterToken? (w : String) (cs : List Char) : Option (List Char) :=
  (afterText? w.toList cs).bind skipBlanks

/-- Reads the name of an extension, and adds it to those before it. -/
def extension (before : Extensions) : Reader Extensions := fun cs => do
  let (name, cs) ← identifier cs
  return (before.union (← Extensions.ofName? name), cs)

/-- Reads what an attribute says, up to its closing bracket. -/
def attributeBody : Reader Extensions := fun cs =>
  match afterToken? "enable" cs with
  | some cs => do
    let cs ← afterToken? "(" cs
    if cs.head? == some ')' then none
    let (enabled, cs) ← entries extension ')' (cs.length + 1) true .none cs
    return (enabled, ← afterToken? ")" cs)
  | none => do
    let cs ← skipBlanks (← (afterWord? "type" cs).or (afterWord? "schema" cs))
    let (_, cs) ← quoted (← afterToken? "=" cs)
    return (.none, ← skipBlanks cs)

/-- Reads an attribute, and the blanks behind it. -/
def anAttribute : Reader Extensions := fun cs => do
  let (enabled, cs) ← attributeBody (← afterToken? "[" (← afterToken? "!" (← afterToken? "#" cs)))
  return (enabled, ← afterToken? "]" cs)

/-- Reads all attributes; the blanks before them are passed over.  Each round takes an attribute. -/
def attributes : Nat → Extensions → Reader Extensions
  | 0, _, _ => none
  | rounds + 1, before, cs =>
    if cs.head? == some '#' then do
      let (enabled, cs) ← anAttribute cs
      attributes rounds (before.union enabled) cs
    else some (before, cs)

end Biomes.Notation
