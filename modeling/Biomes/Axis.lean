/-!
# The axes of a landscape

A place is described by one value on each of four axes.  Water is a flag, stored as `0` or `1`;
height, temperature and wetness are real quantities.  The axes have a fixed order, and everything
that is kept per axis (`PerAxis`) is listed, summed and printed in that order.
-/

namespace Biomes

/-- The quantities by which places are told apart. -/
inductive Axis where
  | water
  | height
  | temperature
  | wetness
  deriving DecidableEq, Repr, Inhabited

namespace Axis

/-- All axes in their order. -/
def all : List Axis := [.water, .height, .temperature, .wetness]

/-- The position of an axis in `all`. -/
def index : Axis → Nat
  | .water => 0
  | .height => 1
  | .temperature => 2
  | .wetness => 3

/-- The axis at a position, if there is one. -/
def ofIndex? (i : Nat) : Option Axis := all[i]?

/-- The name under which an axis is shown. -/
def name : Axis → String
  | .water => "Water"
  | .height => "Height"
  | .temperature => "Temperature"
  | .wetness => "Wetness"

/-- The axis shown under a name. -/
def ofName? (s : String) : Option Axis := all.find? (·.name == s)

/-- Water is sampled as a flag, every other axis as a real value. -/
def isFlag : Axis → Bool
  | .water => true
  | _ => false

theorem mem_all (a : Axis) : a ∈ all := by cases a <;> decide

theorem ofName?_name (a : Axis) : ofName? a.name = some a := by cases a <;> decide

end Axis

/-- One value for each axis. -/
structure PerAxis (α : Type) where
  water : α
  height : α
  temperature : α
  wetness : α
  deriving DecidableEq, Repr, Inhabited

namespace PerAxis

variable {α β : Type}

/-- The same value on every axis. -/
def const (x : α) : PerAxis α := ⟨x, x, x, x⟩

/-- The value on one axis. -/
def get (t : PerAxis α) : Axis → α
  | .water => t.water
  | .height => t.height
  | .temperature => t.temperature
  | .wetness => t.wetness

/-- Replaces the value on one axis. -/
def set (t : PerAxis α) (a : Axis) (x : α) : PerAxis α :=
  match a with
  | .water => { t with water := x }
  | .height => { t with height := x }
  | .temperature => { t with temperature := x }
  | .wetness => { t with wetness := x }

/-- The table whose value on each axis is given by a function. -/
def ofFn (f : Axis → α) : PerAxis α := ⟨f .water, f .height, f .temperature, f .wetness⟩

/-- The values in axis order. -/
def toList (t : PerAxis α) : List α := Axis.all.map t.get

/-- The values with their axes, in axis order. -/
def entries (t : PerAxis α) : List (Axis × α) := Axis.all.map fun a => (a, t.get a)

@[simp] theorem get_const (x : α) (a : Axis) : (const x).get a = x := by cases a <;> rfl

@[simp] theorem get_ofFn (f : Axis → α) (a : Axis) : (ofFn f).get a = f a := by cases a <;> rfl

@[simp] theorem get_set_self (t : PerAxis α) (a : Axis) (x : α) : (t.set a x).get a = x := by
  cases a <;> rfl

@[simp] theorem get_set_of_ne (t : PerAxis α) {a b : Axis} (x : α) (h : b ≠ a) :
    (t.set a x).get b = t.get b := by
  cases a <;> cases b <;> simp_all [get, set]

theorem ext_get {s t : PerAxis α} (h : ∀ a, s.get a = t.get a) : s = t := by
  cases s; cases t
  simpa [get] using And.intro (h .water) (And.intro (h .height)
    (And.intro (h .temperature) (h .wetness)))

end PerAxis

/-! ### Look-ups by position -/

/-- A look-up past the end of a list of known length. -/
structure OutOfBounds where
  length : Nat
  index : Nat
  deriving DecidableEq, Repr

/-- The wording of a look-up past the end. -/
def OutOfBounds.message (e : OutOfBounds) : String :=
  s!"index out of bounds: the len is {e.length} but the index is {e.index}"

/-- The axis at a position; past the last axis there is none. -/
def Axis.ofIndex (i : Nat) : Except OutOfBounds Axis :=
  match Axis.ofIndex? i with
  | some a => .ok a
  | none => .error ⟨Axis.all.length, i⟩

namespace PerAxis

variable {α : Type}

/-- The value at a position. -/
def getAt (t : PerAxis α) (i : Nat) : Except OutOfBounds α :=
  (Axis.ofIndex i).map t.get

/-- Replaces the value at a position. -/
def setAt (t : PerAxis α) (i : Nat) (x : α) : Except OutOfBounds (PerAxis α) :=
  (Axis.ofIndex i).map fun a => t.set a x

end PerAxis

/-- A sampled place: its value on every axis, with water as `0` or `1`. -/
abbrev Point := PerAxis Float32

namespace Point

/-- The point with the given samples. -/
def sample (water : Bool) (height temperature wetness : Float32) : Point :=
  ⟨if water then 1 else 0, height, temperature, wetness⟩

/-- The flag reading of an axis: every value but zero is set. -/
def flag (p : Point) (a : Axis) : Bool := p.get a != 0

theorem flag_sample (water : Bool) (height temperature wetness : Float32) :
    (sample water height temperature wetness).flag .water = water := by
  cases water with
  | false =>
    show ((0 : Float32) != 0) = false
    decide
  | true =>
    show ((1 : Float32) != 0) = true
    decide

end Point

end Biomes
