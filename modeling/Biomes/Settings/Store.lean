import Biomes.Settings.Text

/-!
# Where settings are kept

Settings are kept in a file, which may be missing, hold any bytes, or be a directory in the file's
place; if it is missing, its own directory may be one that cannot be made.  Only `save` and the
`load` of a missing file write it.
-/

namespace Biomes

/-- What is found at the settings' path. -/
inductive SettingsFile where
  | absent
  | bytes (content : ByteArray)
  | directory
  deriving Inhabited

/-- The place where settings are kept. -/
structure SettingsStore where
  file : SettingsFile
  /-- Whether the directory of the file exists or can be made. -/
  reachable : Bool
  deriving Inhabited

/-- Why settings cannot be had, or not be kept. -/
inductive SettingsError where
  | unreadable
  | unwritable
  | malformed
  | invalid (e : InvalidSetting)
  deriving DecidableEq, Repr

/-- The wording of a failure. -/
def SettingsError.message : SettingsError → String
  | .unreadable => "failed to read biome settings"
  | .unwritable => "failed to write biome settings"
  | .malformed => "failed to parse biome settings"
  | .invalid e => e.message

namespace SettingsStore

/-- A place where no settings have been kept yet. -/
def fresh : SettingsStore := ⟨.absent, true⟩

/-- The text at the settings' path; none if it cannot be read, or is not well encoded. -/
def text? (k : SettingsStore) : Option String :=
  match k.file with
  | .bytes content => String.fromUTF8? content
  | .absent | .directory => none

/-- The valid settings at the path. -/
def read (k : SettingsStore) : Except SettingsError Settings :=
  match k.text? with
  | none => .error .unreadable
  | some text =>
    match Settings.parse text with
    | none => .error .malformed
    | some s =>
      match s.check with
      | .error e => .error (.invalid e)
      | .ok () => .ok s

/-- Keeps settings, whatever was there before.  They are not checked. -/
def save (k : SettingsStore) (s : Settings) : SettingsStore × Except SettingsError Unit :=
  match k.file with
  | .directory => (k, .error .unwritable)
  | .absent | .bytes _ =>
    if k.reachable then ({ k with file := .bytes s.print.toUTF8 }, .ok ())
    else (k, .error .unwritable)

/-- The settings at the path; if there are none, the default settings are kept there first. -/
def load (k : SettingsStore) : SettingsStore × Except SettingsError Settings :=
  match k.file with
  | .absent =>
    match k.save .default with
    | (k, .ok ()) => (k, .ok .default)
    | (k, .error e) => (k, .error e)
  | .bytes _ | .directory => (k, k.read)

/-- The settings at the path, if they differ from those in use. -/
def reload (k : SettingsStore) (current : Settings) : Except SettingsError (Option Settings) :=
  k.read.map fun s => if s.agree current then none else some s

end SettingsStore

end Biomes
