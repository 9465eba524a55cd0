import Biomes.Program

/-!
# The program

Carries out a run: finds the settings' place, reads it, and then prints, logs and writes what the
run says.
-/

namespace Biomes.Program

/-- The directory in which settings are kept unless the command line names another. -/
def defaultDirectory : IO String := do
  match ← IO.getEnv "XDG_CONFIG_HOME", ← IO.getEnv "HOME" with
  | some base, _ => return base ++ "/biome-switch"
  | none, some home => return home ++ "/.config/biome-switch"
  | none, none => return "./biome-switch"

/-- What is found at the settings' path. -/
def look (path : String) : IO SettingsFile := do
  try return .bytes (← IO.FS.readBinFile path)
  catch
    | .noFileOrDirectory .. => return .absent
    | _ => return .directory

/-- Makes a directory, and says whether it is there. -/
def prepare (directory : String) : IO Bool := do
  try
    IO.FS.createDirAll directory
    return true
  catch _ => return false

/-- Writes the settings' file, if the run changed it. -/
def keep (path : String) (before after : SettingsFile) : IO Unit :=
  match before, after with
  | .absent, .bytes content => IO.FS.writeBinFile path content
  | _, _ => pure ()

/-- Prints what a run says, and answers its status. -/
def speak (r : Run) : IO UInt32 := do
  r.complaints.forM IO.eprintln
  r.console.forM IO.println
  return r.status.toUInt32

/-- Carries out a run with settings in a directory. -/
def carryOut (words : List String) (directory : String) : IO UInt32 := do
  let path := directory ++ "/biome.ron"
  let reachable ← prepare directory
  let file ← look path
  let r := run Noise.seeded words ⟨file, reachable⟩
  keep path file r.store.file
  if let some records := r.logged then
    if ← prepare (directory ++ "/logs") then
      IO.FS.writeFile (directory ++ "/logs/biome.log") (String.join (records.map (·.text ++ "\n")))
  speak r

end Biomes.Program

/-- Runs the program with the words of the command line.  A command line that is refused, or asks
for help, touches no files. -/
def main (words : List String) : IO UInt32 :=
  match Biomes.Arguments.parse words with
  | .ok a => do
    let directory ← match a.config with
      | some d => pure d
      | none => Biomes.Program.defaultDirectory
    Biomes.Program.carryOut words directory
  | .error _ => Biomes.Program.speak (Biomes.run Biomes.Noise.seeded words .fresh)
