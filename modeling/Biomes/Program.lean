import Biomes.CommandLine.Help
import Biomes.CommandLine.Reading
import Biomes.Console
import Biomes.LogFilter
import Biomes.Report.Full
import Biomes.Settings.Store

/-!
# A run of the program

A run reads the command line and the settings, lets the one override the other, and reports on the
sample world.  Without usable settings it goes on with the default ones.  What it shows, logs and
writes is computed here; `Main` carries it out.
-/

namespace Biomes

/-- What a run does. -/
structure Run where
  /-- Zero after a run, two after a command line that is refused, and 101 after a run that broke
  off. -/
  status : Nat
  /-- The lines on the console. -/
  console : List String
  /-- The lines that complain about the command line, the settings or the run. -/
  complaints : List String
  /-- The records that are logged, unless no log was opened. -/
  logged : Option (List Record)
  /-- The settings' place afterwards. -/
  store : SettingsStore

namespace Run

/-- A run that shows a help text only. -/
def help (form : HelpForm) (k : SettingsStore) : Run :=
  { status := 0, console := Help.lines form, complaints := [], logged := none, store := k }

/-- A run that refuses its command line. -/
def refused (e : UsageError) (k : SettingsStore) : Run :=
  { status := 2, console := [], complaints := [e.message], logged := none, store := k }

/-- The complaint about settings that cannot be used. -/
def complaint (e : SettingsError) : String := s!"Failed to load config: {e.message}, using defaults"

/-- The settings to run with, and what there is to complain about. -/
def settled (loaded : Except SettingsError Settings) (a : Arguments) : Settings × List String :=
  match loaded with
  | .ok s => (a.override s, [])
  | .error e => (a.override .default, [complaint e])

/-- A run that logs what a filter lets through of a report. -/
def reported (r : Report) (f : LogFilter) (complaints : List String) (k : SettingsStore) : Run :=
  let logged := r.records.filter f.allows
  { status := if r.isComplete then 0 else 101
    console := logged.flatMap (·.lines)
    complaints := complaints ++ if r.isComplete then [] else ["There is no such landscape"]
    logged := some logged
    store := k }

/-- A run that cannot make a filter of its log directive. -/
def unfiltered (complaints : List String) (k : SettingsStore) : Run :=
  { status := 101, console := []
    complaints := complaints ++ ["The log directive cuts a character"], logged := none, store := k }

/-- A run with arguments. -/
def withArguments (source : Sample.NoiseSource) (a : Arguments) (k : SettingsStore) : Run :=
  let (k, loaded) := k.load
  let (s, complaints) := settled loaded a
  match LogFilter.ofDirective? s.directive with
  | some f => reported (Report.full source s) f complaints k
  | none => unfiltered complaints k

end Run

/-- The run that a command line asks for. -/
def run (source : Sample.NoiseSource) (words : List String) (k : SettingsStore) : Run :=
  match Arguments.parse words with
  | .ok a => .withArguments source a k
  | .error (.help form) => .help form k
  | .error (.usage e) => .refused e k

end Biomes
