import Biomes.CommandLine.Option

/-!
# The help texts

There are two.  The summary has one line for each option: how it is written, and behind that, in a
column of its own, what it is for.  The full text has a paragraph for each option.
-/

namespace Biomes

/-- What an option is for. -/
def OptionName.purpose : OptionName → String
  | .gridSize => "Cells per grid side"
  | .seed => "Noise seed for the synthetic terrain"
  | .warningLimit => "Maximum unmatched-cell warnings per pass"
  | .dumpTree => "Print the compiled switch tree"
  | .logLevel => "Log level (error, warn, info, debug, trace)"
  | .config => "Path to config directory (overrides default location)"

/-- The values that an option may have, where they can be listed. -/
def OptionName.choices : OptionName → List String
  | .dumpTree => ["true", "false"]
  | _ => []

/-- How an option is written, with a name for its value. -/
def OptionName.usage (o : OptionName) : String :=
  let value := String.ofList (o.name.toList.map fun c => if c == '-' then '_' else c.toUpper)
  s!"      --{o.name} <{value}>"

/-- How detailed help is asked for. -/
inductive HelpForm where
  | summary
  | full
  deriving DecidableEq, Repr

namespace Help

/-- Something that can be asked for. -/
structure Entry where
  usage : String
  purpose : String
  choices : List String

/-- The values to choose from, in brackets. -/
def Entry.values (e : Entry) : List String :=
  if e.choices.isEmpty then [] else ["[possible values: " ++ ", ".intercalate e.choices ++ "]"]

/-- The entry of an option. -/
def Entry.ofOption (o : OptionName) : Entry := ⟨o.usage, o.purpose, o.choices⟩

/-- The entry of help itself, which names the other form. -/
def Entry.ofHelp (form : HelpForm) : Entry :=
  let other := match form with
    | .summary => "see more with '--help'"
    | .full => "see a summary with '-h'"
  ⟨"  -h, --help", s!"Print help ({other})", []⟩

/-- What can be asked for. -/
def entries (form : HelpForm) : List Entry := OptionName.all.map .ofOption ++ [.ofHelp form]

/-! ### The summary -/

/-- The width of the left column. -/
def width : Nat := ((entries .summary).map (·.usage.length)).foldl max 0

/-- The line of an entry. -/
def line (e : Entry) : String :=
  e.usage ++ String.ofList (List.replicate (width + 2 - e.usage.length) ' ') ++
    " ".intercalate (e.purpose :: e.values)

/-! ### The full text -/

/-- The margin of a paragraph. -/
def margin : String := String.ofList (List.replicate 10 ' ')

/-- The paragraph of an entry.  The line between the purpose and the values has a margin, too. -/
def paragraph (e : Entry) : List String :=
  e.usage :: (margin ++ e.purpose) :: e.values.flatMap fun values => [margin, margin ++ values]

/-! ### Both -/

/-- What the program is. -/
def about : HelpForm → List String
  | .summary => ["Compile a biome switch graph and classify a terrain grid"]
  | .full =>
    ["Command-line arguments shared by the biome tools.", "",
      "CLI values override settings loaded from `biome.ron`."]

/-- The part on the options. -/
def options : HelpForm → List String
  | .summary => (entries .summary).map line
  | .full => [""].intercalate ((entries .full).map paragraph)

/-- A help text, line by line. -/
def lines (form : HelpForm) : List String :=
  about form ++ ["", "Usage: biome-demo [OPTIONS]", "", "Options:"] ++ options form

end Help

end Biomes
