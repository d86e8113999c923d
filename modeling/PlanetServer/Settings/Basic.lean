import PlanetServer.Diagnostic.Locale
import PlanetServer.Settings.Environment
import PlanetServer.Toml.Reader

/-!
# Settings

How the compiler is run, and the language of the messages. Every setting may be left out, and what is
not known is ignored, but the numbers in it must have values. A group of settings may also be given as
the list of its values, in order; what follows them in the list is not looked at.
-/

namespace PlanetServer

/-- How the compiler is run. -/
structure BuildSettings where
  /-- The command. -/
  command : String
  /-- The arguments of the command. -/
  args : List String
  /-- For how many seconds it may run. -/
  timeout : Nat
deriving DecidableEq, Repr

/-- How the compiler is run where nothing is said. -/
def BuildSettings.default : BuildSettings :=
  ⟨"cometc", ["build"], 300⟩

/-- All settings. -/
structure Settings where
  /-- How the compiler is run. -/
  build : BuildSettings
  /-- The language of the messages. -/
  locale : Locale
deriving DecidableEq, Repr

namespace Settings

/-- The settings where nothing is said. -/
def default : Settings :=
  ⟨.default, .en⟩

/-! ### Reading single settings -/

/-- A text. -/
def text? : Toml.Item → Option String
  | .string s => some s
  | _ => none

/-- A list of texts. -/
def texts? : Toml.Item → Option (List String)
  | .array items => items.mapM text?
  | _ => none

/-- A number of seconds, of 64 bits. -/
def seconds? : Toml.Item → Option Nat
  | .integer value => if 0 ≤ value ∧ value < 18446744073709551616 then some value.toNat else none
  | _ => none

/-- The language with a name. -/
def locale? : String → Option Locale
  | "en" => some .en
  | "ko" => some .ko
  | _ => none

/-- Whether a value is an empty list or an empty table. -/
def isEmpty : Toml.Item → Bool
  | .array [] | .table _ [] => true
  | _ => false

/-- A language, by its name or as a table with the name as its only key and nothing under it. -/
def localeItem? : Toml.Item → Option Locale
  | .string s => locale? s
  | .table _ [(name, item)] => if isEmpty item then locale? name else none
  | _ => none

/-- The value of a setting: the default, if it is left out. -/
def setting? {α : Type} (read : Toml.Item → Option α) (default : α) : Option Toml.Item → Option α
  | none => some default
  | some item => read item

/-! ### Reading groups of settings -/

/-- The values of some settings by their names, none for those that are left out. -/
def named? (names : List String) (entries : Toml.Entries) : Option (List (Option Toml.Item)) :=
  let unknown := entries.filter fun entry => !names.contains entry.1
  if Toml.haveSound unknown then some (names.map fun name => entries.lookup name) else none

/-- The values of a group of settings, none for those that are left out. A date stands for a group
without known settings. -/
def group? (names : List String) : Toml.Item → Option (List (Option Toml.Item))
  | .table _ entries => named? names entries
  | .array items => some ((List.range names.length).map fun i => items[i]?)
  | .tables each => some ((List.range names.length).map fun i => (each[i]?).map (.table .header ·))
  | .datetime => some (names.map fun _ => none)
  | _ => none

/-- How the compiler is run. -/
def build? (item : Toml.Item) : Option BuildSettings := do
  match ← group? ["command", "args", "timeout_secs"] item with
  | [command, args, timeout] =>
    let command ← setting? text? BuildSettings.default.command command
    let args ← setting? texts? BuildSettings.default.args args
    let timeout ← setting? seconds? BuildSettings.default.timeout timeout
    return ⟨command, args, timeout⟩
  | _ => none

/-- The language of the messages. -/
def diagnostics? (item : Toml.Item) : Option Locale := do
  match ← group? ["locale"] item with
  | [locale] => setting? localeItem? default.locale locale
  | _ => none

/-- The settings that the entries of a document give. -/
def ofEntries? (entries : Toml.Entries) : Option Settings := do
  match ← named? ["build", "diagnostics"] entries with
  | [build, diagnostics] =>
    let build ← setting? build? BuildSettings.default build
    let locale ← setting? diagnostics? default.locale diagnostics
    return ⟨build, locale⟩
  | _ => none

/-- The settings with variables in the command replaced by their values. -/
def expandCommand (env : Environment) (s : Settings) : Settings :=
  ⟨⟨env.expand s.build.command, s.build.args, s.build.timeout⟩, s.locale⟩

/-- The settings that a text gives, none if it gives none. -/
def parse? (env : Environment) (text : List Char) : Option Settings := do
  let entries ← Toml.read? text
  return (← ofEntries? entries).expandCommand env

end Settings

end PlanetServer
