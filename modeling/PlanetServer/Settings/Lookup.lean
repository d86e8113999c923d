import PlanetServer.Host.World
import PlanetServer.Settings.Basic

/-!
# The settings file

The settings are read from the file that the variable `PLANET_CONFIG` names, else from `config.toml`
in the data directory under the home directory of the user.

* `Settings.file?` is the path of the file.
* `Settings.ofFile` reads one file: there may be none, or it may be at fault.
* `Settings.load` always has settings: the default ones, where no file gives others.
-/

namespace PlanetServer.Settings

open Host (World Refusal)

/-! ### Places -/

/-- The variable that names a settings file. -/
def fileVariable : String :=
  "PLANET_CONFIG"

/-- The home directory of the user. -/
def home? (w : World) : Option Path :=
  match w.env.bytes? "HOME" with
  | some (b :: bytes) => some ⟨b :: bytes⟩
  | _ => w.userHome

/-- The directory for the settings and the logs. -/
def dataDirectory? (w : World) : Option Path :=
  (home? w).map fun home => home.join (.ofString ".planet")

/-- The path of the settings file. -/
def file? (w : World) : Option Path :=
  match w.env.bytes? fileVariable with
  | some (b :: bytes) => some ⟨b :: bytes⟩
  | _ => (dataDirectory? w).map fun directory => directory.join (.ofString "config.toml")

/-! ### Reading -/

/-- Why a file does not give settings. -/
inductive Fault where
  /-- The file cannot be read. -/
  | refused (why : Refusal)
  /-- The file does not hold text. -/
  | notText
  /-- The text is not understood. -/
  | notUnderstood
deriving DecidableEq, Repr

/-- What a fault says, as far as it is known, about the file under a path. -/
def Fault.message (p : Path) : Fault → String
  | refused why => "failed to read config at " ++ p.display ++ ": " ++ why.message
  | notText => "failed to read config at " ++ p.display ++ ": stream did not contain valid UTF-8"
  | notUnderstood => "failed to parse config at " ++ p.display ++ ": "

/-- The settings in the file under a path, none if there is no file. -/
def ofFile (w : World) (p : Path) : Except Fault (Option Settings) :=
  if w.hasPath p then
    match w.read p with
    | .error why => .error (.refused why)
    | .ok content =>
      match Utf8.decode? content with
      | none => .error .notText
      | some text =>
        match parse? w.env text.toList with
        | none => .error .notUnderstood
        | some settings => .ok (some settings)
  else .ok none

/-- The settings of the user: the default ones, if there is no file or it is at fault. -/
def load (w : World) : Settings :=
  match file? w with
  | none => default
  | some p =>
    match ofFile w p with
    | .ok (some settings) => settings
    | _ => default

end PlanetServer.Settings
