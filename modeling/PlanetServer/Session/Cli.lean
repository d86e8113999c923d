import PlanetServer.Host.System
import PlanetServer.Session.Basic
import PlanetServer.Settings.Lookup

/-!
# The command line

The program serves one client over its standard input and output. Its log goes to a file in the data
directory, else to one in the working directory, else to standard error.
-/

namespace PlanetServer.Cli

open Host (World)
open Utf8 (Bytes)

/-- Where the log goes. -/
inductive Log where
  /-- To the data directory of the user. -/
  | home
  /-- To the working directory. -/
  | workingDirectory
  /-- To standard error. -/
  | standardError
deriving DecidableEq, Repr

/-- The directory for the log in a data directory. -/
def logDirectory (data : Path) : Path :=
  data.join (.ofString "logs")

/-- The log file in a data directory. -/
def logFile (data : Path) : Path :=
  (logDirectory data).join (.ofString "planet-ls.log")

/-- The data directory under the working directory. -/
def localData : Path :=
  .ofString ".planet"

/-- The directories that are tried for the log, in order. -/
def dataDirectories (w : World) : List Path :=
  (Settings.dataDirectory? w).toList ++ [localData]

/-- Whether a log file can be opened in a data directory. -/
def canLog (w : World) (data : Path) : Bool :=
  w.canMakeDirectory (logDirectory data) && !w.isDirectory (logFile data)

/-- Where the log goes. -/
def log (w : World) : Log :=
  if (Settings.dataDirectory? w).any (canLog w) then .home
  else if canLog w localData then .workingDirectory
  else .standardError

/-- The exit code for the end of a session. -/
def exitCode : SessionEnd → Nat
  | .exit true | .disconnected => 0
  | .exit false | .failed _ => 1

/-- What the end of a session says on standard error. -/
def complaint? : SessionEnd → Option String
  | .failed why => some ("planet-ls: " ++ ": ".intercalate (SessionEnd.chain why))
  | _ => none

/-- What the program does with its input. -/
structure Run where
  /-- The messages that are written. -/
  frames : List Json
  /-- The exit code. -/
  exitCode : Nat
  /-- What is said on standard error. -/
  complaint : Option String
  /-- Where the log goes. -/
  log : Log

/-- What is around a server on a machine that stays as it is. -/
def unchanging (w : World) : Nat → Surroundings :=
  fun _ => ⟨w.cwd, Build.run w.system⟩

/-- Runs the program on an input. The settings are read at the start, from the machine as it is then. -/
def run (surroundings : Nat → Surroundings) (w : World) (input : Bytes) : Run :=
  let (how, frames) := Session.serve surroundings (Settings.load w) [input]
  ⟨frames.flatten, exitCode how, complaint? how, log w⟩

end PlanetServer.Cli
