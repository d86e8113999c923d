import PlanetServer.Build.Runner
import PlanetServer.Host.Process

/-!
# A machine as the system of builds

A machine that is given as a value answers what a build asks: it looks for commands among its files, and
runs its programs.

* A command of several components is a path, and a relative path is resolved against the directory from
  which it is looked for.
* Any other command is looked for in the directories of the search path.
-/

namespace PlanetServer.Host

open Utf8 (Bytes)

/-- The number of components of a path, with its root and a leading stop among them. -/
def componentCount (p : Path) : Nat :=
  let leading := match Path.splitAt Path.slash p.bytes with
    | first :: _ => p.isAbsolute || first = [Path.stop]
    | [] => false
  p.components.length + if leading then 1 else 0

/-- A path of a command, resolved against a directory. -/
def resolveCommand (directory command : Path) : Path :=
  if command.isAbsolute then command
  else command.components.foldl (fun p component => p.join ⟨component⟩) directory

namespace World

/-- The paths where a command may stand, in the order in which they are tried. -/
def candidates (w : World) (directory command : Path) : List Path :=
  if 1 < componentCount command then [resolveCommand directory command]
  else w.searchPath.map fun place => place.join command

/-- Where the program of a command stands. -/
def locateCommand? (w : World) (directory command : Path) : Option Path :=
  (w.candidates directory command).find? w.isExecutable

/-- Starts a program in a directory. -/
def start (w : World) (directory program : Path) (args : List Bytes) : Except Refusal Outcome :=
  if args.any fun arg => arg.contains 0 then .error .zeroByte
  else
    match w.find directory with
    | .error why => .error why
    | .ok .directory => exec maxDepth (w.inDirectory directory) program args
    | .ok _ => .error .notDirectory

end World

/-- The exit code of a process that ended, none if a signal ended it. -/
def Ending.exitCode? : Ending → Option Int
  | exit code => some code
  | signal => none

/-- A process that is over, with everything that it left behind. -/
def Outcome.process (o : Outcome) : Build.Process :=
  ⟨o.elapsed, .ok ⟨o.stdout, o.stderr, o.ending.exitCode?⟩⟩

/-- A machine as the system of a build. -/
def World.system (w : World) : Build.System where
  locate? := w.locateCommand?
  start directory program args :=
    match w.start directory program args with
    | .error why => .error why.message
    | .ok outcome => .ok outcome.process

end PlanetServer.Host
