import PlanetServer.Build.Report
import PlanetServer.Settings.Basic
import PlanetServer.Workspace.Path

/-!
# Running the compiler

The compiler is looked for, started in the root of the workspace and waited for. Its output and then
its errors are read for problems.

How a command is found, and what a program does once it is started, is up to the system that the server
runs on. A `System` is whatever the system answers while one build lasts.
-/

namespace PlanetServer.Build

open Utf8 (Bytes)

/-! ### What the system answers -/

/-- What a process left behind at its end. -/
structure Output where
  /-- What it printed. -/
  stdout : Bytes
  /-- What it printed as errors. -/
  stderr : Bytes
  /-- Its exit code, none if a signal ended it. -/
  exitCode? : Option Int
deriving DecidableEq, Repr

/-- A process that was started and waited for. -/
structure Process where
  /-- The milliseconds after which it was over. -/
  elapsed : Nat
  /-- What it left behind, or why that could not be collected. -/
  collected : Except String Output

/-- The system that the server runs on, as far as it takes part in one build. -/
structure System where
  /-- Where the program of a command stands, if a search that starts from a directory finds it. -/
  locate? : (directory command : Path) → Option Path
  /-- Starts a program in a directory with arguments, or says why it cannot be started. -/
  start : (directory program : Path) → (args : List Bytes) → Except String Process

/-! ### Failures -/

/-- Why there is no report of a build. -/
inductive Failure where
  /-- The command was not found. -/
  | notFound
  /-- The compiler could not be started. -/
  | notStarted (why : String)
  /-- The compiler ran for too long. -/
  | timedOut
  /-- The compiler was started, but what it left behind could not be collected. -/
  | notCollected (why : String)
deriving DecidableEq, Repr

/-- What a failure says about the compiler that was to be run. -/
def Failure.message (settings : BuildSettings) : Failure → String
  | notFound => "build tool `" ++ settings.command ++ "` not found in PATH"
  | notStarted why => "failed to start `" ++ settings.command ++ "`: " ++ why
  | timedOut =>
    "`" ++ settings.command ++ "` did not finish within " ++ settings.timeout.repr
      ++ "s and was killed"
  | notCollected why => "failed to collect build output: " ++ why

/-! ### Builds -/

/-- What a process printed: its output, and on further lines its errors. -/
def printed (o : Output) : List Char :=
  Utf8.decodeLossy o.stdout ++ '\n' :: Utf8.decodeLossy o.stderr

/-- The report of a process by what it left behind. The exit code is `-1` if a signal ended it. -/
def report (o : Output) : Report :=
  .ofOutput (o.exitCode?.getD (-1)) (printed o)

/-- Whether a process ran for as long as it may, or longer. A process without any time is always too
slow. -/
def isTooSlow (settings : BuildSettings) (p : Process) : Bool :=
  1000 * settings.timeout ≤ p.elapsed

/-- Runs the compiler in the root of the workspace. -/
def run (system : System) (settings : BuildSettings) (root : Path) : Except Failure Report :=
  match system.locate? root (.ofString settings.command) with
  | none => .error .notFound
  | some program =>
    match system.start root program (settings.args.map Utf8.encodeString) with
    | .error why => .error (.notStarted why)
    | .ok process =>
      if isTooSlow settings process then .error .timedOut
      else
        match process.collected with
        | .error why => .error (.notCollected why)
        | .ok output => .ok (report output)

end PlanetServer.Build
