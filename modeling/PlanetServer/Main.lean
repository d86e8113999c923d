import PlanetServer.Session.Cli

/-!
# The program

Serves one client over standard input and output. The settings file is read once, at the start. No
other programs can be started from here, so a build finds no compiler.
-/

namespace PlanetServer.Main

open Host (World Node)
open Utf8 (Bytes)

/-- The variables of the environment that the program looks at. -/
def environment : IO Environment := do
  let named ← [Settings.fileVariable, "HOME", "PATH"].mapM fun name => do
    return (← IO.getEnv name).map fun value => (name, Utf8.encodeString value)
  return ⟨named.reduceOption⟩

/-- What stands under a path, as far as it can be read. -/
def node? (p : Path) : IO (Option Node) := do
  try
    let content ← IO.FS.readBinFile p.display
    return some (.file content.toList false)
  catch _ =>
    return none

/-- The machine, with the settings file on it if there is one. -/
def world : IO World := do
  let cwd := Path.ofString (← IO.currentDir).toString
  let w : World := ⟨[], ← environment, cwd, none⟩
  match Settings.file? w with
  | none => return w
  | some p =>
    match ← node? p with
    | none => return w
    | some node => return w.put p node

/-- Notes the start of the program in the log under a data directory, and says whether that could be
done. -/
def noteStart (data : Path) : IO Bool := do
  try
    IO.FS.createDirAll (Cli.logDirectory data).display
    let file ← IO.FS.Handle.mk (Cli.logFile data).display .append
    file.putStrLn "Starting planet-ls"
    return true
  catch _ =>
    return false

/-- Notes the start of the program in the first log that can be opened. -/
def openLog (w : World) : IO Unit := do
  for data in Cli.dataDirectories w do
    if ← noteStart data then
      return
  IO.eprintln "Starting planet-ls"

/-- Writes messages. -/
def send (output : IO.FS.Stream) (frames : List Json) : IO Unit := do
  output.write ⟨(Frame.writeAll frames).toArray⟩
  output.flush

/-- Serves the client until the session ends. -/
partial def serve (input output : IO.FS.Stream) (s : Session) : IO SessionEnd := do
  let bytes ← input.read (USize.ofNat (Frame.lack s.pending))
  let (s, frames) := if bytes.isEmpty then s.close else s.feed bytes.toList
  send output frames
  match s.ended with
  | some how => return how
  | none => serve input output s

end PlanetServer.Main

/-- Serves one client and reports how that went by the exit code. -/
def main : IO UInt32 := do
  let w ← PlanetServer.Main.world
  PlanetServer.Main.openLog w
  let s := PlanetServer.Session.start (PlanetServer.Cli.unchanging w) (PlanetServer.Settings.load w)
  let how ← PlanetServer.Main.serve (← IO.getStdin) (← IO.getStdout) s
  if let some line := PlanetServer.Cli.complaint? how then
    IO.eprintln line
  return (PlanetServer.Cli.exitCode how).toUInt32
