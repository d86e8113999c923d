import PlanetServer.Build.Runner
import PlanetServer.Protocol.Payload
import PlanetServer.Session.Writer
import PlanetServer.Workspace.Uri

/-!
# Builds on request

The client can ask for a build. Its problems are published file by file, the user is told how it
went, and then the request is answered.

What a build finds is up to the compiler and the files at that time. So a session is given its
`Surroundings` anew for each build.
-/

namespace PlanetServer

/-- A build that a request asked for. -/
structure Compile where
  /-- The identifier of the request. -/
  id : Json
  /-- How the compiler is run. -/
  settings : BuildSettings
  /-- The root of the workspace. -/
  root : Path

/-- What is around the server at the time of one build. -/
structure Surroundings where
  /-- The working directory. -/
  directory : Path
  /-- What comes of a build with some settings in the root of a workspace. -/
  build : (settings : BuildSettings) → (root : Path) → Except Build.Failure Build.Report

namespace Compile

/-- The message that publishes the problems of one file, none if its path has no name. -/
def publish? (root : Path) (file : Build.FileDiagnostics) : Option Json :=
  (Uri.ofReported? root file.path).map fun uri => Payload.publish uri none file.diagnostics

/-- The messages about a report: the problems of each file, and then the summary. -/
def announce (root : Path) (r : Build.Report) : List Json :=
  r.files.filterMap (publish? root) ++ [Payload.showMessage r.level r.summary]

/-- The result of the request for a build with a report. -/
def result (r : Build.Report) : Json :=
  .ofMembers [("exitCode", .int r.exitCode), ("diagnostics", .nat r.diagnosticCount)]

/-- The messages about a build, and the result of the request. -/
def outcome (settings : BuildSettings) (root : Path) :
    Except Build.Failure Build.Report → List Json × Json
  | .ok report => (announce root report, result report)
  | .error why =>
    ([Payload.showMessage .error ("Planet build failed: " ++ why.message settings)], .null)

/-- A whole build: what it asks the writer. -/
def run (around : Surroundings) (c : Compile) : List Command :=
  let (frames, result) := outcome c.settings c.root (around.build c.settings c.root)
  (frames ++ [Payload.success c.id result]).map .send

end Compile

end PlanetServer
