import PlanetServer.Settings.Environment
import PlanetServer.Workspace.Path

/-!
# The machine the server runs on

Files and directories, environment variables and the working directory, as a value. A file may be one
of the ordinary programs, which are known by their names.
-/

namespace PlanetServer.Host

open Utf8 (Bytes)

/-- What stands under a path. -/
inductive Node where
  /-- A file, and whether it may be executed. -/
  | file (content : Bytes) (executable : Bool)
  /-- A directory. -/
  | directory
  /-- An ordinary program. -/
  | program (name : String)
deriving DecidableEq, Repr

/-- The machine. -/
structure World where
  /-- What stands under each path, given by its components. The directories on the way are
  understood. -/
  nodes : List (List Bytes × Node)
  /-- The variables of the environment. -/
  env : Environment
  /-- The working directory. -/
  cwd : Path
  /-- The home directory of the user, where no variable names another one. -/
  userHome : Option Path

/-- Why the machine refuses to open or start something. -/
inductive Refusal where
  /-- Nothing stands under the path. -/
  | missing
  /-- A component on the way is not a directory. -/
  | notDirectory
  /-- The path leads to a directory. -/
  | isDirectory
  /-- The file may not be executed. -/
  | denied
  /-- The file is not a program. -/
  | format
  /-- A byte is zero, which ends texts for the machine. -/
  | zeroByte
deriving DecidableEq, Repr

/-- What a refusal says. -/
def Refusal.message : Refusal → String
  | missing => "No such file or directory (os error 2)"
  | notDirectory => "Not a directory (os error 20)"
  | isDirectory => "Is a directory (os error 21)"
  | denied => "Permission denied (os error 13)"
  | format => "Exec format error (os error 8)"
  | zeroByte => "nul byte found in provided data"

namespace World

/-- What stands under some components. -/
def nodeAt? (w : World) (components : List Bytes) : Option Node :=
  match components with
  | [] => some .directory
  | _ =>
    match w.nodes.lookup components with
    | some node => some node
    | none =>
      if w.nodes.any fun entry => components.isPrefixOf entry.1 then some .directory else none

/-- Where the pieces of a path lead from some components. Every piece is looked for in a directory,
one of two stops leads one up, and one of one stop, or without any bytes, stays there. -/
def walk (w : World) (place : List Bytes) : List Bytes → Except Refusal (List Bytes)
  | [] => .ok place
  | piece :: pieces =>
    match w.nodeAt? place with
    | none => .error .missing
    | some .directory =>
      if piece = [] ∨ piece = [Path.stop] then w.walk place pieces
      else if piece = [Path.stop, Path.stop] then w.walk place.dropLast pieces
      else w.walk (place ++ [piece]) pieces
    | some _ => .error .notDirectory

/-- What stands under a path. -/
def find (w : World) (p : Path) : Except Refusal Node :=
  if p.bytes.isEmpty then .error .missing
  else if p.bytes.contains 0 then .error .zeroByte
  else
    match w.walk [] (Path.splitAt Path.slash (w.cwd.join p).bytes) with
    | .error why => .error why
    | .ok components =>
      match w.nodeAt? components with
      | some node => .ok node
      | none => .error .missing

/-- Whether something stands under a path. -/
def hasPath (w : World) (p : Path) : Bool :=
  match w.find p with
  | .ok _ => true
  | .error _ => false

/-- Whether a directory stands under a path. -/
def isDirectory (w : World) (p : Path) : Bool :=
  match w.find p with
  | .ok .directory => true
  | _ => false

/-- Whether a file that may be executed stands under a path. -/
def isExecutable (w : World) (p : Path) : Bool :=
  match w.find p with
  | .ok (.file _ executable) => executable
  | .ok (.program _) => true
  | _ => false

/-- The content of the file under a path. -/
def read (w : World) (p : Path) : Except Refusal Bytes :=
  match w.find p with
  | .ok (.file content _) => .ok content
  | .ok .directory => .error .isDirectory
  | .ok (.program _) => .ok []
  | .error why => .error why

/-- The components of a path from the root of the machine. -/
def locate (w : World) (p : Path) : List Bytes :=
  (w.cwd.join p).components

/-- The machine with a node under a path. -/
def put (w : World) (p : Path) (node : Node) : World :=
  let components := w.locate p
  { w with nodes := (components, node) :: w.nodes.filter fun entry => entry.1 ≠ components }

/-- Whether a directory can be made under a path, with all directories on the way. -/
def canMakeDirectory (w : World) (p : Path) : Bool :=
  let components := w.locate p
  (List.range (components.length + 1)).all fun n =>
    match w.nodeAt? (components.take n) with
    | some .directory | none => true
    | _ => false

/-- The machine that executes programs from another working directory. -/
def inDirectory (w : World) (p : Path) : World :=
  { w with cwd := w.cwd.join p }

/-- The directories in which commands are looked for. -/
def searchPath (w : World) : List Path :=
  match w.env.bytes? "PATH" with
  | some bytes => (Path.splitAt 0x3A bytes).map fun directory => ⟨directory⟩
  | none => []

/-- The ordinary programs and where they stand. -/
def programs : List (String × String) :=
  [("/bin/sh", "sh"), ("/usr/bin/sh", "sh"), ("/bin/echo", "echo"), ("/usr/bin/echo", "echo"),
   ("/bin/printf", "printf"), ("/usr/bin/printf", "printf"), ("/bin/cat", "cat"),
   ("/usr/bin/cat", "cat"), ("/bin/test", "test"), ("/usr/bin/test", "test"),
   ("/bin/sleep", "sleep"), ("/usr/bin/sleep", "sleep"), ("/bin/kill", "kill"),
   ("/usr/bin/kill", "kill"), ("/bin/true", "true"), ("/usr/bin/true", "true"),
   ("/bin/false", "false"), ("/usr/bin/false", "false"), ("/bin/pwd", "pwd"),
   ("/usr/bin/pwd", "pwd"), ("/usr/bin/env", "env")]

/-- A machine with the ordinary programs and nothing else. -/
def bare : World :=
  let named := programs.map fun (path, name) => ((Path.ofString path).components, Node.program name)
  ⟨named ++ [((Path.ofString "/tmp").components, .directory)],
   ⟨[("PATH", Utf8.encodeString "/usr/local/bin:/usr/bin:/bin")]⟩, .ofString "/",
   some (.ofString "/root")⟩

end World

end PlanetServer.Host
