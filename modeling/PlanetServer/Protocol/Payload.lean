import PlanetServer.Diagnostic.Basic

/-!
# Messages to the client

The JSON forms of what the server says: what it can do, responses, and notifications.
-/

namespace PlanetServer.Payload

/-- The name of the command that runs the compiler. -/
def compileCommand : String :=
  "comet.compile"

/-- The keywords that are offered as completions. -/
def completionKeywords : List String :=
  ["if", "while", "execute", "return", "import", "var", "def"]

/-- What the server can do. -/
def capabilities : Json :=
  .ofMembers
    [("textDocumentSync", .ofMembers
       [("openClose", .bool true), ("change", .nat 1),
        ("save", .ofMembers [("includeText", .bool false)])]),
     ("completionProvider", .ofMembers
       [("resolveProvider", .bool false),
        ("triggerCharacters", .array [.string " ", .string "."])]),
     ("executeCommandProvider", .ofMembers
       [("commands", .array [.string compileCommand])])]

/-- The answer to the request that starts a session. -/
def initializeResult : Json :=
  .ofMembers
    [("capabilities", capabilities),
     ("serverInfo", .ofMembers [("name", .string "planet-ls"), ("version", .string "0.0.0")])]

/-- One completion. -/
def completion (keyword : String) : Json :=
  .ofMembers [("label", .string keyword), ("kind", .nat 14), ("insertText", .string keyword)]

/-- The completions that are offered. -/
def completions : Json :=
  .array (completionKeywords.map completion)

/-- The diagnostics of a document, for a version of it or for none. -/
def publishParams (uri : String) (version : Option Int) (diagnostics : List Diagnostic) : Json :=
  let always := [("uri", .string uri), ("diagnostics", .array (diagnostics.map Diagnostic.toJson))]
  match version with
  | some version => .ofMembers (("version", .int version) :: always)
  | none => .ofMembers always

/-- A text for the user. -/
def messageParams (level : Level) (message : String) : Json :=
  .ofMembers [("type", .nat level.code), ("message", .string message)]

/-- The response to a request that succeeded. -/
def success (id result : Json) : Json :=
  .ofMembers [("jsonrpc", .string "2.0"), ("id", id), ("result", result)]

/-- The response to a request that failed. -/
def failure (id : Json) (code : Int) (message : String) : Json :=
  .ofMembers
    [("jsonrpc", .string "2.0"), ("id", id),
     ("error", .ofMembers [("code", .int code), ("message", .string message)])]

/-- A notification. -/
def notification (method : String) (params : Json) : Json :=
  .ofMembers [("jsonrpc", .string "2.0"), ("method", .string method), ("params", params)]

/-- The notification that replaces what the editor shows for a document. -/
def publish (uri : String) (version : Option Int) (diagnostics : List Diagnostic) : Json :=
  notification "textDocument/publishDiagnostics" (publishParams uri version diagnostics)

/-- The notification that shows a text to the user. -/
def showMessage (level : Level) (message : String) : Json :=
  notification "window/showMessage" (messageParams level message)

/-- The notification that adds a text to the log of the client. -/
def logMessage (level : Level) (message : String) : Json :=
  notification "window/logMessage" (messageParams level message)

end PlanetServer.Payload
