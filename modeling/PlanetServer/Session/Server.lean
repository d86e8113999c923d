import PlanetServer.Protocol.Incoming
import PlanetServer.Protocol.Params
import PlanetServer.Session.Compile
import PlanetServer.Session.Validation

/-!
# The server

The server handles the messages of the client one by one. Handling a message changes its state, asks
the writer for messages, and may start a job or end the session.

* `Server.answer` handles requests, each of which is answered once: at once, or by the job that it
  starts.
* `Server.notice` handles notifications.
* `Server.dispatch` handles frames, of which those that hold no message are ignored.
-/

namespace PlanetServer

/-- The state of the server. -/
structure Server where
  /-- The settings. -/
  settings : Settings
  /-- The root of the workspace, once the client has named one. -/
  root : Option Path
  /-- The documents. -/
  documents : Documents
  /-- The diagnostics. -/
  store : Store
  /-- Whether the session was started. -/
  initialized : Bool
  /-- Whether the client has announced the end of the session. -/
  shutdownRequested : Bool

/-- Work that goes on after a message was handled. -/
inductive Job where
  /-- The validation of a document. -/
  | validate (validation : Validation)
  /-- A build. -/
  | compile (compile : Compile)

/-- The number of builds in a job. -/
def Job.builds : Job → Nat
  | validate _ => 0
  | compile _ => 1

/-- What the server does about a message. -/
structure Reaction where
  /-- What the writer is asked to do. -/
  commands : List Command
  /-- The job that is started. -/
  job : Option Job
  /-- Whether the session ends, and if it does, whether its end was announced. -/
  ended : Option Bool

namespace Reaction

/-- Nothing is done. -/
def none : Reaction :=
  ⟨[], .none, .none⟩

/-- A message is sent. -/
def send (frame : Json) : Reaction :=
  ⟨[.send frame], .none, .none⟩

/-- A job is started. -/
def start (job : Job) : Reaction :=
  ⟨[], some job, .none⟩

end Reaction

/-! ### Errors -/

/-- Why a request is refused. -/
inductive RequestError where
  /-- The session was already started. -/
  | alreadyInitialized
  /-- The session was not started yet. -/
  | notInitialized
  /-- The end of the session was announced. -/
  | shuttingDown
  /-- The parameters that start a session are invalid. -/
  | invalidInitialize
  /-- The parameters of a command are invalid. -/
  | invalidCommand
  /-- There is no such command. -/
  | unknownCommand (command : String)
  /-- There is no such method. -/
  | unknownMethod (method : String)
deriving DecidableEq, Repr

namespace RequestError

/-- The code of an error. -/
def code : RequestError → Int
  | alreadyInitialized | shuttingDown => -32600
  | notInitialized => -32002
  | unknownMethod _ => -32601
  | invalidInitialize | invalidCommand | unknownCommand _ => -32602

/-- What an error says, as far as it is known. -/
def message : RequestError → String
  | alreadyInitialized => "Server is already initialized"
  | notInitialized => "Server is not initialized"
  | shuttingDown => "Server is shutting down"
  | invalidInitialize => "Invalid initialize params: "
  | invalidCommand => "Invalid executeCommand params: "
  | unknownCommand command => "Unknown command: " ++ command
  | unknownMethod method => "Method not found: " ++ method

/-- The answer to a request that is refused. -/
def response (id : Json) (e : RequestError) : Reaction :=
  .send (Payload.failure id e.code e.message)

end RequestError

namespace Server

/-- The server before the first message. -/
def new (settings : Settings) : Server :=
  ⟨settings, none, .empty, .empty, false, false⟩

/-! ### Requests -/

/-- The parameters that start a session. They may be left out. -/
def initializeParams? : Json → Option Params.Initialize
  | .null => some .none
  | params => Params.Initialize.ofJson? params

/-- Starts the session. -/
def openSession (s : Server) (id params : Json) : Server × Reaction :=
  match initializeParams? params with
  | some given =>
    ({ s with root := given.root?, initialized := true },
     .send (Payload.success id Payload.initializeResult))
  | none => (s, RequestError.invalidInitialize.response id)

/-- Executes a command. The only one is to run the compiler, in a directory where no root of the
workspace is known. -/
def execute (s : Server) (directory : Path) (id params : Json) : Reaction :=
  match Params.command? params with
  | none => RequestError.invalidCommand.response id
  | some command =>
    if command = Payload.compileCommand then
      .start (.compile ⟨id, s.settings.build, s.root.getD directory⟩)
    else (RequestError.unknownCommand command).response id

/-- Answers a request within a session that goes on. -/
def answerActive (s : Server) (directory : Path) (id : Json) (method : String) (params : Json) :
    Server × Reaction :=
  match method with
  | "shutdown" => ({ s with shutdownRequested := true }, .send (Payload.success id .null))
  | "textDocument/completion" => (s, .send (Payload.success id Payload.completions))
  | "workspace/executeCommand" => (s, s.execute directory id params)
  | method => (s, (RequestError.unknownMethod method).response id)

/-- Answers a request. -/
def answer (s : Server) (directory : Path) (id : Json) (method : String) (params : Json) :
    Server × Reaction :=
  if method = "initialize" then
    if s.initialized then (s, RequestError.alreadyInitialized.response id)
    else s.openSession id params
  else if !s.initialized then (s, RequestError.notInitialized.response id)
  else if s.shutdownRequested then (s, RequestError.shuttingDown.response id)
  else s.answerActive directory id method params

/-! ### Notifications -/

/-- Takes the new text of a document and starts its validation. -/
def edit (s : Server) (e : Params.Edit) : Server × Reaction :=
  let (revision, documents) := s.documents.openAt e.uri e.version
  ({ s with documents }, .start (.validate (.start e.uri e.version revision e.text)))

/-- Closes a document and clears what the editor shows for it. -/
def close (s : Server) (uri : String) : Server × Reaction :=
  let (revision, documents) := s.documents.close uri
  let publish := Command.publish uri revision (Payload.publish uri none [])
  ({ s with documents, store := s.store.close uri revision }, ⟨[publish], none, none⟩)

/-- Handles a notification about the documents of a session. -/
def noticeDocument (s : Server) (method : String) (params : Json) : Server × Reaction :=
  match method with
  | "textDocument/didOpen" =>
    match Params.opened? params with
    | some e => s.edit e
    | none => (s, .none)
  | "textDocument/didChange" =>
    match Params.changed? params with
    | some (some e) => s.edit e
    | _ => (s, .none)
  | "textDocument/didClose" =>
    match Params.closed? params with
    | some uri => s.close uri
    | none => (s, .none)
  | _ => (s, .none)

/-- Handles a notification. -/
def notice (s : Server) (method : String) (params : Json) : Server × Reaction :=
  if method = "exit" then (s, ⟨[], none, some s.shutdownRequested⟩)
  else if method = "initialized" then (s, .send (Payload.logMessage .info "Planet LSP ready"))
  else if s.initialized then s.noticeDocument method params
  else (s, .none)

/-! ### All messages -/

/-- Handles a frame. -/
def dispatch (s : Server) (directory : Path) (frame : Json) : Server × Reaction :=
  match Incoming.ofFrame? frame with
  | some (.request id method params) => s.answer directory id method params
  | some (.notification method params) => s.notice method params
  | some (.response _) | none => (s, .none)

/-- Does all the work of a job: the state after it, and what it asks the writer. -/
def finish (s : Server) (around : Surroundings) : Job → Server × List Command
  | .validate v =>
    let (store, commands) := v.run s.settings.locale s.documents s.store
    ({ s with store }, commands)
  | .compile c => (s, c.run around)

end Server

end PlanetServer
