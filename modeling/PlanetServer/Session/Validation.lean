import PlanetServer.Protocol.Payload
import PlanetServer.Session.Writer
import PlanetServer.Workspace.Documents
import PlanetServer.Workspace.Store

/-!
# Validations

Every opening and every change of a document starts a validation, which finds the diagnostics of the
text and publishes them. Other events may come between any two of its steps, so it looks twice
whether its revision is still the latest one of the document: before the analysis, and before the
diagnostics are published.

* `Validation.step` takes one step.
* `Validation.run` takes all steps, with nothing in between.
-/

namespace PlanetServer

/-- How far a validation has come. -/
inductive Stage where
  /-- It has to check that its revision is the latest one. -/
  | started
  /-- It has to analyze the text and to store the result. -/
  | admitted
  /-- It has to check its revision again. -/
  | analyzed (diagnostics : List Diagnostic)
  /-- It has to publish its result. -/
  | confirmed (diagnostics : List Diagnostic)
  /-- It has ended. -/
  | finished
deriving DecidableEq, Repr

/-- One run of the analysis over one revision of a document. -/
structure Validation where
  /-- The name of the document. -/
  uri : String
  /-- The version that the client gave to the text. -/
  version : Int
  /-- The revision that the server gave to it. -/
  revision : Nat
  /-- The text. -/
  text : String
  /-- How far the validation has come. -/
  stage : Stage
deriving DecidableEq, Repr

namespace Validation

/-- The validation of an edit that got a revision, before its first step. -/
def start (uri : String) (version : Int) (revision : Nat) (text : String) : Validation :=
  ⟨uri, version, revision, text, .started⟩

/-- The command to publish the diagnostics that a validation found. -/
def publish (v : Validation) (diagnostics : List Diagnostic) : Command :=
  .publish v.uri v.revision (Payload.publish v.uri (some v.version) diagnostics)

/-- The stage after a check of the revision. -/
def checked (documents : Documents) (v : Validation) (next : Stage) : Stage :=
  if documents.isCurrent v.uri v.revision then next else .finished

/-- One step of a validation: how far it then has come, the store, and what it asks the writer. -/
def step (locale : Locale) (documents : Documents) (store : Store) (v : Validation) :
    Validation × Store × List Command :=
  match v.stage with
  | .started => ({ v with stage := v.checked documents .admitted }, store, [])
  | .admitted =>
    match store.revalidateAt locale v.uri v.revision v.text with
    | (some diagnostics, store) => ({ v with stage := .analyzed diagnostics }, store, [])
    | (none, store) => ({ v with stage := .finished }, store, [])
  | .analyzed diagnostics =>
    ({ v with stage := v.checked documents (.confirmed diagnostics) }, store, [])
  | .confirmed diagnostics => ({ v with stage := .finished }, store, [v.publish diagnostics])
  | .finished => (v, store, [])

/-- A number of steps in a row: the store after them, and what they ask the writer. -/
def steps (locale : Locale) (documents : Documents) :
    Nat → Store → Validation → Store × List Command
  | 0, store, _ => (store, [])
  | count + 1, store, v =>
    let (v, store, commands) := v.step locale documents store
    let (store, more) := steps locale documents count store v
    (store, commands ++ more)

/-- The number of steps of a validation. -/
def stepCount : Nat :=
  4

/-- A whole validation: the store after it, and what it asks the writer. -/
def run (locale : Locale) (documents : Documents) (store : Store) (v : Validation) :
    Store × List Command :=
  steps locale documents stepCount store v

end Validation

end PlanetServer
