import Mathlib.Tactic.Common
import PlanetServer.Protocol.Payload

/-!
# What an editor reads in messages

A message that publishes diagnostics tells an editor what to show for a document. Here is how an editor
reads such a message, apart from how the server writes it: the members of each object are looked up by
their names, and numbers and texts are taken for what they stand for.

* `Editor.Update` is what a message tells, and `Editor.update?` reads it.
* `Editor.update?_publish` says that the message which publishes diagnostics tells these.
-/

namespace PlanetServer

/-! ### Reading values -/

/-- The natural number, if this is one. -/
def Json.nat? (json : Json) : Option Nat :=
  json.int?.bind Int.toNat?

@[simp]
theorem Json.nat?_nat (n : Nat) :
  (nat n).nat? = some n
  := rfl

/-- Reads a position. -/
def Position.ofJson? (json : Json) : Option Position := do
  let line ← json.get? "line"
  let column ← json.get? "character"
  return ⟨← line.nat?, ← column.nat?⟩

@[simp]
theorem Position.ofJson?_toJson (p : Position) :
  ofJson? p.toJson = some p
  := by
  have line : p.toJson.get? "line" = some (.nat p.line) := rfl
  have column : p.toJson.get? "character" = some (.nat p.column) := rfl
  simp [ofJson?, line, column]

/-- Reads a range. -/
def Range.ofJson? (json : Json) : Option Range := do
  let start ← json.get? "start"
  let finish ← json.get? "end"
  return ⟨← Position.ofJson? start, ← Position.ofJson? finish⟩

@[simp]
theorem Range.ofJson?_toJson (r : Range) :
  ofJson? r.toJson = some r
  := by
  have start : r.toJson.get? "start" = some r.start.toJson := rfl
  have finish : r.toJson.get? "end" = some r.finish.toJson := rfl
  simp [ofJson?, start, finish]

/-- The severity that has a number in messages. -/
def Severity.ofCode? : Nat → Option Severity
  | 1 => some error
  | 2 => some warning
  | 3 => some information
  | 4 => some hint
  | _ => none

@[simp]
theorem Severity.ofCode?_code (s : Severity) :
  ofCode? s.code = some s
  := by
  cases s <;> rfl

/-- The origin that has a name in messages. -/
def Origin.ofName? : String → Option Origin
  | "syntax" => some parser
  | "build" => some build
  | _ => none

@[simp]
theorem Origin.ofName?_name (o : Origin) :
  ofName? o.name = some o
  := by
  cases o <;> rfl

/-- Reads a diagnostic. -/
def Diagnostic.ofJson? (json : Json) : Option Diagnostic := do
  let range ← json.get? "range"
  let severity ← json.get? "severity"
  let origin ← json.get? "source"
  let message ← json.get? "message"
  return ⟨← Severity.ofCode? (← severity.nat?), ← message.string?, ← Range.ofJson? range,
    ← Origin.ofName? (← origin.string?)⟩

theorem Diagnostic.ofJson?_toJson (d : Diagnostic) :
  ofJson? d.toJson = some d
  := by
  have range : d.toJson.get? "range" = some d.range.toJson := rfl
  have severity : d.toJson.get? "severity" = some (.nat d.severity.code) := rfl
  have origin : d.toJson.get? "source" = some (.string d.origin.name) := rfl
  have message : d.toJson.get? "message" = some (.string d.message) := rfl
  simp [ofJson?, range, severity, origin, message, Json.string?]

/-! ### Methods -/

/-- The method that a message names. -/
def Json.method? (frame : Json) : Option String :=
  (frame.get? "method").bind Json.string?

/-- Whether a message publishes diagnostics. -/
def isPublication (frame : Json) : Bool :=
  frame.method? = some "textDocument/publishDiagnostics"

theorem Payload.method?_notification (method : String) (params : Json) :
  (notification method params).method? = some method
  := rfl

theorem Payload.isPublication_publish (uri : String) (version : Option Int)
    (diagnostics : List Diagnostic) :
  isPublication (publish uri version diagnostics) = true
  := by
  rw [isPublication, publish, method?_notification]
  apply decide_eq_true rfl

/-! ### Updates -/

namespace Editor

/-- What a message tells an editor to show for a document, in place of all that it showed. -/
structure Update where
  /-- The document. -/
  uri : String
  /-- The version of the document to which the diagnostics belong, if one is given. -/
  version : Option Int
  /-- The diagnostics. -/
  diagnostics : List Diagnostic
deriving DecidableEq

/-- The version in the parameters of a message, which may be left out. -/
def version? (params : Json) : Option (Option Int) :=
  match params.get? "version" with
  | none => some none
  | some version => version.int?.map some

/-- What a message tells an editor to show, none if it does not publish diagnostics or cannot be
read. -/
def update? (frame : Json) : Option Update :=
  if isPublication frame then do
    let params ← frame.get? "params"
    let uri ← params.get? "uri"
    let diagnostics ← params.get? "diagnostics"
    return ⟨← uri.string?, ← version? params, ← (← diagnostics.list?).mapM Diagnostic.ofJson?⟩
  else none

theorem mapM_ofJson?_toJson (diagnostics : List Diagnostic) :
  (diagnostics.map Diagnostic.toJson).mapM Diagnostic.ofJson? = some diagnostics
  := by
  induction diagnostics with
  | nil => rfl
  | cons d diagnostics ih =>
    rw [List.map_cons, List.mapM_cons, ih, Diagnostic.ofJson?_toJson]
    rfl

/-- The message that publishes diagnostics tells an editor the document, its version if there is one,
and the diagnostics. -/
theorem update?_publish (uri : String) (version : Option Int) (diagnostics : List Diagnostic) :
  update? (Payload.publish uri version diagnostics) = some ⟨uri, version, diagnostics⟩
  := by
  have params : (Payload.publish uri version diagnostics).get? "params"
      = some (Payload.publishParams uri version diagnostics) := rfl
  have named : (Payload.publishParams uri version diagnostics).get? "uri" = some (.string uri) := by
    cases version <;> rfl
  have versioned : version? (Payload.publishParams uri version diagnostics) = some version := by
    cases version <;> rfl
  have listed : (Payload.publishParams uri version diagnostics).get? "diagnostics"
      = some (.array (diagnostics.map Diagnostic.toJson)) := by
    cases version <;> rfl
  rw [update?, if_pos (Payload.isPublication_publish ..)]
  simp only [params, named, versioned, listed, Json.string?, Json.list?, mapM_ofJson?_toJson,
    Option.bind_eq_bind, Option.bind_some, Option.pure_def]

end Editor

end PlanetServer
