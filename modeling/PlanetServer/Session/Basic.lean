import PlanetServer.Protocol.Frame
import PlanetServer.Session.Server

/-!
# Sessions

A session serves one client from its first byte to its end. All work that a message asks for is done
before the next message is handled. What is around the server may change at any time, and is given anew
for each build.

* `Session.handle` handles one message.
* `Session.feed` takes the next bytes of the client, and `Session.close` the end of them.
* `Session.serve` runs a whole session over pieces of the input.
-/

namespace PlanetServer

open Utf8 (Bytes)

/-- How a session ended. -/
inductive SessionEnd where
  /-- The client ended it, and had announced that or not. -/
  | exit (clean : Bool)
  /-- The input ended. -/
  | disconnected
  /-- The input was at fault. -/
  | failed (why : Frame.Error)
deriving DecidableEq, Repr

/-- What a fault of the input says, from the outermost circumstance to the innermost reason. -/
def SessionEnd.chain (why : Frame.Error) : List String :=
  "reading client message" :: why.chain

/-- A session. -/
structure Session where
  /-- What is around the server, by the number of builds before. -/
  surroundings : Nat → Surroundings
  /-- The number of builds so far. -/
  built : Nat
  /-- The server. -/
  server : Server
  /-- The writer. -/
  writer : Writer
  /-- The bytes that were received and not yet used. -/
  pending : Bytes
  /-- How it ended, if it has. -/
  ended : Option SessionEnd

namespace Session

/-- A session before its first byte. -/
def start (surroundings : Nat → Surroundings) (settings : Settings) : Session :=
  ⟨surroundings, 0, .new settings, .start, [], none⟩

/-- What is around the server now. -/
def around (s : Session) : Surroundings :=
  s.surroundings s.built

/-- The session after the work that a message asks for, all that is asked of the writer about it, and
whether the message ends the session. -/
def work (s : Session) (frame : Json) : Session × List Command × Option Bool :=
  let (server, reaction) := s.server.dispatch s.around.directory frame
  match reaction.job with
  | none => ({ s with server }, reaction.commands, reaction.ended)
  | some job =>
    let (server, commands) := server.finish s.around job
    ({ s with server, built := s.built + job.builds }, reaction.commands ++ commands, reaction.ended)

/-- The session after its end. The writer stops with it. -/
def stop (s : Session) (how : SessionEnd) : Session :=
  { s with writer := (s.writer.write [.shutdown]).2, ended := some how }

/-- Handles a message: the session after it, and the messages that are written. -/
def handle (s : Session) (frame : Json) : Session × List Json :=
  let (s, commands, ended) := s.work frame
  let (frames, writer) := s.writer.write commands
  match ended with
  | none => ({ s with writer }, frames)
  | some clean => ({ s with writer }.stop (.exit clean), frames)

/-- Handles the messages at the start of some bytes, the rest of which is kept for later. -/
def advance (closed : Bool) (s : Session) (bytes : Bytes) : Session × List Json :=
  match _h : Frame.read closed bytes with
  | .waiting => ({ s with pending := bytes }, [])
  | .finished => ({ s with pending := [] }.stop .disconnected, [])
  | .failed why => ({ s with pending := bytes }.stop (.failed why), [])
  | .message frame rest =>
    let (s, frames) := s.handle frame
    match s.ended with
    | some _ => ({ s with pending := rest }, frames)
    | none =>
      let (s, more) := advance closed s rest
      (s, frames ++ more)
termination_by bytes.length
decreasing_by exact Frame.read_rest_lt _h

/-- Takes the next bytes of the client. -/
def feed (s : Session) (bytes : Bytes) : Session × List Json :=
  advance false s (s.pending ++ bytes)

/-- Takes the end of the input. -/
def close (s : Session) : Session × List Json :=
  advance true s s.pending

/-- Serves pieces of the input up to the end of the session, or to the last of them: the session
after them, and the messages that are written for each piece. -/
def feedAll (s : Session) : List Bytes → Session × List (List Json)
  | [] => (s, [])
  | piece :: pieces =>
    let (s, frames) := s.feed piece
    match s.ended with
    | some _ => (s, [frames])
    | none =>
      let (s, more) := s.feedAll pieces
      (s, frames :: more)

/-- Serves a whole input, given in pieces: how the session ends, and the messages that are written
for each piece. -/
def serve (surroundings : Nat → Surroundings) (settings : Settings) (pieces : List Bytes) :
    SessionEnd × List (List Json) :=
  let (s, frames) := (start surroundings settings).feedAll pieces
  match s.ended with
  | some how => (how, frames)
  | none => ((s.close.1.ended).getD .disconnected, frames)

end Session

end PlanetServer
