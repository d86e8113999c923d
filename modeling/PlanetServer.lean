import PlanetServer.Text.Quoted
import PlanetServer.Token.KindSet
import PlanetServer.Token.Lexeme
import PlanetServer.Syntax.Program
import PlanetServer.Syntax.Outline
import PlanetServer.Json.Number
import PlanetServer.Json.Reader
import PlanetServer.Json.Writer
import PlanetServer.Workspace.Store
import PlanetServer.Workspace.Documents
import PlanetServer.Build.Report
import PlanetServer.Protocol.Frame
import PlanetServer.Protocol.Incoming
import PlanetServer.Protocol.Params
import PlanetServer.Protocol.Payload
import PlanetServer.Toml.Reader
import PlanetServer.Settings.Basic
import PlanetServer.Host.World
import PlanetServer.Host.Script
import PlanetServer.Host.Process
import PlanetServer.Settings.Lookup
import PlanetServer.Build.Runner
import PlanetServer.Host.System
import PlanetServer.Session.Cli
import PlanetServer.Main
import PlanetServer.Proofs.Grammar.Documents
import PlanetServer.Proofs.Grammar.FirstFailure
import PlanetServer.Proofs.Rule.Pieces
import PlanetServer.Proofs.Session.Freshness
import PlanetServer.Proofs.Token.Places
import PlanetServer.Proofs.Build.Extraction
import PlanetServer.Proofs.Protocol.Frames
import PlanetServer.Proofs.Session.Publications
import PlanetServer.Proofs.Session.Lifecycle
import PlanetServer.Proofs.Workspace.StoreHistory
import PlanetServer.Proofs.Rule.Hidden
import PlanetServer.Proofs.Rule.Appending
import PlanetServer.Proofs.Rule.SourceOrder
import PlanetServer.Proofs.Rule.Termination
import PlanetServer.Proofs.Build.Announcements
import PlanetServer.Proofs.Session.Rejections
import PlanetServer.Proofs.Grammar.Precedence
import PlanetServer.Proofs.Rule.Enclosure
import PlanetServer.Proofs.Rule.Expected
import PlanetServer.Proofs.Rule.Yield
import PlanetServer.Proofs.Token.Lines
import PlanetServer.Proofs.Token.Maximal
import PlanetServer.Proofs.Grammar.Height
import PlanetServer.Proofs.Diagnostic.Ranges
import PlanetServer.Proofs.Rule.Ends
import PlanetServer.Proofs.Diagnostic.Messages
import PlanetServer.Proofs.Diagnostic.ExpectedKinds
import PlanetServer.Proofs.Build.PrintedLine
import PlanetServer.Proofs.Protocol.Framing
import PlanetServer.Proofs.Workspace.DocumentHistory
import PlanetServer.Proofs.Workspace.RoundTrip
import PlanetServer.Proofs.Session.Superseded
import PlanetServer.Proofs.Settings.References
