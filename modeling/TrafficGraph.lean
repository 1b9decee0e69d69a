import TrafficGraph.Main
import TrafficGraph.Pool.Desk
import TrafficGraph.Session
import TrafficGraph.Proofs.Reading.Action
import TrafficGraph.Proofs.Action.WellFormed
import TrafficGraph.Proofs.Session.Effect
import TrafficGraph.Proofs.Session.WellFormed
import TrafficGraph.Proofs.Address.Dotted
import TrafficGraph.Proofs.Reading.Written
import TrafficGraph.Proofs.Node.Written
import TrafficGraph.Proofs.Fault.LetterCase
import TrafficGraph.Proofs.Reading.LetterCase
import TrafficGraph.Proofs.Node.LetterCase
import TrafficGraph.Proofs.Command.Report
import TrafficGraph.Proofs.Session.History
import TrafficGraph.Proofs.Session.References
import TrafficGraph.Proofs.Node.Lookup
import TrafficGraph.Proofs.Reading.Log
import TrafficGraph.Proofs.Node.Log
import TrafficGraph.Proofs.Json.Compact
import TrafficGraph.Proofs.Action.Json
import TrafficGraph.Proofs.Pool.History
import TrafficGraph.Proofs.Node.Json
import TrafficGraph.Proofs.Settings.Document
import TrafficGraph.Proofs.Command.Log
import TrafficGraph.Proofs.Text.Run
import TrafficGraph.Proofs.Numeral.Conversion
import TrafficGraph.Proofs.Reading.Size
import TrafficGraph.Proofs.Reading.Decision
import TrafficGraph.Proofs.Json.Layout
import TrafficGraph.Proofs.Json.Indented
import TrafficGraph.Proofs.Command.Unambiguous
import TrafficGraph.Proofs.Pool.Sequence
import TrafficGraph.Proofs.Pool.Order
import TrafficGraph.Proofs.Fault.First
import TrafficGraph.Proofs.Reading.Start
import TrafficGraph.Proofs.Pool.OwnHost
import TrafficGraph.Proofs.Reading.Transfer
import TrafficGraph.Proofs.Resolver.Table
import TrafficGraph.Proofs.Node.NewHost
import TrafficGraph.Proofs.Settings.Acceptance
import TrafficGraph.Proofs.Reading.Port
import TrafficGraph.Proofs.Reading.Location
