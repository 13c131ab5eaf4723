import CallGateway.Text.Alphanumeric
import CallGateway.Text.CodePoints
import CallGateway.Text.Lowercase
import CallGateway.Text.Printable
import CallGateway.ServiceName
import CallGateway.Decimal.Shortest
import CallGateway.Json.Print
import CallGateway.Json.Scan
import CallGateway.Json.Record
import CallGateway.Uuid
import CallGateway.Instant.Text
import CallGateway.Message.Reply
import CallGateway.Procedure.Dispatch
import CallGateway.Procedure.Sample
import CallGateway.Broker
import CallGateway.Directory.Timeline
import CallGateway.Gateway.Pending
import CallGateway.Gateway.Config
import CallGateway.Worker.Config
import CallGateway.Deployment
import CallGateway.Settings
import CallGateway.Settings.Load
import CallGateway.Http.Message
import CallGateway.Http.MediaType
import CallGateway.Server.Identity
import CallGateway.Server
import CallGateway.Server.Api
import CallGateway.CommandLine.Run
import CallGateway.Main
import CallGateway.Proofs.Pending.History
import CallGateway.Proofs.Pending.Settlement
import CallGateway.Proofs.Pending.Accounting
import CallGateway.Proofs.Pending.Exact
import CallGateway.Proofs.Pending.Lines
import CallGateway.Proofs.Pending.Independence
import CallGateway.Proofs.Pending.LetGo
import CallGateway.Proofs.Text.Lowercase
import CallGateway.Proofs.ServiceName
import CallGateway.Proofs.ServiceName.Spelling
import CallGateway.Proofs.Resolution
import CallGateway.Proofs.Directory.Roll
import CallGateway.Proofs.Directory.Readiness
import CallGateway.Proofs.Gateway.Session
import CallGateway.Proofs.Gateway.Log
import CallGateway.Proofs.Gateway.Stages
import CallGateway.Proofs.Gateway.Happens
import CallGateway.Proofs.Gateway.Steps
import CallGateway.Proofs.Gateway.Accounts
import CallGateway.Proofs.Gateway.Faithful
import CallGateway.Proofs.Gateway.Refusals
import CallGateway.Proofs.Text.Digits
import CallGateway.Proofs.Binary64.Rounding
import CallGateway.Proofs.Binary64.Exact
import CallGateway.Proofs.Decimal
import CallGateway.Proofs.Json.Number
import CallGateway.Proofs.Json.String
import CallGateway.Proofs.Json.Grammar
import CallGateway.Proofs.Json.Printed
import CallGateway.Proofs.Json.Value
import CallGateway.Proofs.Json.Range
import CallGateway.Proofs.Json.Depth
import CallGateway.Proofs.Json.Record
import CallGateway.Proofs.Json.Whole
import CallGateway.Proofs.Uuid
import CallGateway.Proofs.Instant.Text
import CallGateway.Proofs.SocketAddress
import CallGateway.Proofs.Message.Wire
import CallGateway.Proofs.Message.RoundTrip
import CallGateway.Proofs.Message.ReplyRules
import CallGateway.Proofs.Message.Addressed
import CallGateway.Proofs.Message.Header
import CallGateway.Proofs.Procedure.NotFound
import CallGateway.Proofs.Procedure.Shallow
import CallGateway.Proofs.Procedure.Registry
import CallGateway.Proofs.Procedure.Catalog
import CallGateway.Proofs.Procedure.Verdict
import CallGateway.Proofs.Worker.Answers
import CallGateway.Proofs.Broker.Carries
import CallGateway.Proofs.Broker.Queues
import CallGateway.Proofs.Broker.History
import CallGateway.Proofs.Broker.Effect
import CallGateway.Proofs.Broker.Delivery
import CallGateway.Proofs.Broker.Books
import CallGateway.Proofs.Broker.Weight
import CallGateway.Proofs.Broker.Actions
import CallGateway.Proofs.Broker.Rotation
import CallGateway.Proofs.Broker.Sole
import CallGateway.Proofs.Broker.Since
import CallGateway.Proofs.Gateway.Fleet
import CallGateway.Proofs.Gateway.Sharing
import CallGateway.Proofs.Gateway.Replies
import CallGateway.Proofs.Gateway.Routing
import CallGateway.Proofs.Worker.Steps
import CallGateway.Proofs.Worker.Topics
import CallGateway.Proofs.Worker.Start
import CallGateway.Proofs.Procedure.Leniency
import CallGateway.Proofs.Worker.Shift
import CallGateway.Proofs.Worker.Duty
import CallGateway.Proofs.Deployment.Ledger
import CallGateway.Proofs.Deployment.Steps
import CallGateway.Proofs.Deployment.Owed
import CallGateway.Proofs.Deployment.Kinds
import CallGateway.Proofs.Deployment.Honest
import CallGateway.Proofs.Deployment.Trip
import CallGateway.Proofs.Deployment.Arrival
import CallGateway.Proofs.Deployment.Echo
import CallGateway.Proofs.Settings.Tree
import CallGateway.Proofs.Settings.File
import CallGateway.Proofs.Settings.Scalar
import CallGateway.Proofs.Settings.Variable
import CallGateway.Proofs.Server.Start
import CallGateway.Proofs.Server.Call
import CallGateway.Proofs.Server.Traffic
import CallGateway.Proofs.Server.Pools
import CallGateway.Proofs.Server.Shutdown
import CallGateway.Proofs.Server.Breakdown
