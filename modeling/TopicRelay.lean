import TopicRelay.Broker.Connection
import TopicRelay.Broker.LogOnly
import TopicRelay.Broker.Session
import TopicRelay.Broker.Topics
import TopicRelay.CommandLine.Arguments
import TopicRelay.CommandLine.Run
import TopicRelay.Config.Formats
import TopicRelay.Config.Load
import TopicRelay.Config.Model
import TopicRelay.Config.Record
import TopicRelay.Config.Schema
import TopicRelay.Config.Written
import TopicRelay.Content.Charset
import TopicRelay.Content.Kind
import TopicRelay.Content.Payload
import TopicRelay.Content.PollError
import TopicRelay.Content.Resolution
import TopicRelay.Content.Response
import TopicRelay.Content.TopicValue
import TopicRelay.Control.Lifecycle
import TopicRelay.Control.ModelFeed
import TopicRelay.Control.Resolution
import TopicRelay.Control.Services
import TopicRelay.Decimal.Binary64
import TopicRelay.Decimal.Power
import TopicRelay.Decimal.Shortest
import TopicRelay.Files
import TopicRelay.Json.Node
import TopicRelay.Json.Numeral
import TopicRelay.Json.Reader
import TopicRelay.Json.Value
import TopicRelay.Json.Writer
import TopicRelay.Json5.Letters
import TopicRelay.Json5.Numeral
import TopicRelay.Json5.Quoted
import TopicRelay.Json5.Tree
import TopicRelay.Log.Entry
import TopicRelay.Main
import TopicRelay.Polling.Error
import TopicRelay.Polling.Handler
import TopicRelay.Polling.HttpClient
import TopicRelay.Polling.Metrics
import TopicRelay.Polling.Session
import TopicRelay.Proofs.Control.Adapter
import TopicRelay.Proofs.Control.Agreement
import TopicRelay.Proofs.Control.Course
import TopicRelay.Proofs.Control.Generations
import TopicRelay.Proofs.Control.LatestModel
import TopicRelay.Proofs.Control.Ownership
import TopicRelay.Proofs.Control.Services
import TopicRelay.Publication.Error
import TopicRelay.Publication.Reentry
import TopicRelay.Publication.Registry
import TopicRelay.Publication.Source
import TopicRelay.Publication.Target
import TopicRelay.Simulation.BringUp
import TopicRelay.Simulation.Command
import TopicRelay.Simulation.Endpoints
import TopicRelay.Simulation.Fixtures
import TopicRelay.Simulation.Governance
import TopicRelay.Simulation.History
import TopicRelay.Simulation.LogSessions
import TopicRelay.Simulation.Observation
import TopicRelay.Simulation.Recurring
import TopicRelay.Simulation.Run
import TopicRelay.Simulation.Sessions
import TopicRelay.Simulation.StandInBroker
import TopicRelay.Simulation.Work
import TopicRelay.Simulation.World
import TopicRelay.Text.Blank
import TopicRelay.Text.Digits
import TopicRelay.Text.Fold
import TopicRelay.Text.Printable
import TopicRelay.Text.Quoted
import TopicRelay.Text.Utf8
import TopicRelay.Time.Agenda
import TopicRelay.Time.FixedDelay
import TopicRelay.Trust.Base64
import TopicRelay.Trust.Context
import TopicRelay.Trust.Pem
import TopicRelay.Proofs.Polling.Moves
import TopicRelay.Proofs.Polling.Silence
import TopicRelay.Proofs.Polling.Schedule
import TopicRelay.Proofs.Polling.Delivery
import TopicRelay.Proofs.Simulation.Overlap
import TopicRelay.Proofs.Control.Manager
import TopicRelay.Proofs.Control.Reconfiguration
import TopicRelay.Proofs.Control.Shutdown
import TopicRelay.Proofs.Simulation.Sections
import TopicRelay.Proofs.Simulation.Removal
import TopicRelay.Proofs.Simulation.Chronicle
import TopicRelay.Proofs.Simulation.Past
import TopicRelay.Proofs.Simulation.Provenance
import TopicRelay.Proofs.Time.Lanes
import TopicRelay.Proofs.Simulation.Solo
import TopicRelay.Proofs.Simulation.Concerning
import TopicRelay.Proofs.Simulation.Shows
import TopicRelay.Proofs.Simulation.Passes
import TopicRelay.Proofs.Simulation.Cycles
import TopicRelay.Proofs.Simulation.Lockstep
import TopicRelay.Proofs.Simulation.Aftermath
import TopicRelay.Proofs.Simulation.Launch
import TopicRelay.Proofs.Simulation.Isolation
import TopicRelay.Proofs.Publication.Hooks
import TopicRelay.Proofs.Control.Differences
import TopicRelay.Proofs.Control.Retry
import TopicRelay.Proofs.Simulation.Binding
import TopicRelay.Proofs.Publication.FollowUps
import TopicRelay.Proofs.Control.Acceptance
import TopicRelay.Proofs.Polling.Starting
import TopicRelay.Proofs.Publication.Mirror
import TopicRelay.Proofs.Publication.Errands
import TopicRelay.Proofs.Broker.Registrations
import TopicRelay.Proofs.Simulation.Notifications
import TopicRelay.Proofs.Simulation.Undisturbed
import TopicRelay.Proofs.Control.Numbering
import TopicRelay.Proofs.Control.Feeding
import TopicRelay.Proofs.Simulation.Governing
import TopicRelay.Proofs.Simulation.Ongoing
import TopicRelay.Proofs.Simulation.OwnTurn
import TopicRelay.Proofs.Simulation.Punctuality
import TopicRelay.Proofs.Content.Kinds
import TopicRelay.Proofs.Content.Charsets
import TopicRelay.Proofs.Content.Republication
import TopicRelay.Proofs.Config.Loading
import TopicRelay.Proofs.Trust.Base64
import TopicRelay.Proofs.Trust.Lines
import TopicRelay.Proofs.Trust.Bundles
import TopicRelay.Proofs.Polling.Accounts
import TopicRelay.Proofs.Simulation.Balance
