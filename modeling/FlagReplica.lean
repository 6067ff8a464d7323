import FlagReplica.Settings.Connection
import FlagReplica.Settings.Reading
import FlagReplica.SharedLock
import FlagReplica.Cadence
import FlagReplica.Snapshot.Settings
import FlagReplica.Snapshot.Source
import FlagReplica.Proofs.Source.Standing
import FlagReplica.Proofs.Stream.Operations
import FlagReplica.Proofs.Stream.Run
import FlagReplica.Proofs.Stream.Lifecycle
import FlagReplica.Proofs.DataSet.Arrangement
import FlagReplica.Proofs.Json.Distinct
import FlagReplica.Proofs.Change.Decoded
import FlagReplica.Proofs.Stream.Contents
import FlagReplica.Proofs.Audience
import FlagReplica.Proofs.Poll.Operations
import FlagReplica.Proofs.Change.Refused
import FlagReplica.Proofs.Status.Alike
import FlagReplica.Proofs.Stream.Losses
import FlagReplica.Proofs.Source.Agreement
import FlagReplica.Proofs.Stream.EventOutcome
import FlagReplica.Proofs.Change.Unreadable
import FlagReplica.Proofs.Stream.Unreadable
import FlagReplica.Proofs.Stream.Foreign
import FlagReplica.Proofs.Health.Watch
import FlagReplica.Proofs.Stream.Interrupts
import FlagReplica.Proofs.Replica.Stage
import FlagReplica.Proofs.Replica.Coupling
import FlagReplica.Proofs.Replica.Reconnects
import FlagReplica.Proofs.Replica.Dispatch
import FlagReplica.Proofs.Poll.Run
import FlagReplica.Proofs.Poll.Lifecycle
import FlagReplica.Proofs.Fetcher
import FlagReplica.Proofs.Store.Updates
import FlagReplica.Proofs.Status.History
import FlagReplica.Proofs.SharedLock
import FlagReplica.Proofs.Change.Accepted
import FlagReplica.Proofs.Audience.Deliveries
import FlagReplica.Proofs.Stream.Accounts
import FlagReplica.Proofs.Audience.Listener
import FlagReplica.Proofs.Source.Reports
import FlagReplica.Proofs.Health.Guard
import FlagReplica.Proofs.Source.Advance
import FlagReplica.Proofs.Replica.Steps
import FlagReplica.Proofs.Replica.Run
import FlagReplica.Proofs.Source.Shut
import FlagReplica.Proofs.Replica.Shutdown
import FlagReplica.Proofs.Replica.Finality
import FlagReplica.Proofs.Source.ForGood
import FlagReplica.Proofs.Audience.Served
import FlagReplica.Proofs.Status.Order
import FlagReplica.Proofs.DataSet.Dependencies
import FlagReplica.Proofs.Poll.Late
import FlagReplica.Proofs.Health.Overlap
import FlagReplica.Proofs.Health.Stopped
import FlagReplica.Proofs.Cadence
import FlagReplica.Proofs.Item.Same
import FlagReplica.Proofs.Telemetry
import FlagReplica.Proofs.Change.TextPath
import FlagReplica.Proofs.Settings.Tags
import FlagReplica.Proofs.Settings.Addresses
