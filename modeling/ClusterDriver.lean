import ClusterDriver.Bytes
import ClusterDriver.Channel
import ClusterDriver.Channel.Error
import ClusterDriver.Channel.Handshake
import ClusterDriver.Channel.Limits
import ClusterDriver.Channel.StreamIds
import ClusterDriver.Cluster.Node
import ClusterDriver.Cluster.Plan
import ClusterDriver.Cluster.Tracker
import ClusterDriver.Config
import ClusterDriver.Credentials
import ClusterDriver.Document.Config
import ClusterDriver.Document.Metrics
import ClusterDriver.Document.Outcome
import ClusterDriver.Document.Servers
import ClusterDriver.Document.Settings
import ClusterDriver.Document.Shutdown
import ClusterDriver.Document.Values
import ClusterDriver.DriverError
import ClusterDriver.Frame
import ClusterDriver.Frame.Reader
import ClusterDriver.Json
import ClusterDriver.Json.Reader
import ClusterDriver.Json.Text
import ClusterDriver.Metrics
import ClusterDriver.Metrics.Histogram
import ClusterDriver.Opcode
import ClusterDriver.Pool
import ClusterDriver.ProtocolError
import ClusterDriver.Reconnect
import ClusterDriver.Request
import ClusterDriver.Request.Context
import ClusterDriver.Request.Error
import ClusterDriver.Request.Profile
import ClusterDriver.Request.Retry
import ClusterDriver.Request.Run
import ClusterDriver.Request.Speculation
import ClusterDriver.Scenario.Cluster
import ClusterDriver.Scenario.Connection
import ClusterDriver.Scenario.Context
import ClusterDriver.Scenario.Naming
import ClusterDriver.Scenario.Pooling
import ClusterDriver.Scenario.Requests
import ClusterDriver.Scenario.Scheduling
import ClusterDriver.Scenario.Sessions
import ClusterDriver.Scenario.Tracking
import ClusterDriver.Scenario.Waits
import ClusterDriver.Scheduler
import ClusterDriver.ServerError
import ClusterDriver.Shutdown
import ClusterDriver.Simulation.Agenda
import ClusterDriver.Simulation.Connections
import ClusterDriver.Simulation.Network
import ClusterDriver.Simulation.Nodes
import ClusterDriver.Simulation.Pools
import ClusterDriver.Simulation.Process
import ClusterDriver.Simulation.Requests
import ClusterDriver.Simulation.Server
import ClusterDriver.Simulation.Servers
import ClusterDriver.Simulation.Sessions
import ClusterDriver.Simulation.Turns
import ClusterDriver.Simulation.World
import ClusterDriver.SocketAddress
import ClusterDriver.Text.Duration
import ClusterDriver.Text.Hex
import ClusterDriver.Text.Hidden
import ClusterDriver.Text.Quoted
import ClusterDriver.Text.Utf8
import ClusterDriver.Token.Murmur
import ClusterDriver.Token.Ring
import ClusterDriver.Proofs.StreamIds
import ClusterDriver.Proofs.Channel.Handling
import ClusterDriver.Proofs.Channel.Accounts
import ClusterDriver.Proofs.Channel.History
import ClusterDriver.Proofs.Channel.Completion
import ClusterDriver.Proofs.Channel.Ending
import ClusterDriver.Proofs.Channel.Parting
import ClusterDriver.Proofs.Channel.Line
import ClusterDriver.Proofs.Channel.Conversation
import ClusterDriver.Proofs.Channel.Delivery
import ClusterDriver.Proofs.Request.Counting
import ClusterDriver.Proofs.Request.Steps
import ClusterDriver.Proofs.Request.Lifetime
import ClusterDriver.Proofs.Request.Turns
import ClusterDriver.Proofs.Request.Lasting
import ClusterDriver.Proofs.Request.Verdict
import ClusterDriver.Proofs.Request.Numbering
import ClusterDriver.Proofs.Request.Course
import ClusterDriver.Proofs.Request.Paths
import ClusterDriver.Proofs.Request.Once
import ClusterDriver.Proofs.Request.Deadline
import ClusterDriver.Proofs.Request.Load
import ClusterDriver.Proofs.Request.Budget
import ClusterDriver.Proofs.Request.Exhaustion
import ClusterDriver.Proofs.Request.Trace
import ClusterDriver.Proofs.Request.Polling
import ClusterDriver.Proofs.Request.Wires
import ClusterDriver.Proofs.Request.Custody
import ClusterDriver.Proofs.Request.Chronicle
import ClusterDriver.Proofs.Pool.History
import ClusterDriver.Proofs.Cluster.History
import ClusterDriver.Proofs.Cluster.Agreement
import ClusterDriver.Proofs.Cluster.Staleness
import ClusterDriver.Proofs.Pool.Closing
import ClusterDriver.Proofs.Request.Surroundings
import ClusterDriver.Proofs.Session.Standing
import ClusterDriver.Proofs.Session.Bystanders
import ClusterDriver.Proofs.Session.Moves
import ClusterDriver.Proofs.Session.Shutdown
import ClusterDriver.Proofs.Frame
import ClusterDriver.Proofs.Request.Tally
import ClusterDriver.Proofs.Session.Affairs
import ClusterDriver.Proofs.Session.Wiring
import ClusterDriver.Proofs.Session.Rewiring
import ClusterDriver.Proofs.Session.Shifts
import ClusterDriver.Proofs.Session.Living
import ClusterDriver.Proofs.Session.Removal
import ClusterDriver.Proofs.Session.Tasks
import ClusterDriver.Proofs.Session.Promises
import ClusterDriver.Proofs.Session.Vigil
import ClusterDriver.Proofs.Session.Alarms
import ClusterDriver.Proofs.Session.Responses
import ClusterDriver.Proofs.Session.Grounds
import ClusterDriver.Proofs.Session.Counts
import ClusterDriver.Proofs.Frame.Stream
import ClusterDriver.Proofs.Channel.Authentication
import ClusterDriver.Proofs.Cluster.Subscriptions
import ClusterDriver.Proofs.Scheduler.Steps
import ClusterDriver.Proofs.Scheduler.Lives
import ClusterDriver.Proofs.Channel.Waking
import ClusterDriver.Proofs.Cluster.Plans
import ClusterDriver.Proofs.Cluster.Shares
import ClusterDriver.Proofs.Token.Ring
import ClusterDriver.Proofs.Token.Removal
import ClusterDriver.Proofs.Token.Murmur
import ClusterDriver.Proofs.ServerError
import ClusterDriver.Proofs.Text.Utf8
import ClusterDriver.Proofs.ServerError.Truncation
import ClusterDriver.Proofs.Channel.Handshake
import ClusterDriver.Proofs.Channel.Dialing
import ClusterDriver.Proofs.Scheduler.TimerSteps
import ClusterDriver.Proofs.Scheduler.Timers
import ClusterDriver.Proofs.Pool.Acquisition
import ClusterDriver.Proofs.Metrics.Bins
import ClusterDriver.Proofs.Metrics.Tiling
import ClusterDriver.Proofs.StreamIds.Calls
import ClusterDriver.Proofs.Metrics.Histogram
import ClusterDriver.Proofs.Metrics.Percentiles
import ClusterDriver.Proofs.Metrics.Counters
import ClusterDriver.Proofs.Shutdown
import ClusterDriver.Proofs.Reconnect
import ClusterDriver.Proofs.Pool.Backoff
import ClusterDriver.Proofs.Cluster.Settings
import ClusterDriver.Proofs.Config
