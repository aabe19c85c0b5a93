import ClusterDriver.Metrics.Histogram
import Std.Data.TreeMap

set_option autoImplicit false

namespace ClusterDriver

structure NodeStats where
  attempts : Nat := 0
  successes : Nat := 0
  errors : Nat := 0
  latency : Histogram := .empty
deriving Inhabited

/-- Errors are counted by name, attempts by the address of the node. -/
structure Metrics where
  submitted : Nat := 0
  succeeded : Nat := 0
  failed : Nat := 0
  cancelled : Nat := 0
  ignored : Nat := 0
  overallTimeouts : Nat := 0
  attempts : Nat := 0
  retries : Nat := 0
  speculativeExecutions : Nat := 0
  latency : Histogram := .empty
  errors : Std.TreeMap String Nat := ∅
  nodes : Std.TreeMap String NodeStats := ∅
deriving Inhabited

namespace Metrics

/-- What happened to a request or an attempt. Latencies are in microseconds. -/
inductive Event where
  | submitted
  | success (latency : Nat)
  | ignored (latency : Nat)
  | failure (kind : String) (latency : Nat)
  | overallTimeout
  | cancelled
  | retry
  | speculativeExecution
  | attempt (node : String)
  | outcome (node : String) (latency : Nat) (success : Bool)
  | nodeRemoved (node : String)
deriving DecidableEq, Repr

def nodeStats (metrics : Metrics) (node : String) : NodeStats := metrics.nodes.getD node {}

def updateNode (metrics : Metrics) (node : String) (update : NodeStats → NodeStats) : Metrics :=
  { metrics with nodes := metrics.nodes.insert node (update (metrics.nodeStats node)) }

def withOutcome (stats : NodeStats) (latency : Nat) (success : Bool) : NodeStats :=
  { stats with
    successes := stats.successes + (if success then 1 else 0)
    errors := stats.errors + (if success then 0 else 1)
    latency := stats.latency.record latency }

def recordSuccess (metrics : Metrics) (latency : Nat) : Metrics :=
  { metrics with
    succeeded := metrics.succeeded + 1
    latency := metrics.latency.record latency }

def record (metrics : Metrics) : Event → Metrics
  | .submitted => { metrics with submitted := metrics.submitted + 1 }
  | .success latency => metrics.recordSuccess latency
  | .ignored latency =>
      { metrics with ignored := metrics.ignored + 1 }.recordSuccess latency
  | .failure kind latency =>
      { metrics with
        failed := metrics.failed + 1
        latency := metrics.latency.record latency
        errors := metrics.errors.insert kind (metrics.errors.getD kind 0 + 1) }
  | .overallTimeout => { metrics with overallTimeouts := metrics.overallTimeouts + 1 }
  | .cancelled => { metrics with cancelled := metrics.cancelled + 1 }
  | .retry => { metrics with retries := metrics.retries + 1 }
  | .speculativeExecution =>
      { metrics with speculativeExecutions := metrics.speculativeExecutions + 1 }
  | .attempt node =>
      { metrics with attempts := metrics.attempts + 1 }.updateNode node fun stats =>
        { stats with attempts := stats.attempts + 1 }
  | .outcome node latency success =>
      metrics.updateNode node fun stats => withOutcome stats latency success
  | .nodeRemoved node => { metrics with nodes := metrics.nodes.erase node }

def recordAll (metrics : Metrics) (events : List Event) : Metrics := events.foldl record metrics

end Metrics

structure RequestMetrics where
  submitted : Nat := 0
  succeeded : Nat := 0
  failed : Nat := 0
  cancelled : Nat := 0
  ignored : Nat := 0
  overallTimeouts : Nat := 0
  attempts : Nat := 0
  retries : Nat := 0
  speculativeExecutions : Nat := 0
  latency : Histogram.Summary := {}
deriving DecidableEq, Repr

structure NodeMetrics where
  address : String
  attempts : Nat
  successes : Nat
  errors : Nat
  latency : Histogram.Summary
deriving DecidableEq, Repr

structure MetricsSnapshot where
  requests : RequestMetrics
  errors : Std.TreeMap String Nat
  nodes : Std.TreeMap String NodeMetrics

def NodeStats.snapshot (stats : NodeStats) (address : String) : NodeMetrics :=
  { address
    attempts := stats.attempts
    successes := stats.successes
    errors := stats.errors
    latency := stats.latency.summary }

namespace Metrics

def requests (metrics : Metrics) : RequestMetrics :=
  { submitted := metrics.submitted
    succeeded := metrics.succeeded
    failed := metrics.failed
    cancelled := metrics.cancelled
    ignored := metrics.ignored
    overallTimeouts := metrics.overallTimeouts
    attempts := metrics.attempts
    retries := metrics.retries
    speculativeExecutions := metrics.speculativeExecutions
    latency := metrics.latency.summary }

def snapshot (metrics : Metrics) : MetricsSnapshot where
  requests := metrics.requests
  errors := metrics.errors
  nodes := metrics.nodes.map fun address stats => stats.snapshot address

end Metrics

end ClusterDriver
