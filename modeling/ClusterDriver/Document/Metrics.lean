import ClusterDriver.Document.Values
import ClusterDriver.Metrics

set_option autoImplicit false

namespace ClusterDriver.Document

open Json (Read)

def latencySummary (value : Histogram.Summary) : Json :=
  .record [("samples", .nat value.samples), ("avg_us", .nat value.average),
    ("p50_us", .nat value.median), ("p95_us", .nat value.percentile95),
    ("p99_us", .nat value.percentile99)]

def requestCounters (requests : RequestMetrics) : Json :=
  .record [("submitted", .nat requests.submitted), ("succeeded", .nat requests.succeeded),
    ("failed", .nat requests.failed), ("cancelled", .nat requests.cancelled),
    ("ignored", .nat requests.ignored), ("overall_timeouts", .nat requests.overallTimeouts),
    ("attempts", .nat requests.attempts), ("retries", .nat requests.retries),
    ("speculative_executions", .nat requests.speculativeExecutions),
    ("latency", latencySummary requests.latency)]

def errorCounters (errors : Std.TreeMap String Nat) : Json :=
  .record (errors.toList.map fun (name, count) => (name, .nat count))

def nodeMetrics (node : NodeMetrics) : Json :=
  .record [("node_addr", .text node.address), ("attempts", .nat node.attempts),
    ("successes", .nat node.successes), ("errors", .nat node.errors),
    ("latency", latencySummary node.latency)]

def metricsSnapshot (snapshot : MetricsSnapshot) : Json :=
  .record [("requests", requestCounters snapshot.requests),
    ("errors", errorCounters snapshot.errors),
    ("nodes", .record (snapshot.nodes.toList.map fun (name, node) => (name, nodeMetrics node)))]

def asMetricsEvent (step : Json) : Read (Option Metrics.Event) := do
  -- A snapshot is no event.
  match ← step.getString "do" with
  | "submitted" => return some .submitted
  | "success" => return some (.success (← step.getNat "us"))
  | "ignored" => return some (.ignored (← step.getNat "us"))
  | "failure" => return some (.failure (← step.getString "kind") (← step.getNat "us"))
  | "overall_timeout" => return some .overallTimeout
  | "cancelled" => return some .cancelled
  | "retry" => return some .retry
  | "speculative" => return some .speculativeExecution
  | "attempt" => return some (.attempt (← step.getString "node"))
  | "outcome" =>
      return some (.outcome (← step.getString "node") (← step.getNat "us") (← step.getFlag "ok"))
  | "remove_node" => return some (.nodeRemoved (← step.getString "node"))
  | "snapshot" => return none
  | other => .error ("unknown step " ++ other)

def runMetrics (steps : List (Option Metrics.Event × Nat)) : List Json :=
  let events := steps.flatMap fun (event, times) => List.replicate times event
  let record := fun (state : Metrics × List Json) (event : Option Metrics.Event) =>
    match event with
    | some event => (state.1.record event, state.2)
    | none => (state.1, metricsSnapshot state.1.snapshot :: state.2)
  (events.foldl record ({}, [])).2.reverse

end ClusterDriver.Document
