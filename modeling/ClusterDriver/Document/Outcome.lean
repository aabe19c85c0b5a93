import ClusterDriver.Document.Values
import ClusterDriver.Request.Context

set_option autoImplicit false

namespace ClusterDriver.Document

open Json (Read)

def asServerError (value : Json) : Read ServerError := do
  return ⟨← value.get "code" asErrorKind, ← value.get "text" asText⟩

def asAttemptError (value : Json) : Read AttemptError := do
  match ← value.getString "type" with
  | "Timeout" => return .timeout ⟨← value.getNat "nanos"⟩
  | "Transport" => return .transport (← value.get "text" asText)
  | _ => return .server (← asServerError value)

def asNodeFailure (value : Json) : Read (SocketAddress × String) := do
  match ← value.asList with
  | [node, reason] => return (← asAddress node, ← asText reason)
  | _ => .error "not a pair"

def asRequestError (value : Json) : Read RequestError := do
  match ← value.getString "kind" with
  | "NoNodeAvailable" => return .noNodeAvailable (← value.getList "errors" asNodeFailure)
  | "OverallTimeout" => return .overallTimeout ⟨← value.getNat "nanos"⟩
  | "RethrownServerError" =>
      return .rethrown (← value.get "node" asAddress) (← asServerError value)
  | "AttemptFailed" =>
      return .attemptFailed (← value.get "node" asAddress) (← value.get "attempt" asAttemptError)
  | "Cancelled" => return .cancelled
  | "InvalidRequest" => return .invalidRequest (← value.get "text" asText)
  | "SessionClosed" => return .sessionClosed
  | other => .error ("unknown kind " ++ other)

def asDecision (value : Json) : Read RetryDecision := do
  match ← value.asString with
  | "RETRY_SAME_NODE" => return .retrySameNode
  | "RETRY_NEXT_NODE" => return .retryNextNode
  | "RETHROW" => return .rethrow
  | "IGNORE" => return .ignore
  | other => .error ("unknown decision " ++ other)

def decision (value : RetryDecision) : Json := .text value.text

def failureKind : FailureKind → Json
  | .clientTimeout => .text "ClientTimeout"
  | .transport => .text "Transport"
  | .server kind => .text kind.name

def asFailureKind (value : Json) : Read FailureKind :=
  match value with
  | .string (some "ClientTimeout") => .ok .clientTimeout
  | .string (some "Transport") => .ok .transport
  | value => (asErrorKind value).map .server

def attemptError (value : AttemptError) : Json :=
  .record [("display", .text value.message), ("retry_kind", failureKind value.kind),
    ("transport", .bool value.isTransport)]

def serverErrorKind (value : Option ServerErrorKind) : Json :=
  .optional (fun kind => .text kind.name) value

def micros (millis : Nat) : Json := .nat (millis * 1000)

def attemptRecord (value : AttemptRecord) : Json :=
  let outcome := match value.error with
    | none => "Success"
    | some e => "Failed: " ++ e.message
  .record [("execution", .nat value.execution), ("attempt", .nat value.attempt),
    ("node", address value.node), ("started_after_us", micros value.startedAfter),
    ("outcome", .text outcome), ("decision", .optional decision value.decision)]

def trace (value : Trace) : Json :=
  .record [("attempts", .list attemptRecord value.attempts),
    ("speculative", .nat value.speculativeExecutions), ("elapsed_us", micros value.elapsed),
    ("nodes", .list address value.nodes)]

def outcome (value : Outcome) : Json :=
  match value.result with
  | .ok success =>
      .record [("ok", .record [("opcode", .text success.response.opcode.name),
        ("body", bytes success.response.body), ("coordinator", address success.coordinator),
        ("ignored", .bool success.ignored), ("trace", trace value.trace)])]
  | .error e =>
      .record [("error", .text e.name), ("message", .text e.message),
        ("server_error_kind", serverErrorKind e.serverErrorKind?), ("trace", trace value.trace)]

end ClusterDriver.Document
