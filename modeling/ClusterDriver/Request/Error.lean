import ClusterDriver.Request.Retry
import ClusterDriver.SocketAddress
import ClusterDriver.Text.Duration

set_option autoImplicit false

namespace ClusterDriver

inductive AttemptError where
  | timeout (limit : Duration)
  | transport (detail : String)
  | server (cause : ServerError)
deriving DecidableEq, Repr

namespace AttemptError

def message : AttemptError → String
  | .timeout limit => "No response within " ++ limit.text
  | .transport detail => "Transport failure: " ++ detail
  | .server cause => cause.text

def kind : AttemptError → FailureKind
  | .timeout _ => .clientTimeout
  | .transport _ => .transport
  | .server cause => .server cause.kind

def isTransport : AttemptError → Bool
  | .transport _ => true
  | _ => false

end AttemptError

inductive RequestError where
  | noNodeAvailable (failures : List (SocketAddress × String))
  | overallTimeout (limit : Duration)
  | rethrown (node : SocketAddress) (cause : ServerError)
  | attemptFailed (node : SocketAddress) (cause : AttemptError)
  | cancelled
  | invalidRequest (detail : String)
  | sessionClosed
deriving DecidableEq, Repr

namespace RequestError

def listFailures (failures : List (SocketAddress × String)) : String :=
  if failures.isEmpty then "no node was tried"
  else "; ".intercalate (failures.map fun (node, reason) => node.text ++ ": " ++ reason)

def message : RequestError → String
  | .noNodeAvailable failures => "No node available (" ++ listFailures failures ++ ")"
  | .overallTimeout limit => "Request did not complete within " ++ limit.text
  | .rethrown node cause => "Node " ++ node.text ++ " answered " ++ cause.text
  | .attemptFailed node cause => "Attempt on " ++ node.text ++ " failed: " ++ cause.message
  | .cancelled => "Request cancelled"
  | .invalidRequest detail => "Invalid request: " ++ detail
  | .sessionClosed => "Session is closed"

def name : RequestError → String
  | .noNodeAvailable _ => "NoNodeAvailable"
  | .overallTimeout _ => "OverallTimeout"
  | .rethrown _ _ => "RethrownServerError"
  | .attemptFailed _ _ => "AttemptFailed"
  | .cancelled => "Cancelled"
  | .invalidRequest _ => "InvalidRequest"
  | .sessionClosed => "SessionClosed"

def serverErrorKind? : RequestError → Option ServerErrorKind
  | .rethrown _ cause => some cause.kind
  | _ => none

end RequestError

end ClusterDriver
