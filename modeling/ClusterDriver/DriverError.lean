import ClusterDriver.ProtocolError
import ClusterDriver.Text.Duration

set_option autoImplicit false

namespace ClusterDriver

inductive StreamFaultKind where
  | connectionReset
  | connectionAborted
  | brokenPipe
  | notConnected
  | unexpectedEnd
  | permissionDenied
  | timedOut
  | other
deriving DecidableEq, Repr

def StreamFaultKind.isLoss : StreamFaultKind → Bool
  | .connectionReset | .connectionAborted | .brokenPipe | .notConnected | .unexpectedEnd => true
  | .permissionDenied | .timedOut | .other => false

structure StreamFault where
  kind : StreamFaultKind
  detail : String
deriving DecidableEq, Repr

structure ConfigError where
  rule : String
deriving DecidableEq, Repr

inductive DriverError where
  | transport (detail : String)
  | connection (detail : String)
  | protocol (cause : ProtocolError)
  | authentication (detail : String)
  | config (cause : ConfigError)
  | timeout (limit : Duration)
  | stream (fault : StreamFault)
deriving DecidableEq, Repr

def ConfigError.message (configError : ConfigError) : String :=
  "Invalid configuration: " ++ configError.rule

namespace DriverError

def message : DriverError → String
  | .transport detail => "Transport error: " ++ detail
  | .connection detail => "Connection error: " ++ detail
  | .protocol cause => "Protocol error: " ++ cause.message
  | .authentication detail => "Authentication failed: " ++ detail
  | .config cause => cause.message
  | .timeout limit => s!"Timeout after {limit.toMillis}ms"
  | .stream fault => "IO error: " ++ fault.detail

def ofFault (activity : String) (fault : StreamFault) : DriverError :=
  -- A lost connection is told apart from other faults.
  if fault.kind.isLoss then .connection (activity ++ ": Connection lost") else .stream fault

end DriverError

end ClusterDriver
