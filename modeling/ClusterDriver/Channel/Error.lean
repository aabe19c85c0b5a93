import ClusterDriver.DriverError

set_option autoImplicit false

namespace ClusterDriver

inductive ChannelError where
  | busy (capacity : Nat)
  | timeout (limit : Duration)
  | closed (reason : String)
  | protocol (cause : ProtocolError)
  | connectFailed (detail : String)
  | authenticationFailed (detail : String)
deriving DecidableEq, Repr

namespace ChannelError

def message : ChannelError → String
  | .busy capacity => s!"All {capacity} stream ids in use"
  | .timeout limit => "No response within " ++ limit.text
  | .closed reason => "Channel closed: " ++ reason
  | .protocol cause => "Protocol error: " ++ cause.message
  | .connectFailed detail => "Connection failed: " ++ detail
  | .authenticationFailed detail => "Authentication failed: " ++ detail

def isTransport : ChannelError → Bool
  | .busy _ | .timeout _ => false
  | _ => true

def ofDriverError : DriverError → ChannelError
  | .protocol cause => .protocol cause
  | .authentication detail => .authenticationFailed detail
  | other => .connectFailed other.message

end ChannelError

end ClusterDriver
