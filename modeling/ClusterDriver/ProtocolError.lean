import ClusterDriver.Opcode
import ClusterDriver.Text.Hex

set_option autoImplicit false

namespace ClusterDriver

inductive ProtocolError where
  | frameTooLarge (length limit : Nat)
  | unknownOpcode (byte : UInt8)
  | unsupportedVersion (version : UInt8)
  | malformed (detail : String)
  | unexpectedOpcode (found : Opcode) (expected : String)
deriving DecidableEq, Repr

def ProtocolError.message : ProtocolError → String
  | .frameTooLarge length limit => s!"Frame body too large: {length} bytes (max {limit} bytes)"
  | .unknownOpcode byte => "Unknown opcode 0x" ++ Text.hex 2 byte.toNat
  | .unsupportedVersion version => s!"Unsupported protocol version {version.toNat}"
  | .malformed detail => "Malformed frame: " ++ detail
  | .unexpectedOpcode found expected => s!"Unexpected {found.name} frame, expected {expected}"

end ClusterDriver
