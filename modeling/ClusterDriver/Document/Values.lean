import ClusterDriver.Bytes
import ClusterDriver.Channel.Error
import ClusterDriver.Credentials
import ClusterDriver.Frame
import ClusterDriver.Json.Reader
import ClusterDriver.Request
import ClusterDriver.ServerError
import ClusterDriver.SocketAddress

set_option autoImplicit false

namespace ClusterDriver.Document

open Json (Read)

def hexNibble (c : UInt8) : Read UInt8 :=
  if 48 ≤ c ∧ c ≤ 57 then .ok (c - 48)
  else if 97 ≤ c ∧ c ≤ 102 then .ok (c - 87)
  else .error "not a hexadecimal digit"

def pairUp : List UInt8 → Read (List UInt8)
  | high :: low :: rest => do
      return ((← hexNibble high) * 16 + (← hexNibble low)) :: (← pairUp rest)
  | [] => .ok []
  | [_] => .error "half a byte"

def bytesOfHex (text : String) : Read ByteArray :=
  (pairUp text.toUTF8.data.toList).map bytesOfList

def repeated (bytes : ByteArray) : Nat → Nat → ByteArray
  | 0, _ => ByteArray.empty
  | depth + 1, times =>
      if times = 0 then ByteArray.empty
      else
        let half := repeated bytes depth (times / 2)
        if times % 2 = 1 then half ++ half ++ bytes else half ++ half

def asBytes : Json → Read ByteArray
  | .string (some text) => bytesOfHex text
  | value => do
      return repeated (← bytesOfHex (← value.getString "hex")) 64 (← value.getNat "times")

def getBytes (value : Json) (name : String) : Read ByteArray :=
  value.getD name ByteArray.empty asBytes

def asText : Json → Read String
  | .string (some text) => .ok text
  | value => do
      return String.join (List.replicate (← value.getNat "times") (← value.getString "text"))

def nibbleChar (value : UInt8) : Char := Nat.digitChar value.toNat

def hexOf (bytes : ByteArray) : String :=
  bytes.foldl
    (fun text byte => (text.push (nibbleChar (byte / 16))).push (nibbleChar (byte % 16))) ""

/-- The 64-bit checksum of Fowler, Noll and Vo, variant 1a. -/
def checksum (bytes : ByteArray) : UInt64 :=
  bytes.foldl (fun hash byte => (hash ^^^ byte.toUInt64) * 0x100000001b3) 0xcbf29ce484222325

def longest : Nat := 256

def digest (bytes : ByteArray) : Json :=
  .record [("len", .nat bytes.size), ("fnv1a64", .text (Text.hex 16 (checksum bytes).toNat))]

def bytes (value : ByteArray) : Json :=
  if longest < value.size then digest value else .text (hexOf value)

def longText (text : String) : Json :=
  if longest < text.utf8ByteSize then digest text.toUTF8 else .text text

def asAddress (value : Json) : Read SocketAddress := do
  match SocketAddress.ofText? (← value.asString) with
  | some address => .ok address
  | none => .error "not an address"

def address (value : SocketAddress) : Json := .text value.text

def asToken (value : Json) : Read Int64 := value.asInt.map Int64.ofInt

def asErrorKind (value : Json) : Read ServerErrorKind :=
  value.asInt.map fun code => .ofCode (Int32.ofInt code)

def error (kind message : String) : Json :=
  .record [("error", .text kind), ("message", .text message)]

def protocolErrorName : ProtocolError → String
  | .frameTooLarge .. => "FrameTooLarge"
  | .unknownOpcode _ => "UnknownOpcode"
  | .unsupportedVersion _ => "UnsupportedVersion"
  | .malformed _ => "Malformed"
  | .unexpectedOpcode .. => "UnexpectedOpcode"

def protocolError (e : ProtocolError) : Json := error (protocolErrorName e) e.message

def driverErrorName : DriverError → String
  | .transport _ => "Transport"
  | .connection _ => "Connection"
  | .protocol _ => "Protocol"
  | .authentication _ => "Authentication"
  | .config _ => "Config"
  | .timeout _ => "Timeout"
  | .stream _ => "Io"

def driverError (e : DriverError) : Json := error (driverErrorName e) e.message

def channelErrorName : ChannelError → String
  | .busy _ => "Busy"
  | .timeout _ => "Timeout"
  | .closed _ => "ChannelClosed"
  | .protocol _ => "Protocol"
  | .connectFailed _ => "ConnectFailed"
  | .authenticationFailed _ => "AuthenticationFailed"

def channelError (e : ChannelError) : Json :=
  .record [("error", .text (channelErrorName e)), ("message", .text e.message),
    ("transport", .bool e.isTransport)]

def result {ε α : Type} (onError : ε → Json) (onValue : α → Json) : Except ε α → Json
  | .error e => onError e
  | .ok value => onValue value

inductive Refusal where
  | unreadable (detail : String)
  | unknownOpcode (byte : UInt8)

abbrev Input := Except Refusal

def readable {α : Type} : Read α → Input α
  | .ok value => .ok value
  | .error detail => .error (.unreadable detail)

instance {α : Type} : Coe (Read α) (Input α) := ⟨readable⟩

instance : MonadLift Read Input := ⟨readable⟩

def refusal : Refusal → Json
  | .unreadable detail => error "BadInput" detail
  | .unknownOpcode byte => protocolError (.unknownOpcode byte)

def getOpcode (value : Json) (name : String) : Input Opcode := do
  let byte := UInt8.ofNat (← value.getNat name)
  match Opcode.ofCode? byte with
  | some opcode => .ok opcode
  | none => .error (.unknownOpcode byte)

def getListOf {α : Type} (value : Json) (name : String) (read : Json → Input α) :
    Input (List α) := do
  (← value.getD name [] Json.asList).mapM read

def frame (value : Frame) : Json :=
  .record [("version", .nat value.version.toNat), ("flags", .nat value.flags.toNat),
    ("stream", .int value.stream.toInt), ("opcode", .text value.opcode.name),
    ("body", bytes value.body)]

def asFrame (isResponse : Bool) (value : Json) : Input Frame := do
  -- Version and flags may be replaced.
  let opcode ← getOpcode value "opcode"
  let stream := Int16.ofInt (← value.getD "stream" 0 Json.asInt)
  let body ← getBytes value "body"
  let plain :=
    if ← value.getD "response" isResponse Json.asBool then Frame.response stream opcode body
    else Frame.request stream opcode body
  let version ← value.getD "version" plain.version.toNat Json.asNat
  let flags ← value.getD "flags" plain.flags.toNat Json.asNat
  return { plain with version := UInt8.ofNat version, flags := UInt8.ofNat flags }

def asRequest (value : Json) : Read Request := do
  let body ← getBytes value "body"
  let request ← match ← value.getString "kind" with
    | "query" => .ok (Request.query body)
    | "execute" => .ok (Request.execute body)
    | "batch" => .ok (Request.batch body)
    | "write" => .ok (Request.write body)
    | other => .error ("unknown kind " ++ other)
  return { request with returnsRows := ← value.getD "returns_rows" request.returnsRows Json.asBool }

def asOptions (value : Json) : Read RequestOptions := do
  return {
    timeout := ← value.get? "timeout_ms" Json.asNat
    idempotent := ← value.get? "idempotent" Json.asBool
    routingKey := ← value.get? "routing_key" asBytes
    profile := ← value.get? "profile" Json.asString
    pageSize := ← value.get? "page_size" Json.asNat
  }

def asCredentials (value : Json) : Read Credentials := do
  return ⟨← value.getString "username", ← value.getString "password"⟩

end ClusterDriver.Document
