import ClusterDriver.Bytes
import ClusterDriver.ProtocolError
import ClusterDriver.Text.Utf8

set_option autoImplicit false

namespace ClusterDriver

inductive ServerErrorKind where
  | serverError
  | protocol
  | badCredentials
  | unavailable
  | overloaded
  | bootstrapping
  | writeTimeout
  | readTimeout
  | badSyntax
  | unauthorized
  | invalid
  | configError
  | alreadyExists
  | unprepared
  | unknown (code : Int32)
deriving DecidableEq, Repr, Inhabited

inductive ErrorClass where
  | validation
  | capacity
deriving DecidableEq, Repr

namespace ServerErrorKind

def ofCode (code : Int32) : ServerErrorKind :=
  match code.toInt with
  | 0x0000 => .serverError
  | 0x000A => .protocol
  | 0x0100 => .badCredentials
  | 0x1000 => .unavailable
  | 0x1001 => .overloaded
  | 0x1002 => .bootstrapping
  | 0x1100 => .writeTimeout
  | 0x1200 => .readTimeout
  | 0x2000 => .badSyntax
  | 0x2100 => .unauthorized
  | 0x2200 => .invalid
  | 0x2300 => .configError
  | 0x2400 => .alreadyExists
  | 0x2500 => .unprepared
  | _ => .unknown code

def code : ServerErrorKind → Int32
  | .serverError => 0x0000
  | .protocol => 0x000A
  | .badCredentials => 0x0100
  | .unavailable => 0x1000
  | .overloaded => 0x1001
  | .bootstrapping => 0x1002
  | .writeTimeout => 0x1100
  | .readTimeout => 0x1200
  | .badSyntax => 0x2000
  | .unauthorized => 0x2100
  | .invalid => 0x2200
  | .configError => 0x2300
  | .alreadyExists => 0x2400
  | .unprepared => 0x2500
  | .unknown code => code

def errorClass : ServerErrorKind → ErrorClass
  | .serverError | .unavailable | .overloaded | .bootstrapping | .writeTimeout | .readTimeout =>
      .capacity
  | _ => .validation

def name : ServerErrorKind → String
  | .serverError => "ServerError"
  | .protocol => "Protocol"
  | .badCredentials => "BadCredentials"
  | .unavailable => "Unavailable"
  | .overloaded => "Overloaded"
  | .bootstrapping => "Bootstrapping"
  | .writeTimeout => "WriteTimeout"
  | .readTimeout => "ReadTimeout"
  | .badSyntax => "Syntax"
  | .unauthorized => "Unauthorized"
  | .invalid => "Invalid"
  | .configError => "ConfigError"
  | .alreadyExists => "AlreadyExists"
  | .unprepared => "Unprepared"
  | .unknown code => "Unknown(0x" ++ Text.hex 4 code.toUInt32.toNat ++ ")"

end ServerErrorKind

structure ServerError where
  kind : ServerErrorKind
  message : String
deriving DecidableEq, Repr

namespace ServerError

def envelopeLength : Nat := 6

def maxMessageLength : Nat := 65535

def decode (body : ByteArray) : Except ProtocolError ServerError :=
  if body.size < envelopeLength then
    .error (.malformed s!"ERROR body too short: {body.size} bytes")
  else
    let code := BigEndian.toNat (body.extract 0 4).data.toList
    let length := BigEndian.toNat (body.extract 4 6).data.toList
    let available := body.size - envelopeLength
    if available < length then
      .error (.malformed s!"ERROR message announces {length} bytes, {available} available")
    else
      match Text.Utf8.text? (body.extract envelopeLength (envelopeLength + length)) with
      | .error fault => .error (.malformed ("ERROR message is not UTF-8: " ++ fault.message))
      | .ok message => .ok ⟨.ofCode (UInt32.ofNat code).toInt32, message⟩

def encode (serverError : ServerError) : ByteArray :=
  -- A message too long for the envelope is cut off at its limit.
  let message := serverError.message.toUTF8
  let length := min message.size maxMessageLength
  bytesOfList (BigEndian.ofNat 4 serverError.kind.code.toUInt32.toNat ++ BigEndian.ofNat 2 length)
    ++ message.extract 0 length

def text (serverError : ServerError) : String :=
  serverError.kind.name ++ ": " ++ serverError.message

end ServerError

end ClusterDriver
