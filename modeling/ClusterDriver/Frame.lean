import ClusterDriver.Bytes
import ClusterDriver.ProtocolError

set_option autoImplicit false

namespace ClusterDriver

def protocolVersion : UInt8 := 4

def responseFlag : UInt8 := 0x80

def headerLength : Nat := 9

def maxBodyLength : Nat := 256 * 1024 * 1024

def eventStream : Int16 := -1

structure FrameHeader where
  version : UInt8
  flags : UInt8
  stream : Int16
  opcode : Opcode
  length : Nat
deriving DecidableEq, Repr

structure Frame where
  version : UInt8
  flags : UInt8
  stream : Int16
  opcode : Opcode
  body : ByteArray
deriving DecidableEq

namespace FrameHeader

def decode (bytes : ByteArray) : Except ProtocolError FrameHeader :=
  -- The version is checked first, then the opcode, then the length of the body.
  let byte (index : Nat) : UInt8 := bytes[index]?.getD 0
  let version := byte 0
  let plain := version &&& ~~~responseFlag
  if plain ≠ protocolVersion then
    .error (.unsupportedVersion plain)
  else
    match Opcode.ofCode? (byte 4) with
    | none => .error (.unknownOpcode (byte 4))
    | some opcode =>
        let length := BigEndian.toNat [byte 5, byte 6, byte 7, byte 8]
        if maxBodyLength < length then
          .error (.frameTooLarge length maxBodyLength)
        else
          .ok {
            version
            flags := byte 1
            stream := (UInt16.ofNat (BigEndian.toNat [byte 2, byte 3])).toInt16
            opcode
            length
          }

def withBody (header : FrameHeader) (body : ByteArray) : Frame where
  version := header.version
  flags := header.flags
  stream := header.stream
  opcode := header.opcode
  body

end FrameHeader

namespace Frame

def request (stream : Int16) (opcode : Opcode) (body : ByteArray) : Frame where
  version := protocolVersion
  flags := 0
  stream
  opcode
  body

def response (stream : Int16) (opcode : Opcode) (body : ByteArray) : Frame where
  version := protocolVersion ||| responseFlag
  flags := 0
  stream
  opcode
  body

def isResponse (frame : Frame) : Bool := frame.version &&& responseFlag ≠ 0

def headerBytes (frame : Frame) : List UInt8 :=
  [frame.version, frame.flags] ++ BigEndian.ofNat 2 frame.stream.toUInt16.toNat
    ++ [frame.opcode.code] ++ BigEndian.ofNat 4 frame.body.size

def encode (frame : Frame) : Except ProtocolError ByteArray :=
  if maxBodyLength < frame.body.size then
    .error (.frameTooLarge frame.body.size maxBodyLength)
  else
    .ok (bytesOfList frame.headerBytes ++ frame.body)

def decode (bytes : ByteArray) : Except ProtocolError Frame :=
  if bytes.size < headerLength then
    .error (.malformed s!"Frame shorter than header: {bytes.size} bytes")
  else
    match FrameHeader.decode (bytes.extract 0 headerLength) with
    | .error e => .error e
    | .ok header =>
        let body := bytes.extract headerLength bytes.size
        if body.size ≠ header.length then
          .error (.malformed s!"Header announces {header.length} body bytes, got {body.size}")
        else
          .ok (header.withBody body)

end Frame

end ClusterDriver
