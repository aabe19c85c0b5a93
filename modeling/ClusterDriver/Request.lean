import ClusterDriver.Frame

set_option autoImplicit false

namespace ClusterDriver

structure Request where
  opcode : Opcode
  body : ByteArray
  returnsRows : Bool
deriving DecidableEq

namespace Request

def query (body : ByteArray) : Request := ⟨.query, body, true⟩

def execute (body : ByteArray) : Request := ⟨.execute, body, true⟩

def batch (body : ByteArray) : Request := ⟨.batch, body, false⟩

def write (body : ByteArray) : Request := { query body with returnsRows := false }

end Request

/-- What a caller may set for one request; the execution profile decides what is left out. The
timeout is in milliseconds. -/
structure RequestOptions where
  timeout : Option Nat := none
  idempotent : Option Bool := none
  routingKey : Option ByteArray := none
  profile : Option String := none
  pageSize : Option Nat := none
deriving DecidableEq, Inhabited

structure Response where
  opcode : Opcode
  body : ByteArray
deriving DecidableEq

namespace Response

def empty : Response := ⟨.result, ByteArray.empty⟩

def isEmpty (response : Response) : Bool := response.body.size = 0

end Response

structure Codec where
  encode : Request → (pageSize : Option Nat) → Except ProtocolError ByteArray
  decode : Frame → Except ProtocolError Response

namespace Codec

def passThrough : Codec where
  encode request _ := .ok request.body
  decode frame := .ok ⟨frame.opcode, frame.body⟩

end Codec

end ClusterDriver
