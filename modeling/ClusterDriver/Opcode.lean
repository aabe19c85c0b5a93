set_option autoImplicit false

namespace ClusterDriver

inductive Opcode where
  | error
  | startup
  | ready
  | authenticate
  | options
  | supported
  | query
  | result
  | prepare
  | execute
  | register
  | event
  | batch
  | authChallenge
  | authResponse
  | authSuccess
deriving DecidableEq, Repr, Inhabited

namespace Opcode

def code : Opcode → UInt8
  -- Byte 4 is not assigned.
  | .error => 0x00
  | .startup => 0x01
  | .ready => 0x02
  | .authenticate => 0x03
  | .options => 0x05
  | .supported => 0x06
  | .query => 0x07
  | .result => 0x08
  | .prepare => 0x09
  | .execute => 0x0A
  | .register => 0x0B
  | .event => 0x0C
  | .batch => 0x0D
  | .authChallenge => 0x0E
  | .authResponse => 0x0F
  | .authSuccess => 0x10

def ofCode? (byte : UInt8) : Option Opcode :=
  match byte.toNat with
  | 0x00 => some .error
  | 0x01 => some .startup
  | 0x02 => some .ready
  | 0x03 => some .authenticate
  | 0x05 => some .options
  | 0x06 => some .supported
  | 0x07 => some .query
  | 0x08 => some .result
  | 0x09 => some .prepare
  | 0x0A => some .execute
  | 0x0B => some .register
  | 0x0C => some .event
  | 0x0D => some .batch
  | 0x0E => some .authChallenge
  | 0x0F => some .authResponse
  | 0x10 => some .authSuccess
  | _ => none

def name : Opcode → String
  | .error => "Error"
  | .startup => "Startup"
  | .ready => "Ready"
  | .authenticate => "Authenticate"
  | .options => "Options"
  | .supported => "Supported"
  | .query => "Query"
  | .result => "Result"
  | .prepare => "Prepare"
  | .execute => "Execute"
  | .register => "Register"
  | .event => "Event"
  | .batch => "Batch"
  | .authChallenge => "AuthChallenge"
  | .authResponse => "AuthResponse"
  | .authSuccess => "AuthSuccess"

theorem ofCode?_code (opcode : Opcode) : ofCode? opcode.code = some opcode := by
  cases opcode <;> rfl

theorem ofCode?_eq_some_iff (byte : UInt8) (opcode : Opcode) :
    ofCode? byte = some opcode ↔ byte = opcode.code := by
  constructor
  · intro known
    unfold ofCode? at known
    split at known <;> cases known <;> exact UInt8.toNat_inj.mp ‹_›
  · intro same
    rw [same, ofCode?_code]

end Opcode

end ClusterDriver
