set_option autoImplicit false

namespace ClusterDriver.Text.Utf8

/-- What the front of a byte sequence holds: a character with so many bytes after its first one,
a fault whose longest valid beginning has so many bytes, or a beginning that the end cuts short. -/
inductive Front where
  | character (following : Nat)
  | fault (length : Nat)
  | unfinished
deriving DecidableEq, Repr

def following? (lead : UInt8) : Option (Nat × UInt8 × UInt8) :=
  if lead < 0x80 then some (0, 0x80, 0xBF)
  else if lead < 0xC2 then none
  else if lead < 0xE0 then some (1, 0x80, 0xBF)
  else if lead = 0xE0 then some (2, 0xA0, 0xBF)
  else if lead = 0xED then some (2, 0x80, 0x9F)
  else if lead < 0xF0 then some (2, 0x80, 0xBF)
  else if lead = 0xF0 then some (3, 0x90, 0xBF)
  else if lead < 0xF4 then some (3, 0x80, 0xBF)
  else if lead = 0xF4 then some (3, 0x80, 0x8F)
  else none

def checkFollowing (total seen : Nat) : Nat → UInt8 → UInt8 → List UInt8 → Front
  | 0, _, _, _ => .character total
  | _ + 1, _, _, [] => .unfinished
  | missing + 1, low, high, byte :: rest =>
      if low ≤ byte ∧ byte ≤ high then checkFollowing total (seen + 1) missing 0x80 0xBF rest
      else .fault seen

def front (lead : UInt8) (rest : List UInt8) : Front :=
  match following? lead with
  | none => .fault 1
  | some (count, low, high) => checkFollowing count 1 count low high rest

inductive Fault where
  | invalid (length index : Nat)
  | incomplete (index : Nat)
deriving DecidableEq, Repr

def Fault.message : Fault → String
  | .invalid length index => s!"invalid utf-8 sequence of {length} bytes from index {index}"
  | .incomplete index => s!"incomplete utf-8 byte sequence from index {index}"

def firstFault? (index : Nat) (bytes : List UInt8) : Option Fault :=
  match bytes with
  | [] => none
  | lead :: rest =>
      match front lead rest with
      | .fault length => some (.invalid length index)
      | .unfinished => some (.incomplete index)
      | .character count => firstFault? (index + 1 + count) (rest.drop count)
termination_by bytes.length
decreasing_by
  rw [List.length_drop, List.length_cons]
  omega

def replaceFaults (bytes : List UInt8) : List UInt8 :=
  match bytes with
  | [] => []
  | lead :: rest =>
      match front lead rest with
      | .unfinished => [0xEF, 0xBF, 0xBD]
      | .fault length => [0xEF, 0xBF, 0xBD] ++ replaceFaults (rest.drop (length - 1))
      | .character count => lead :: rest.take count ++ replaceFaults (rest.drop count)
termination_by bytes.length
decreasing_by
  all_goals
    rw [List.length_drop, List.length_cons]
    omega

def lossyText (bytes : ByteArray) : String :=
  (String.fromUTF8? ⟨(replaceFaults bytes.data.toList).toArray⟩).getD ""

def text? (bytes : ByteArray) : Except Fault String :=
  match String.fromUTF8? bytes with
  | some text => .ok text
  | none => .error ((firstFault? 0 bytes.data.toList).getD (.incomplete 0))

end ClusterDriver.Text.Utf8
