import ClusterDriver.Text.Hex

set_option autoImplicit false

namespace ClusterDriver

/-- An address and its `portNumber`. The eight 16-bit groups of an IPv6 address are read as one
number; a scope of 0 means none. -/
inductive SocketAddress where
  | v4 (ip : UInt32) (portNumber : UInt16)
  | v6 (ip : BitVec 128) (scope : UInt32) (portNumber : UInt16)
deriving DecidableEq, Repr, Inhabited

namespace SocketAddress

def rank : SocketAddress → Nat
  | .v4 ip portNumber => ip.toNat * UInt16.size + portNumber.toNat
  | .v6 ip scope portNumber =>
      UInt32.size * UInt16.size
        + (ip.toNat * UInt16.size + portNumber.toNat) * UInt32.size + scope.toNat

instance : Ord SocketAddress := ⟨fun first second => compare first.rank second.rank⟩

def textOfIpv4 (ip : Nat) : String :=
  let octet (position : Nat) := toString ((ip >>> (8 * position)) % 256)
  octet 3 ++ "." ++ octet 2 ++ "." ++ octet 1 ++ "." ++ octet 0

def groups (ip : BitVec 128) : List Nat :=
  (List.range 8).map fun position => (ip.toNat >>> (16 * (7 - position))) % UInt16.size

def zerosAtFront (values : List Nat) : Nat := (values.takeWhile (· = 0)).length

def longestZeros : Nat → List Nat → Nat × Nat
  -- Of equally long runs the first counts.
  | position, [] => (position, 0)
  | position, value :: rest =>
      let here := zerosAtFront (value :: rest)
      let later := longestZeros (position + 1) rest
      if later.2 ≤ here then (position, here) else later

def joinedGroups (values : List Nat) : String :=
  ":".intercalate (values.map (Text.hex 1))

def textOfIpv6 (ip : BitVec 128) : String :=
  if ip.toNat / UInt32.size = 0xFFFF then "::ffff:" ++ textOfIpv4 (ip.toNat % UInt32.size)
  else
    let values := groups ip
    let (start, count) := longestZeros 0 values
    if count < 2 then joinedGroups values
    else joinedGroups (values.take start) ++ "::" ++ joinedGroups (values.drop (start + count))

def text : SocketAddress → String
  | .v4 ip portNumber => textOfIpv4 ip.toNat ++ ":" ++ toString portNumber.toNat
  | .v6 ip scope portNumber =>
      let zone := if scope = 0 then "" else "%" ++ toString scope.toNat
      "[" ++ textOfIpv6 ip ++ zone ++ "]:" ++ toString portNumber.toNat

instance : ToString SocketAddress := ⟨text⟩

def digit? (radix : Nat) (c : Char) : Option Nat :=
  let value :=
    if '0' ≤ c ∧ c ≤ '9' then c.toNat - '0'.toNat
    else if 'a' ≤ c ∧ c ≤ 'f' then c.toNat - 'a'.toNat + 10
    else if 'A' ≤ c ∧ c ≤ 'F' then c.toNat - 'A'.toNat + 10
    else radix
  if value < radix then some value else none

def digits (radix : Nat) : Nat → Nat → List Char → Nat × Nat × List Char
  | count, value, [] => (count, value, [])
  | count, value, c :: rest =>
      match digit? radix c with
      | some digit => digits radix (count + 1) (value * radix + digit) rest
      | none => (count, value, c :: rest)

def number? (radix : Nat) (most : Option Nat) (limit : Nat) (leadingZeros : Bool)
    (text : List Char) : Option (Nat × List Char) :=
  let (count, value, rest) := digits radix 0 0 text
  if count = 0 ∨ limit < value ∨ (most.any (· < count)) ∨
      (!leadingZeros ∧ text.head? = some '0' ∧ 1 < count)
  then none
  else some (value, rest)

def char? (expected : Char) : List Char → Option (List Char)
  | c :: rest => if c = expected then some rest else none
  | [] => none

def octet? (text : List Char) : Option (Nat × List Char) := number? 10 (some 3) 255 false text

def ipv4? (text : List Char) : Option (Nat × List Char) := do
  let (a, rest) ← octet? text
  let (b, rest) ← octet? (← char? '.' rest)
  let (c, rest) ← octet? (← char? '.' rest)
  let (d, rest) ← octet? (← char? '.' rest)
  return (((a * 256 + b) * 256 + c) * 256 + d, rest)

def groupStart? (index : Nat) (text : List Char) : Option (List Char) :=
  if index = 0 then some text else char? ':' text

/-- Reads at most `room` groups, two of which may be written as an IPv4 address at the end.
Answers the groups, whether they end in an IPv4 address, and the rest. -/
def groups? : Nat → Nat → List Char → List Nat × Bool × List Char
  | 0, _, text => ([], false, text)
  | room + 1, index, text =>
      let embedded :=
        if room = 0 then none else (groupStart? index text).bind ipv4?
      match embedded with
      | some (ip, rest) => ([ip / 65536, ip % 65536], true, rest)
      | none =>
          match (groupStart? index text).bind (number? 16 (some 4) 65535 true) with
          | none => ([], false, text)
          | some (group, rest) =>
              let (more, mapped, rest) := groups? room (index + 1) rest
              (group :: more, mapped, rest)

def ipOfGroups (values : List Nat) : BitVec 128 :=
  BitVec.ofNat 128 (values.foldl (fun ip group => ip * 65536 + group) 0)

def ipv6? (text : List Char) : Option (BitVec 128 × List Char) := do
  let (front, mapped, rest) := groups? 8 0 text
  if front.length = 8 then
    return (ipOfGroups front, rest)
  if mapped then
    none
  let rest ← char? ':' (← char? ':' rest)
  let (back, _, rest) := groups? (7 - front.length) 0 rest
  let zeros := List.replicate (8 - front.length - back.length) 0
  return (ipOfGroups (front ++ zeros ++ back), rest)

def portNumber? (text : List Char) : Option (UInt16 × List Char) := do
  let (portNumber, rest) ← number? 10 none 65535 true (← char? ':' text)
  return (UInt16.ofNat portNumber, rest)

def scope? (text : List Char) : Option (UInt32 × List Char) :=
  match char? '%' text with
  | none => some (0, text)
  | some rest =>
      (number? 10 none (UInt32.size - 1) true rest).map fun (n, rest) => (UInt32.ofNat n, rest)

def ofText? (text : String) : Option SocketAddress :=
  match text.toList with
  | '[' :: inside => do
      let (ip, rest) ← ipv6? inside
      let (scope, rest) ← scope? rest
      let (portNumber, rest) ← portNumber? (← char? ']' rest)
      if rest.isEmpty then some (.v6 ip scope portNumber) else none
  | outside => do
      let (ip, rest) ← ipv4? outside
      let (portNumber, rest) ← portNumber? rest
      if rest.isEmpty then some (.v4 (UInt32.ofNat ip) portNumber) else none

end SocketAddress

end ClusterDriver
