/-!
The hash of partition keys: the first half of the 128-bit Murmur hash, third version, for 64-bit
words with seed 0, in the variant of the server. Bytes of the last, incomplete block are
sign-extended before they are mixed.
-/

set_option autoImplicit false

namespace ClusterDriver.Token.Murmur

def rotateLeft (value : UInt64) (count : UInt64) : UInt64 :=
  (value <<< count) ||| (value >>> (64 - count))

def firstFactor : UInt64 := 0x87c37b91114253d5

def secondFactor : UInt64 := 0x4cf5ad432745937f

def finish (value : UInt64) : UInt64 :=
  let value := value ^^^ (value >>> 33)
  let value := value * 0xff51afd7ed558ccd
  let value := value ^^^ (value >>> 33)
  let value := value * 0xc4ceb9fe1a85ec53
  value ^^^ (value >>> 33)

def mixFirst (word : UInt64) : UInt64 := rotateLeft (word * firstFactor) 31 * secondFactor

def mixSecond (word : UInt64) : UInt64 := rotateLeft (word * secondFactor) 33 * firstFactor

structure State where
  first : UInt64
  second : UInt64
deriving DecidableEq, Repr

def littleEndian : List UInt8 → UInt64
  | [] => 0
  | byte :: rest => byte.toUInt64 ||| (littleEndian rest <<< 8)

def mixBlock (state : State) (low high : UInt64) : State :=
  let first := state.first ^^^ mixFirst low
  let first := (rotateLeft first 27 + state.second) * 5 + 0x52dce729
  let second := state.second ^^^ mixSecond high
  let second := (rotateLeft second 31 + first) * 5 + 0x38495ab5
  ⟨first, second⟩

def signExtend (byte : UInt8) : UInt64 := byte.toInt8.toInt64.toUInt64

def signedWord : List UInt8 → UInt64
  | [] => 0
  | byte :: rest => signExtend byte ^^^ (signedWord rest <<< 8)

def mixTail (state : State) (tail : List UInt8) : State :=
  let second :=
    if 8 < tail.length then state.second ^^^ mixSecond (signedWord (tail.drop 8))
    else state.second
  let first :=
    if tail.isEmpty then state.first else state.first ^^^ mixFirst (signedWord (tail.take 8))
  ⟨first, second⟩

def mixAll (state : State) (bytes : List UInt8) : State :=
  if 16 ≤ bytes.length then
    mixAll
      (mixBlock state (littleEndian (bytes.take 8)) (littleEndian ((bytes.drop 8).take 8)))
      (bytes.drop 16)
  else mixTail state bytes
termination_by bytes.length
decreasing_by simp; omega

def hash (key : List UInt8) : UInt64 :=
  let state := mixAll ⟨0, 0⟩ key
  let length := UInt64.ofNat key.length
  let first := state.first ^^^ length
  let second := state.second ^^^ length
  let first := first + second
  let second := second + first
  finish first + finish second

/-- The token of a partition key. The least 64-bit number is no token; the greatest stands in
for it. -/
def token (key : List UInt8) : Int64 :=
  let value := (hash key).toInt64
  if value = Int64.minValue then Int64.maxValue else value

end ClusterDriver.Token.Murmur
