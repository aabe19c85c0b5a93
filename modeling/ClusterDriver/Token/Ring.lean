import ClusterDriver.SocketAddress
import ClusterDriver.Token.Murmur

set_option autoImplicit false

namespace ClusterDriver

structure RingEntry where
  token : Int64
  owner : SocketAddress
deriving DecidableEq, Repr

/-- Entries in increasing order of tokens, and the number of replicas of each token. -/
structure TokenRing where
  entries : List RingEntry := []
  replicationFactor : Nat := 1
deriving DecidableEq, Repr, Inhabited

namespace RingEntry

def precedes (first second : RingEntry) : Bool :=
  first.token < second.token ∨
    (first.token = second.token ∧ first.owner.rank ≤ second.owner.rank)

end RingEntry

namespace TokenRing

def place (entry : RingEntry) : List RingEntry → List RingEntry
  | [] => [entry]
  | first :: rest => if first.token = entry.token then entry :: rest else entry :: first :: rest

def keepFirst (entries : List RingEntry) : List RingEntry := entries.foldr place []

def ofNodes (nodes : List (SocketAddress × List Int64)) (replicationFactor : Nat) : TokenRing where
  entries :=
    keepFirst ((nodes.flatMap fun (owner, tokens) => tokens.map (⟨·, owner⟩)).mergeSort
      RingEntry.precedes)
  replicationFactor := max replicationFactor 1

def isEmpty (ring : TokenRing) : Bool := ring.entries.isEmpty

def clockwise (ring : TokenRing) (token : Int64) : List SocketAddress :=
  (ring.entries.dropWhile (·.token < token) ++ ring.entries.takeWhile (·.token < token)).map
    (·.owner)

def replicas (ring : TokenRing) (token : Int64) : List SocketAddress :=
  ((ring.clockwise token).eraseDups).take ring.replicationFactor

def replicasOfKey (ring : TokenRing) (key : ByteArray) : List SocketAddress :=
  ring.replicas (Token.Murmur.token key.data.toList)

/-- How many addresses a list can have room for: it takes up fewer than 2^63 bytes, and each
address 32 of them. -/
def maxReserved : Nat := 0x7FFFFFFFFFFFFFFF / 32

def canReserve (ring : TokenRing) : Bool :=
  ring.isEmpty || ring.replicationFactor ≤ maxReserved

def replicas? (ring : TokenRing) (token : Int64) : Option (List SocketAddress) :=
  if ring.canReserve then some (ring.replicas token) else none

def replicasOfKey? (ring : TokenRing) (key : ByteArray) : Option (List SocketAddress) :=
  ring.replicas? (Token.Murmur.token key.data.toList)

end TokenRing

end ClusterDriver
