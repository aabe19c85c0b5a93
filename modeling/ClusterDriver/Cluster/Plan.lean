import ClusterDriver.Cluster.Node
import ClusterDriver.Token.Ring

set_option autoImplicit false

namespace ClusterDriver

structure Plan where
  remaining : List Node
deriving DecidableEq, Repr

namespace Plan

def isExhausted (plan : Plan) : Bool := plan.remaining.isEmpty

def next? (plan : Plan) : Option (Node × Plan) :=
  match plan.remaining with
  | [] => none
  | node :: rest => some (node, ⟨rest⟩)

end Plan

structure RoundRobin where
  -- The cursor wraps at 64 bits.
  cursor : Nat := 0
deriving DecidableEq, Repr, Inhabited

namespace RoundRobin

def rotated (count : Nat) (nodes : List Node) : List Node := nodes.rotateLeft count

def advance (robin : RoundRobin) : RoundRobin := ⟨(robin.cursor + 1) % UInt64.size⟩

def replicasAt (live : List Node) (replicas : List SocketAddress) (distance : Distance) :
    List Node :=
  replicas.filterMap fun address =>
    live.find? fun node => node.address = address ∧ node.distance = distance

def othersAt (robin : RoundRobin) (live placed : List Node) (distance : Distance) : List Node :=
  rotated robin.cursor <| live.filter fun node =>
    node.distance = distance ∧ node.address ∉ placed.map (·.address)

def arrange (robin : RoundRobin) (nodes : List Node) (replicas : List SocketAddress) : Plan :=
  let live := nodes.filter Node.isQueryable
  let placed := replicasAt live replicas .near ++ replicasAt live replicas .remote
  ⟨placed ++ robin.othersAt live placed .near ++ robin.othersAt live placed .remote⟩

def replicasFor? (ring : TokenRing) : Option ByteArray → Option (List SocketAddress)
  | none => some []
  | some key => ring.replicasOfKey? key

/-- There is no plan if the replicas of the key cannot be looked up. -/
def plan? (robin : RoundRobin) (key : Option ByteArray) (nodes : List Node) (ring : TokenRing) :
    Option Plan :=
  (replicasFor? ring key).map (robin.arrange nodes)

end RoundRobin

end ClusterDriver
