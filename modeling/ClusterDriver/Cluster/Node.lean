import ClusterDriver.Config
import ClusterDriver.Text.Quoted

set_option autoImplicit false

namespace ClusterDriver

abbrev NodeId := Nat

abbrev PoolId := Nat

inductive NodeState where
  | unknown
  | up
  | down
  | removed
deriving DecidableEq, Repr, Inhabited

namespace NodeState

def text : NodeState → String
  | .unknown => "UNKNOWN"
  | .up => "UP"
  | .down => "DOWN"
  | .removed => "REMOVED"

def name : NodeState → String
  | .unknown => "Unknown"
  | .up => "Up"
  | .down => "Down"
  | .removed => "Removed"

end NodeState

inductive Distance where
  | near
  | remote
  | ignored
deriving DecidableEq, Repr, Inhabited

def Distance.name : Distance → String
  | .near => "Local"
  | .remote => "Remote"
  | .ignored => "Ignored"

/-- A node, and its pool once it has been used. A node that is removed and added again is
another node with the same address. -/
structure Node where
  id : NodeId
  address : SocketAddress
  datacenter : Option String
  tokens : List Int64
  distance : Distance
  state : NodeState := .unknown
  pool : Option PoolId := none
deriving DecidableEq, Repr

structure NodeEvent where
  node : SocketAddress
  previous : NodeState
  current : NodeState
deriving DecidableEq, Repr

namespace Node

def isQueryable (node : Node) : Bool :=
  node.distance ≠ .ignored && (node.state = .unknown || node.state = .up)

def isPoolable (node : Node) : Bool := node.distance ≠ .ignored && node.state ≠ .removed

def transition (node : Node) (next : NodeState) : Node × Option NodeEvent :=
  -- A removed node does not change any more.
  if node.state = next ∨ node.state = .removed then (node, none)
  else ({ node with state := next }, some ⟨node.address, node.state, next⟩)

def describe (node : Node) : String :=
  let datacenter := match node.datacenter with
    | none => "None"
    | some name => "Some(" ++ Text.quoted name ++ ")"
  "Node \x7b addr: " ++ node.address.text ++ ", datacenter: " ++ datacenter ++ ", distance: "
    ++ node.distance.name ++ ", state: " ++ node.state.name ++ " \x7d"

end Node

end ClusterDriver
