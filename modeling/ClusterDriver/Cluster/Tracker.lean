import ClusterDriver.Cluster.Node
import ClusterDriver.Pool
import ClusterDriver.Token.Ring

/-!
The nodes of a cluster with their health. States follow the pools of the nodes and signals from
outside; the token ring always shows the registered nodes.
-/

set_option autoImplicit false

namespace ClusterDriver

/-- `nodes` holds every node there ever was, by id; `registered` names the present ones in the
order in which they were added. `applied` counts the pool events taken into account. -/
structure Tracker where
  localDatacenter : Option String
  allowRemote : Bool
  replicationFactor : Nat
  nodes : List Node := []
  registered : List NodeId := []
  ring : TokenRing := {}
  applied : Nat := 0
deriving Repr

namespace Tracker

def distanceOf (tracker : Tracker) (datacenter : Option String) : Distance :=
  match tracker.localDatacenter with
  | none => .near
  | some home =>
      if datacenter = some home then .near
      else if tracker.allowRemote then .remote
      else .ignored

def node? (tracker : Tracker) (id : NodeId) : Option Node := tracker.nodes[id]?

def present (tracker : Tracker) : List Node := tracker.registered.filterMap tracker.node?

def find? (tracker : Tracker) (address : SocketAddress) : Option Node :=
  tracker.present.find? fun node => node.address = address

def rebuildRing (tracker : Tracker) : Tracker :=
  { tracker with
    ring := .ofNodes (tracker.present.map fun node => (node.address, node.tokens))
      tracker.replicationFactor }

def update (tracker : Tracker) (node : Node) : Tracker :=
  { tracker with nodes := tracker.nodes.set node.id node }

def addNode (tracker : Tracker) (contact : ContactPoint) : Tracker × Node :=
  -- An address that is present already keeps its node.
  match tracker.find? contact.address with
  | some node => (tracker, node)
  | none =>
      let node : Node := {
        id := tracker.nodes.length
        address := contact.address
        datacenter := contact.datacenter
        tokens := contact.tokens
        distance := tracker.distanceOf contact.datacenter }
      ({ tracker with
          nodes := tracker.nodes ++ [node]
          registered := tracker.registered ++ [node.id] }.rebuildRing, node)

def ofConfig (config : DriverConfig) : Tracker :=
  config.contactPoints.foldl (fun tracker contact => (tracker.addNode contact).1) {
    localDatacenter := config.localDatacenter
    allowRemote := config.allowRemoteDatacenters
    replicationFactor := config.replicationFactor }

def transition (tracker : Tracker) (node : Node) (next : NodeState) : Tracker × List NodeEvent :=
  let (node, event) := node.transition next
  (tracker.update node, event.toList)

def removeNode (tracker : Tracker) (address : SocketAddress) :
    Option (Tracker × Node × List NodeEvent) :=
  -- The pool of the node is left to be closed.
  match tracker.find? address with
  | none => none
  | some node =>
      let remaining := { tracker with
        registered := tracker.registered.erase node.id }.rebuildRing
      let (tracker, events) := remaining.transition node .removed
      some (tracker, node, events)

def markDown (tracker : Tracker) (address : SocketAddress) : Tracker × List NodeEvent × Bool :=
  match tracker.find? address with
  | none => (tracker, [], false)
  | some node =>
      let (after, events) := tracker.transition node .down
      (after, events, true)

def markUp (tracker : Tracker) (poolState : PoolId → PoolState) (address : SocketAddress) :
    Tracker × List NodeEvent × Bool :=
  -- The signal is refused while the node has a pool that is not ready.
  match tracker.find? address with
  | none => (tracker, [], false)
  | some node =>
      if node.pool.any fun pool => poolState pool ≠ .ready then (tracker, [], false)
      else
        let (after, events) := tracker.transition node .up
        (after, events, true)

def onPoolEvent (tracker : Tracker) (event : PoolEvent) : Tracker × List NodeEvent :=
  -- The event concerns the present node of its address, if any.
  let (address, next) := match event with
    | .up address => (address, NodeState.up)
    | .down address => (address, NodeState.down)
  let (after, events) := match tracker.find? address with
    | none => (tracker, [])
    | some node => tracker.transition node next
  ({ after with applied := after.applied + 1 }, events)

def statesMatchPools (tracker : Tracker) (poolState : PoolId → PoolState) : Bool :=
  tracker.present.all fun node =>
    match node.pool.map poolState with
    | some .ready => node.state ≠ .unknown
    | some .unavailable => node.state = .down || node.state = .removed
    | _ => true

def upCount (tracker : Tracker) : Nat :=
  (tracker.present.filter fun node => node.state = .up).length

def pools (tracker : Tracker) : List PoolId := tracker.present.filterMap (·.pool)

def describe (tracker : Tracker) : String :=
  let datacenter := match tracker.localDatacenter with
    | none => "None"
    | some name => "Some(" ++ Text.quoted name ++ ")"
  "NodeTracker \x7b nodes: [" ++ ", ".intercalate (tracker.present.map Node.describe)
    ++ "], local_datacenter: " ++ datacenter ++ " \x7d"

end Tracker

end ClusterDriver
