import ClusterDriver.Cluster.Plan
import ClusterDriver.Cluster.Tracker
import ClusterDriver.Document.Values

set_option autoImplicit false

namespace ClusterDriver.Scenario.Tracking

open Json (Read)
open Document

structure State where
  tracker : Tracker
  robin : RoundRobin := {}
  plans : List (String × Plan) := []

inductive Step where
  | plan (key : Option ByteArray)
  | openPlan (id : String) (key : Option ByteArray)
  | nextOf (id : String)
  | markUp (address : SocketAddress)
  | markDown (address : SocketAddress)
  | remove (address : SocketAddress)
  | add (contact : ContactPoint)
  | node (address : SocketAddress)
  | nodes
  | replicasOfToken (token : Int64)
  | replicasOfKey (key : ByteArray)
  | describe
  | ignoredPool (address : SocketAddress)

def asContact (value : Json) : Read ContactPoint := do
  return {
    address := ← value.get "addr" asAddress
    datacenter := ← value.get? "dc" Json.asString
    tokens := ← value.getList "tokens" asToken }

def asStep (value : Json) : Read Step := do
  let key := value.get? "key" asBytes
  let address := value.get "addr" asAddress
  match ← value.getString "do" with
  | "plan" => return .plan (← key)
  | "open" => return .openPlan (← value.getString "id") (← key)
  | "next" => return .nextOf (← value.getString "id")
  | "mark_up" => return .markUp (← address)
  | "mark_down" => return .markDown (← address)
  | "remove" => return .remove (← address)
  | "add" => return .add (← value.get "node" asContact)
  | "node" => return .node (← address)
  | "nodes" => return .nodes
  | "replicas" =>
      match ← value.get? "token" asToken with
      | some token => return .replicasOfToken token
      | none => return .replicasOfKey (← getBytes value "key")
  | "debug" => return .describe
  | "ignored_pool" => return .ignoredPool (← address)
  | other => .error ("unknown step " ++ other)

def nodeText (node : Node) : String := node.address.text ++ " " ++ node.state.text

def nodeJson (node : Node) : Json :=
  .record [("addr", address node.address), ("dc", .optional .text node.datacenter),
    ("tokens", .list (fun token => .int token.toInt) node.tokens),
    ("distance", .text node.distance.name), ("state", .text node.state.text),
    ("queryable", .bool node.isQueryable)]

def eventText (event : NodeEvent) : String :=
  event.node.text ++ " " ++ event.previous.text ++ "->" ++ event.current.text

namespace State

def shown (state : State) (node : Node) : Json :=
  .text (nodeText ((state.tracker.node? node.id).getD node))

def makePlan? (state : State) (key : Option ByteArray) : Option (Plan × State) :=
  (state.robin.plan? key state.tracker.present state.tracker.ring).map fun plan =>
    (plan, { state with robin := state.robin.advance })

def keepPlan (state : State) (id : String) (plan : Plan) : State :=
  { state with plans := (id, plan) :: state.plans.filter fun kept => kept.1 ≠ id }

def takeNext (state : State) (id : String) : State × Json :=
  match state.plans.lookup id with
  | none => (state, .text "no such id")
  | some plan =>
      let (node, rest) := match plan.next? with
        | some (node, rest) => (some node, rest)
        | none => (none, plan)
      (state.keepPlan id rest,
        .record [("node", .optional state.shown node), ("remaining", .nat rest.remaining.length),
          ("exhausted", .bool rest.isExhausted), ("hint", .nat rest.remaining.length)])

def run? (state : State) : Step → Option (State × List NodeEvent × Json)
  | .plan key => do
      let (plan, state) ← state.makePlan? key
      return (state, [], .list state.shown plan.remaining)
  | .openPlan id key => do
      let (plan, state) ← state.makePlan? key
      return (state.keepPlan id plan, [], .nat plan.remaining.length)
  | .nextOf id =>
      let (state, result) := state.takeNext id
      some (state, [], result)
  | .markUp address =>
      let (tracker, events, result) := state.tracker.markUp (fun _ => .ready) address
      some ({ state with tracker }, events, .bool result)
  | .markDown address =>
      let (tracker, events, result) := state.tracker.markDown address
      some ({ state with tracker }, events, .bool result)
  | .remove address =>
      match state.tracker.removeNode address with
      | none => some (state, [], .bool false)
      | some (tracker, _, events) => some ({ state with tracker }, events, .bool true)
  | .add contact =>
      let (tracker, node) := state.tracker.addNode contact
      some ({ state with tracker }, [], nodeJson node)
  | .node address => some (state, [], .optional nodeJson (state.tracker.find? address))
  | .nodes => some (state, [], .list nodeJson state.tracker.present)
  | .replicasOfToken token => do
      return (state, [], .list address (← state.tracker.ring.replicas? token))
  | .replicasOfKey key => do
      return (state, [], .list address (← state.tracker.ring.replicasOfKey? key))
  | .describe => some (state, [], .text state.tracker.describe)
  | .ignoredPool address =>
      some (state, [], .bool ((state.tracker.find? address).any fun node =>
        node.distance = .ignored && !node.isPoolable))

def runAll? (state : State) : List Step → Option (List Json)
  | [] => some []
  | step :: rest => do
      let (state, events, result) ← state.run? step
      let shown := Json.record
        [("result", result), ("events", .list (fun event => .text (eventText event)) events)]
      return shown :: (← state.runAll? rest)

end State

def answer (input : Json) : Read Json := do
  let config : DriverConfig := {
    contactPoints := ← input.getList "nodes" asContact
    localDatacenter := ← input.get? "local_dc" Json.asString
    allowRemoteDatacenters := ← input.getD "allow_remote" true Json.asBool
    replicationFactor := ← input.getD "rf" 1 Json.asNat }
  let steps ← input.getList "steps" asStep
  match State.runAll? { tracker := .ofConfig config } steps with
  | some results => return .record [("steps", .array results), ("pools", .nat 0)]
  | none => return .record [("error", .text "Panic")]

end ClusterDriver.Scenario.Tracking
