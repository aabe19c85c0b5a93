import ClusterDriver.Document.Config
import ClusterDriver.Document.Metrics
import ClusterDriver.Document.Outcome
import ClusterDriver.Document.Servers
import ClusterDriver.Scenario.Naming
import ClusterDriver.Scenario.Waits

set_option autoImplicit false

namespace ClusterDriver.Scenario

open Json (Read)
open Document (Input)
open Simulation

structure NamedServer where
  name : String
  server : Server
  running : Bool
  isContact : Bool
  contact : ContactPoint

def asConduct (value : Json) : Input Conduct := do
  match ← value.get? "script" Json.asList with
  | some answers =>
      return .scripted (← answers.mapM fun items => do
        (← Json.asList items).mapM Document.asScriptItem)
  | none => return .ordinary (← value.getD "behavior" .echo Document.asBehavior) []

def asNamedServer (position : Nat) (value : Json) : Input NamedServer := do
  let address := addressOf position
  return {
    name := ← value.getString "name"
    server := {
      address
      conduct := ← asConduct value
      auth := ⟨← value.get? "auth" Document.asCredentials⟩ }
    running := ← value.getD "running" true Json.asBool
    isContact := ← value.getD "contact" true Json.asBool
    contact := {
      address
      datacenter := ← value.get? "dc" Json.asString
      tokens := ← value.getList "tokens" Document.asToken } }

/-- A codec that appends the page size to statements, and refuses empty ones as well as results
that begin with the byte 255. -/
def pagedCodec : Codec where
  encode request pageSize :=
    if request.body.size = 0 then .error (.malformed "empty statement")
    else
      let size := match pageSize with
        | some size => toString size
        | none => "none"
      .ok (request.body ++ ("|" ++ size).toUTF8)
  decode frame :=
    if frame.body[0]? = some 255 then .error (.malformed "bad result")
    else .ok ⟨frame.opcode, frame.body⟩

def asCodec (value : Json) : Read Codec := do
  match ← value.asString with
  | "paged" => return pagedCodec
  | _ => return .passThrough

def asBalancing (value : Json) : Read Balancing := do
  match ← value.asString with
  | "none" => return .nowhere
  | "reversed" => return .reversed
  | _ => return .standard

def asRetryPolicy (value : Json) : Read RetryPolicy := do
  match value with
  | .array decisions => return .sequence (← decisions.mapM Document.asDecision)
  | _ => return .fallthrough

def usualExecutions : Nat := 2

def asProfile (config : DriverConfig) (value : Json) : Read Profile := do
  let name ← value.getString "name"
  let profile := Profile.ofSettings name ((config.profile? name).getD {})
  let retry ← value.getD "retry" profile.retry asRetryPolicy
  let most ← value.getD "speculative_max" usualExecutions Json.asNat
  let speculation := match ← value.get? "speculative_delay_ms" Json.asNat with
    | some delay => .constant ⟨delay, most⟩
    | none => profile.speculation
  return { profile with retry, speculation }

structure Cluster where
  naming : Naming
  config : DriverConfig
  world : World

def addServers (world : World) (servers : List NamedServer) : World :=
  servers.foldl (fun world named =>
    let (world, id) := world.addServer named.server
    if named.running then world.startServer id else world) world

def asCluster (input : Json) : Input Cluster := do
  let nodes ← input.getD "nodes" [] Json.asList
  let servers ← nodes.zipIdx.mapM fun (value, position) => asNamedServer position value
  let config ← input.getD "config" {} (Json.asPart "configuration" Document.Config.config?)
  let contactPoints := (servers.filter (·.isContact)).map (·.contact)
  let config := { config with contactPoints }
  let profiles ← input.getList "profiles" (asProfile config)
  let setup : Setup := {
    registry := profiles.foldl (fun registry profile => registry.insert profile) (.ofConfig config)
    codec := ← input.getD "codec" .passThrough asCodec
    balancing := ← input.getD "load_balancing" .standard asBalancing }
  let world := addServers { network := { isUp := ← input.getFlag "net" }, setup } servers
  return { naming := servers.map (·.name), config, world }

inductive NodeStep where
  | setBehavior (server : ServerId) (behavior : Behavior)
  | enqueue (server : ServerId) (behavior : Behavior)
  | answerHeartbeats (server : ServerId) (answer : Bool)
  | stop (server : ServerId)
  | restart (server : ServerId)
  | markDown (address : SocketAddress)
  | markUp (address : SocketAddress)
  | addNode (contact : ContactPoint)
  | metrics
  | pools

namespace NodeStep

def isOnServer : NodeStep → Bool
  | .setBehavior .. | .enqueue .. | .answerHeartbeats .. | .stop _ | .restart _ => true
  | _ => false

end NodeStep

def asPosition (naming : Naming) (value : Json) : Read Nat := do
  match naming.idxOf? (← value.asString) with
  | some position => return position
  | none => .error "no such node"

def asNodeAddress (naming : Naming) (value : Json) : Read SocketAddress := do
  return addressOf (← asPosition naming value)

def asContact (naming : Naming) (value : Json) : Read ContactPoint := do
  return {
    address := ← value.get "name" (asNodeAddress naming)
    datacenter := ← value.get? "dc" Json.asString
    tokens := ← value.getList "tokens" Document.asToken }

def asNodeStep? (naming : Naming) (value : Json) : Read (Option NodeStep) := do
  let server := value.get "node" (asPosition naming)
  let address := value.get "node" (asNodeAddress naming)
  let behavior := value.get "behavior" Document.asBehavior
  match ← value.getString "do" with
  | "set_behavior" => return some (.setBehavior (← server) (← behavior))
  | "enqueue" => return some (.enqueue (← server) (← behavior))
  | "answer_heartbeats" => return some (.answerHeartbeats (← server) (← value.getFlag "answer"))
  | "stop" => return some (.stop (← server))
  | "restart" => return some (.restart (← server))
  | "mark_down" => return some (.markDown (← address))
  | "mark_up" => return some (.markUp (← address))
  | "add_node" => return some (.addNode (← value.get "contact" (asContact naming)))
  | "metrics" => return some .metrics
  | "pools" => return some .pools
  | _ => return none

def nodeCounters (node : NodeMetrics) : Json :=
  .list .nat [node.attempts, node.successes, node.errors, node.latency.samples]

def metricsOf (snapshot : MetricsSnapshot) : Json :=
  .record [("requests", Document.requestCounters snapshot.requests),
    ("errors", Document.errorCounters snapshot.errors),
    ("nodes", .record (snapshot.nodes.toList.map fun (name, node) => (name, nodeCounters node)))]

def poolSummary (world : World) (service : PoolService) : Json :=
  .array [.text service.pool.state.name, .nat (service.pool.size world.view),
    .nat (world.inFlight service.pool.channels)]

def poolsOf (world : World) : Json :=
  .record (world.tracker.present.map fun node =>
    (node.address.text, .record [("distance", .text node.distance.name),
      ("pool", .optional (poolSummary world) (node.pool.bind world.pool?))]))

namespace NodeStep

def run (world : World) : NodeStep → World × Json
  | .setBehavior server behavior => (world.updateServer server (·.setBehavior behavior), .null)
  | .enqueue server behavior => (world.updateServer server (·.enqueue behavior), .null)
  | .answerHeartbeats server answer =>
      (world.updateServer server fun server => { server with answersHeartbeats := answer }, .null)
  | .stop server => (world.stopServer server, .null)
  | .restart server => ((world.restartServer server).1, .bool true)
  | .markDown address =>
      let (tracker, events, result) := world.tracker.markDown address
      (world.changeNodes tracker events, .bool result)
  | .markUp address =>
      let (tracker, events, result) := world.tracker.markUp world.poolState address
      (world.changeNodes tracker events, .bool result)
  | .addNode contact =>
      let (tracker, node) := world.tracker.addNode contact
      ({ world with tracker }, .array [.text node.distance.name, .text node.state.text,
        .optional .text node.datacenter])
  | .metrics => (world, metricsOf world.metrics.snapshot)
  | .pools => (world, poolsOf world)

end NodeStep

def transitionText (event : NodeEvent) : Json :=
  .text (event.previous.text ++ "->" ++ event.current.text)

def eventsByNode (naming : Naming) (events : List NodeEvent) : Json :=
  .record (naming.zipIdx.filterMap fun (name, position) =>
    match events.filter fun event => event.node = addressOf position with
    | [] => none
    | transitions => some (name, .list transitionText transitions))

def countsOf (naming : Naming) (world : World) : Json :=
  .record ((naming.zip world.servers).map fun (name, server) =>
    (name, .list .nat [server.requests, server.heartbeats, server.connections]))

def statesOf (world : World) : Json :=
  .list (fun node => .text (node.address.text ++ " " ++ node.state.text)) world.tracker.present

def policyCalls (world : World) : Nat :=
  world.retryCalls.foldl (fun total calls => total + calls.2) 0

end ClusterDriver.Scenario
