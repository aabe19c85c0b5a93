import ClusterDriver.Document.Config
import ClusterDriver.Document.Servers
import ClusterDriver.Scenario.Naming
import ClusterDriver.Scenario.Waits

set_option autoImplicit false

namespace ClusterDriver.Scenario.Pooling

open Json (Read)
open Document (Input)
open Simulation

/-- `channels` are those that were handed out, in that order; `immediate` is the outcome of an
acquisition that did not wait. -/
structure State where
  world : World
  server : ServerId
  pool : PoolId
  channels : List ChannelId := []
  immediate : Option (Except PoolError ChannelId) := none
  acquisitions : List (String × ErrandId) := []
  closings : List (String × ErrandId) := []
  readies : List (String × ErrandId) := []
  waits : Waits := {}

inductive Step where
  | start
  | advance (millis : Nat)
  | acquire (name : String)
  | tryAcquire
  | send (name : String) (channel : Nat) (opcode : Input Opcode) (body : ByteArray)
  | wait (name : String) (timeout : Nat)
  | cancel (name : String)
  | drop (name : String)
  | closeChannel (channel : Nat)
  | forceCloseChannel (channel : Nat)
  | setBehavior (behavior : Behavior)
  | enqueue (behavior : Behavior)
  | answerHeartbeats (answer : Bool)
  | stop
  | restart
  | close (name : String)
  | ready (name : String)
  | forceClose
  | describe
  | channels

def asStep (value : Json) : Input Step := do
  match ← value.getString "do" with
  | "advance" => return .advance (← value.getNat "ms")
  | "acquire" => return .acquire (← value.getString "id")
  | "try_acquire" => return .tryAcquire
  | "send" =>
      return .send (← value.getString "id") (← value.getNat "channel")
        (Document.getOpcode value "opcode") (← Document.getBytes value "body")
  | "wait" => return .wait (← value.getString "id") (← value.getNat "timeout_ms")
  | "cancel" => return .cancel (← value.getString "id")
  | "drop" => return .drop (← value.getString "id")
  | "close_channel" => return .closeChannel (← value.getNat "channel")
  | "force_close_channel" => return .forceCloseChannel (← value.getNat "channel")
  | "set_behavior" => return .setBehavior (← value.get "behavior" Document.asBehavior)
  | "enqueue" => return .enqueue (← value.get "behavior" Document.asBehavior)
  | "answer_heartbeats" => return .answerHeartbeats (← value.getFlag "answer")
  | "stop" => return .stop
  | "restart" => return .restart
  | "close" => return .close (← value.getString "id")
  | "ready" => return .ready (← value.getString "id")
  | "force_close" => return .forceClose
  | "debug" => return .describe
  | "channels" => return .channels
  | other => .error (.unreadable ("unknown step " ++ other))

namespace State

def noChannel : Json := .text "no such channel"

def pool? (state : State) : Option Pool := (state.world.pool? state.pool).map (·.pool)

def send (state : State) (name : String) (channel : Nat) (opcode : Input Opcode)
    (body : ByteArray) : Input (State × Json) := do
  match state.channels[channel]? with
  | none => return (state, noChannel)
  | some channel =>
      match state.world.send channel (← opcode) body with
      | .error e => return (state, Document.channelError e)
      | .ok (world, handle) =>
          let (waits, world) := state.waits.keep world name handle
          return ({ state with waits, world }, .text "ok")

def onChannel (state : State) (channel : Nat) (action : World → ChannelId → World) :
    State × Json :=
  match state.channels[channel]? with
  | none => (state, noChannel)
  | some channel => ({ state with world := action state.world channel }, .null)

def onServer (state : State) (change : Server → Server) : State × Json :=
  ({ state with world := state.world.updateServer state.server change }, .null)

def begin (state : State) (errand : Errand) : State × ErrandId :=
  let (world, id) := state.world.begin errand
  ({ state with world }, id)

def act (state : State) : Step → State × Json
  | .start | .send .. => (state, .null)
  | .advance millis => ({ state with world := state.world.settle.pass millis }, .null)
  | .acquire name =>
      let (state, id) := state.begin (.acquire state.pool)
      ({ state with acquisitions := put state.acquisitions name id }, .null)
  | .tryAcquire =>
      ({ state with immediate := state.pool?.map fun pool => pool.tryAcquire state.world.view },
        .null)
  | .wait name timeout =>
      let (waits, world, result) := state.waits.start state.world name timeout
      ({ state with waits, world }, result)
  | .cancel name =>
      let (waits, world, result) := state.waits.cancel state.world name
      ({ state with waits, world }, result)
  | .drop name =>
      let (waits, world) := state.waits.drop state.world name
      ({ state with waits, world }, .null)
  | .closeChannel channel => state.onChannel channel World.closeChannel
  | .forceCloseChannel channel => state.onChannel channel World.forceCloseChannel
  | .setBehavior behavior => state.onServer (·.setBehavior behavior)
  | .enqueue behavior => state.onServer (·.enqueue behavior)
  | .answerHeartbeats answer =>
      state.onServer fun server => { server with answersHeartbeats := answer }
  | .stop => ({ state with world := state.world.stopServer state.server }, .null)
  | .restart =>
      let (world, started) := state.world.restartServer state.server
      ({ state with world }, .bool started)
  | .close name =>
      let (state, id) := state.begin (.closePool state.pool none)
      ({ state with closings := put state.closings name id }, .null)
  | .ready name =>
      let (state, id) := state.begin (.ready state.pool)
      ({ state with readies := put state.readies name id }, .null)
  | .forceClose => ({ state with world := state.world.forceClosePool state.pool }, .null)
  | .describe =>
      (state, .optional (fun pool => .text (pool.describe state.world.view)) state.pool?)
  | .channels =>
      (state, .list (fun link => channelState link.channel)
        (state.channels.filterMap state.world.link?))

def run (state : State) : Step → Input (State × Json)
  | .send name channel opcode body => state.send name channel opcode body
  | step => return state.act step

def poolErrorName : PoolError → String
  | .unavailable .. => "Unavailable"
  | .busy _ => "Busy"
  | .closed _ => "Closed"

def showAcquired (state : State) :
    Except PoolError ChannelId → State × Json
  | .error e => (state, Document.error (poolErrorName e) e.message)
  | .ok channel =>
      let channels :=
        if channel ∈ state.channels then state.channels else state.channels ++ [channel]
      let opened : Int := channel - channels.headD channel
      ({ state with channels },
        .record [("channel", .nat (channels.idxOf channel)), ("opened", .int opened)])

def showAllAcquired (state : State) :
    List (String × Except PoolError ChannelId) → State × List (String × Json)
  | [] => (state, [])
  | (name, result) :: rest =>
      let (state, shown) := state.showAcquired result
      let (state, others) := showAllAcquired state rest
      (state, (name, shown) :: others)

def acquired (state : State) : State × List (String × Json) :=
  let resultOf (id : ErrandId) : Option (Except PoolError ChannelId) :=
    match state.world.results.lookup id with
    | some (.acquired result) => some result
    | _ => none
  let ended := state.acquisitions.filterMap fun (name, id) =>
    (resultOf id).map fun result => (name, result)
  let sorted := ended.mergeSort fun first second => first.1 ≤ second.1
  let immediate := state.immediate.toList.map fun result => ("now", result)
  let acquisitions := state.acquisitions.filter fun (_, id) => (resultOf id).isNone
  { state with acquisitions, immediate := none }.showAllAcquired (immediate ++ sorted)

def log (state : State) : List String :=
  let lines := state.world.results.filterMap fun (id, result) =>
    let nameIn (entries : List (String × ErrandId)) : Option String :=
      (entries.find? fun entry => entry.2 = id).map (·.1)
    match result with
    | .done => (nameIn state.closings).map ("close " ++ ·)
    | .state reached =>
        (nameIn state.readies).map fun name => "ready " ++ name ++ " " ++ reached.name
    | _ => none
  lines.mergeSort fun first second => first ≤ second

def eventText : PoolEvent → Json
  | .up _ => .text "Up"
  | .down _ => .text "Down"

def shown (state : State) (result : Json) : State × Json :=
  let world := state.world
  let (state, acquired) := state.acquired
  let (waits, done) := state.waits.finished world.results
  let lines := state.log
  let pool := state.pool?
  let server := world.servers[state.server]?
  let count (field : Server → Nat) : Json := .nat ((server.map field).getD 0)
  ({ state with waits, world := { world with results := [], poolEvents := [] } },
    .record [("t", .nat world.now), ("result", result), ("acquired", .record acquired),
      ("done", .record done), ("events", .list eventText world.poolEvents),
      ("log", .list .text lines), ("state", .text (world.poolState state.pool).name),
      ("size", .nat ((pool.map fun pool => pool.size world.view).getD 0)),
      ("in_flight", .nat (world.inFlight ((pool.map (·.channels)).getD []))),
      ("closed", .bool (pool.all (·.isClosed))),
      ("requests", count (·.requests)), ("heartbeats", count (·.heartbeats)),
      ("connections", count (·.connections))])

def runAll (state : State) : List Step → Input (List Json)
  | [] => return []
  | step :: rest => do
      let (state, result) ← state.run step
      let (state, answer) := { state with world := state.world.settle }.shown result
      return answer :: (← runAll state rest)

end State

def naming : Naming := ["node"]

def answer (input : Json) : Input Json := do
  let settings ← input.getD "config" {} (Json.asPart "pool" Document.Config.poolSettings?)
  let auth ← input.get? "auth" Document.asCredentials
  let serverAuth ← input.get? "node_auth" Document.asCredentials
  let usual ← input.getD "behavior" .echo Document.asBehavior
  let isUp ← input.getFlag "net"
  let isLocal ← input.getD "local" true Json.asBool
  let running ← input.getD "running" true Json.asBool
  let steps ← Document.getListOf input "steps" asStep
  let address := addressOf 0
  let world : World := { network := { isUp }, tracking := false }
  let (world, server) := world.addServer
    { address, conduct := .ordinary usual [], auth := ⟨serverAuth⟩ }
  let world := if running then world.startServer server else world
  let (world, pool) := world.addPool address (.ofSettings settings isLocal)
    (auth.map Authenticator.plainText)
  let state : State := { world, server, pool }
  return naming.apply (.record [("steps", .array (← state.runAll (.start :: steps)))])

end ClusterDriver.Scenario.Pooling
