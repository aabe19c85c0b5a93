import ClusterDriver.Document.Shutdown
import ClusterDriver.Scenario.Cluster

set_option autoImplicit false

namespace ClusterDriver.Scenario.Sessions

open Json (Read)
open Document (Input)
open Simulation

inductive Opening where
  | opening
  | reported (isOpen : Bool)

/-- `futures` are the requests that were submitted and whose outcome is still to come, with the
number of their context; those of `executions` were not submitted but waited for at once. -/
structure State where
  naming : Naming
  config : DriverConfig
  world : World
  connecting : ErrandId
  opening : Opening := .opening
  futures : List (String × Nat) := []
  executions : List (String × Nat) := []
  errands : List (String × ErrandId) := []

inductive Step where
  | start
  | advance (millis : Nat)
  | node (step : NodeStep)
  | submit (name : String) (request : Request) (options : RequestOptions) (times : Nat)
  | execute (name : String) (request : Request) (options : RequestOptions)
  | cancel (name : String)
  | drop (name : String)
  | removeNode (name : String) (address : SocketAddress)
  | watch
  | close (name : String)
  | describe

def asStep (naming : Naming) (value : Json) : Read Step := do
  let name := value.getString "id"
  let request := value.get "request" Document.asRequest
  let options := value.getD "options" {} Document.asOptions
  match ← asNodeStep? naming value with
  | some step => return .node step
  | none =>
      match ← value.getString "do" with
      | "advance" => return .advance (← value.getNat "ms")
      | "submit" =>
          return .submit (← name) (← request) (← options) (← value.getD "times" 1 Json.asNat)
      | "execute" => return .execute (← name) (← request) (← options)
      | "cancel" => return .cancel (← name)
      | "drop" => return .drop (← name)
      | "remove_node" => return .removeNode (← name) (← value.get "node" (asNodeAddress naming))
      | "watch" => return .watch
      | "close" => return .close (← name)
      | "debug" => return .describe
      | other => .error ("unknown step " ++ other)

namespace State

def isOpen (state : State) : Bool :=
  match state.opening with
  | .reported isOpen => isOpen
  | .opening => false

def begin (state : State) (name : String) (errand : Errand) : State × Json :=
  let (world, id) := state.world.begin errand
  ({ state with world, errands := put state.errands name id }, .null)

def submitAll? (state : State) (request : Request) (options : RequestOptions) :
    List String → Option (State × Json)
  | [] => some (state, .null)
  | name :: rest => do
      let (world, context) ← state.world.submit? request options
      let state := { state with world, futures := put state.futures name context }
      if rest.isEmpty then some (state, .nat context)
      else state.submitAll? request options rest

def names (name : String) (times : Nat) : List String :=
  if times = 1 then [name]
  else (List.range times).map fun position => name ++ toString position

def cancel (state : State) (name : String) : State × Json :=
  match state.futures.lookup name with
  | none => (state, unknownId)
  | some context => ({ state with world := state.world.cancelContext context }, .null)

def describe (state : State) : Json :=
  let session := s!"Session \x7b nodes: {state.world.tracker.present.length}, closed: "
    ++ s!"{state.world.isSessionClosed} \x7d"
  let sorted := state.futures.mergeSort fun first second => first.1 ≤ second.1
  .array [.text session,
    .list (fun (_, context) => .text s!"ResponseFuture \x7b id: {context} \x7d") sorted]

def act? (state : State) : Step → Option (State × Json)
  | .start | .advance _ => some (state, .null)
  | .node step =>
      let (world, result) := step.run state.world
      some ({ state with world }, result)
  | .submit name request options times => state.submitAll? request options (names name times)
  | .execute name request options =>
      (state.world.submit? request options).map fun (world, context) =>
        ({ state with world, executions := put state.executions name context }, .null)
  | .cancel name => some (state.cancel name)
  | .drop name =>
      let (state, _) := state.cancel name
      some ({ state with futures := remove state.futures name }, .null)
  | .removeNode name address => some (state.begin name (.removeNode address true none))
  | .watch => some ({ state with world := state.world.addListener }, .null)
  | .close name =>
      let scheduler := state.config.scheduler
      some (state.begin name (.closeSession scheduler.quietPeriod scheduler.shutdownTimeout))
  | .describe => some (state, state.describe)

def run? (state : State) : Step → Option (State × Json)
  | .start => some (state, .null)
  | .advance millis => some ({ state with world := state.world.settle.pass millis }, .null)
  | .node step =>
      if step.isOnServer ∨ state.isOpen then state.act? (.node step)
      else some (state, .text "no session")
  | step => if state.isOpen then state.act? step else some (state, .text "no session")

def noteOpening (state : State) : State × Json :=
  match state.opening, state.world.results.lookup state.connecting with
  | .opening, some (.opened (.ok ())) => ({ state with opening := .reported true }, .text "ok")
  | .opening, some (.opened (.error e)) =>
      ({ state with opening := .reported false }, Document.driverError e)
  | .opening, _ => (state, .text "pending")
  | .reported _, _ => (state, .null)

def resultJson : Errand.Result → Json
  | .flag value => .bool value
  | .report report => Document.shutdownReport report
  | _ => .null

def done (state : State) : State × List (String × Json) :=
  let outcomes := (state.futures ++ state.executions).filterMap fun (name, context) =>
    (state.world.outcome? context).map fun outcome => (name, Document.outcome outcome)
  let results := state.errands.filterMap fun (name, id) =>
    (state.world.results.lookup id).map fun result => (name, resultJson result)
  let isOpen (entry : String × Nat) : Bool := (state.world.outcome? entry.2).isNone
  ({ state with
      futures := state.futures.filter isOpen
      executions := state.executions.filter isOpen
      errands := state.errands.filter fun (_, id) => (state.world.results.lookup id).isNone },
    outcomes ++ results)

def shown (state : State) (result : Json) : State × Json :=
  let (state, connect) := state.noteOpening
  let (state, done) := state.done
  let world := state.world
  let opened (value : Json) (otherwise : Json) : Json := if state.isOpen then value else otherwise
  let answer := Json.record [("t", .nat world.now), ("result", result), ("connect", connect),
    ("done", .record done),
    ("events", opened (eventsByNode state.naming world.nodeEvents) (.record [])),
    ("callbacks", eventsByNode state.naming world.calledBack),
    ("states", opened (statesOf world) (.array [])), ("counts", countsOf state.naming world),
    ("closed", opened (.bool world.isSessionClosed) .null),
    ("policy_calls", .nat (policyCalls world))]
  ({ state with world := { world with nodeEvents := [], calledBack := [], results := [] } }, answer)

def runAll? (state : State) : List Step → Option (List Json)
  | [] => some []
  | step :: rest => do
      let (state, result) ← state.run? step
      let (state, answer) := { state with world := state.world.settle }.shown result
      return answer :: (← state.runAll? rest)

end State

def plainSetup (config : DriverConfig) : Setup where registry := .ofConfig config

def answer (input : Json) : Input Json := do
  let cluster ← asCluster input
  let steps ← input.getList "steps" (asStep cluster.naming)
  let world :=
    if (← input.get? "entry" Json.asString) = some "connect" then
      { cluster.world with setup := plainSetup cluster.config }
    else cluster.world
  let (world, connecting) := world.begin (.openSession cluster.config none)
  let state : State := { naming := cluster.naming, config := cluster.config, world, connecting }
  match state.runAll? (.start :: steps) with
  | some results => return cluster.naming.apply (.record [("steps", .array results)])
  | none => return .record [("error", .text "Panic")]

end ClusterDriver.Scenario.Sessions
