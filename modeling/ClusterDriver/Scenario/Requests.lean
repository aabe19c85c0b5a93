import ClusterDriver.Document.Outcome
import ClusterDriver.Scenario.Cluster

set_option autoImplicit false

namespace ClusterDriver.Scenario.Requests

open Json (Read)
open Document (Input)
open Simulation

/-- `kept` has the contexts that steps can refer to, `pending` those whose outcome is still to
come, each by its number. -/
structure State where
  naming : Naming
  world : World
  kept : List (String × Nat) := []
  pending : List (String × Nat) := []
  errands : List (String × ErrandId) := []

inductive ContextStep where
  | run (request : Request) (options : RequestOptions)
  | giveUp
  | cancel
  | fail (cause : RequestError)
  | look

inductive Step where
  | start
  | advance (millis : Nat)
  | node (step : NodeStep)
  | execute (name : String) (request : Request) (options : RequestOptions)
  | begin (name : String) (options : RequestOptions)
  | context (name : String) (step : ContextStep)
  | connectAll (name : String) (timeout : Nat)
  | removeNode (name : String) (address : SocketAddress)
  | profiles
  | describe

def asStep (naming : Naming) (value : Json) : Read Step := do
  let name := value.getString "id"
  let request := value.get "request" Document.asRequest
  let options := value.getD "options" {} Document.asOptions
  match ← asNodeStep? naming value with
  | some step => return .node step
  | none =>
      match ← value.getString "do" with
      | "advance" => return .advance (← value.getNat "ms")
      | "execute" => return .execute (← name) (← request) (← options)
      | "begin" => return .begin (← name) (← options)
      | "run" => return .context (← name) (.run (← request) (← options))
      | "give_up" => return .context (← name) .giveUp
      | "cancel" => return .context (← name) .cancel
      | "fail" => return .context (← name) (.fail (← value.get "error" Document.asRequestError))
      | "context" => return .context (← name) .look
      | "connect_all" => return .connectAll (← name) (← value.getNat "timeout_ms")
      | "remove_node" => return .removeNode (← name) (← value.get "node" (asNodeAddress naming))
      | "profiles" => return .profiles
      | "debug" => return .describe
      | other => .error ("unknown step " ++ other)

def contextJson (context : RequestContext) (now : Nat) : Json :=
  .record [("phase", .text context.phase.name), ("resolved", .bool context.isResolved),
    ("cancelled", .bool context.cancelled), ("trace", Document.trace (context.trace now))]

namespace State

def startErrand (state : State) (name : String) (errand : Errand) : State × Json :=
  let (world, id) := state.world.begin errand
  ({ state with world, errands := put state.errands name id }, .null)

def newContext? (state : State) (name : String) (options : RequestOptions) :
    Option (State × Nat) :=
  (state.world.beginContext? options).map fun (world, id) =>
    ({ state with world, pending := state.pending ++ [(name, id)] }, id)

def begin? (state : State) (name : String) (options : RequestOptions) : Option (State × Json) :=
  (state.newContext? name options).map fun (state, id) =>
    let timeout := ((state.world.context? id).map (·.timeout)).getD 0
    ({ state with kept := put state.kept name id }, .array [.nat id, .nat timeout])

def execute? (state : State) (name : String) (request : Request) (options : RequestOptions) :
    Option (State × Json) :=
  (state.newContext? name options).map fun (state, id) =>
    ({ state with world := (state.world.addTask id request options).1 }, .null)

def onContext (state : State) (id : Nat) (context : RequestContext) : ContextStep → State × Json
  | .run request options =>
      ({ state with world := (state.world.addTask id request options).1 }, .null)
  | .giveUp => ({ state with world := (state.world.begin (.giveUp id)).1 }, .null)
  | .cancel => ({ state with world := state.world.cancelContext id }, .null)
  | .fail cause =>
      match context.resolve? state.world.now (.error cause) with
      | some resolved =>
          ({ state with world := state.world.updateContext id fun _ => resolved }, .bool true)
      | none => (state, .bool false)
  | .look => (state, contextJson context state.world.now)

def describe (state : State) : String :=
  "Orchestrator \x7b tracker: " ++ state.world.tracker.describe
    ++ ", profiles: " ++ state.world.setup.registry.describe ++ ", .. \x7d"

def onKept (state : State) (name : String) (step : ContextStep) : State × Json :=
  match state.kept.lookup name with
  | none => (state, unknownId)
  | some id =>
      match state.world.context? id with
      | none => (state, unknownId)
      | some context => state.onContext id context step

def run? (state : State) : Step → Option (State × Json)
  | .start => some (state, .null)
  | .advance millis => some ({ state with world := state.world.settle.pass millis }, .null)
  | .node step =>
      let (world, result) := step.run state.world
      some ({ state with world }, result)
  | .execute name request options => state.execute? name request options
  | .begin name options => state.begin? name options
  | .context name step => some (state.onKept name step)
  | .connectAll name timeout => some (state.startErrand name (.connectAll timeout none))
  | .removeNode name address => some (state.startErrand name (.removeNode address false none))
  | .profiles => some (state, .list .text state.world.setup.registry.sortedNames)
  | .describe => some (state, .text state.describe)

def isHeld (state : State) (id : Nat) : Bool :=
  state.kept.any (fun entry => entry.2 = id)
    || state.world.tasks.any (fun task => task.context = id && !task.isOver)
    || state.world.errands.any fun
      | .giveUp context => context = id
      | _ => false

def fate? (state : State) (id : Nat) : Option Json :=
  match (state.world.context? id).bind (·.outcome) with
  | some outcome => some (Document.outcome outcome)
  | none => if state.isHeld id then none else some (.text "dropped")

def errandResult : Errand.Result → Json
  | .flag value => .bool value
  | .count value => .nat value
  | _ => .null

def done (state : State) : State × List (String × Json) :=
  let fates := state.pending.filterMap fun (name, id) => (state.fate? id).map (name, ·)
  let results := state.errands.filterMap fun (name, id) =>
    (state.world.results.lookup id).map fun result => (name, errandResult result)
  ({ state with
      pending := state.pending.filter fun (_, id) => (state.fate? id).isNone
      errands := state.errands.filter fun (_, id) => (state.world.results.lookup id).isNone },
    fates ++ results)

def shown (state : State) (result : Json) : State × Json :=
  let (state, done) := state.done
  let world := state.world
  let answer := Json.record [("t", .nat world.now), ("result", result), ("done", .record done),
    ("events", eventsByNode state.naming world.nodeEvents), ("states", statesOf world),
    ("counts", countsOf state.naming world), ("policy_calls", .nat (policyCalls world))]
  ({ state with world := { world with nodeEvents := [], results := [] } }, answer)

def runAll? (state : State) : List Step → Option (List Json)
  | [] => some []
  | step :: rest => do
      let (state, result) ← state.run? step
      let (state, answer) := { state with world := state.world.settle }.shown result
      return answer :: (← state.runAll? rest)

end State

def answer (input : Json) : Input Json := do
  let cluster ← asCluster input
  let steps ← input.getList "steps" (asStep cluster.naming)
  let world := cluster.world.withConfig cluster.config
  let state : State := { naming := cluster.naming, world }
  match state.runAll? (.start :: steps) with
  | some results => return cluster.naming.apply (.record [("steps", .array results)])
  | none => return .record [("error", .text "Panic")]

end ClusterDriver.Scenario.Requests
