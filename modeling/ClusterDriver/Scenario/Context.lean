import ClusterDriver.Document.Outcome

set_option autoImplicit false

namespace ClusterDriver.Scenario.Context

open Json (Read)
open Document (Input)

inductive Receiver where
  | waiting
  | served
  | dropped

structure State where
  context : RequestContext
  now : Nat := 0
  receiver : Receiver := .waiting
  watchers : Nat := 0

inductive Step where
  | advance (millis : Nat)
  | succeed (success : Success)
  | fail (cause : RequestError)
  | attempt (record : AttemptRecord)
  | cancel
  | watchCancel
  | dropReceiver
  | receive
  | trace
  | describe

def asAttemptRecord (value : Json) : Read AttemptRecord := do
  return {
    execution := ← value.getNat "execution"
    attempt := ← value.getNat "attempt"
    node := ← value.get "node" Document.asAddress
    startedAfter := ← value.getNat "started_after_ms"
    latency := 0
    error := ← value.get? "failed" Document.asAttemptError
    decision := ← value.get? "decision" Document.asDecision }

def asSuccess (value : Json) : Input Success := do
  return {
    response := ⟨← Document.getOpcode value "opcode", ← Document.getBytes value "body"⟩
    coordinator := ← value.get "node" Document.asAddress
    ignored := ← value.getFlag "ignored" }

def asStep (value : Json) : Input Step := do
  match ← value.getString "do" with
  | "advance" => return .advance (← value.getNat "ms")
  | "succeed" => return .succeed (← asSuccess value)
  | "fail" => return .fail (← value.get "error" Document.asRequestError)
  | "record" => return .attempt (← asAttemptRecord value)
  | "cancel" => return .cancel
  | "watch_cancel" => return .watchCancel
  | "drop_receiver" => return .dropReceiver
  | "receive" => return .receive
  | "trace" => return .trace
  | "debug" => return .describe
  | other => .error (.unreadable ("unknown step " ++ other))

namespace State

def resolve (state : State) (result : Except RequestError Success) : State × Json :=
  match state.context.resolve? state.now result with
  | some context => ({ state with context }, .text "ok")
  | none =>
      (state, Document.error "AlreadyResolved" RequestContext.alreadyResolvedMessage)

def receive (state : State) : State × Json :=
  match state.receiver, state.context.outcome with
  | .dropped, _ => (state, .text "dropped")
  | .waiting, some outcome => ({ state with receiver := .served }, Document.outcome outcome)
  | _, _ => (state, .text "nothing")

def run (state : State) : Step → State × Json
  | .advance millis => ({ state with now := state.now + millis }, .null)
  | .succeed success => state.resolve (.ok success)
  | .fail cause => state.resolve (.error cause)
  | .attempt record => ({ state with context := state.context.recordAttempt record }, .null)
  | .cancel => ({ state with context := state.context.cancel }, .null)
  | .watchCancel => ({ state with watchers := state.watchers + 1 }, .null)
  | .dropReceiver => ({ state with receiver := .dropped }, .null)
  | .receive => state.receive
  | .trace => (state, Document.trace (state.context.trace state.now))
  | .describe => (state, .text state.context.describe)

def shown (state : State) (result : Json) : Json :=
  let context := state.context
  .record [("result", result), ("t", .nat state.now), ("phase", .text context.phase.name),
    ("terminal", .bool context.phase.isTerminal), ("resolved", .bool context.isResolved),
    ("expired", .bool (context.isExpired state.now)),
    ("remaining_ms", .nat (context.remaining state.now)),
    ("elapsed_ms", .nat (context.elapsed state.now)), ("cancelled", .bool context.cancelled),
    ("woken", .nat (if context.cancelled then state.watchers else 0)),
    ("attempts", .nat context.attempts.length)]

def runAll (state : State) : List Step → List Json
  | [] => []
  | step :: rest =>
      let (state, result) := state.run step
      state.shown result :: runAll state rest

end State

def answer (input : Json) : Input Json := do
  let id ← input.getNat "id"
  let timeout ← input.getNat "timeout_ms"
  let steps ← Document.getListOf input "steps" asStep
  return .record [("id", .nat id), ("timeout_ms", .nat timeout),
    ("steps", .array (State.runAll { context := { id, started := 0, timeout } } steps))]

end ClusterDriver.Scenario.Context
