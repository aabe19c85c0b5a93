import ClusterDriver.Clock
import ClusterDriver.Request
import ClusterDriver.Request.Error

set_option autoImplicit false

namespace ClusterDriver

inductive Phase where
  | init
  | awaitingChannel
  | inFlight
  | retrying
  | speculating
  | done
  | failed
deriving DecidableEq, Repr, Inhabited

namespace Phase

def isTerminal : Phase → Bool
  | .done | .failed => true
  | _ => false

def name : Phase → String
  | .init => "Init"
  | .awaitingChannel => "AwaitingChannel"
  | .inFlight => "InFlight"
  | .retrying => "Retrying"
  | .speculating => "Speculating"
  | .done => "Done"
  | .failed => "Failed"

end Phase

/-- One attempt of a request on one node. Executions and attempts are numbered from 1; a
failure comes with the decision taken after it. -/
structure AttemptRecord where
  execution : Nat
  attempt : Nat
  node : SocketAddress
  startedAfter : Nat
  latency : Nat
  error : Option AttemptError
  decision : Option RetryDecision
deriving DecidableEq, Repr

structure Trace where
  attempts : List AttemptRecord := []
  speculativeExecutions : Nat := 0
  elapsed : Nat := 0
deriving DecidableEq, Repr, Inhabited

def Trace.nodes (trace : Trace) : List SocketAddress := trace.attempts.map (·.node)

structure Success where
  response : Response
  coordinator : SocketAddress
  ignored : Bool
deriving DecidableEq

structure Outcome where
  result : Except RequestError Success
  trace : Trace

def Outcome.untraced (cause : RequestError) : Outcome := ⟨.error cause, {}⟩

structure RequestContext where
  -- Times are in milliseconds.
  id : Nat
  started : Nat
  timeout : Nat
  phase : Phase := .init
  attempts : List AttemptRecord := []
  speculativeExecutions : Nat := 0
  outcome : Option Outcome := none
  cancelled : Bool := false

namespace RequestContext

def create? (id started timeout : Nat) : Option RequestContext :=
  (Clock.after? started timeout).map fun _ => { id, started, timeout }

def deadline (context : RequestContext) : Nat := context.started + context.timeout

def elapsed (context : RequestContext) (now : Nat) : Nat := now - context.started

def remaining (context : RequestContext) (now : Nat) : Nat := context.deadline - now

def isExpired (context : RequestContext) (now : Nat) : Bool := context.deadline ≤ now

def isResolved (context : RequestContext) : Bool := context.outcome.isSome

def enter (context : RequestContext) (phase : Phase) : RequestContext :=
  -- A terminal phase is never left.
  if context.phase.isTerminal then context else { context with phase }

def recordAttempt (context : RequestContext) (record : AttemptRecord) : RequestContext :=
  { context with attempts := context.attempts ++ [record] }

def recordSpeculation (context : RequestContext) : RequestContext :=
  { context with speculativeExecutions := context.speculativeExecutions + 1 }

def trace (context : RequestContext) (now : Nat) : Trace where
  attempts := context.attempts
  speculativeExecutions := context.speculativeExecutions
  elapsed := context.elapsed now

def resolve? (context : RequestContext) (now : Nat) (result : Except RequestError Success) :
    Option RequestContext :=
  -- The first outcome stands.
  if context.isResolved then none
  else
    let phase := match result with
      | .ok _ => Phase.done
      | .error _ => Phase.failed
    some { context.enter phase with outcome := some ⟨result, context.trace now⟩ }

def resolve (context : RequestContext) (now : Nat) (result : Except RequestError Success) :
    RequestContext :=
  (context.resolve? now result).getD context

def cancel (context : RequestContext) : RequestContext := { context with cancelled := true }

def alreadyResolvedMessage : String := "Execution context already resolved"

def describe (context : RequestContext) : String :=
  s!"ExecutionContext \x7b id: {context.id}, phase: {context.phase.name}"
    ++ ", timeout: " ++ (Duration.ofMillis context.timeout).text
    ++ s!", attempts: {context.attempts.length} \x7d"

end RequestContext

end ClusterDriver
