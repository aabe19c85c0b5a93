import ClusterDriver.Channel
import ClusterDriver.Cluster.Plan
import ClusterDriver.Metrics
import ClusterDriver.Pool
import ClusterDriver.Request.Context
import ClusterDriver.Request.Profile

/-!
A request under way. Its executions walk the same plan side by side: each takes the next node,
waits for a connection, sends the statement, and after a failure does what the retry policy
decides. The first execution that ends with a result ends the request; one that runs out of nodes
ends it only when it was the last. Cancellation comes before the deadline, the deadline before
the end of an execution, and that before the start of another execution.

What a request needs from its surroundings (pools, connections, the clock) is given as a
`Cluster` over a state of any kind, so that nothing here depends on how they work.
-/

set_option autoImplicit false

namespace ClusterDriver

structure Handle where
  channel : ChannelId
  request : RequestId
deriving DecidableEq, Repr

/-- The surroundings of a request. `send?` answers nothing as long as the pool has not made its
first attempt to connect; `reply?` answers nothing as long as there is no reply. Both remember
which execution to wake when that changes, and `alarm` when to wake one, or the whole request.
`dismissAlarms` drops the alarms of an execution, so that a later one for the same moment goes off
behind all that were set before it. -/
structure Cluster (σ : Type) where
  now : σ → Nat
  plan : (routingKey : Option ByteArray) → σ → Plan × σ
  pool : Node → σ → Except String PoolId × σ
  send? : (execution : Nat) → PoolId → Opcode → ByteArray → σ → Option (Except String Handle) × σ
  reply? : (execution : Nat) → Handle → σ → Option Reply × σ
  abandon : Handle → σ → σ
  retryCalls : (profile : String) → σ → Nat
  countRetryCall : (profile : String) → σ → σ
  alarm : (execution : Option Nat) → (due : Nat) → σ → σ
  dismissAlarms : (execution : Nat) → σ → σ

inductive ExecutionEnd where
  | success (node : SocketAddress) (response : Response)
  | ignored (node : SocketAddress)
  | rethrow (node : SocketAddress) (cause : AttemptError)
  | exhausted
  | expired

inductive Stage where
  -- `retryingOn` is the node that a retry asked for.
  | starting (preferred : Option Node)
  | seeking (retryingOn : Option SocketAddress) (preferred : Option Node)
  | acquiring (retryingOn : Option SocketAddress) (node : Node) (pool : PoolId)
  | awaiting (node : Node) (attempt started : Nat) (handle : Handle)

structure Execution where
  number : Nat
  stage : Stage
  sameNodeRetries : Nat

/-- `woken` names the executions whose turn it is, in order. -/
structure Run where
  context : RequestContext
  codec : Codec
  profile : Profile
  opcode : Opcode
  body : ByteArray
  returnsRows : Bool
  idempotent : Bool
  plan : Plan
  nodeErrors : List (SocketAddress × String) := []
  attempts : Nat := 0
  retries : Nat := 0
  executions : List Execution := []
  woken : List Nat := []
  started : Nat := 0
  speculation : Option Nat := none
  events : List Metrics.Event := []
  finished : Bool := false

namespace RequestContext

def latency (context : RequestContext) (now : Nat) : Nat := context.elapsed now * 1000

def closingEvents (latency : Nat) : Except RequestError Success → List Metrics.Event
  | .ok success => if success.ignored then [.ignored latency] else [.success latency]
  | .error .cancelled => [.cancelled]
  | .error (.overallTimeout limit) =>
      [.overallTimeout, .failure (RequestError.overallTimeout limit).name latency]
  | .error cause => [.failure cause.name latency]

def overallTimeout (context : RequestContext) : RequestError :=
  .overallTimeout (.ofMillis context.timeout)

def giveUp? (context : RequestContext) (now : Nat) : Option RequestError :=
  if context.cancelled then some .cancelled
  else if context.isExpired now then some context.overallTimeout
  else none

end RequestContext

namespace Run

variable {σ : Type}

def timeoutOf (registry : ProfileRegistry) (options : RequestOptions) : Nat :=
  match options.timeout with
  | some timeout => timeout
  | none =>
      match registry.find? (options.profile.getD defaultProfileName) with
      | some profile => profile.requestTimeout
      | none => ((registry.find? defaultProfileName).getD .standard).requestTimeout

def prepare (registry : ProfileRegistry) (codec : Codec) (context : RequestContext)
    (request : Request) (options : RequestOptions) : Except RequestError (Plan → Run) :=
  -- What is left to know is the plan.
  match registry.find? (options.profile.getD defaultProfileName) with
  | none =>
      .error (.invalidRequest ("unknown execution profile '" ++ options.profile.getD "" ++ "'"))
  | some profile =>
      match codec.encode request (options.pageSize <|> profile.pageSize) with
      | .error e => .error (.invalidRequest e.message)
      | .ok body => .ok fun plan => {
          context, codec, profile, body, plan
          opcode := request.opcode
          returnsRows := request.returnsRows
          idempotent := options.idempotent.getD profile.idempotent }

def nextSpeculation (run : Run) (now : Nat) : Option Nat :=
  -- Only what may run twice is executed more than once.
  if run.idempotent then
    (run.profile.speculation.delayAfter (run.started - 1) run.executions.length).map (now + ·)
  else none

def startExecution (run : Run) (now : Nat) : Run :=
  let number := run.started + 1
  let run := { run with
    started := number
    executions := run.executions ++ [Execution.mk number (.starting none) 0]
    woken := run.woken ++ [number] }
  { run with speculation := run.nextSpeculation now }

def record (run : Run) (event : Metrics.Event) : Run := { run with events := run.events ++ [event] }

def enter (run : Run) (phase : Phase) : Run := { run with context := run.context.enter phase }

def noteNodeError (run : Run) (node : Node) (reason : String) : Run :=
  { run with nodeErrors := run.nodeErrors ++ [(node.address, reason)] }

def responseOf (codec : Codec) (frame : Frame) : Except AttemptError Response :=
  if frame.opcode = .error then
    match ServerError.decode frame.body with
    | .ok cause => .error (.server cause)
    | .error e => .error (.transport e.message)
  else
    match codec.decode frame with
    | .ok response => .ok response
    | .error e => .error (.transport e.message)

def resultOf (codec : Codec) : Reply → Except AttemptError Response
  | .ok frame => responseOf codec frame
  | .error (.timeout limit) => .error (.timeout limit)
  | .error cause => .error (.transport cause.message)

/-- The decision after a failure. The policy is not asked about requests that are wrong in
themselves. The same node is not tried again after a lost connection, nor more often than the
profile allows; and a failure is only ignored when no rows are waited for. -/
def decide (cluster : Cluster σ) (run : Run) (cause : AttemptError) (sameNodeRetries : Nat)
    (around : σ) : RetryDecision × σ :=
  if cause.kind.isFatal then (.rethrow, around)
  else
    let calls := cluster.retryCalls run.profile.name around
    let around := cluster.countRetryCall run.profile.name around
    let decision := match run.profile.retry.decide calls cause.kind run.retries run.idempotent with
      | .retrySameNode =>
          if cause.isTransport ∨ run.profile.maxSameNodeRetries ≤ sameNodeRetries then
            .retryNextNode
          else .retrySameNode
      | .ignore => if run.returnsRows then .rethrow else .ignore
      | other => other
    (decision, around)

inductive Progress where
  | onward (execution : Execution)
  | waiting (execution : Execution)
  | ended (how : ExecutionEnd)

def onSent (run : Run) (execution : Execution) (now : Nat) (retryingOn : Option SocketAddress)
    (node : Node) (handle : Handle) : Progress × Run :=
  let attempt := run.attempts + 1
  (.onward { execution with
      stage := .awaiting node attempt now handle
      sameNodeRetries := if retryingOn = some node.address then execution.sameNodeRetries else 0 },
    ({ run with attempts := attempt }.record (.attempt node.address.text)).enter .inFlight)

def onRetry (run : Run) (execution : Execution) (preferred : Option Node) : Progress × Run :=
  (.onward { execution with
      stage := .starting preferred
      sameNodeRetries :=
        if preferred.isSome then execution.sameNodeRetries + 1 else execution.sameNodeRetries },
    ({ run with retries := run.retries + 1 }.record .retry).enter .retrying)

def onResult (cluster : Cluster σ) (run : Run) (execution : Execution) (node : Node)
    (attempt started : Nat) (result : Except AttemptError Response) (around : σ) :
    Progress × Run × σ :=
  let latency := cluster.now around - started
  let attemptRecord (error : Option AttemptError) (decision : Option RetryDecision) :
      AttemptRecord := {
    execution := execution.number, attempt, node := node.address
    startedAfter := run.context.elapsed started, latency, error, decision }
  match result with
  | .ok response =>
      let run := run.record (.outcome node.address.text (latency * 1000) true)
      (.ended (.success node.address response),
        { run with context := run.context.recordAttempt (attemptRecord none none) }, around)
  | .error cause =>
      let run := run.record (.outcome node.address.text (latency * 1000) false)
      let (decision, around) := decide cluster run cause execution.sameNodeRetries around
      let run := { run with
        context := run.context.recordAttempt (attemptRecord (some cause) (some decision)) }
      match decision with
      | .rethrow => (.ended (.rethrow node.address cause), run, around)
      | .ignore => (.ended (.ignored node.address), run, around)
      | .retrySameNode =>
          let (progress, run) := run.onRetry execution (some node)
          (progress, run, around)
      | .retryNextNode =>
          let (progress, run) := run.onRetry execution none
          (progress, run, around)

def advance (cluster : Cluster σ) (run : Run) (execution : Execution) (around : σ) :
    Progress × Run × σ :=
  match execution.stage with
  | .starting preferred =>
      if run.context.isExpired (cluster.now around) then (.ended .expired, run, around)
      else
        (.onward { execution with stage := .seeking (preferred.map (·.address)) preferred },
          run.enter .awaitingChannel, around)
  | .seeking retryingOn preferred =>
      let candidate := match preferred with
        | some node => some (node, run.plan)
        | none => run.plan.next?
      match candidate with
      | none => (.ended .exhausted, run, around)
      | some (node, plan) =>
          let run := { run with plan }
          match cluster.pool node around with
          | (.error reason, around) =>
              (.onward { execution with stage := .seeking retryingOn none },
                run.noteNodeError node reason, around)
          | (.ok pool, around) =>
              (.onward { execution with stage := .acquiring retryingOn node pool }, run, around)
  | .acquiring retryingOn node pool =>
      match cluster.send? execution.number pool run.opcode run.body around with
      | (none, around) => (.waiting execution, run, around)
      | (some (.error reason), around) =>
          (.onward { execution with stage := .seeking retryingOn none },
            run.noteNodeError node reason, around)
      | (some (.ok handle), around) =>
          let (progress, run) := run.onSent execution (cluster.now around) retryingOn node handle
          (progress, run, around)
  | .awaiting node attempt started handle =>
      match cluster.reply? execution.number handle around with
      | (some reply, around) =>
          run.onResult cluster execution node attempt started (resultOf run.codec reply)
            (cluster.dismissAlarms execution.number around)
      | (none, around) =>
          let due := started + run.profile.attemptTimeout
          if due ≤ cluster.now around then
            run.onResult cluster execution node attempt started
              (.error (.timeout (.ofMillis run.profile.attemptTimeout)))
              (cluster.abandon handle around)
          else (.waiting execution, run, cluster.alarm (some execution.number) due around)

def update (run : Run) (execution : Execution) : Run :=
  { run with executions := run.executions.map fun other =>
      if other.number = execution.number then execution else other }

def remove (run : Run) (number : Nat) : Run :=
  { run with
    executions := run.executions.filter fun execution => execution.number ≠ number
    woken := run.woken.filter fun other => other ≠ number }

def wake (run : Run) (number : Nat) : Run :=
  if number ∈ run.woken then run else { run with woken := run.woken ++ [number] }

def handles (run : Run) : List Handle :=
  -- The latest execution comes first.
  run.executions.reverse.filterMap fun execution =>
    match execution.stage with
    | .awaiting _ _ _ handle => some handle
    | _ => none

def abandonAll (cluster : Cluster σ) (run : Run) (around : σ) : Run × σ :=
  ({ run with executions := [], woken := [], speculation := none, finished := true },
    run.handles.foldl (fun around handle => cluster.abandon handle around) around)

def finish (cluster : Cluster σ) (run : Run) (result : Except RequestError Success) (around : σ) :
    Run × σ :=
  let (run, around) := run.abandonAll cluster around
  let now := cluster.now around
  let events := RequestContext.closingEvents (run.context.latency now) result
  ({ run with context := run.context.resolve now result, events := run.events ++ events }, around)

def resultOfEnd (run : Run) : ExecutionEnd → Except RequestError Success
  | .success node response => .ok ⟨response, node, false⟩
  | .ignored node => .ok ⟨.empty, node, true⟩
  | .rethrow node (.server cause) => .error (.rethrown node cause)
  | .rethrow node cause => .error (.attemptFailed node cause)
  | .exhausted => .error (.noNodeAvailable run.nodeErrors)
  | .expired => .error run.context.overallTimeout

def speculate (run : Run) (now : Nat) : Run :=
  if run.plan.isExhausted then { run with speculation := none }
  else
    let run := ({ run with context := run.context.recordSpeculation }.record
      .speculativeExecution).enter .speculating
    run.startExecution now

def onEnd (cluster : Cluster σ) (run : Run) (number : Nat) (how : ExecutionEnd) (around : σ) :
    Run × σ :=
  -- Running out of nodes or of time ends only that execution as long as there are others.
  let run := run.remove number
  match how with
  | .exhausted | .expired =>
      if run.executions.isEmpty then run.finish cluster (run.resultOfEnd how) around
      else (run, around)
  | _ => run.finish cluster (run.resultOfEnd how) around

def turnOf (cluster : Cluster σ) (run : Run) (number : Nat) (around : σ) : Run × σ :=
  match run.executions.find? fun execution => execution.number = number with
  | none => (run.remove number, around)
  | some execution =>
      match run.advance cluster execution around with
      | (.onward execution, run, around) => (run.update execution, around)
      | (.waiting execution, run, around) =>
          let run := run.update execution
          ({ run with woken := run.woken.filter fun other => other ≠ number }, around)
      | (.ended how, run, around) => run.onEnd cluster number how around

/-- One step of a request; `none` when it has to wait, or has ended. -/
def turn? (cluster : Cluster σ) (run : Run) (around : σ) : Option (Run × σ) :=
  if run.finished then none
  else if run.context.cancelled then some (run.finish cluster (.error .cancelled) around)
  else if run.context.isExpired (cluster.now around) then
    some (run.finish cluster (.error run.context.overallTimeout) around)
  else
    match run.woken with
    | number :: _ => some (run.turnOf cluster number around)
    | [] =>
        match run.speculation with
        | none => none
        | some due =>
            if due ≤ cluster.now around then some (run.speculate (cluster.now around), around)
            else none

def steps (cluster : Cluster σ) : Nat → Run → σ → Run × σ
  | 0, run, around => (run, around)
  | limit + 1, run, around =>
      match run.turn? cluster around with
      | none => (run, around)
      | some (run, around) => steps cluster limit run around

def stepLimit (run : Run) : Nat :=
  -- An execution visits each node of the plan as often as the same node may be retried, in at most
  -- four steps a time.
  8 * (run.plan.remaining.length + run.executions.length + 2) * (run.profile.maxSameNodeRetries + 2)

def poll (cluster : Cluster σ) (run : Run) (around : σ) : Run × σ :=
  let around := cluster.alarm none run.context.deadline around
  let (run, around) := run.steps cluster run.stepLimit around
  match run.speculation with
  | some due => (run, cluster.alarm none due around)
  | none => (run, around)

end Run

end ClusterDriver
