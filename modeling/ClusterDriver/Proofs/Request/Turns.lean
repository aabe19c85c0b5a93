import ClusterDriver.Proofs.Request.Lifetime

set_option autoImplicit false

namespace ClusterDriver

namespace RequestContext

@[simp]
theorem attempts_enter (context : RequestContext) (phase : Phase) :
    (context.enter phase).attempts = context.attempts := by
  rcases context.enter_cases phase with same | ⟨_, same⟩ <;> rw [same]

@[simp]
theorem attempts_resolve (context : RequestContext) (now : Nat)
    (result : Except RequestError Success) :
    (context.resolve now result).attempts = context.attempts := by
  unfold resolve resolve?
  split <;> simp

end RequestContext

namespace Run

variable {σ : Type}

inductive Candidate (run : Run) : Option Node → Node → Plan → Prop where
  | same (node : Node) : Candidate run (some node) node run.plan
  | next {node : Node} {rest : List Node} (planned : run.plan.remaining = node :: rest) :
      Candidate run none node ⟨rest⟩

theorem no_candidate {run : Run} {preferred : Option Node}
    (nowhere : (match preferred with
      | some node => some (node, run.plan)
      | none => run.plan.next?) = none) : preferred = none ∧ run.plan.remaining = [] := by
  cases preferred with
  | some node => cases nowhere
  | none =>
    unfold Plan.next? at nowhere
    cases planned : run.plan.remaining with
    | nil => exact ⟨rfl, rfl⟩
    | cons node rest => simp [planned] at nowhere

theorem candidate_of_some {run : Run} {preferred : Option Node} {node : Node} {plan : Plan}
    (found : (match preferred with
      | some node => some (node, run.plan)
      | none => run.plan.next?) = some (node, plan)) : run.Candidate preferred node plan := by
  cases preferred with
  | some other =>
    cases found
    exact .same node
  | none =>
    unfold Plan.next? at found
    cases planned : run.plan.remaining with
    | nil => simp [planned] at found
    | cons first rest =>
      simp only [planned, Option.some.injEq, Prod.mk.injEq] at found
      obtain ⟨rfl, rfl⟩ := found
      exact .next planned

inductive Failure (cluster : Cluster σ) (run : Run) (number : Nat) (around : σ) (started : Nat)
    (handle : Handle) : AttemptError → σ → Prop where
  | reply {reply : Reply} {cause : AttemptError} {later : σ}
      (replied : cluster.reply? number handle around = (some reply, later))
      (failed : resultOf run.codec reply = .error cause) :
      Failure cluster run number around started handle cause (cluster.dismissAlarms number later)
  | overdue {later : σ} (silent : cluster.reply? number handle around = (none, later))
      (due : started + run.profile.attemptTimeout ≤ cluster.now later) :
      Failure cluster run number around started handle
        (.timeout (.ofMillis run.profile.attemptTimeout)) (cluster.abandon handle later)

def attemptRecord (run : Run) (execution : Execution) (node : Node) (attempt started latency : Nat)
    (error : Option AttemptError) (decision : Option RetryDecision) : AttemptRecord where
  execution := execution.number
  attempt
  node := node.address
  startedAfter := run.context.elapsed started
  latency
  error
  decision

def settled (run : Run) (attempt : AttemptRecord) : Run :=
  { run with
    context := run.context.recordAttempt attempt
    events := run.events ++
      [.outcome attempt.node.text (attempt.latency * 1000) attempt.error.isNone] }

def dispatched (run : Run) (node : Node) : Run :=
  ({ run with attempts := run.attempts + 1 }.record (.attempt node.address.text)).enter .inFlight

def retried (run : Run) : Run :=
  ({ run with retries := run.retries + 1 }.record .retry).enter .retrying

inductive Retries (node : Node) : RetryDecision → Option Node → Prop where
  | same : Retries node .retrySameNode (some node)
  | next : Retries node .retryNextNode none

inductive GivesUp (node : Node) (cause : AttemptError) : RetryDecision → ExecutionEnd → Prop where
  | rethrow : GivesUp node cause .rethrow (.rethrow node.address cause)
  | ignore : GivesUp node cause .ignore (.ignored node.address)

inductive Advanced (cluster : Cluster σ) (run : Run) (execution : Execution) (around : σ) :
    Progress → Run → σ → Prop where
  | expired {preferred : Option Node} (stage : execution.stage = .starting preferred)
      (late : run.context.isExpired (cluster.now around) = true) :
      Advanced cluster run execution around (.ended .expired) run around
  | begins {preferred : Option Node} (stage : execution.stage = .starting preferred)
      (early : run.context.isExpired (cluster.now around) = false) :
      Advanced cluster run execution around
        (.onward { execution with stage := .seeking (preferred.map (·.address)) preferred })
        (run.enter .awaitingChannel) around
  | exhausted {retryingOn : Option SocketAddress} (stage : execution.stage = .seeking retryingOn none)
      (planned : run.plan.remaining = []) :
      Advanced cluster run execution around (.ended .exhausted) run around
  | unusable {retryingOn : Option SocketAddress} {preferred : Option Node} {node : Node}
      {plan : Plan} {reason : String} {later : σ}
      (stage : execution.stage = .seeking retryingOn preferred)
      (candidate : run.Candidate preferred node plan)
      (refused : cluster.pool node around = (.error reason, later)) :
      Advanced cluster run execution around
        (.onward { execution with stage := .seeking retryingOn none })
        ({ run with plan }.noteNodeError node reason) later
  | usable {retryingOn : Option SocketAddress} {preferred : Option Node} {node : Node}
      {plan : Plan} {pool : PoolId} {later : σ}
      (stage : execution.stage = .seeking retryingOn preferred)
      (candidate : run.Candidate preferred node plan)
      (found : cluster.pool node around = (.ok pool, later)) :
      Advanced cluster run execution around
        (.onward { execution with stage := .acquiring retryingOn node pool })
        { run with plan } later
  | unconnected {retryingOn : Option SocketAddress} {node : Node} {pool : PoolId} {later : σ}
      (stage : execution.stage = .acquiring retryingOn node pool)
      (silent : cluster.send? execution.number pool run.opcode run.body around = (none, later)) :
      Advanced cluster run execution around (.waiting execution) run later
  | refused {retryingOn : Option SocketAddress} {node : Node} {pool : PoolId} {reason : String}
      {later : σ} (stage : execution.stage = .acquiring retryingOn node pool)
      (refused : cluster.send? execution.number pool run.opcode run.body around =
        (some (.error reason), later)) :
      Advanced cluster run execution around
        (.onward { execution with stage := .seeking retryingOn none })
        (run.noteNodeError node reason) later
  | sends {retryingOn : Option SocketAddress} {node : Node} {pool : PoolId} {handle : Handle}
      {later : σ} (stage : execution.stage = .acquiring retryingOn node pool)
      (sent : cluster.send? execution.number pool run.opcode run.body around =
        (some (.ok handle), later)) :
      Advanced cluster run execution around
        (.onward { execution with
          stage := .awaiting node (run.attempts + 1) (cluster.now later) handle
          sameNodeRetries :=
            if retryingOn = some node.address then execution.sameNodeRetries else 0 })
        (run.dispatched node) later
  | unanswered {node : Node} {attempt started : Nat} {handle : Handle} {later : σ}
      (stage : execution.stage = .awaiting node attempt started handle)
      (silent : cluster.reply? execution.number handle around = (none, later)) :
      Advanced cluster run execution around (.waiting execution) run
        (cluster.alarm (some execution.number) (started + run.profile.attemptTimeout) later)
  | succeeds {node : Node} {attempt started latency : Nat} {handle : Handle} {reply : Reply}
      {response : Response} {later : σ}
      (stage : execution.stage = .awaiting node attempt started handle)
      (replied : cluster.reply? execution.number handle around = (some reply, later))
      (answer : resultOf run.codec reply = .ok response) :
      Advanced cluster run execution around (.ended (.success node.address response))
        (run.settled (run.attemptRecord execution node attempt started latency none none))
        (cluster.dismissAlarms execution.number later)
  | fails {node : Node} {attempt started latency : Nat} {handle : Handle} {cause : AttemptError}
      {decision : RetryDecision} {how : ExecutionEnd} {informed later : σ}
      (stage : execution.stage = .awaiting node attempt started handle)
      (failure : Failure cluster run execution.number around started handle cause informed)
      (decided : run.decide cluster cause execution.sameNodeRetries informed = (decision, later))
      (givesUp : GivesUp node cause decision how) :
      Advanced cluster run execution around (.ended how)
        (run.settled
          (run.attemptRecord execution node attempt started latency (some cause) (some decision)))
        later
  | retries {node : Node} {attempt started latency : Nat} {handle : Handle} {cause : AttemptError}
      {decision : RetryDecision} {preferred : Option Node} {informed later : σ}
      (stage : execution.stage = .awaiting node attempt started handle)
      (failure : Failure cluster run execution.number around started handle cause informed)
      (decided : run.decide cluster cause execution.sameNodeRetries informed = (decision, later))
      (retries : Retries node decision preferred) :
      Advanced cluster run execution around
        (.onward { execution with
          stage := .starting preferred
          sameNodeRetries := if preferred.isSome then execution.sameNodeRetries + 1
            else execution.sameNodeRetries })
        (run.settled (run.attemptRecord execution node attempt started latency (some cause)
          (some decision))).retried later

theorem onResult_failed {cluster : Cluster σ} {run : Run} {execution : Execution} {node : Node}
    {attempt started : Nat} {handle : Handle} {cause : AttemptError} {around informed : σ}
    (stage : execution.stage = .awaiting node attempt started handle)
    (failure : Failure cluster run execution.number around started handle cause informed) :
    let turn := run.onResult cluster execution node attempt started (.error cause) informed
    Advanced cluster run execution around turn.1 turn.2.1 turn.2.2 := by
  obtain ⟨⟨decision, later⟩, decided⟩ :
      ∃ turn, run.decide cluster cause execution.sameNodeRetries informed = turn := ⟨_, rfl⟩
  have asked (event : Metrics.Event) : (run.record event).decide cluster cause
      execution.sameNodeRetries informed = (decision, later) := decided
  simp only [onResult, asked]
  cases decision with
  | rethrow => exact .fails stage failure decided .rethrow
  | ignore => exact .fails stage failure decided .ignore
  | retrySameNode => exact .retries stage failure decided .same
  | retryNextNode => exact .retries stage failure decided .next

theorem advance_advanced (cluster : Cluster σ) (run : Run) (execution : Execution) (around : σ) :
    let turn := run.advance cluster execution around
    Advanced cluster run execution around turn.1 turn.2.1 turn.2.2 := by
  cases stage : execution.stage with
  | starting preferred =>
    simp only [advance, stage]
    split
    next late => exact .expired stage late
    next early => exact .begins stage (by simpa using early)
  | seeking retryingOn preferred =>
    simp only [advance, stage]
    split
    next nowhere =>
      obtain ⟨rfl, planned⟩ := no_candidate nowhere
      exact .exhausted stage planned
    next node plan found =>
      have candidate := candidate_of_some found
      split
      next refused => exact .unusable stage candidate refused
      next found => exact .usable stage candidate found
  | acquiring retryingOn node pool =>
    simp only [advance, stage]
    split
    next silent => exact .unconnected stage silent
    next refused => exact .refused stage refused
    next sent => exact .sends stage sent
  | awaiting node attempt started handle =>
    simp only [advance, stage]
    split
    next reply later replied =>
      cases answer : resultOf run.codec reply with
      | ok response => exact .succeeds stage replied answer
      | error cause => exact onResult_failed stage (.reply replied answer)
    next later silent =>
      split
      next due => exact onResult_failed stage (.overdue silent due)
      next => exact .unanswered stage silent

section Advanced

variable {cluster : Cluster σ} {run after : Run} {execution next : Execution}
  {progress : Progress} {around later : σ}

theorem Advanced.executions
    (advanced : Advanced cluster run execution around progress after later) :
    after.executions = run.executions := by
  cases advanced <;> rfl

theorem Advanced.started (advanced : Advanced cluster run execution around progress after later) :
    after.started = run.started := by
  cases advanced <;> rfl

theorem Advanced.speculation
    (advanced : Advanced cluster run execution around progress after later) :
    after.speculation = run.speculation := by
  cases advanced <;> rfl

theorem Advanced.profile (advanced : Advanced cluster run execution around progress after later) :
    after.profile = run.profile := by
  cases advanced <;> rfl

theorem Advanced.woken (advanced : Advanced cluster run execution around progress after later) :
    after.woken = run.woken := by
  cases advanced <;> rfl

theorem Advanced.number
    (advanced : Advanced cluster run execution around (.onward next) after later) :
    next.number = execution.number := by
  cases advanced <;> rfl

end Advanced

/-- What a turn of a request does. The executions that are woken are left open. -/
inductive Turned (cluster : Cluster σ) (run : Run) (around : σ) : Run → σ → Prop where
  | cancelled (asked : run.context.cancelled = true) :
      Turned cluster run around (run.finish cluster (.error .cancelled) around).1
        (run.finish cluster (.error .cancelled) around).2
  | expired (late : run.context.isExpired (cluster.now around) = true) :
      Turned cluster run around (run.finish cluster (.error run.context.overallTimeout) around).1
        (run.finish cluster (.error run.context.overallTimeout) around).2
  | missed {number : Nat} (unknown : ∀ execution ∈ run.executions, execution.number ≠ number) :
      Turned cluster run around (run.remove number) around
  | advanced {execution next : Execution} {after : Run} {later : σ}
      (running : execution ∈ run.executions)
      (advanced : Advanced cluster run execution around (.onward next) after later) :
      Turned cluster run around (after.update next) later
  | waited {execution : Execution} {woken : List Nat} {later : σ}
      (running : execution ∈ run.executions) :
      Turned cluster run around { run.update execution with woken } later
  | dropped {execution : Execution} (running : execution ∈ run.executions)
      (others : (run.remove execution.number).executions ≠ []) :
      Turned cluster run around (run.remove execution.number) around
  | ended {execution : Execution} {how : ExecutionEnd} {after : Run} {later : σ}
      (running : execution ∈ run.executions)
      (advanced : Advanced cluster run execution around (.ended how) after later) :
      Turned cluster run around
        ((after.remove execution.number).finish cluster (after.resultOfEnd how) later).1
        ((after.remove execution.number).finish cluster (after.resultOfEnd how) later).2
  | calmed (planned : run.plan.remaining = []) :
      Turned cluster run around { run with speculation := none } around
  | speculated (due : run.speculation ≠ none) :
      Turned cluster run around
        ((({ run with context := run.context.recordSpeculation }.record
          .speculativeExecution).enter .speculating).startExecution (cluster.now around)) around

theorem Advanced.waits {cluster : Cluster σ} {run after : Run} {execution next : Execution}
    {around later : σ}
    (advanced : Advanced cluster run execution around (.waiting next) after later) :
    next = execution ∧ after = run := by
  cases advanced with
  | unconnected => exact ⟨rfl, rfl⟩
  | unanswered => exact ⟨rfl, rfl⟩

theorem onEnd_turned {cluster : Cluster σ} {run after : Run} {execution : Execution}
    {how : ExecutionEnd} {around later : σ} (running : execution ∈ run.executions)
    (advanced : Advanced cluster run execution around (.ended how) after later) :
    let turn := after.onEnd cluster execution.number how later
    Turned cluster run around turn.1 turn.2 := by
  have ends : Turned cluster run around
      ((after.remove execution.number).finish cluster (after.resultOfEnd how) later).1
      ((after.remove execution.number).finish cluster (after.resultOfEnd how) later).2 :=
    .ended running advanced
  -- An execution that found no node or no time leaves everything else as it was.
  cases advanced with
  | expired =>
    simp only [onEnd]
    split
    next => exact ends
    next others => exact .dropped running (by simpa using others)
  | exhausted =>
    simp only [onEnd]
    split
    next => exact ends
    next others => exact .dropped running (by simpa using others)
  | succeeds => exact ends
  | fails _ _ _ givesUp =>
    cases givesUp with
    | rethrow => exact ends
    | ignore => exact ends

theorem take?_turned {cluster : Cluster σ} {run after : Run} {around later : σ} {turn : Turn}
    (taken : run.take? cluster around turn = some (after, later)) :
    Turned cluster run around after later := by
  cases turn with
  | cancelled =>
    simp only [take?] at taken
    split at taken
    next asked =>
      cases taken
      exact .cancelled asked
    next => cases taken
  | expired =>
    simp only [take?] at taken
    split at taken
    next late =>
      cases taken
      exact .expired late
    next => cases taken
  | execution number =>
    simp only [take?, turnOf, Option.some.injEq] at taken
    split at taken
    next unknown =>
      cases taken
      exact .missed (by simpa using unknown)
    next execution found =>
      have running := List.mem_of_find?_eq_some found
      have same : execution.number = number := by simpa using List.find?_some found
      have advanced := advance_advanced cluster run execution around
      subst same
      split at taken
      next step =>
        rw [step] at advanced
        cases taken
        exact .advanced running advanced
      next step =>
        rw [step] at advanced
        obtain ⟨rfl, rfl⟩ := advanced.waits
        cases taken
        exact .waited running
      next step =>
        rw [step] at advanced
        have turned := onEnd_turned running advanced
        rwa [taken] at turned
  | speculation =>
    simp only [take?] at taken
    split at taken
    next due =>
      cases taken
      have speculating : run.speculation ≠ none := by
        intro calm
        simp [calm] at due
      unfold speculate
      split
      next exhausted => exact .calmed (by simpa [Plan.isExhausted] using exhausted)
      next => exact .speculated speculating
    next => cases taken

inductive Recorded (cluster : Cluster σ) (run : Run) (execution : Execution) (around : σ) :
    AttemptRecord → Prop where
  | answered {node : Node} {attempt started latency : Nat} {handle : Handle} {reply : Reply}
      {response : Response} {later : σ}
      (stage : execution.stage = .awaiting node attempt started handle)
      (replied : cluster.reply? execution.number handle around = (some reply, later))
      (answer : resultOf run.codec reply = .ok response) :
      Recorded cluster run execution around
        (run.attemptRecord execution node attempt started latency none none)
  | failed {node : Node} {attempt started latency : Nat} {handle : Handle} {cause : AttemptError}
      {decision : RetryDecision} {informed later : σ}
      (stage : execution.stage = .awaiting node attempt started handle)
      (failure : Failure cluster run execution.number around started handle cause informed)
      (decided : run.decide cluster cause execution.sameNodeRetries informed = (decision, later)) :
      Recorded cluster run execution around
        (run.attemptRecord execution node attempt started latency (some cause) (some decision))

theorem Advanced.attempts {cluster : Cluster σ} {run after : Run} {execution : Execution}
    {progress : Progress} {around later : σ}
    (advanced : Advanced cluster run execution around progress after later) :
    after.context.attempts = run.context.attempts ∨
      ∃ record, Recorded cluster run execution around record ∧
        after.context.attempts = run.context.attempts ++ [record] := by
  cases advanced with
  | begins => exact .inl (by simp [enter])
  | sends => exact .inl (by simp [dispatched, enter, record])
  | succeeds stage replied answer => exact .inr ⟨_, .answered stage replied answer, rfl⟩
  | fails stage failure decided => exact .inr ⟨_, .failed stage failure decided, rfl⟩
  | @retries node attempt started latency _ cause decision _ _ _ stage failure decided =>
    refine .inr ⟨run.attemptRecord execution node attempt started latency (some cause)
      (some decision), .failed stage failure decided, ?_⟩
    simp [Run.retried, settled, enter, record, RequestContext.recordAttempt]
  | _ => exact .inl rfl

theorem attempts_enter (run : Run) (phase : Phase) :
    (run.enter phase).context.attempts = run.context.attempts :=
  RequestContext.attempts_enter _ _

theorem attempts_finish (cluster : Cluster σ) (run : Run) (result : Except RequestError Success)
    (around : σ) :
    (run.finish cluster result around).1.context.attempts = run.context.attempts :=
  RequestContext.attempts_resolve _ _ _

theorem attempts_onEnd (cluster : Cluster σ) (run : Run) (number : Nat) (how : ExecutionEnd)
    (around : σ) : (run.onEnd cluster number how around).1.context.attempts =
      run.context.attempts := by
  have last (result : Except RequestError Success) :
      ((run.remove number).finish cluster result around).1.context.attempts =
        run.context.attempts :=
    attempts_finish cluster (run.remove number) result around
  unfold onEnd
  cases how with
  | success => exact last _
  | ignored => exact last _
  | rethrow => exact last _
  | exhausted =>
    simp only
    split
    next => exact last _
    next => rfl
  | expired =>
    simp only
    split
    next => exact last _
    next => rfl

theorem take?_attempts {cluster : Cluster σ} {run after : Run} {around later : σ} {turn : Turn}
    (taken : run.take? cluster around turn = some (after, later)) :
    after.context.attempts = run.context.attempts ∨
      ∃ number execution record, turn = .execution number ∧
        run.executions.find? (fun execution => execution.number = number) = some execution ∧
        Recorded cluster run execution around record ∧
        after.context.attempts = run.context.attempts ++ [record] := by
  cases turn with
  | cancelled =>
    simp only [take?] at taken
    split at taken <;> cases taken
    exact .inl (attempts_finish _ _ _ _)
  | expired =>
    simp only [take?] at taken
    split at taken <;> cases taken
    exact .inl (attempts_finish _ _ _ _)
  | speculation =>
    simp only [take?] at taken
    split at taken <;> cases taken
    refine .inl ?_
    unfold speculate
    split <;> simp [startExecution, enter, record, RequestContext.recordSpeculation]
  | execution number =>
    simp only [take?, turnOf, Option.some.injEq] at taken
    split at taken
    next =>
      cases taken
      exact .inl rfl
    next execution found =>
      have advanced := advance_advanced cluster run execution around
      obtain ⟨⟨progress, middle, informed⟩, step⟩ :
          ∃ turn, run.advance cluster execution around = turn := ⟨_, rfl⟩
      rw [step] at advanced taken
      -- What happens at the end of an execution adds no record of its own.
      have kept : after.context.attempts = middle.context.attempts := by
        cases progress with
        | onward => exact (congrArg (·.1.context.attempts) taken).symm
        | waiting => exact (congrArg (·.1.context.attempts) taken).symm
        | ended how =>
          rw [← attempts_onEnd cluster middle number how informed]
          exact (congrArg (·.1.context.attempts) taken).symm
      rcases advanced.attempts with same | ⟨record, recorded, appended⟩
      · exact .inl (kept.trans same)
      · exact .inr ⟨number, execution, record, rfl, found, recorded, kept.trans appended⟩

end Run

end ClusterDriver
