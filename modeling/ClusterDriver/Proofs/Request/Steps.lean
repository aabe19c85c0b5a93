import ClusterDriver.Proofs.Request.Counting

set_option autoImplicit false

namespace ClusterDriver

def Phase.ofResult : Except RequestError Success → Phase
  | .ok _ => .done
  | .error _ => .failed

namespace RequestContext

theorem enter_cases (context : RequestContext) (phase : Phase) :
    context.enter phase = context ∨
      context.phase.isTerminal = false ∧ context.enter phase = { context with phase } := by
  unfold enter
  split
  next => exact .inl rfl
  next open_ => exact .inr ⟨by simpa using open_, rfl⟩

structure Pending (context : RequestContext) : Prop where
  unresolved : context.outcome = none
  phase : context.phase.isTerminal = false

structure Resolved (context : RequestContext) (result : Except RequestError Success) : Prop where
  outcome : ∃ trace, context.outcome = some ⟨result, trace⟩
  phase : context.phase = .ofResult result

theorem Pending.resolved {context : RequestContext} (pending : context.Pending) (now : Nat)
    (result : Except RequestError Success) : (context.resolve now result).Resolved result := by
  have unresolved : context.isResolved = false := by simp [isResolved, pending.unresolved]
  cases result with
  | ok success =>
    simp only [resolve, resolve?, unresolved, enter, pending.phase]
    exact ⟨⟨_, rfl⟩, rfl⟩
  | error cause =>
    simp only [resolve, resolve?, unresolved, enter, pending.phase]
    exact ⟨⟨_, rfl⟩, rfl⟩

end RequestContext

namespace Run

variable {σ : Type}

structure Onward (before after : Run) : Prop where
  finished : after.finished = before.finished
  outcome : after.context.outcome = before.context.outcome
  phase : before.context.phase.isTerminal = false → after.context.phase.isTerminal = false
  events : ∃ recorded, after.events = before.events ++ recorded ∧
    ∀ event ∈ recorded, event.isRequest = false

structure Ended (before after : Run) (result : Except RequestError Success) : Prop where
  finished : after.finished = true
  resolved : after.context.Resolved result
  events : ∃ recorded latency,
    after.events = before.events ++ recorded ++ RequestContext.closingEvents latency result ∧
      ∀ event ∈ recorded, event.isRequest = false

namespace Onward

theorem refl (run : Run) : Onward run run where
  finished := rfl
  outcome := rfl
  phase := id
  events := ⟨[], (List.append_nil _).symm, nofun⟩

theorem trans {first second third : Run} (one : Onward first second) (two : Onward second third) :
    Onward first third where
  finished := two.finished.trans one.finished
  outcome := two.outcome.trans one.outcome
  phase := fun pending => two.phase (one.phase pending)
  events := by
    obtain ⟨early, first, attempts⟩ := one.events
    obtain ⟨late, second, others⟩ := two.events
    exact ⟨early ++ late, by rw [second, first, List.append_assoc],
      List.forall_mem_append.2 ⟨attempts, others⟩⟩

theorem pending {before after : Run} (onward : Onward before after)
    (pending : before.context.Pending) : after.context.Pending where
  unresolved := onward.outcome.trans pending.unresolved
  phase := onward.phase pending.phase

theorem ended {before middle after : Run} (onward : Onward before middle)
    {result : Except RequestError Success} (ended : Ended middle after result) :
    Ended before after result where
  finished := ended.finished
  resolved := ended.resolved
  events := by
    obtain ⟨early, first, attempts⟩ := onward.events
    obtain ⟨late, latency, second, others⟩ := ended.events
    exact ⟨early ++ late, latency, by rw [second, first, List.append_assoc _ early],
      List.forall_mem_append.2 ⟨attempts, others⟩⟩

theorem same {before after : Run} (finished : after.finished = before.finished)
    (context : after.context = before.context) (events : after.events = before.events) :
    Onward before after where
  finished
  outcome := by rw [context]
  phase := by rw [context]; exact id
  events := ⟨[], by rw [events, List.append_nil], nofun⟩

theorem enter (run : Run) {phase : Phase} (open_ : phase.isTerminal = false) :
    Onward run (run.enter phase) where
  finished := rfl
  outcome := by
    rcases run.context.enter_cases phase with same | ⟨_, same⟩ <;> simp [Run.enter, same]
  phase := by
    rcases run.context.enter_cases phase with same | ⟨_, same⟩ <;> simp [Run.enter, same, open_]
  events := ⟨[], (List.append_nil _).symm, nofun⟩

theorem record (run : Run) {event : Metrics.Event} (attempt : event.isRequest = false) :
    Onward run (run.record event) where
  finished := rfl
  outcome := rfl
  phase := id
  events := ⟨[event], rfl, by simp [attempt]⟩

end Onward

theorem onSent_onward (run : Run) (execution : Execution) (now : Nat)
    (retryingOn : Option SocketAddress) (node : Node) (handle : Handle) :
    Onward run (run.onSent execution now retryingOn node handle).2 := by
  have numbered : Onward run { run with attempts := run.attempts + 1 } := .same rfl rfl rfl
  exact (numbered.trans (.record _ rfl)).trans (.enter _ rfl)

theorem onRetry_onward (run : Run) (execution : Execution) (preferred : Option Node) :
    Onward run (run.onRetry execution preferred).2 := by
  have numbered : Onward run { run with retries := run.retries + 1 } := .same rfl rfl rfl
  exact (numbered.trans (.record _ rfl)).trans (.enter _ rfl)

theorem recordAttempt_onward (run : Run) (attempt : AttemptRecord) :
    Onward run { run with context := run.context.recordAttempt attempt } where
  finished := rfl
  outcome := rfl
  phase := id
  events := ⟨[], (List.append_nil _).symm, nofun⟩

theorem onResult_onward (cluster : Cluster σ) (run : Run) (execution : Execution) (node : Node)
    (attempt started : Nat) (result : Except AttemptError Response) (around : σ) :
    Onward run (run.onResult cluster execution node attempt started result around).2.1 := by
  cases result with
  | ok response =>
    exact (Onward.record run rfl).trans (recordAttempt_onward _ _)
  | error cause =>
    have recorded (attempt : AttemptRecord) : Onward run { run.record
        (.outcome node.address.text ((cluster.now around - started) * 1000) false) with
        context := run.context.recordAttempt attempt } :=
      (Onward.record run rfl).trans (recordAttempt_onward _ attempt)
    simp only [onResult]
    split
    next => exact recorded _
    next => exact recorded _
    next => exact (recorded _).trans (onRetry_onward _ execution (some node))
    next => exact (recorded _).trans (onRetry_onward _ execution none)

theorem advance_onward (cluster : Cluster σ) (run : Run) (execution : Execution) (around : σ) :
    Onward run (run.advance cluster execution around).2.1 := by
  cases stage : execution.stage with
  | starting preferred =>
    simp only [advance, stage]
    split
    next => exact .refl run
    next => exact .enter run rfl
  | seeking retryingOn preferred =>
    simp only [advance, stage]
    split
    next => exact .refl run
    next =>
      split
      next => exact .same rfl rfl rfl
      next => exact .same rfl rfl rfl
  | acquiring retryingOn node pool =>
    simp only [advance, stage]
    split
    next => exact .refl run
    next => exact .same rfl rfl rfl
    next handle around _ =>
      exact onSent_onward run execution (cluster.now around) retryingOn node handle
  | awaiting node attempt started handle =>
    simp only [advance, stage]
    split
    next => exact onResult_onward _ _ _ _ _ _ _ _
    next =>
      split
      next => exact onResult_onward _ _ _ _ _ _ _ _
      next => exact .refl run

theorem finish_ended (cluster : Cluster σ) (run : Run) (result : Except RequestError Success)
    (around : σ) (pending : run.context.Pending) :
    Ended run (run.finish cluster result around).1 result where
  finished := rfl
  resolved := pending.resolved _ result
  events := ⟨[], _, by rw [List.append_nil]; rfl, nofun⟩

theorem startExecution_onward (run : Run) (now : Nat) : Onward run (run.startExecution now) :=
  .same rfl rfl rfl

theorem speculate_onward (run : Run) (now : Nat) : Onward run (run.speculate now) := by
  unfold speculate
  split
  next => exact .same rfl rfl rfl
  next =>
    have counted : Onward run { run with context := run.context.recordSpeculation } := {
      finished := rfl
      outcome := rfl
      phase := id
      events := ⟨[], (List.append_nil _).symm, nofun⟩ }
    exact ((counted.trans (.record _ rfl)).trans (.enter _ rfl)).trans (startExecution_onward _ _)

def Progresses (before after : Run) : Prop :=
  Onward before after ∨ ∃ result, Ended before after result

theorem onEnd_progresses (cluster : Cluster σ) (run : Run) (number : Nat) (how : ExecutionEnd)
    (around : σ) (pending : run.context.Pending) :
    Progresses run (run.onEnd cluster number how around).1 := by
  have removed : Onward run (run.remove number) := .same rfl rfl rfl
  have last (result : Except RequestError Success) :
      Progresses run ((run.remove number).finish cluster result around).1 :=
    .inr ⟨result, removed.ended (finish_ended cluster _ result around pending)⟩
  unfold onEnd
  cases how with
  | success => exact last _
  | ignored => exact last _
  | rethrow => exact last _
  | exhausted =>
    simp only
    split
    next => exact last _
    next => exact .inl removed
  | expired =>
    simp only
    split
    next => exact last _
    next => exact .inl removed

theorem turnOf_progresses (cluster : Cluster σ) (run : Run) (number : Nat) (around : σ)
    (pending : run.context.Pending) :
    Progresses run (run.turnOf cluster number around).1 := by
  unfold turnOf
  split
  next => exact .inl (.same rfl rfl rfl)
  next execution found =>
    have advanced := advance_onward cluster run execution around
    split
    next step =>
      rw [step] at advanced
      exact .inl (advanced.trans (.same rfl rfl rfl))
    next step =>
      rw [step] at advanced
      exact .inl (advanced.trans (.same rfl rfl rfl))
    next step =>
      rw [step] at advanced
      rcases onEnd_progresses cluster _ number _ _ (advanced.pending pending) with
        onward | ⟨result, ended⟩
      · exact .inl (advanced.trans onward)
      · exact .inr ⟨result, advanced.ended ended⟩

inductive Turn where
  | cancelled
  | expired
  | execution (number : Nat)
  | speculation

def take? (cluster : Cluster σ) (run : Run) (around : σ) : Turn → Option (Run × σ)
  | .cancelled =>
      if run.context.cancelled then some (run.finish cluster (.error .cancelled) around) else none
  | .expired =>
      if run.context.isExpired (cluster.now around) then
        some (run.finish cluster (.error run.context.overallTimeout) around)
      else none
  | .execution number => some (run.turnOf cluster number around)
  | .speculation =>
      if run.speculation.any (· ≤ cluster.now around) then
        some (run.speculate (cluster.now around), around)
      else none

theorem take?_progresses {cluster : Cluster σ} {run after : Run} {around later : σ} {turn : Turn}
    (taken : run.take? cluster around turn = some (after, later)) (pending : run.context.Pending) :
    Progresses run after := by
  cases turn with
  | cancelled =>
    simp only [take?] at taken
    split at taken
    · cases taken
      exact .inr ⟨_, finish_ended cluster run _ around pending⟩
    · cases taken
  | expired =>
    simp only [take?] at taken
    split at taken
    · cases taken
      exact .inr ⟨_, finish_ended cluster run _ around pending⟩
    · cases taken
  | execution number =>
    have progresses := turnOf_progresses cluster run number around pending
    simp only [take?, Option.some.injEq] at taken
    rwa [taken] at progresses
  | speculation =>
    simp only [take?] at taken
    split at taken
    · cases taken
      exact .inl (speculate_onward run _)
    · cases taken

theorem turn?_take? {cluster : Cluster σ} {run : Run} {around : σ} {next : Run × σ}
    (turned : run.turn? cluster around = some next) :
    ∃ turn, run.take? cluster around turn = some next := by
  unfold turn? at turned
  split at turned
  · cases turned
  split at turned
  next cancelled => exact ⟨.cancelled, by simpa [take?, cancelled] using turned⟩
  split at turned
  next expired => exact ⟨.expired, by simpa [take?, expired] using turned⟩
  split at turned
  next number _ _ => exact ⟨.execution number, turned⟩
  next =>
    split at turned
    · cases turned
    next due speculation =>
      split at turned
      next reached => exact ⟨.speculation, by simpa [take?, speculation, reached] using turned⟩
      · cases turned

theorem steps_finished (cluster : Cluster σ) (limit : Nat) {run : Run} (around : σ)
    (finished : run.finished = true) : run.steps cluster limit around = (run, around) := by
  cases limit with
  | zero => rfl
  | succ limit => simp [steps, turn?, finished]

theorem steps_progresses (cluster : Cluster σ) (limit : Nat) (run : Run) (around : σ)
    (pending : run.context.Pending) : Progresses run (run.steps cluster limit around).1 := by
  induction limit generalizing run around with
  | zero => exact .inl (.refl run)
  | succ limit ih =>
    simp only [steps]
    split
    next => exact .inl (.refl run)
    next after later turned =>
      obtain ⟨turn, taken⟩ := turn?_take? turned
      rcases take?_progresses taken pending with onward | ⟨result, ended⟩
      · rcases ih after later (onward.pending pending) with further | ⟨result, ended⟩
        · exact .inl (onward.trans further)
        · exact .inr ⟨result, onward.ended ended⟩
      · -- A request that has ended takes no further steps.
        rw [steps_finished cluster limit later ended.finished]
        exact .inr ⟨result, ended⟩

theorem poll_run (cluster : Cluster σ) (run : Run) (around : σ) :
    (run.poll cluster around).1 =
      (run.steps cluster run.stepLimit (cluster.alarm none run.context.deadline around)).1 := by
  simp only [poll]
  split <;> rfl

theorem poll_progresses (cluster : Cluster σ) (run : Run) (around : σ)
    (pending : run.context.Pending) : Progresses run (run.poll cluster around).1 := by
  rw [poll_run]
  exact steps_progresses cluster _ run _ pending

theorem turn?_due (cluster : Cluster σ) {run : Run} (around : σ) (unfinished : run.finished = false)
    (due : run.context.cancelled = true ∨ run.context.isExpired (cluster.now around) = true) :
    ∃ result, run.turn? cluster around = some (run.finish cluster result around) := by
  cases cancelled : run.context.cancelled with
  | true => exact ⟨.error .cancelled, by simp [turn?, unfinished, cancelled]⟩
  | false =>
    have expired := due.resolve_left (by simp [cancelled])
    exact ⟨.error run.context.overallTimeout, by simp [turn?, unfinished, cancelled, expired]⟩

end Run

/-- Setting an alarm and making a plan do not turn back the clock. -/
structure Cluster.Steady {σ : Type} (cluster : Cluster σ) : Prop where
  alarm : ∀ execution due around,
    cluster.now around ≤ cluster.now (cluster.alarm execution due around)
  plan : ∀ key around, cluster.now around ≤ cluster.now (cluster.plan key around).2

theorem RequestContext.isExpired_later {context : RequestContext} {now later : Nat}
    (expired : context.isExpired now = true) (passed : now ≤ later) :
    context.isExpired later = true := by
  simp only [isExpired, decide_eq_true_eq] at *
  exact Nat.le_trans expired passed

theorem Run.poll_due {σ : Type} {cluster : Cluster σ} (steady : cluster.Steady) {run : Run}
    (around : σ) (unfinished : run.finished = false)
    (due : run.context.cancelled = true ∨ run.context.isExpired (cluster.now around) = true) :
    (run.poll cluster around).1.finished = true := by
  have still := due.imp_right fun expired =>
    RequestContext.isExpired_later expired (steady.alarm none run.context.deadline around)
  obtain ⟨result, turned⟩ := turn?_due cluster _ unfinished still
  -- The very first step ends the request, and there is room for one.
  have room : run.stepLimit ≠ 0 := by simp [stepLimit]
  obtain ⟨limit, enough⟩ := Nat.exists_eq_succ_of_ne_zero room
  have ended : (run.finish cluster result
      (cluster.alarm none run.context.deadline around)).1.finished = true := rfl
  rw [poll_run, enough]
  simp only [steps, turned]
  rw [steps_finished cluster limit _ ended]
  exact ended

end ClusterDriver
