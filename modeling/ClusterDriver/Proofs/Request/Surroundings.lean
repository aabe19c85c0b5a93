import ClusterDriver.Request.Submission

set_option autoImplicit false

namespace ClusterDriver

variable {σ : Type}

structure Cluster.Keeps (cluster : Cluster σ) (holds : σ → Prop) : Prop where
  plan : ∀ key around, holds around → holds (cluster.plan key around).2
  pool : ∀ node around, holds around → holds (cluster.pool node around).2
  send : ∀ execution pool opcode body around, holds around →
    holds (cluster.send? execution pool opcode body around).2
  reply : ∀ execution handle around, holds around →
    holds (cluster.reply? execution handle around).2
  abandon : ∀ handle around, holds around → holds (cluster.abandon handle around)
  count : ∀ profile around, holds around → holds (cluster.countRetryCall profile around)
  alarm : ∀ execution due around, holds around → holds (cluster.alarm execution due around)
  dismiss : ∀ execution around, holds around → holds (cluster.dismissAlarms execution around)

namespace Run

variable {cluster : Cluster σ} {holds : σ → Prop} (keeps : cluster.Keeps holds)

include keeps

theorem decide_holds (run : Run) (cause : AttemptError) (retries : Nat) {around : σ}
    (start : holds around) : holds (run.decide cluster cause retries around).2 := by
  unfold decide
  split
  next => exact start
  next => exact keeps.count _ around start

theorem onResult_holds (run : Run) (execution : Execution) (node : Node) (attempt started : Nat)
    (result : Except AttemptError Response) {around : σ} (start : holds around) :
    holds (run.onResult cluster execution node attempt started result around).2.2 := by
  cases result with
  | ok response => exact start
  | error cause =>
    simp only [onResult]
    split <;> exact decide_holds keeps _ cause _ start

theorem advance_holds (run : Run) (execution : Execution) {around : σ} (start : holds around) :
    holds (run.advance cluster execution around).2.2 := by
  cases stage : execution.stage with
  | starting preferred =>
    simp only [advance, stage]
    split <;> exact start
  | seeking retryingOn preferred =>
    simp only [advance, stage]
    split
    next => exact start
    next node plan _ =>
      have asked := keeps.pool node around start
      split
      next given =>
        rw [given] at asked
        exact asked
      next given =>
        rw [given] at asked
        exact asked
  | acquiring retryingOn node pool =>
    have sent := keeps.send execution.number pool run.opcode run.body around start
    simp only [advance, stage]
    split
    next given =>
      rw [given] at sent
      exact sent
    next given =>
      rw [given] at sent
      exact sent
    next given =>
      rw [given] at sent
      exact sent
  | awaiting node attempt started handle =>
    have asked := keeps.reply execution.number handle around start
    simp only [advance, stage]
    split
    next given =>
      rw [given] at asked
      exact onResult_holds keeps _ _ _ _ _ _ (keeps.dismiss _ _ asked)
    next given =>
      rw [given] at asked
      split
      next => exact onResult_holds keeps _ _ _ _ _ _ (keeps.abandon _ _ asked)
      next => exact keeps.alarm _ _ _ asked

theorem abandonAll_holds (run : Run) {around : σ} (start : holds around) :
    holds (run.abandonAll cluster around).2 := by
  simp only [abandonAll]
  generalize run.handles = handles
  induction handles generalizing around with
  | nil => exact start
  | cons handle rest ih => exact ih (keeps.abandon handle around start)

theorem onEnd_holds (run : Run) (number : Nat) (how : ExecutionEnd) {around : σ}
    (start : holds around) : holds (run.onEnd cluster number how around).2 := by
  have ended := abandonAll_holds keeps (run.remove number) start
  unfold onEnd
  cases how with
  | success => exact ended
  | ignored => exact ended
  | rethrow => exact ended
  | exhausted =>
    simp only
    split
    next => exact ended
    next => exact start
  | expired =>
    simp only
    split
    next => exact ended
    next => exact start

theorem turnOf_holds (run : Run) (number : Nat) {around : σ} (start : holds around) :
    holds (run.turnOf cluster number around).2 := by
  unfold turnOf
  split
  next => exact start
  next execution _ =>
    have advanced := advance_holds keeps run execution start
    split
    next given =>
      rw [given] at advanced
      exact advanced
    next given =>
      rw [given] at advanced
      exact advanced
    next given =>
      rw [given] at advanced
      exact onEnd_holds keeps _ number _ advanced

theorem turn?_holds {run after : Run} {around later : σ}
    (turned : run.turn? cluster around = some (after, later)) (start : holds around) :
    holds later := by
  unfold turn? at turned
  split at turned
  next => cases turned
  next =>
    split at turned
    next =>
      cases turned
      exact abandonAll_holds keeps run start
    next =>
      split at turned
      next =>
        cases turned
        exact abandonAll_holds keeps run start
      next =>
        split at turned
        next number _ _ =>
          have done := turnOf_holds keeps run number start
          rwa [Option.some.inj turned] at done
        next =>
          split at turned
          next => cases turned
          next =>
            split at turned
            next =>
              cases turned
              exact start
            next => cases turned

theorem steps_holds (limit : Nat) (run : Run) {around : σ} (start : holds around) :
    holds (run.steps cluster limit around).2 := by
  induction limit generalizing run around with
  | zero => exact start
  | succ limit ih =>
    unfold steps
    split
    next => exact start
    next turned => exact ih _ (turn?_holds keeps turned start)

theorem poll_holds (run : Run) {around : σ} (start : holds around) :
    holds (run.poll cluster around).2 := by
  have stepped := steps_holds keeps run.stepLimit run
    (keeps.alarm none run.context.deadline around start)
  simp only [poll]
  split
  next => exact keeps.alarm none _ _ stepped
  next => exact stepped

end Run

namespace Submission

variable {cluster : Cluster σ} {holds : σ → Prop} (keeps : cluster.Keeps holds)

include keeps

theorem poll_holds (submission : Submission) {around : σ} (start : holds around) :
    holds (submission.poll cluster around).2 := by
  unfold poll
  split
  next => exact start
  next run _ => exact Run.poll_holds keeps { run with context := submission.context } start

theorem begin_holds (registry : ProfileRegistry) (codec : Codec) (submission : Submission)
    {around : σ} (start : holds around) :
    holds (submission.begin cluster registry codec around).2 := by
  simp only [begin]
  split
  next => exact start
  next => exact keeps.plan _ around start

theorem start_holds (registry : ProfileRegistry) (codec : Codec) (submission : Submission)
    {around : σ} (start : holds around) :
    holds (submission.start cluster registry codec around).2 := by
  have begun := begin_holds keeps registry codec submission start
  simp only [Submission.start]
  split
  next => exact begun
  next => exact poll_holds keeps _ begun

omit keeps in
theorem start_cases {registry : ProfileRegistry} {codec : Codec} {submission : Submission}
    (goesOn : submission.isOver = false) (around : σ) :
    (∃ cause, (submission.start cluster registry codec around).1.isOver = true ∧
      (submission.start cluster registry codec around).1.context =
        submission.context.resolve (cluster.now around) (.error cause) ∧
      (submission.start cluster registry codec around).1.run = submission.run ∧
      (submission.start cluster registry codec around).1.events = submission.events ++ .submitted ::
        RequestContext.closingEvents (submission.context.latency (cluster.now around))
          (.error cause)) ∨
    ∃ build plan later, cluster.plan submission.options.routingKey around = (plan, later) ∧
      Run.prepare registry codec submission.context submission.request submission.options =
        .ok build ∧
      submission.start cluster registry codec around = Submission.poll cluster
        { submission.count [.submitted] with
          run := some ((build plan).startExecution (cluster.now later)) } later := by
  cases prepared : Run.prepare registry codec submission.context submission.request
      submission.options with
  | error cause =>
    exact .inl ⟨cause, by simp [start, begin, count, prepared, RequestContext.conclude]⟩
  | ok build =>
    let planned := cluster.plan submission.options.routingKey around
    exact .inr ⟨build, planned.1, planned.2, rfl, rfl,
      by simp [start, begin, count, prepared, goesOn, planned]⟩

end Submission

end ClusterDriver
