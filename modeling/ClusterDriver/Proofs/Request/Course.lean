import ClusterDriver.Proofs.Request.Numbering

/-!
The course of a running request, one turn at a time. A worker that polls a request takes several of
its turns at once; here each is a step of its own, kept with the state in which it was taken. Every
request that runs has come to where it is by such a course, so that what holds along all courses
holds of all requests.
-/

set_option autoImplicit false

namespace ClusterDriver

namespace Run

variable {σ : Type}

/-! ### The first run -/

inductive Begins (registry : ProfileRegistry) (codec : Codec) (request : Request)
    (options : RequestOptions) (plan : Plan) : Run → Prop where
  | begun {context : RequestContext} {build : Plan → Run} (fresh : context.Fresh)
      (prepared : prepare registry codec context request options = .ok build) (now : Nat) :
      Begins registry codec request options plan ((build plan).startExecution now)

structure Initial (plan : Plan) (run : Run) : Prop where
  plan : run.plan = plan
  executions : run.executions = [⟨1, .starting none, 0⟩]
  attempts : run.attempts = 0
  retries : run.retries = 0
  nodeErrors : run.nodeErrors = []
  fresh : run.context.Fresh

variable {registry : ProfileRegistry} {codec : Codec} {request : Request}
  {options : RequestOptions} {plan : Plan} {first : Run}

theorem Begins.initial (begins : Begins registry codec request options plan first) :
    first.Initial plan := by
  obtain ⟨fresh, prepared, now⟩ := begins
  unfold prepare at prepared
  split at prepared
  next => cases prepared
  next =>
    split at prepared
    next => cases prepared
    next =>
      cases prepared
      exact ⟨rfl, rfl, rfl, rfl, rfl, fresh⟩

theorem Begins.prepared (begins : Begins registry codec request options plan first) :
    first.Prepared registry codec request options := by
  obtain ⟨_, prepared, now⟩ := begins
  exact { prepare_prepared prepared plan with }

theorem Begins.numbered (begins : Begins registry codec request options plan first) :
    first.Numbered := by
  obtain ⟨fresh, prepared, now⟩ := begins
  exact started_numbered fresh prepared plan now

/-! ### What a turn shows -/

structure Moment (σ : Type) where
  run : Run
  around : σ
  turn : Turn

def Moment.execution? (moment : Moment σ) : Option Execution :=
  match moment.turn with
  | .execution number =>
      moment.run.executions.find? fun execution => execution.number = number
  | _ => none

def pulled? (run : Run) (execution : Execution) : Option Node :=
  match execution.stage with
  | .seeking _ none => run.plan.remaining.head?
  | _ => none

/-- The node that refuses an execution in its turn, and why: it has no pool to use, or nothing can
be sent over it. -/
def refusal? (cluster : Cluster σ) (run : Run) (around : σ) (execution : Execution) :
    Option (SocketAddress × String) :=
  match execution.stage with
  | .seeking _ preferred =>
      (preferred.or run.plan.remaining.head?).bind fun node =>
        match (cluster.pool node around).1 with
        | .error reason => some (node.address, reason)
        | .ok _ => none
  | .acquiring _ node pool =>
      match (cluster.send? execution.number pool run.opcode run.body around).1 with
      | some (.error reason) => some (node.address, reason)
      | _ => none
  | _ => none

def pulls (history : List (Moment σ)) : List (Nat × Node) :=
  history.filterMap fun moment => moment.execution?.bind fun execution =>
    (moment.run.pulled? execution).map fun node => (execution.number, node)

def refusals (cluster : Cluster σ) (history : List (Moment σ)) : List (SocketAddress × String) :=
  history.filterMap fun moment => moment.execution?.bind (moment.run.refusal? cluster moment.around)

def sendsTo? (cluster : Cluster σ) (run : Run) (around : σ) (execution : Execution) :
    Option SocketAddress :=
  match execution.stage with
  | .acquiring _ node pool =>
      match (cluster.send? execution.number pool run.opcode run.body around).1 with
      | some (.ok _) => some node.address
      | _ => none
  | _ => none

def sends (cluster : Cluster σ) (history : List (Moment σ)) : List SocketAddress :=
  history.filterMap fun moment => moment.execution?.bind (moment.run.sendsTo? cluster moment.around)

theorem Advanced.remaining {cluster : Cluster σ} {run after : Run} {execution : Execution}
    {progress : Progress} {around later : σ}
    (advanced : Advanced cluster run execution around progress after later) :
    run.plan.remaining = (run.pulled? execution).toList ++ after.plan.remaining := by
  cases advanced with
  | exhausted stage planned => simp [pulled?, stage, planned]
  | unusable stage candidate =>
    cases candidate with
    | same => simp [pulled?, stage, noteNodeError]
    | next planned => simp [pulled?, stage, planned, noteNodeError]
  | usable stage candidate =>
    cases candidate with
    | same => simp [pulled?, stage]
    | next planned => simp [pulled?, stage, planned]
  | expired stage => simp [pulled?, stage]
  | begins stage => simp [pulled?, stage, enter]
  | unconnected stage => simp [pulled?, stage]
  | refused stage => simp [pulled?, stage, noteNodeError]
  | sends stage => simp [pulled?, stage, dispatched, enter, record]
  | unanswered stage => simp [pulled?, stage]
  | succeeds stage => simp [pulled?, stage, settled]
  | fails stage => simp [pulled?, stage, settled]
  | retries stage => simp [pulled?, stage, Run.retried, settled, enter, record]

theorem Advanced.nodeErrors {cluster : Cluster σ} {run after : Run} {execution : Execution}
    {progress : Progress} {around later : σ}
    (advanced : Advanced cluster run execution around progress after later) :
    after.nodeErrors = run.nodeErrors ++ (run.refusal? cluster around execution).toList := by
  cases advanced with
  | exhausted stage planned => simp [refusal?, stage, planned]
  | unusable stage candidate refused =>
    cases candidate with
    | same => simp [refusal?, stage, refused, noteNodeError]
    | next planned => simp [refusal?, stage, planned, refused, noteNodeError]
  | usable stage candidate found =>
    cases candidate with
    | same => simp [refusal?, stage, found]
    | next planned => simp [refusal?, stage, planned, found]
  | expired stage => simp [refusal?, stage]
  | begins stage => simp [refusal?, stage, enter]
  | unconnected stage silent => simp [refusal?, stage, silent]
  | refused stage refused => simp [refusal?, stage, refused, noteNodeError]
  | sends stage sent => simp [refusal?, stage, sent, dispatched, enter, record]
  | unanswered stage => simp [refusal?, stage]
  | succeeds stage => simp [refusal?, stage, settled]
  | fails stage => simp [refusal?, stage, settled]
  | retries stage => simp [refusal?, stage, Run.retried, settled, enter, record]

theorem Advanced.sent {cluster : Cluster σ} {run after : Run} {execution : Execution}
    {progress : Progress} {around later : σ}
    (advanced : Advanced cluster run execution around progress after later) :
    after.attempts = run.attempts + (run.sendsTo? cluster around execution).toList.length := by
  cases advanced with
  | expired stage => simp [sendsTo?, stage]
  | begins stage => simp [sendsTo?, stage, enter]
  | exhausted stage => simp [sendsTo?, stage]
  | unusable stage => simp [sendsTo?, stage, noteNodeError]
  | usable stage => simp [sendsTo?, stage]
  | unconnected stage silent => simp [sendsTo?, stage, silent]
  | refused stage refused => simp [sendsTo?, stage, refused, noteNodeError]
  | sends stage sent => simp [sendsTo?, stage, sent, dispatched, enter, record]
  | unanswered stage => simp [sendsTo?, stage]
  | succeeds stage => simp [sendsTo?, stage, settled]
  | fails stage => simp [sendsTo?, stage, settled]
  | retries stage => simp [sendsTo?, stage, Run.retried, settled, enter, record]

/-! ### Each turn by itself -/

/-- An execution ends before it has found another node: its time is up, or there are none left. -/
inductive Stops (cluster : Cluster σ) (run : Run) (execution : Execution) (around : σ) :
    ExecutionEnd → Prop where
  | expired {preferred : Option Node} (stage : execution.stage = .starting preferred)
      (late : run.context.isExpired (cluster.now around) = true) :
      Stops cluster run execution around .expired
  | exhausted {retryingOn : Option SocketAddress}
      (stage : execution.stage = .seeking retryingOn none) (planned : run.plan.remaining = []) :
      Stops cluster run execution around .exhausted

inductive Driven (cluster : Cluster σ) (run : Run) (execution : Execution) (around : σ) :
    Run → σ → Prop where
  | onward {next : Execution} {after : Run} {later : σ}
      (step : run.advance cluster execution around = (.onward next, after, later)) :
      Driven cluster run execution around (after.update next) later
  | waits {later : σ}
      (step : run.advance cluster execution around = (.waiting execution, run, later)) :
      Driven cluster run execution around
        { run.update execution with
          woken := run.woken.filter fun other => other ≠ execution.number } later
  | stops {how : ExecutionEnd}
      (step : run.advance cluster execution around = (.ended how, run, around))
      (stops : Stops cluster run execution around how)
      (others : (run.remove execution.number).executions ≠ []) :
      Driven cluster run execution around (run.remove execution.number) around
  | ends {how : ExecutionEnd} {after : Run} {later : σ}
      (step : run.advance cluster execution around = (.ended how, after, later))
      (last : Stops cluster run execution around how →
        (run.remove execution.number).executions = []) :
      Driven cluster run execution around
        ((after.remove execution.number).finish cluster (after.resultOfEnd how) later).1
        ((after.remove execution.number).finish cluster (after.resultOfEnd how) later).2

theorem remove_unknown {run : Run} {number : Nat}
    (unknown : run.executions.find? (fun execution => execution.number = number) = none) :
    (run.remove number).executions = run.executions := by
  refine List.filter_eq_self.2 fun execution running => ?_
  simpa using List.find?_eq_none.1 unknown execution running

inductive Taken (cluster : Cluster σ) (run : Run) (around : σ) : Turn → Run → σ → Prop where
  | cancelled (asked : run.context.cancelled = true) :
      Taken cluster run around .cancelled (run.finish cluster (.error .cancelled) around).1
        (run.finish cluster (.error .cancelled) around).2
  | expired (late : run.context.isExpired (cluster.now around) = true) :
      Taken cluster run around .expired
        (run.finish cluster (.error run.context.overallTimeout) around).1
        (run.finish cluster (.error run.context.overallTimeout) around).2
  | missed {number : Nat}
      (unknown : run.executions.find? (fun execution => execution.number = number) = none) :
      Taken cluster run around (.execution number) (run.remove number) around
  | driven {execution : Execution} {after : Run} {later : σ}
      (found : run.executions.find? (fun other => other.number = execution.number) =
        some execution)
      (driven : Driven cluster run execution around after later) :
      Taken cluster run around (.execution execution.number) after later
  | calmed (due : run.speculation ≠ none) (planned : run.plan.remaining = []) :
      Taken cluster run around .speculation { run with speculation := none } around
  | speculated (due : run.speculation ≠ none) (planned : run.plan.remaining ≠ []) :
      Taken cluster run around .speculation
        ((({ run with context := run.context.recordSpeculation }.record
          .speculativeExecution).enter .speculating).startExecution (cluster.now around)) around

theorem advanced_of_step {cluster : Cluster σ} {run after : Run} {execution : Execution}
    {around later : σ} {progress : Progress}
    (step : run.advance cluster execution around = (progress, after, later)) :
    Advanced cluster run execution around progress after later := by
  have advanced := advance_advanced cluster run execution around
  rwa [step] at advanced

theorem Advanced.updated {cluster : Cluster σ} {run after : Run} {execution next : Execution}
    {around later : σ}
    (advanced : Advanced cluster run execution around (.onward next) after later) :
    (after.update next).executions = replaced next run.executions := by
  rw [← advanced.executions]
  rfl

theorem onEnd_driven {cluster : Cluster σ} {run after : Run} {execution : Execution}
    {how : ExecutionEnd} {around later : σ}
    (step : run.advance cluster execution around = (.ended how, after, later)) :
    let turn := after.onEnd cluster execution.number how later
    Driven cluster run execution around turn.1 turn.2 := by
  -- Success and giving up end the request at once; for want of time or nodes only the last
  -- execution does.
  have ends (last : Stops cluster run execution around how →
      (run.remove execution.number).executions = []) : Driven cluster run execution around
      ((after.remove execution.number).finish cluster (after.resultOfEnd how) later).1
      ((after.remove execution.number).finish cluster (after.resultOfEnd how) later).2 :=
    .ends step last
  have advanced := advanced_of_step step
  cases advanced with
  | expired stage late =>
    simp only [onEnd]
    split
    next last => exact ends fun _ => List.isEmpty_iff.1 last
    next others => exact .stops step (.expired stage late) (by simpa using others)
  | exhausted stage planned =>
    simp only [onEnd]
    split
    next last => exact ends fun _ => List.isEmpty_iff.1 last
    next others => exact .stops step (.exhausted stage planned) (by simpa using others)
  | succeeds =>
    refine ends fun stops => ?_
    cases stops
  | fails _ _ _ givesUp =>
    cases givesUp with
    | rethrow =>
      refine ends fun stops => ?_
      cases stops
    | ignore =>
      refine ends fun stops => ?_
      cases stops

theorem take?_taken {cluster : Cluster σ} {run after : Run} {around later : σ} {turn : Turn}
    (took : run.take? cluster around turn = some (after, later)) :
    Taken cluster run around turn after later := by
  cases turn with
  | cancelled =>
    simp only [take?] at took
    split at took <;> cases took
    next asked => exact .cancelled asked
  | expired =>
    simp only [take?] at took
    split at took <;> cases took
    next late => exact .expired late
  | speculation =>
    simp only [take?] at took
    split at took <;> cases took
    next due =>
      have speculating : run.speculation ≠ none := by
        intro calm
        simp [calm] at due
      unfold speculate
      split
      next exhausted => exact .calmed speculating (by simpa [Plan.isExhausted] using exhausted)
      next further => exact .speculated speculating (by simpa [Plan.isExhausted] using further)
  | execution number =>
    simp only [take?, turnOf, Option.some.injEq] at took
    split at took
    next unknown =>
      cases took
      exact .missed unknown
    next execution found =>
      obtain rfl : execution.number = number := by simpa using List.find?_some found
      refine .driven found ?_
      split at took
      next step =>
        cases took
        exact .onward step
      next step =>
        obtain ⟨rfl, rfl⟩ := (advanced_of_step step).waits
        cases took
        exact .waits step
      next step =>
        have driven := onEnd_driven step
        rwa [took] at driven

structure Alike (before after : Run) : Prop where
  plan : after.plan = before.plan
  nodeErrors : after.nodeErrors = before.nodeErrors
  attempts : after.attempts = before.attempts
  retries : after.retries = before.retries

theorem Advanced.ended_alike {cluster : Cluster σ} {run after : Run} {execution : Execution}
    {how : ExecutionEnd} {around later : σ}
    (advanced : Advanced cluster run execution around (.ended how) after later) :
    Alike run after := by
  cases advanced <;> exact ⟨rfl, rfl, rfl, rfl⟩

theorem Driven.advanced {cluster : Cluster σ} {run after : Run} {execution : Execution}
    {around later : σ} (driven : Driven cluster run execution around after later) :
    ∃ progress middle informed,
      Advanced cluster run execution around progress middle informed ∧ Alike middle after := by
  cases driven with
  | onward step => exact ⟨_, _, _, advanced_of_step step, rfl, rfl, rfl, rfl⟩
  | waits step => exact ⟨_, _, _, advanced_of_step step, rfl, rfl, rfl, rfl⟩
  | stops step => exact ⟨_, _, _, advanced_of_step step, rfl, rfl, rfl, rfl⟩
  | ends step => exact ⟨_, _, _, advanced_of_step step, rfl, rfl, rfl, rfl⟩

theorem Taken.advanced {cluster : Cluster σ} {run after : Run} {around later : σ} {turn : Turn}
    (taken : Taken cluster run around turn after later) :
    ((Moment.mk run around turn).execution? = none ∧ Alike run after) ∨
      ∃ execution progress middle informed,
        (Moment.mk run around turn).execution? = some execution ∧
        Advanced cluster run execution around progress middle informed ∧ Alike middle after := by
  cases taken with
  | driven found driven =>
    obtain ⟨progress, middle, informed, advanced, alike⟩ := driven.advanced
    exact .inr ⟨_, progress, middle, informed, found, advanced, alike⟩
  | missed unknown => exact .inl ⟨unknown, rfl, rfl, rfl, rfl⟩
  | _ => exact .inl ⟨rfl, rfl, rfl, rfl, rfl⟩

/-! ### Turns one after the other -/

/-- What can become of a run by turns in any order, and between them by any change of its
surroundings, by executions that are woken and by its cancellation. -/
inductive Course (cluster : Cluster σ) (first : Run) (start : σ) :
    List (Moment σ) → Run → σ → Prop where
  | opens : Course cluster first start [] first start
  | changes {history : List (Moment σ)} {run : Run} {around : σ}
      (course : Course cluster first start history run around) (later : σ) :
      Course cluster first start history run later
  | wakes {history : List (Moment σ)} {run : Run} {around : σ}
      (course : Course cluster first start history run around) (woken : List Nat) :
      Course cluster first start history { run with woken } around
  | cancels {history : List (Moment σ)} {run : Run} {around : σ}
      (course : Course cluster first start history run around) :
      Course cluster first start history { run with context := run.context.cancel } around
  | turns {history : List (Moment σ)} {run after : Run} {around later : σ} {turn : Turn}
      (course : Course cluster first start history run around)
      (unfinished : run.finished = false)
      (taken : run.take? cluster around turn = some (after, later)) :
      Course cluster first start (history ++ [⟨run, around, turn⟩]) after later

namespace Course

variable {cluster : Cluster σ} {start around : σ}
  {history : List (Moment σ)} {run : Run}

theorem pending (course : Course cluster first start history run around)
    (initial : first.Initial plan) (unfinished : run.finished = false) : run.context.Pending := by
  induction course with
  | opens => exact initial.fresh.pending
  | changes _ _ ih => exact ih unfinished
  | wakes _ _ ih => exact ih unfinished
  | cancels _ ih => exact { ih unfinished with }
  | turns _ earlier taken ih =>
    rcases take?_progresses taken (ih earlier) with onward | ⟨result, ended⟩
    · exact onward.pending (ih earlier)
    · cases unfinished.symm.trans ended.finished

theorem keeps {property : Run → Prop} (course : Course cluster first start history run around)
    (kept : Kept cluster property) (initial : first.Initial plan) (holds : property first) :
    property run := by
  induction course with
  | opens => exact holds
  | changes _ _ ih => exact ih
  | wakes _ woken ih => exact kept.woken woken ih
  | cancels _ ih => exact kept.cancelled ih
  | turns course earlier taken ih =>
    exact kept.turned (course.pending initial earlier) earlier ih (take?_turned taken)

theorem prepared (course : Course cluster first start history run around)
    (begins : Begins registry codec request options plan first) :
    run.Prepared registry codec request options :=
  course.keeps (prepared_lasting cluster registry codec request options).toKept begins.initial
    begins.prepared

theorem numbered (course : Course cluster first start history run around)
    (begins : Begins registry codec request options plan first) : run.Numbered :=
  course.keeps (numbered_kept cluster) begins.initial begins.numbered

theorem pulls_remaining (course : Course cluster first start history run around) :
    (pulls history).map (·.2) ++ run.plan.remaining = first.plan.remaining := by
  induction course with
  | opens => rfl
  | changes _ _ ih => exact ih
  | wakes _ _ ih => exact ih
  | cancels _ ih => exact ih
  | @turns history run after around later turn _ _ taken ih =>
    simp only [pulls, List.filterMap_append, List.map_append, List.append_assoc]
    rw [← ih, pulls]
    congr 1
    rcases (take?_taken taken).advanced with
      ⟨idle, alike⟩ | ⟨execution, _, middle, _, own, advanced, alike⟩
    · simp [idle, alike.plan]
    · rw [advanced.remaining, alike.plan]
      cases pulled : run.pulled? execution <;> simp [own, pulled]

theorem refusals_nodeErrors (course : Course cluster first start history run around) :
    run.nodeErrors = first.nodeErrors ++ refusals cluster history := by
  induction course with
  | opens => exact (List.append_nil _).symm
  | changes _ _ ih => exact ih
  | wakes _ _ ih => exact ih
  | cancels _ ih => exact ih
  | @turns history run after around later turn _ _ taken ih =>
    simp only [refusals, List.filterMap_append]
    rw [← List.append_assoc, ← refusals, ← ih]
    rcases (take?_taken taken).advanced with
      ⟨idle, alike⟩ | ⟨execution, _, middle, _, own, advanced, alike⟩
    · simp [idle, alike.nodeErrors]
    · rw [alike.nodeErrors, advanced.nodeErrors]
      cases refused : run.refusal? cluster around execution <;> simp [own, refused]

theorem sends_attempts (course : Course cluster first start history run around) :
    run.attempts = first.attempts + (sends cluster history).length := by
  induction course with
  | opens => rfl
  | changes _ _ ih => exact ih
  | wakes _ _ ih => exact ih
  | cancels _ ih => exact ih
  | @turns history run after around later turn _ _ taken ih =>
    simp only [sends, List.filterMap_append, List.length_append]
    rw [← Nat.add_assoc, ← sends, ← ih]
    rcases (take?_taken taken).advanced with
      ⟨idle, alike⟩ | ⟨execution, _, middle, _, own, advanced, alike⟩
    · simp [idle, alike.attempts]
    · rw [alike.attempts, advanced.sent]
      cases sent : run.sendsTo? cluster around execution <;> simp [own, sent]

/-! ### Polls -/

theorem steps (course : Course cluster first start history run around) (limit : Nat) :
    ∃ history, Course cluster first start history (run.steps cluster limit around).1
      (run.steps cluster limit around).2 := by
  induction limit generalizing history run around with
  | zero => exact ⟨history, course⟩
  | succ limit ih =>
    simp only [Run.steps]
    split
    next => exact ⟨history, course⟩
    next after later turned =>
      obtain ⟨unfinished, _⟩ := turn?_turned turned
      obtain ⟨turn, taken⟩ := turn?_take? turned
      exact ih (course.turns unfinished taken)

theorem polls (course : Course cluster first start history run around) :
    ∃ history, Course cluster first start history (run.poll cluster around).1
      (run.poll cluster around).2 := by
  have alarmed := course.changes (cluster.alarm none run.context.deadline around)
  obtain ⟨history, stepped⟩ := alarmed.steps run.stepLimit
  refine ⟨history, ?_⟩
  simp only [Run.poll]
  split
  next => exact stepped.changes _
  next => exact stepped

end Course

end Run

namespace Life

variable {σ : Type}

structure Traced (cluster : Cluster σ) (registry : ProfileRegistry) (codec : Codec)
    (plan : Plan) (life : Life σ) (history : List (Run.Moment σ)) (run : Run) : Prop where
  underWay : life.submission.current? = some run
  course : ∃ first start,
    Run.Begins registry codec life.submission.request life.submission.options plan first ∧
    Run.Course cluster first start history run life.around

variable {cluster : Cluster σ} {registry : ProfileRegistry} {codec : Codec} {plan : Plan}
  {history : List (Run.Moment σ)} {run : Run}

theorem current_adopt (submission : Submission) (before after : Run) :
    (submission.adopt before after).current? = some after := rfl

theorem poll_course {submission : Submission} {first : Run} {start around : σ}
    (underWay : submission.current? = some run)
    (course : Run.Course cluster first start history run around) :
    ∃ history after, (submission.poll cluster around).1.current? = some after ∧
      Run.Course cluster first start history after (submission.poll cluster around).2 := by
  obtain ⟨own, same, rfl⟩ := Option.map_eq_some_iff.1 underWay
  obtain ⟨history, polled⟩ := course.polls
  simp only [Submission.poll, same]
  exact ⟨history, _, current_adopt _ _ _, polled⟩

theorem Traced.act {life : Life σ} (traced : life.Traced cluster registry codec plan history run)
    (sound : life.submission.Sound) (move : Move σ) :
    ∃ history run, (life.act cluster registry codec move).Traced cluster registry codec plan
      history run := by
  obtain ⟨underWay, first, start, begins, course⟩ := id traced
  obtain ⟨asked, chosen⟩ : (life.act cluster registry codec move).submission.request = _ ∧ _ :=
    act_asked life move
  rw [← asked, ← chosen] at begins
  obtain ⟨own, same, rfl⟩ := Option.map_eq_some_iff.1 underWay
  have notWaiting : life.waits = false := by simp [waits, same]
  -- Moves that are not the worker's leave a request that is under way as it is.
  have stays (rests : life.act cluster registry codec move = life) : ∃ history run,
      (life.act cluster registry codec move).Traced cluster registry codec plan history run := by
    rw [rests]
    exact ⟨history, _, traced⟩
  cases move with
  | change around =>
    exact ⟨history, _, underWay, first, start, begins, course.changes around⟩
  | wake executions =>
    refine ⟨history, _, ?_, first, start, begins, course.wakes executions⟩
    simp [Life.act, Submission.current?, same]
  | cancel =>
    refine ⟨history, _, ?_, first, start, begins, course.cancels⟩
    simp [Life.act, Submission.current?, same]
  | hold => exact stays (by simp [Life.act, notWaiting])
  | start => exact stays (by simp [Life.act, notWaiting])
  | begin => exact stays (by simp [Life.act, notWaiting])
  | poll =>
    cases isOver : life.submission.isOver with
    | true => exact stays (by simp [Life.act, isOver])
    | false =>
      obtain ⟨history, after, polled, onward⟩ := poll_course underWay course
      have acted : life.act cluster registry codec .poll =
          ⟨(life.submission.poll cluster life.around).1,
            (life.submission.poll cluster life.around).2⟩ := by
        simp [Life.act, isOver]
      rw [acted] at begins ⊢
      exact ⟨history, after, polled, first, start, begins, onward⟩
  | turn turn =>
    cases sound with
    | waiting idle => cases idle.symm.trans same
    | settled _ isOver => exact stays (by simp [Life.act, isOver])
    | @running other own unfinished _ goesOn =>
      obtain rfl := Option.some.inj (own.symm.trans same)
      cases taken : Run.take? cluster { other with context := life.submission.context }
          life.around turn with
      | none => exact stays (by simp [Life.act, goesOn, takeTurn, same, taken])
      | some next =>
        have acted : life.act cluster registry codec (.turn turn) =
            ⟨life.submission.adopt { other with context := life.submission.context } next.1,
              next.2⟩ := by
          simp [Life.act, goesOn, takeTurn, same, taken]
        have onward := course.turns unfinished taken
        rw [acted] at begins ⊢
        exact ⟨_, _, current_adopt _ _ _, first, start, begins, onward⟩

theorem begin_traced {life : Life σ} (reached : life.Reached cluster registry codec)
    (waits : life.waits = true)
    (made : (cluster.plan life.submission.options.routingKey life.around).1 = plan) :
    ((life.act cluster registry codec .begin).submission.run = none ∧
        (life.act cluster registry codec .begin).submission.isOver = true) ∨
      ∃ run, (life.act cluster registry codec .begin).Traced cluster registry codec plan []
        run := by
  obtain ⟨asked, chosen⟩ : (life.act cluster registry codec .begin).submission.request = _ ∧ _ :=
    act_asked life .begin
  obtain ⟨idle, _⟩ := waits_iff.1 waits
  have acted : life.act cluster registry codec .begin =
      ⟨(life.submission.begin cluster registry codec life.around).1,
        (life.submission.begin cluster registry codec life.around).2⟩ := by
    simp [Life.act, waits]
  rw [acted] at asked chosen ⊢
  rcases begin_cases (reached.fresh waits) idle life.around with
    ⟨idle, isOver, _⟩ | ⟨build, now, prepared, runs⟩
  · exact .inl ⟨idle, isOver⟩
  · rw [made] at runs
    obtain ⟨own, underWay, begins⟩ := runs (Run.Begins registry codec life.submission.request
      life.submission.options plan) (.begun (reached.fresh waits) prepared now)
    rw [← asked, ← chosen] at begins
    refine .inr ⟨_, ?_, _, _, begins, .opens⟩
    simp only [Submission.current?, underWay, Option.map_some]

theorem act_start {life : Life σ} (waits : life.waits = true) :
    life.act cluster registry codec .start =
      (life.act cluster registry codec .begin).act cluster registry codec .poll := by
  cases isOver : (life.submission.begin cluster registry codec life.around).1.isOver <;>
    simp [Life.act, waits, Submission.start, isOver]

theorem start_traced {life : Life σ} (reached : life.Reached cluster registry codec)
    (waits : life.waits = true)
    (made : (cluster.plan life.submission.options.routingKey life.around).1 = plan) :
    ((life.act cluster registry codec .start).submission.run = none ∧
        (life.act cluster registry codec .start).submission.isOver = true) ∨
      ∃ history run, (life.act cluster registry codec .start).Traced cluster registry codec plan
        history run := by
  rw [act_start waits]
  have begun : _ ∨ ∃ run, (life.act cluster registry codec .begin).Traced cluster registry codec plan
      [] run := begin_traced reached waits made
  have sound := (reached.act .begin).sound
  generalize life.act cluster registry codec .begin = begun at *
  rcases begun with ⟨idle, isOver⟩ | ⟨run, traced⟩
  · exact .inl (by simp [Life.act, isOver, idle])
  · exact .inr (traced.act sound .poll)

theorem Given.traced {life : Life σ} (given : life.Given cluster registry codec plan) :
    (life.submission.run = none ∧ life.submission.isOver = true) ∨
      ∃ history run, life.Traced cluster registry codec plan history run := by
  induction given with
  | begun reached waits made =>
    exact (begin_traced reached waits made).imp_right fun ⟨run, traced⟩ => ⟨[], run, traced⟩
  | started reached waits made => exact start_traced reached waits made
  | @later life given move ih =>
    rcases ih with ⟨idle, isOver⟩ | ⟨history, run, traced⟩
    · have notWaiting : life.waits = false := by simp [waits, isOver]
      exact .inl (by cases move <;> simp [Life.act, notWaiting, isOver, idle])
    · exact .inr (traced.act given.reached.sound move)

theorem Given.course {life : Life σ} (given : life.Given cluster registry codec plan)
    (underWay : life.submission.current? = some run) :
    ∃ history, life.Traced cluster registry codec plan history run := by
  rcases given.traced with ⟨idle, _⟩ | ⟨history, other, traced⟩
  · simp [Submission.current?, idle] at underWay
  · obtain rfl := Option.some.inj (traced.underWay.symm.trans underWay)
    exact ⟨history, traced⟩

theorem Reached.course {life : Life σ} (reached : life.Reached cluster registry codec)
    (underWay : life.submission.current? = some run) :
    ∃ plan history, life.Traced cluster registry codec plan history run := by
  rcases reached.given with idle | ⟨plan, given⟩
  · simp [Submission.current?, idle] at underWay
  · exact ⟨plan, given.course underWay⟩

end Life

end ClusterDriver
