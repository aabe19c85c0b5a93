import ClusterDriver.Proofs.Request.Numbering

set_option autoImplicit false

namespace ClusterDriver

/-- No time passes while a request uses its surroundings. -/
structure Cluster.Still {σ : Type} (cluster : Cluster σ) : Prop where
  plan : ∀ key around, cluster.now (cluster.plan key around).2 = cluster.now around
  pool : ∀ node around, cluster.now (cluster.pool node around).2 = cluster.now around
  send : ∀ execution pool opcode body around,
    cluster.now (cluster.send? execution pool opcode body around).2 = cluster.now around
  reply : ∀ execution handle around,
    cluster.now (cluster.reply? execution handle around).2 = cluster.now around
  abandon : ∀ handle around, cluster.now (cluster.abandon handle around) = cluster.now around
  count : ∀ profile around,
    cluster.now (cluster.countRetryCall profile around) = cluster.now around
  alarm : ∀ execution due around,
    cluster.now (cluster.alarm execution due around) = cluster.now around
  dismiss : ∀ execution around,
    cluster.now (cluster.dismissAlarms execution around) = cluster.now around

namespace RequestContext

/-- What a request was submitted with, and whether it has been cancelled since. -/
structure Terms where
  started : Nat
  timeout : Nat
  cancelled : Bool

def terms (context : RequestContext) : Terms :=
  ⟨context.started, context.timeout, context.cancelled⟩

@[simp]
theorem terms_enter (context : RequestContext) (phase : Phase) :
    (context.enter phase).terms = context.terms := by
  rcases context.enter_cases phase with same | ⟨_, same⟩ <;> rw [same]
  rfl

@[simp]
theorem terms_resolve (context : RequestContext) (now : Nat)
    (result : Except RequestError Success) :
    (context.resolve now result).terms = context.terms := by
  unfold resolve resolve?
  split
  next => rfl
  next =>
    cases result with
    | ok => exact terms_enter context .done
    | error => exact terms_enter context .failed

theorem deadline_of_terms {one other : RequestContext} (same : one.terms = other.terms) :
    one.deadline = other.deadline := by
  simp only [terms, Terms.mk.injEq] at same
  rw [deadline, same.1, same.2.1, deadline]

theorem giveUp?_cancelled {context : RequestContext} (cancelled : context.cancelled = true)
    (now : Nat) : context.giveUp? now = some .cancelled := by
  simp [giveUp?, cancelled]

theorem giveUp?_expired {context : RequestContext} (uncancelled : context.cancelled = false)
    {now : Nat} (late : context.deadline ≤ now) :
    context.giveUp? now = some context.overallTimeout := by
  simp [giveUp?, uncancelled, isExpired, late]

end RequestContext

namespace Run

variable {σ : Type} {cluster : Cluster σ} {run after : Run} {around later : σ}

/-! ### The last turn -/

theorem turn?_giveUp {cause : RequestError} (unfinished : run.finished = false)
    (given : run.context.giveUp? (cluster.now around) = some cause) :
    run.turn? cluster around = some (run.finish cluster (.error cause) around) := by
  unfold RequestContext.giveUp? at given
  split at given
  next cancelled =>
    cases given
    simp [turn?, unfinished, cancelled]
  next uncancelled =>
    split at given
    next late =>
      cases given
      simp [turn?, unfinished, uncancelled, late]
    next => cases given

theorem poll_giveUp (still : cluster.Still) {cause : RequestError}
    (unfinished : run.finished = false)
    (given : run.context.giveUp? (cluster.now around) = some cause) :
    (run.poll cluster around).1 =
      (run.finish cluster (.error cause) (cluster.alarm none run.context.deadline around)).1 := by
  rw [← still.alarm none run.context.deadline around] at given
  -- The very first step ends the request, and there is room for one.
  have room : run.stepLimit ≠ 0 := by simp [stepLimit]
  obtain ⟨limit, enough⟩ := Nat.exists_eq_succ_of_ne_zero room
  rw [poll_run, enough]
  simp only [steps, turn?_giveUp unfinished given]
  rw [steps_finished cluster limit _ rfl]

theorem turn?_early (turned : run.turn? cluster around = some (after, later)) :
    after.executions = [] ∨ cluster.now around < run.context.deadline := by
  unfold turn? at turned
  split at turned
  · cases turned
  split at turned
  · cases turned
    exact .inl rfl
  split at turned
  · cases turned
    exact .inl rfl
  next early => exact .inr (by simpa [RequestContext.isExpired] using early)

/-! ### Attempts and the deadline -/

def Timely (run : Run) : Prop :=
  ∀ execution ∈ run.executions, ∀ node attempt sentAt handle,
    execution.stage = .awaiting node attempt sentAt handle → sentAt < run.context.deadline

theorem Advanced.terms {execution : Execution} {progress : Progress}
    (advanced : Advanced cluster run execution around progress after later) :
    after.context.terms = run.context.terms := by
  cases advanced with
  | begins => exact RequestContext.terms_enter _ _
  | sends => exact RequestContext.terms_enter _ _
  | retries => exact RequestContext.terms_enter _ _
  | _ => rfl

theorem Turned.terms (turned : Turned cluster run around after later) :
    after.context.terms = run.context.terms := by
  cases turned with
  | cancelled => exact RequestContext.terms_resolve _ _ _
  | expired => exact RequestContext.terms_resolve _ _ _
  | advanced _ advanced => exact advanced.terms
  | ended _ advanced => exact (RequestContext.terms_resolve _ _ _).trans advanced.terms
  | speculated => exact RequestContext.terms_enter _ _
  | _ => rfl

theorem Advanced.sentAt {execution next : Execution} (still : cluster.Still)
    (advanced : Advanced cluster run execution around (.onward next) after later) {node : Node}
    {attempt sentAt : Nat} {handle : Handle}
    (stage : next.stage = .awaiting node attempt sentAt handle) : sentAt = cluster.now around := by
  cases advanced with
  | @sends _ _ pool _ _ _ sent =>
    cases stage
    have same := still.send execution.number pool run.opcode run.body around
    rwa [sent] at same
  | _ => cases stage

theorem Timely.turned (still : cluster.Still) (timely : run.Timely)
    (early : cluster.now around < run.context.deadline)
    (turned : Turned cluster run around after later) : after.Timely := by
  intro execution member node attempt sentAt handle stage
  rw [RequestContext.deadline_of_terms turned.terms]
  cases turned with
  | cancelled => cases member
  | expired => cases member
  | ended => cases member
  | missed => exact timely execution (List.mem_of_mem_filter member) _ _ _ _ stage
  | dropped => exact timely execution (List.mem_of_mem_filter member) _ _ _ _ stage
  | calmed => exact timely execution member _ _ _ _ stage
  | advanced _ advanced =>
    rcases mem_replaced member with rfl | ⟨member, _⟩
    · rw [advanced.sentAt still stage]
      exact early
    · rw [advanced.executions] at member
      exact timely execution member _ _ _ _ stage
  | waited running =>
    rcases mem_replaced member with rfl | ⟨member, _⟩
    · exact timely execution running _ _ _ _ stage
    · exact timely execution member _ _ _ _ stage
  | speculated =>
    rcases List.mem_append.1 member with member | new
    · exact timely execution member _ _ _ _ stage
    · obtain rfl := List.mem_singleton.1 new
      cases stage

theorem Timely.steps (still : cluster.Still) (timely : run.Timely) (limit : Nat) (around : σ) :
    (run.steps cluster limit around).1.Timely := by
  induction limit generalizing run around with
  | zero => exact timely
  | succ limit ih =>
    simp only [Run.steps]
    split
    next => exact timely
    next after later turned =>
      refine ih ?_ later
      rcases turn?_early turned with dropped | early
      · simp [Timely, dropped]
      · exact timely.turned still early (turn?_turned turned).2

theorem steps_terms (limit : Nat) (around : σ) :
    (run.steps cluster limit around).1.context.terms = run.context.terms := by
  induction limit generalizing run around with
  | zero => rfl
  | succ limit ih =>
    simp only [Run.steps]
    split
    next => rfl
    next after later turned => exact (ih later).trans (turn?_turned turned).2.terms

theorem Unstarted.timely {plan : Plan} (unstarted : run.Unstarted plan) (now : Nat)
    (context : RequestContext) : Timely { run.startExecution now with context } := by
  intro execution running node attempt sentAt handle stage
  simp only [startExecution, unstarted.executions, List.nil_append, List.mem_singleton] at running
  subst running
  cases stage

theorem Timely.poll (still : cluster.Still) (timely : run.Timely) (around : σ) :
    (run.poll cluster around).1.Timely := by
  rw [poll_run]
  exact timely.steps still _ _

end Run

namespace Submission

variable {σ : Type} {cluster : Cluster σ} {registry : ProfileRegistry} {codec : Codec}

theorem hold_terms (submission : Submission) (now : Nat) :
    (submission.hold now).context.terms = submission.context.terms := by
  unfold hold RequestContext.giveUp
  cases submission.context.giveUp? now with
  | none => rfl
  | some cause => exact RequestContext.terms_resolve _ _ _

theorem begin_terms (submission : Submission) (around : σ) :
    (submission.begin cluster registry codec around).1.context.terms =
      submission.context.terms := by
  simp only [begin]
  split
  next => exact RequestContext.terms_resolve _ _ _
  next => rfl

theorem poll_terms (submission : Submission) (around : σ) :
    (submission.poll cluster around).1.context.terms = submission.context.terms := by
  unfold poll
  split
  next => rfl
  next run _ =>
    simp only [adopt, Run.poll_run]
    exact Run.steps_terms _ _

theorem start_terms (submission : Submission) (around : σ) :
    (submission.start cluster registry codec around).1.context.terms =
      submission.context.terms := by
  simp only [start]
  split
  next => exact begin_terms submission around
  next => exact (poll_terms _ _).trans (begin_terms submission around)

end Submission

namespace Life

variable {σ : Type} {cluster : Cluster σ} {registry : ProfileRegistry} {codec : Codec}

/-- A worker runs a request until it has to wait; it does not stop between two of its turns. -/
def Move.isWhole : Move σ → Bool
  | .begin | .turn _ => false
  | _ => true

def Timely (submission : Submission) : Prop :=
  ∀ run, submission.run = some run → Run.Timely { run with context := submission.context }

theorem polled_timely (still : cluster.Still) {submission : Submission} (timely : Timely submission)
    (around : σ) : Timely (submission.poll cluster around).1 := by
  unfold Submission.poll
  split
  next => exact timely
  next run underWay =>
    intro after adopted
    obtain rfl : (Run.poll cluster { run with context := submission.context } around).1 = after :=
      Option.some.inj adopted
    exact (timely run underWay).poll still around

theorem begun_timely {submission : Submission} (idle : submission.run = none) (around : σ) :
    Timely (submission.begin cluster registry codec around).1 := by
  simp only [Submission.begin]
  split
  next =>
    intro run underWay
    cases idle.symm.trans underWay
  next build prepared =>
    have unstarted := Run.prepare_unstarted prepared
      (cluster.plan submission.options.routingKey around).1
    intro run underWay
    obtain rfl := Option.some.inj underWay
    exact unstarted.timely _ _

theorem act_timely (still : cluster.Still) (life : Life σ) (move : Move σ)
    (whole : move.isWhole = true) (timely : Timely life.submission) :
    Timely (life.act cluster registry codec move).submission := by
  cases move with
  | change => exact timely
  | wake executions =>
    intro run woken
    obtain ⟨before, underWay, rfl⟩ := Option.map_eq_some_iff.1 woken
    exact timely before underWay
  | cancel => exact fun run underWay => timely run underWay
  | hold =>
    simp only [act]
    split
    next waits =>
      obtain ⟨idle, _⟩ := waits_iff.1 waits
      unfold Submission.hold
      split
      next => exact timely
      next =>
        intro run underWay
        cases idle.symm.trans underWay
    next => exact timely
  | start =>
    simp only [act]
    split
    next waits =>
      have begun : Timely (life.submission.begin cluster registry codec life.around).1 :=
        begun_timely (waits_iff.1 waits).1 life.around
      simp only [Submission.start]
      split
      next => exact begun
      next => exact polled_timely still begun _
    next => exact timely
  | begin => cases whole
  | poll =>
    simp only [act]
    split
    next => exact timely
    next => exact polled_timely still timely _
  | turn => cases whole

theorem run_timely (still : cluster.Still) (life : Life σ) (moves : List (Move σ))
    (whole : ∀ move ∈ moves, move.isWhole = true) (timely : Timely life.submission) :
    Timely (life.run cluster registry codec moves).submission := by
  induction moves generalizing life with
  | nil => exact timely
  | cons move rest ih =>
    obtain ⟨own, others⟩ := List.forall_mem_cons.1 whole
    exact ih _ others (act_timely still life move own timely)

/-! ### What was asked for -/

theorem act_terms (life : Life σ) {move : Move σ} (other : move ≠ .cancel) :
    (life.act cluster registry codec move).submission.context.terms =
      life.submission.context.terms := by
  cases move with
  | change => rfl
  | wake => rfl
  | cancel => exact absurd rfl other
  | hold =>
    simp only [act]
    split
    next => exact Submission.hold_terms _ _
    next => rfl
  | start =>
    simp only [act]
    split
    next => exact Submission.start_terms _ _
    next => rfl
  | begin =>
    simp only [act]
    split
    next => exact Submission.begin_terms _ _
    next => rfl
  | poll =>
    simp only [act]
    split
    next => rfl
    next => exact Submission.poll_terms _ _
  | turn turn =>
    simp only [act, takeTurn]
    split
    next => rfl
    next =>
      split
      next => rfl
      next run _ =>
        split
        next => rfl
        next taken => exact (Run.take?_turned taken).terms

theorem run_terms (life : Life σ) (moves : List (Move σ)) :
    let before := life.submission.context
    let after := (life.run cluster registry codec moves).submission.context
    after.started = before.started ∧ after.timeout = before.timeout ∧
      (after.cancelled = true ↔ before.cancelled = true ∨ Move.cancel ∈ moves) := by
  induction moves generalizing life with
  | nil => simp [Life.run]
  | cons move rest ih =>
    obtain ⟨started, timeout, cancelled⟩ := ih (life.act cluster registry codec move)
    by_cases asked : move = .cancel
    · subst asked
      refine ⟨started, timeout, cancelled.trans ?_⟩
      simp [act, RequestContext.cancel]
    · have same := @act_terms _ cluster registry codec life _ asked
      simp only [RequestContext.terms, RequestContext.Terms.mk.injEq] at same
      refine ⟨started.trans same.1, timeout.trans same.2.1, cancelled.trans ?_⟩
      rw [same.2.2, List.mem_cons]
      simp [Ne.symm asked]

/-! ### Precedence -/

/-- What a worker, or what holds a request until it gets one, may do with it. -/
def Polls (life : Life σ) : Move σ → Prop
  | .hold | .start => life.waits = true
  | .poll => life.submission.run ≠ none
  | _ => False

theorem poll_gives_up (still : cluster.Still) {submission : Submission} {run : Run}
    {cause : RequestError} (underWay : submission.run = some run)
    (unfinished : run.finished = false) (pending : submission.context.Pending) {around : σ}
    (given : submission.context.giveUp? (cluster.now around) = some cause) :
    (submission.poll cluster around).1.context.outcome.map (·.result) = some (.error cause) ∧
      (submission.poll cluster around).1.sent = submission.sent := by
  have polled : (Run.poll cluster { run with context := submission.context } around).1 = _ :=
    Run.poll_giveUp still (by exact unfinished) (by exact given)
  have own : Run.context { run with context := submission.context } = submission.context := rfl
  obtain ⟨trace, outcome⟩ := (Run.finish_ended cluster { run with context := submission.context }
    (.error cause) (cluster.alarm none submission.context.deadline around)
    (own ▸ pending)).resolved.outcome
  simp only [Submission.poll, underWay, Submission.adopt, polled, Submission.sent]
  exact ⟨by rw [outcome]; rfl, rfl⟩

theorem begin_prepared {submission : Submission} {build : Plan → Run}
    (prepared : Run.prepare registry codec submission.context submission.request
      submission.options = .ok build) (around : σ) :
    ∃ begun run, submission.begin cluster registry codec around =
        (begun, (cluster.plan submission.options.routingKey around).2) ∧
      begun.run = some run ∧ run.finished = false ∧ begun.sent = 0 ∧
      begun.context = submission.context ∧ begun.isOver = submission.isOver := by
  have unstarted := Run.prepare_unstarted prepared
    (cluster.plan submission.options.routingKey around).1
  obtain ⟨_, unfinished, _⟩ := Submission.prepare_ok prepared
    (cluster.plan submission.options.routingKey around).1
  let first := (build (cluster.plan submission.options.routingKey around).1).startExecution
    (cluster.now (cluster.plan submission.options.routingKey around).2)
  refine ⟨{ submission.count [.submitted] with run := some first }, first, ?_, rfl, unfinished,
    unstarted.attempts, rfl, rfl⟩
  simp only [Submission.begin, Submission.count, prepared, first]

theorem start_gives_up (still : cluster.Still) {submission : Submission} {cause : RequestError}
    {build : Plan → Run} (goesOn : submission.isOver = false)
    (pending : submission.context.Pending)
    (prepared : Run.prepare registry codec submission.context submission.request
      submission.options = .ok build) {around : σ}
    (given : submission.context.giveUp? (cluster.now around) = some cause) :
    (submission.start cluster registry codec around).1.context.outcome.map (·.result) =
        some (.error cause) ∧
      (submission.start cluster registry codec around).1.sent = 0 := by
  have begin : ∃ begun run, submission.begin cluster registry codec around = (begun, _) ∧ _ :=
    begin_prepared prepared around
  obtain ⟨begun, run, begins, underWay, unfinished, nothing, context, isOver⟩ := begin
  rw [← still.plan submission.options.routingKey around, ← context] at given
  simp only [Submission.start, begins, isOver, goesOn, Bool.false_eq_true, if_false]
  have ended := poll_gives_up still underWay unfinished (context ▸ pending) given
  rwa [nothing] at ended

theorem act_gives_up (still : cluster.Still) {life : Life σ} (sound : life.submission.Sound)
    (goesOn : life.submission.isOver = false) {build : Plan → Run}
    (prepared : Run.prepare registry codec life.submission.context life.submission.request
      life.submission.options = .ok build) {cause : RequestError}
    (given : life.submission.context.giveUp? (cluster.now life.around) = some cause)
    {move : Move σ} (polls : life.Polls move) :
    (life.act cluster registry codec move).submission.context.outcome.map (·.result) =
      some (.error cause) := by
  cases move with
  | hold =>
    have waits : life.waits = true := polls
    obtain ⟨_, pending, _⟩ := sound_waits sound waits
    simp only [act, waits, if_true, Submission.hold, RequestContext.giveUp, given,
      RequestContext.conclude]
    rw [pending.outcome_resolve]
    rfl
  | start =>
    have waits : life.waits = true := polls
    obtain ⟨_, pending, _⟩ := sound_waits sound waits
    simp only [act, waits, if_true]
    exact (start_gives_up still goesOn pending prepared given).1
  | poll =>
    simp only [act, goesOn]
    cases sound with
    | waiting idle => exact absurd idle polls
    | running underWay unfinished pending =>
      exact (poll_gives_up still underWay unfinished pending given).1
    | settled _ isOver => cases goesOn.symm.trans isOver
  | _ => exact polls.elim

theorem act_sends_nothing (still : cluster.Still) {life : Life σ} (sound : life.submission.Sound)
    (late : life.submission.context.deadline ≤ cluster.now life.around) {move : Move σ}
    (whole : move.isWhole = true) :
    (life.act cluster registry codec move).submission.sent = life.submission.sent := by
  obtain ⟨cause, given⟩ : ∃ cause,
      life.submission.context.giveUp? (cluster.now life.around) = some cause := by
    cases cancelled : life.submission.context.cancelled with
    | true => exact ⟨_, RequestContext.giveUp?_cancelled cancelled _⟩
    | false => exact ⟨_, RequestContext.giveUp?_expired cancelled late⟩
  rcases sound.pending_or_over with ⟨pending, goesOn, _⟩ | ⟨_, _, _, isOver, _⟩
  swap
  · exact (act_rests life move isOver).2
  cases move with
  | change => rfl
  | wake executions =>
    cases underWay : life.submission.run <;> simp [act, Submission.sent, underWay]
  | cancel => rfl
  | hold =>
    simp only [act, Submission.hold]
    split
    next => split <;> rfl
    next => rfl
  | start =>
    simp only [act]
    split
    next waits =>
      obtain ⟨idle, _⟩ := waits_iff.1 waits
      have nothing : life.submission.sent = 0 := by simp [Submission.sent, idle]
      rw [nothing]
      cases prepared : Run.prepare registry codec life.submission.context life.submission.request
          life.submission.options with
      | error cause =>
        simp [Submission.start, Submission.begin, Submission.count, prepared, Submission.sent, idle]
      | ok build => exact (start_gives_up still goesOn pending prepared given).2
    next => rfl
  | begin => cases whole
  | poll =>
    simp only [act, goesOn]
    cases sound with
    | waiting idle => simp [Submission.poll, idle]
    | running underWay unfinished pending =>
      exact (poll_gives_up still underWay unfinished pending given).2
    | settled _ isOver => cases goesOn.symm.trans isOver
  | turn => cases whole

/-- Nothing is sent at or after the deadline of a request. When a worker takes its next turn with
it, or gives it up while it waits for one, it ends as cancelled if it was cancelled before, and
otherwise in a timeout if its deadline has come, whatever else has happened by then. -/
theorem keeps_deadline (still : cluster.Still) {request : Request} {options : RequestOptions}
    {id started timeout : Nat} {around : σ} {moves : List (Move σ)}
    (whole : ∀ move ∈ moves, move.isWhole = true) {life : Life σ}
    (ran : life = (submitted request options id started timeout around).run cluster registry codec
      moves)
    {build : Plan → Run}
    (prepared : Run.prepare registry codec life.submission.context life.submission.request
      life.submission.options = .ok build) :
    (∀ run, life.submission.current? = some run → ∀ limit around,
      ∀ execution ∈ (run.steps cluster limit around).1.executions, ∀ node attempt sentAt handle,
        execution.stage = .awaiting node attempt sentAt handle → sentAt < started + timeout) ∧
      (started + timeout ≤ cluster.now life.around → ∀ move : Move σ, move.isWhole = true →
        (life.act cluster registry codec move).submission.sent = life.submission.sent) ∧
      (life.submission.isOver = false → ∀ move : Move σ, life.Polls move →
        (Move.cancel ∈ moves →
          (life.act cluster registry codec move).submission.context.outcome.map (·.result) =
            some (.error .cancelled)) ∧
        (Move.cancel ∉ moves → started + timeout ≤ cluster.now life.around →
          (life.act cluster registry codec move).submission.context.outcome.map (·.result) =
            some (.error (.overallTimeout (.ofMillis timeout))))) := by
  have sound : life.submission.Sound :=
    Reached.sound ⟨request, options, id, started, timeout, around, moves, ran⟩
  have timely : Timely life.submission := by
    rw [ran]
    refine run_timely still _ moves whole ?_
    intro run underWay
    cases underWay
  -- The terms are those of the submission, and the flag tells whether there was a cancellation.
  obtain ⟨began, lasts, asked⟩ := @run_terms _ cluster registry codec
    (submitted request options id started timeout around) moves
  rw [← ran] at began lasts asked
  have began : life.submission.context.started = started := began
  have lasts : life.submission.context.timeout = timeout := lasts
  have asked : life.submission.context.cancelled = true ↔ Move.cancel ∈ moves :=
    asked.trans (or_iff_right (by simp [submitted]))
  have deadline : life.submission.context.deadline = started + timeout := by
    rw [RequestContext.deadline, began, lasts]
  refine ⟨?_, ?_, ?_⟩
  · intro run underWay limit around execution running node attempt sentAt handle stage
    obtain ⟨own, same, rfl⟩ := Option.map_eq_some_iff.1 underWay
    have early := (timely own same).steps still limit around execution running node attempt sentAt
      handle stage
    rw [RequestContext.deadline_of_terms (Run.steps_terms limit around)] at early
    exact deadline ▸ early
  · exact fun late move own => act_sends_nothing still sound (deadline ▸ late) own
  · intro goesOn move polls
    refine ⟨fun cancelled => ?_, fun uncancelled late => ?_⟩
    · exact act_gives_up still sound goesOn prepared
        (RequestContext.giveUp?_cancelled (asked.2 cancelled) _) polls
    · have uncancelled : life.submission.context.cancelled = false :=
        Bool.eq_false_iff.2 fun cancelled => uncancelled (asked.1 cancelled)
      rw [← lasts]
      exact act_gives_up still sound goesOn prepared
        (RequestContext.giveUp?_expired uncancelled (deadline ▸ late)) polls

theorem scripted_still (nodes : List Node) : (scripted nodes).Still where
  plan _ _ := rfl
  pool _ _ := rfl
  send _ _ _ _ _ := rfl
  reply _ _ around := by
    simp only [scripted]
    split <;> rfl
  abandon _ _ := rfl
  count _ _ := rfl
  alarm _ _ _ := rfl
  dismiss _ _ := rfl

def belated (between : List (Move Script)) : List (Move Script) :=
  .start :: between ++ [.change { now := 100, sent := 1, replies := [.ok ⟨protocolVersion
    ||| responseFlag, 0, 0, .result, ByteArray.empty⟩] }]

def late (between : List (Move Script)) : Life Script :=
  (submitted (.query ByteArray.empty) {} 1 0 100 { replies := [] }).run (scripted [nodeAt 1])
    .initial .passThrough (belated between)

theorem late_keeps_deadline :
    (∀ move ∈ belated [.cancel], move.isWhole = true) ∧ (late [.cancel]).submission.isOver = false ∧
      (late [.cancel]).Polls .poll ∧
      ((late [.cancel]).act (scripted [nodeAt 1]) .initial .passThrough
          .poll).submission.context.outcome.map (·.result) = some (.error .cancelled) ∧
      (∀ move ∈ belated [], move.isWhole = true) ∧ (late []).submission.isOver = false ∧
      (late []).Polls .poll ∧ 0 + 100 ≤ (scripted [nodeAt 1]).now (late []).around ∧
      ((late []).act (scripted [nodeAt 1]) .initial .passThrough
          .poll).submission.context.outcome.map (·.result) =
        some (.error (.overallTimeout (.ofMillis 100))) := by
  have whole (between : List (Move Script)) (own : ∀ move ∈ between, move.isWhole = true) :
      ∀ move ∈ belated between, move.isWhole = true := by
    simpa [belated, Move.isWhole, or_imp, forall_and] using own
  have prepares (life : Life Script) (request : life.submission.request = .query ByteArray.empty)
      (options : life.submission.options = {}) :
      ∃ build, Run.prepare .initial .passThrough life.submission.context life.submission.request
        life.submission.options = .ok build := by
    rw [request, options]
    exact ⟨_, rfl⟩
  have polls (between : List (Move Script)) (runs : (late between).submission.run.isSome = true) :
      (late between).Polls .poll := Option.isSome_iff_ne_none.1 runs
  obtain ⟨_, cancelled⟩ := prepares (late [.cancel]) rfl rfl
  obtain ⟨_, uncancelled⟩ := prepares (late []) rfl rfl
  obtain ⟨_, _, ends⟩ := keeps_deadline (scripted_still _) (whole [.cancel] (by simp [Move.isWhole]))
    rfl cancelled
  obtain ⟨_, _, expires⟩ := keeps_deadline (scripted_still _) (whole [] (by simp)) rfl uncancelled
  refine ⟨whole _ (by simp [Move.isWhole]), rfl, polls _ (by decide), ?_, whole _ (by simp), rfl,
    polls _ (by decide), by decide, ?_⟩
  · exact (ends rfl .poll (polls _ (by decide))).1 (by simp [belated])
  · exact (expires rfl .poll (polls _ (by decide))).2 (by simp [belated]) (by decide)

end Life

/-! ### Simulated surroundings -/

namespace Simulation.World

theorem now_wake (world : World) (waker : Waker) : (world.wake waker).now = world.now := by
  have kept (agenda : Agenda Process Waker) : (agenda.wake waker.process).now = agenda.now := by
    unfold Agenda.wake
    split <;> rfl
  unfold wake now
  split
  next => exact kept world.agenda
  next => exact kept world.agenda

theorem now_wakeProcess (world : World) (process : Process) :
    (world.wakeProcess process).now = world.now :=
  now_wake world _

theorem now_command (world : World) (id : ChannelId) (change : Channel → Channel) :
    (world.command id change).now = world.now :=
  now_wakeProcess _ _

theorem now_release (world : World) (id : ChannelId) : (world.release id).now = world.now := by
  unfold release
  split
  next => exact now_wakeProcess world _
  next => rfl

theorem now_send {world after : World} {id : ChannelId} {opcode : Opcode} {body : ByteArray}
    {handle : Handle} (sent : world.send id opcode body = .ok (after, handle)) :
    after.now = world.now := by
  unfold send at sent
  split at sent
  next => cases sent
  next =>
    split at sent
    next => cases sent
    next channel _ =>
      cases sent
      exact now_command world id fun _ => channel

theorem now_await (world : World) (signal : Signal) (waker : Waker) :
    (world.await signal waker).now = world.now := by
  unfold await
  split <;> rfl

theorem cluster_still (task : TaskId) : (cluster task).Still where
  plan key world := by
    simp only [cluster, makePlan, makePlan?]
    split <;> rfl
  pool node world := by
    simp only [cluster, poolOf]
    split
    next => rfl
    next =>
      split
      next => rfl
      next =>
        split
        next => rfl
        next => exact now_wakeProcess _ _
  send execution pool opcode body world := by
    simp only [cluster, sendVia]
    split
    next => rfl
    next =>
      split
      next => exact now_await _ _ _
      next => rfl
      next =>
        split
        next => rfl
        next sent => exact now_send sent
  reply execution handle world := by
    simp only [cluster, takeReply]
    split
    next => rfl
    next =>
      split
      next => exact now_release _ _
      next => rfl
  abandon handle world := by
    simp only [cluster, abandon]
    split
    next => exact now_command _ _ _
    next => rfl
  count profile world := by
    simp only [cluster, countRetryCall]
    split <;> rfl
  alarm execution due world := by
    simp only [cluster, setAlarm, now, Agenda.setAlarm]
    split <;> rfl
  dismiss execution world := rfl

end Simulation.World

end ClusterDriver
