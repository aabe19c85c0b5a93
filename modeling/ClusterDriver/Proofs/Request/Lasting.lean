import ClusterDriver.Proofs.Request.Turns

set_option autoImplicit false

namespace ClusterDriver

namespace RequestContext

structure Fresh (context : RequestContext) : Prop where
  pending : context.Pending
  attempts : context.attempts = []

inductive Untimely : RequestError → Prop where
  | cancelled : Untimely .cancelled
  | overallTimeout (limit : Duration) : Untimely (.overallTimeout limit)
  | invalid (detail : String) : Untimely (.invalidRequest detail)

structure Untried (context : RequestContext) : Prop where
  attempts : context.attempts = []
  outcome : ∀ outcome, context.outcome = some outcome →
    ∃ cause, outcome.result = .error cause ∧ Untimely cause ∧ outcome.trace.attempts = []

theorem Pending.outcome_resolve {context : RequestContext} (pending : context.Pending) (now : Nat)
    (result : Except RequestError Success) :
    (context.resolve now result).outcome = some ⟨result, context.trace now⟩ := by
  have unresolved : context.isResolved = false := by simp [isResolved, pending.unresolved]
  simp [resolve, resolve?, unresolved]

theorem Fresh.untried {context : RequestContext} (fresh : context.Fresh) : context.Untried where
  attempts := fresh.attempts
  outcome outcome ended := by cases fresh.pending.unresolved.symm.trans ended

theorem Fresh.ended {context : RequestContext} (fresh : context.Fresh) (now : Nat)
    {cause : RequestError} (untimely : Untimely cause) :
    (context.resolve now (.error cause)).Untried where
  attempts := (attempts_resolve _ _ _).trans fresh.attempts
  outcome outcome ended := by
    rw [fresh.pending.outcome_resolve] at ended
    cases ended
    exact ⟨cause, rfl, untimely, fresh.attempts⟩

theorem giveUp?_untimely {context : RequestContext} {now : Nat} {cause : RequestError}
    (given : context.giveUp? now = some cause) : Untimely cause := by
  unfold giveUp? at given
  split at given
  next =>
    cases given
    exact .cancelled
  next =>
    split at given
    next =>
      cases given
      exact .overallTimeout _
    next => cases given

end RequestContext

namespace Run

variable {σ : Type}

/-- A property of a run that every turn keeps. Neither the order in which executions are woken nor a
cancellation makes a difference to it. -/
structure Kept (cluster : Cluster σ) (property : Run → Prop) : Prop where
  woken : ∀ {run} woken, property run → property { run with woken }
  cancelled : ∀ {run}, property run → property { run with context := run.context.cancel }
  turned : ∀ {run around after later}, run.context.Pending → run.finished = false →
    property run → Turned cluster run around after later → property after

structure Lasting (cluster : Cluster σ) (registry : ProfileRegistry) (codec : Codec)
    (request : Request) (options : RequestOptions) (property : Run → Prop) : Prop
    extends Kept cluster property where
  started : ∀ {context build} around now, context.Fresh →
    prepare registry codec context request options = .ok build →
      property ((build (cluster.plan options.routingKey around).1).startExecution now)

theorem prepare_untimely {registry : ProfileRegistry} {codec : Codec} {context : RequestContext}
    {request : Request} {options : RequestOptions} {cause : RequestError}
    (unprepared : prepare registry codec context request options = .error cause) :
    RequestContext.Untimely cause := by
  unfold prepare at unprepared
  split at unprepared
  next =>
    cases unprepared
    exact .invalid _
  next =>
    split at unprepared
    next =>
      cases unprepared
      exact .invalid _
    next => cases unprepared

theorem with_own_context {run : Run} {context : RequestContext} (own : run.context = context) :
    { run with context } = run := by
  subst own
  rfl

structure Prepared (registry : ProfileRegistry) (codec : Codec) (request : Request)
    (options : RequestOptions) (run : Run) : Prop where
  profile : registry.find? (options.profile.getD defaultProfileName) = some run.profile
  codec : run.codec = codec
  returnsRows : run.returnsRows = request.returnsRows
  idempotent : run.idempotent = options.idempotent.getD run.profile.idempotent

theorem prepare_prepared {registry : ProfileRegistry} {codec : Codec} {context : RequestContext}
    {request : Request} {options : RequestOptions} {build : Plan → Run}
    (prepared : prepare registry codec context request options = .ok build) (plan : Plan) :
    (build plan).Prepared registry codec request options := by
  unfold prepare at prepared
  split at prepared
  next => cases prepared
  next profile found =>
    split at prepared
    next => cases prepared
    next =>
      cases prepared
      exact ⟨found, rfl, rfl, rfl⟩

structure Unstarted (plan : Plan) (run : Run) : Prop where
  plan : run.plan = plan
  executions : run.executions = []
  attempts : run.attempts = 0
  nodeErrors : run.nodeErrors = []

theorem prepare_unstarted {registry : ProfileRegistry} {codec : Codec} {context : RequestContext}
    {request : Request} {options : RequestOptions} {build : Plan → Run}
    (prepared : prepare registry codec context request options = .ok build) (plan : Plan) :
    (build plan).Unstarted plan := by
  unfold prepare at prepared
  split at prepared
  next => cases prepared
  next =>
    split at prepared
    next => cases prepared
    next =>
      cases prepared
      exact ⟨rfl, rfl, rfl, rfl⟩

theorem Prepared.advanced {cluster : Cluster σ} {registry : ProfileRegistry} {codec : Codec}
    {request : Request} {options : RequestOptions} {run after : Run} {execution : Execution}
    {around later : σ} {progress : Progress}
    (prepared : run.Prepared registry codec request options)
    (advanced : Advanced cluster run execution around progress after later) :
    after.Prepared registry codec request options := by
  cases advanced <;> exact { prepared with }

theorem prepared_lasting (cluster : Cluster σ) (registry : ProfileRegistry) (codec : Codec)
    (request : Request) (options : RequestOptions) :
    Lasting cluster registry codec request options (Prepared registry codec request options) where
  started _ _ _ prepared := { prepare_prepared prepared _ with }
  woken _ prepared := { prepared with }
  cancelled prepared := { prepared with }
  turned := by
    intro run around after later _ _ prepared turned
    cases turned with
    | advanced _ advanced => exact { prepared.advanced advanced with }
    | ended _ advanced => exact { prepared.advanced advanced with }
    | _ => exact { prepared with }

theorem turn?_turned {cluster : Cluster σ} {run after : Run} {around later : σ}
    (turned : run.turn? cluster around = some (after, later)) :
    run.finished = false ∧ Turned cluster run around after later := by
  obtain ⟨turn, taken⟩ := turn?_take? turned
  refine ⟨?_, take?_turned taken⟩
  cases finished : run.finished with
  | false => rfl
  | true => simp [turn?, finished] at turned

theorem Kept.steps {cluster : Cluster σ} {property : Run → Prop} (kept : Kept cluster property)
    (limit : Nat) {run : Run} (around : σ) (pending : run.context.Pending) (holds : property run) :
    property (run.steps cluster limit around).1 := by
  induction limit generalizing run around with
  | zero => exact holds
  | succ limit ih =>
    simp only [Run.steps]
    split
    next => exact holds
    next after later turn =>
      obtain ⟨unfinished, turned⟩ := turn?_turned turn
      have still := kept.turned pending unfinished holds turned
      obtain ⟨_, taken⟩ := turn?_take? turn
      rcases take?_progresses taken pending with onward | ⟨_, ended⟩
      · exact ih later (onward.pending pending) still
      · rwa [steps_finished cluster limit later ended.finished]

end Run

/-- The run of a request as its next turn will find it, with what has become of the context in the
meantime. -/
def Submission.current? (submission : Submission) : Option Run :=
  submission.run.map fun run => { run with context := submission.context }

namespace Life

variable {σ : Type} {cluster : Cluster σ} {registry : ProfileRegistry} {codec : Codec}
  {request : Request} {options : RequestOptions} {property : Run → Prop}

def Runs (property : Run → Prop) (submission : Submission) : Prop :=
  ∃ run, submission.run = some run ∧ property { run with context := submission.context }

theorem Runs.polled (kept : Run.Kept cluster property) {submission : Submission}
    (runs : Runs property submission) (pending : submission.context.Pending) (around : σ) :
    Runs property (submission.poll cluster around).1 := by
  obtain ⟨run, underWay, holds⟩ := runs
  refine ⟨(Run.poll cluster { run with context := submission.context } around).1, ?_, ?_⟩
  · simp [Submission.poll, Submission.adopt, underWay]
  · simp only [Submission.poll, Submission.adopt, underWay, Run.poll_run]
    exact kept.steps _ _ pending holds

theorem act_runs (kept : Run.Kept cluster property) (life : Life σ) (move : Move σ)
    (sound : life.submission.Sound) (runs : Runs property life.submission) :
    Runs property (life.act cluster registry codec move).submission := by
  obtain ⟨run, underWay, holds⟩ := id runs
  have notWaiting : life.waits = false := by simp [waits, underWay]
  cases move with
  | change => exact runs
  | wake executions =>
    exact ⟨{ run with woken := executions }, by simp [act, underWay], kept.woken executions holds⟩
  | cancel => exact ⟨run, underWay, kept.cancelled holds⟩
  | hold => simpa [act, notWaiting] using runs
  | start => simpa [act, notWaiting] using runs
  | begin => simpa [act, notWaiting] using runs
  | poll =>
    simp only [act]
    split
    next => exact runs
    next further =>
      rcases sound.pending_or_over with ⟨pending, _⟩ | ⟨_, _, _, isOver, _⟩
      · exact runs.polled kept pending _
      · exact absurd isOver further
  | turn turn =>
    simp only [act]
    split
    next => exact runs
    next further =>
      cases sound with
      | waiting idle => cases idle.symm.trans underWay
      | @running same own unfinished pending =>
        obtain rfl := Option.some.inj (underWay.symm.trans own)
        simp only [takeTurn, underWay]
        split
        next => exact runs
        next after later taken =>
          have turned := Run.take?_turned taken
          exact ⟨after, rfl, kept.turned (by exact pending) (by exact unfinished) holds turned⟩
      | settled _ isOver => exact absurd isOver further

theorem begin_cases {submission : Submission} (fresh : submission.context.Fresh)
    (idle : submission.run = none) (around : σ) :
    ((submission.begin cluster registry codec around).1.run = none ∧
        (submission.begin cluster registry codec around).1.isOver = true ∧
        (submission.begin cluster registry codec around).1.context.Untried) ∨
      ∃ build later,
        Run.prepare registry codec submission.context submission.request submission.options =
          .ok build ∧
        ∀ property : Run → Prop,
          property ((build (cluster.plan submission.options.routingKey around).1).startExecution
            later) → Runs property (submission.begin cluster registry codec around).1 := by
  simp only [Submission.begin]
  split
  next cause unprepared =>
    exact .inl ⟨idle, rfl, fresh.ended _ (Run.prepare_untimely unprepared)⟩
  next build prepared =>
    obtain ⟨context, _, _⟩ := Submission.prepare_ok prepared
      (cluster.plan submission.options.routingKey around).1
    refine .inr ⟨build, cluster.now (cluster.plan submission.options.routingKey around).2,
      prepared, fun property holds => ⟨_, rfl, ?_⟩⟩
    have own : (Run.startExecution (build (cluster.plan submission.options.routingKey around).1)
        (cluster.now (cluster.plan submission.options.routingKey around).2)).context =
          submission.context := context
    exact (congrArg property (Run.with_own_context own)).mpr holds

/-- A request is not tried before it runs, and has the property from then on. -/
def Keeps (property : Run → Prop) (submission : Submission) : Prop :=
  (submission.run = none ∧ submission.context.Untried) ∨ Runs property submission

theorem Keeps.idle {submission : Submission} (keeps : Keeps property submission)
    (idle : submission.run = none) : submission.context.Untried := by
  rcases keeps with ⟨_, untried⟩ | ⟨run, underWay, _⟩
  · exact untried
  · cases idle.symm.trans underWay

theorem Keeps.runs {submission : Submission} (keeps : Keeps property submission) {run : Run}
    (underWay : submission.run = some run) :
    property { run with context := submission.context } := by
  rcases keeps with ⟨idle, _⟩ | ⟨other, same, holds⟩
  · cases idle.symm.trans underWay
  · obtain rfl := Option.some.inj (same.symm.trans underWay)
    exact holds

theorem Keeps.begun {submission : Submission}
    (lasting : Run.Lasting cluster registry codec submission.request submission.options property)
    (untried : submission.context.Untried) (pending : submission.context.Pending)
    (idle : submission.run = none) (around : σ) :
    Keeps property (submission.begin cluster registry codec around).1 := by
  have fresh : submission.context.Fresh := ⟨pending, untried.attempts⟩
  rcases begin_cases fresh idle around with ⟨idle, _, untried⟩ | ⟨build, later, prepared, runs⟩
  · exact .inl ⟨idle, untried⟩
  · exact .inr (runs property (lasting.started around later fresh prepared))

theorem Keeps.polled (kept : Run.Kept cluster property) {submission : Submission}
    (keeps : Keeps property submission) (pending : submission.context.Pending) (around : σ) :
    Keeps property (submission.poll cluster around).1 := by
  rcases keeps with ⟨idle, untried⟩ | runs
  · refine .inl ?_
    simpa [Submission.poll, idle] using untried
  · exact .inr (runs.polled kept pending around)

theorem act_idle (life : Life σ) (move : Move σ)
    (lasting : Run.Lasting cluster registry codec life.submission.request life.submission.options
      property)
    (sound : life.submission.Sound) (idle : life.submission.run = none)
    (untried : life.submission.context.Untried) :
    Keeps property (life.act cluster registry codec move).submission := by
  have keeps : Keeps property life.submission := .inl ⟨idle, untried⟩
  cases move with
  | change => exact keeps
  | wake => exact .inl ⟨by simp [act, idle], untried⟩
  | cancel => exact .inl ⟨idle, { untried with }⟩
  | hold =>
    simp only [act]
    split
    next waits =>
      obtain ⟨_, pending, _, _⟩ := sound_waits sound waits
      have fresh : life.submission.context.Fresh := ⟨pending, untried.attempts⟩
      unfold Submission.hold RequestContext.giveUp
      cases given : life.submission.context.giveUp? (cluster.now life.around) with
      | none => exact keeps
      | some cause => exact .inl ⟨idle, fresh.ended _ (RequestContext.giveUp?_untimely given)⟩
    next => exact keeps
  | start =>
    simp only [act]
    split
    next waits =>
      obtain ⟨_, pending, goesOn, nothing⟩ := sound_waits sound waits
      have begun := Keeps.begun lasting untried pending idle life.around
      have sound :=
        Submission.begin_sound cluster registry codec pending goesOn nothing life.around
      simp only [Submission.start]
      split
      next => exact begun
      next further =>
        rcases sound.pending_or_over with ⟨pending, _⟩ | ⟨_, _, _, isOver, _⟩
        · exact begun.polled lasting.toKept pending _
        · exact absurd isOver further
    next => exact keeps
  | begin =>
    simp only [act]
    split
    next waits =>
      obtain ⟨_, pending, _, _⟩ := sound_waits sound waits
      exact Keeps.begun lasting untried pending idle life.around
    next => exact keeps
  | poll =>
    simp only [act, Submission.poll, idle]
    split <;> exact keeps
  | turn =>
    simp only [act, takeTurn, idle]
    split <;> exact keeps

theorem act_keeps (life : Life σ) (move : Move σ)
    (lasting : Run.Lasting cluster registry codec life.submission.request life.submission.options
      property)
    (sound : life.submission.Sound) (keeps : Keeps property life.submission) :
    Keeps property (life.act cluster registry codec move).submission := by
  rcases keeps with ⟨idle, untried⟩ | runs
  · exact act_idle life move lasting sound idle untried
  · exact .inr (act_runs lasting.toKept life move sound runs)

theorem act_asked (life : Life σ) (move : Move σ) :
    (life.act cluster registry codec move).submission.request = life.submission.request ∧
      (life.act cluster registry codec move).submission.options = life.submission.options := by
  have polled (submission : Submission) (around : σ) :
      (submission.poll cluster around).1.request = submission.request ∧
        (submission.poll cluster around).1.options = submission.options := by
    unfold Submission.poll
    split <;> exact ⟨rfl, rfl⟩
  have begun (submission : Submission) (around : σ) :
      (submission.begin cluster registry codec around).1.request = submission.request ∧
        (submission.begin cluster registry codec around).1.options = submission.options := by
    simp only [Submission.begin]
    split <;> exact ⟨rfl, rfl⟩
  cases move with
  | change => exact ⟨rfl, rfl⟩
  | wake => exact ⟨rfl, rfl⟩
  | cancel => exact ⟨rfl, rfl⟩
  | hold =>
    simp only [act, Submission.hold]
    split
    next => split <;> exact ⟨rfl, rfl⟩
    next => exact ⟨rfl, rfl⟩
  | start =>
    simp only [act, Submission.start]
    split
    next =>
      split
      next => exact begun _ _
      next =>
        exact ⟨(polled _ _).1.trans (begun _ _).1, (polled _ _).2.trans (begun _ _).2⟩
    next => exact ⟨rfl, rfl⟩
  | begin =>
    simp only [act]
    split
    next => exact begun _ _
    next => exact ⟨rfl, rfl⟩
  | poll =>
    simp only [act]
    split
    next => exact ⟨rfl, rfl⟩
    next => exact polled _ _
  | turn =>
    simp only [act, takeTurn]
    split
    next => exact ⟨rfl, rfl⟩
    next =>
      split
      next => exact ⟨rfl, rfl⟩
      next => split <;> exact ⟨rfl, rfl⟩

theorem run_keeps (life : Life σ) (moves : List (Move σ))
    (lasting : Run.Lasting cluster registry codec life.submission.request life.submission.options
      property)
    (sound : life.submission.Sound) (keeps : Keeps property life.submission) :
    Keeps property (life.run cluster registry codec moves).submission := by
  induction moves generalizing life with
  | nil => exact keeps
  | cons move rest ih =>
    refine ih _ ?_ (act_sound life move sound) (act_keeps life move lasting sound keeps)
    rwa [(act_asked life move).1, (act_asked life move).2]

theorem run_asked (life : Life σ) (moves : List (Move σ)) :
    (life.run cluster registry codec moves).submission.request = life.submission.request ∧
      (life.run cluster registry codec moves).submission.options = life.submission.options := by
  induction moves generalizing life with
  | nil => exact ⟨rfl, rfl⟩
  | cons move rest ih =>
    exact ⟨(ih _).1.trans (act_asked life move).1, (ih _).2.trans (act_asked life move).2⟩

theorem Reached.lasts {life : Life σ} (reached : life.Reached cluster registry codec)
    (lasting : Run.Lasting cluster registry codec life.submission.request life.submission.options
      property) : Keeps property life.submission := by
  obtain ⟨request, options, id, started, timeout, around, moves, rfl⟩ := reached
  rw [(run_asked _ moves).1, (run_asked _ moves).2] at lasting
  refine run_keeps _ moves lasting (submitted_sound request options id started timeout around) ?_
  exact .inl ⟨rfl, RequestContext.Fresh.untried ⟨⟨rfl, rfl⟩, rfl⟩⟩

theorem Reached.act {life : Life σ} (reached : life.Reached cluster registry codec)
    (move : Move σ) : (life.act cluster registry codec move).Reached cluster registry codec := by
  obtain ⟨request, options, id, started, timeout, around, moves, rfl⟩ := reached
  refine ⟨request, options, id, started, timeout, around, moves ++ [move], ?_⟩
  rw [Life.run, Life.run, List.foldl_append]
  rfl

theorem Reached.fresh {life : Life σ} (reached : life.Reached cluster registry codec)
    (waits : life.waits = true) : life.submission.context.Fresh := by
  obtain ⟨idle, pending, _, _⟩ := sound_waits reached.sound waits
  have anything : Run.Lasting cluster registry codec life.submission.request
      life.submission.options fun _ => True :=
    { woken := fun _ _ => trivial, cancelled := fun _ => trivial,
      turned := fun _ _ _ _ => trivial, started := fun _ _ _ _ => trivial }
  exact ⟨pending, ((reached.lasts anything).idle idle).attempts⟩

inductive Given (cluster : Cluster σ) (registry : ProfileRegistry) (codec : Codec) (plan : Plan) :
    Life σ → Prop where
  | begun {life : Life σ} (reached : life.Reached cluster registry codec)
      (waits : life.waits = true)
      (made : (cluster.plan life.submission.options.routingKey life.around).1 = plan) :
      Given cluster registry codec plan (life.act cluster registry codec .begin)
  | started {life : Life σ} (reached : life.Reached cluster registry codec)
      (waits : life.waits = true)
      (made : (cluster.plan life.submission.options.routingKey life.around).1 = plan) :
      Given cluster registry codec plan (life.act cluster registry codec .start)
  | later {life : Life σ} (given : Given cluster registry codec plan life) (move : Move σ) :
      Given cluster registry codec plan (life.act cluster registry codec move)

theorem Given.reached {plan : Plan} {life : Life σ} (given : life.Given cluster registry codec plan) :
    life.Reached cluster registry codec := by
  induction given with
  | begun reached => exact reached.act .begin
  | started reached => exact reached.act .start
  | later _ move ih => exact ih.act move

theorem act_given {life : Life σ} (move : Move σ) (reached : life.Reached cluster registry codec)
    (idle : life.submission.run = none) :
    (life.act cluster registry codec move).submission.run = none ∨
      ∃ plan, (life.act cluster registry codec move).Given cluster registry codec plan := by
  cases waits : life.waits with
  | true =>
    cases move with
    | begin => exact .inr ⟨_, .begun reached waits rfl⟩
    | start => exact .inr ⟨_, .started reached waits rfl⟩
    | hold =>
      refine .inl ?_
      simp only [act, waits, if_true, Submission.hold]
      split <;> exact idle
    | poll => exact .inl (by simp [act, (waits_iff.1 waits).2, Submission.poll, idle])
    | turn => exact .inl (by simp [act, (waits_iff.1 waits).2, takeTurn, idle])
    | wake => exact .inl (by simp [act, idle])
    | _ => exact .inl idle
  | false =>
    have isOver : life.submission.isOver = true := by simpa [Life.waits, idle] using waits
    exact .inl (by cases move <;> simp [act, waits, isOver, idle])

theorem run_given (life : Life σ) (moves : List (Move σ))
    (reached : life.Reached cluster registry codec)
    (begins : life.submission.run = none ∨ ∃ plan, life.Given cluster registry codec plan) :
    (life.run cluster registry codec moves).submission.run = none ∨
      ∃ plan, (life.run cluster registry codec moves).Given cluster registry codec plan := by
  induction moves generalizing life with
  | nil => exact begins
  | cons move rest ih =>
    refine ih _ (reached.act move) ?_
    rcases begins with idle | ⟨plan, given⟩
    · exact act_given move reached idle
    · exact .inr ⟨plan, given.later move⟩

theorem Reached.given {life : Life σ} (reached : life.Reached cluster registry codec) :
    life.submission.run = none ∨ ∃ plan, life.Given cluster registry codec plan := by
  obtain ⟨request, options, id, started, timeout, around, moves, rfl⟩ := reached
  exact run_given _ moves ⟨request, options, id, started, timeout, around, [], rfl⟩ (.inl rfl)

theorem begun_runs {life : Life σ} (reached : life.Reached cluster registry codec)
    (waits : life.waits = true)
    (first : ∀ {context request options build} now, context.Fresh →
      Run.prepare registry codec context request options = .ok build →
        property ((build (cluster.plan life.submission.options.routingKey life.around).1
          ).startExecution now)) :
    ((life.submission.begin cluster registry codec life.around).1.run = none ∧
        (life.submission.begin cluster registry codec life.around).1.isOver = true) ∨
      Runs property (life.submission.begin cluster registry codec life.around).1 := by
  obtain ⟨idle, _⟩ := waits_iff.1 waits
  rcases begin_cases (reached.fresh waits) idle life.around with
    ⟨idle, isOver, _⟩ | ⟨build, now, prepared, runs⟩
  · exact .inl ⟨idle, isOver⟩
  · exact .inr (runs property (first now (reached.fresh waits) prepared))

theorem Given.runs {plan : Plan} {life : Life σ} (given : life.Given cluster registry codec plan)
    (kept : Run.Kept cluster property)
    (first : ∀ {context request options build} now, context.Fresh →
      Run.prepare registry codec context request options = .ok build →
        property ((build plan).startExecution now)) :
    (life.submission.run = none ∧ life.submission.isOver = true) ∨
      Runs property life.submission := by
  induction given with
  | @begun life reached waits made =>
    simp only [act, waits, if_true]
    subst made
    exact begun_runs reached waits first
  | @started life reached waits made =>
    obtain ⟨_, pending, goesOn, nothing⟩ := sound_waits reached.sound waits
    simp only [act, waits, if_true, Submission.start]
    subst made
    have begun := begun_runs reached waits first
    split
    next => exact begun
    next further =>
      -- A request that could not be prepared is over and takes no turn.
      rcases begun with ⟨_, isOver⟩ | runs
      · exact absurd isOver further
      · rcases (Submission.begin_sound cluster registry codec pending goesOn nothing
          life.around).pending_or_over with ⟨pending, _⟩ | ⟨_, _, _, isOver, _⟩
        · exact .inr (runs.polled kept pending _)
        · exact absurd isOver further
  | @later life given move ih =>
    rcases ih with ⟨idle, isOver⟩ | runs
    · have notWaiting : life.waits = false := by simp [waits, isOver]
      exact .inl (by cases move <;> simp [act, notWaiting, isOver, idle])
    · exact .inr (act_runs kept life move given.reached.sound runs)

end Life

end ClusterDriver
