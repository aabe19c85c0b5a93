import ClusterDriver.Proofs.Session.Shifts
import ClusterDriver.Proofs.Session.Shutdown

set_option autoImplicit false

namespace ClusterDriver.Simulation

namespace Affairs

def keep (affairs : Affairs) (id : TaskId) (task : RequestTask) (submission : Submission) :
    Affairs :=
  { affairs with
    metrics := affairs.metrics.recordAll submission.events
    contexts := affairs.contexts.modify (task.context - 1) fun _ => submission.context
    tasks := affairs.tasks.modify id fun task => { task with
      run := submission.run.map fun run => { run with woken := [] }
      isOver := task.isOver || submission.isOver
      aborted := task.aborted || submission.isDropped }
    scheduler :=
      if submission.isOver then
        task.job.elim affairs.scheduler fun job => (affairs.scheduler.remove job).1
      else affairs.scheduler }

end Affairs

namespace World

def isBlank (world : World) : Bool :=
  world.pools.isEmpty && world.tracker.nodes.isEmpty && world.contexts.isEmpty &&
    world.closing.isNone

theorem blank_of_isBlank {world : World} (blank : world.isBlank = true) :
    world.affairs.Blank := by
  simp only [isBlank, Bool.and_eq_true, List.isEmpty_iff, Option.isNone_iff_eq_none] at blank
  obtain ⟨⟨⟨pools, nodes⟩, contexts⟩, closing⟩ := blank
  exact ⟨by simp [affairs, pools], nodes, contexts, closing⟩

/-- What cannot happen to a session: that it is opened when there is something already, that a
request is given up by somebody else, or that a job is called back that is none. -/
def forbids (world : World) : Happening → Bool
  | .turn (.errand id) =>
      match world.errands[id]? with
      | some (.openSession _ none) => !world.isBlank
      | some (.giveUp _) => true
      | _ => false
  | .turn (.callback job) => world.jobs[job]? ≠ some (.callback job)
  | _ => false

theorem shifts_turnErrand {world : World} {id : ErrandId}
    (allowed : world.forbids (.turn (.errand id)) = false) :
    world.Shifts (some id) (world.turnErrand id) := by
  unfold turnErrand
  split
  next => exact .refl world
  next => exact .refl world
  next => exact shifts_pursueConnect world id _ _ _ _
  next address limits authenticator _ =>
    have begun : world.Shifts (some id)
        (world.startConnecting (.errand id) address limits authenticator).2 :=
      .same (affairs_startConnecting world _ _ _ _)
    split
    next given =>
      rw [given] at begun
      exact shifts_finishErrand begun _
    next given =>
      rw [given] at begun
      exact shifts_setErrand begun _
  next => exact shifts_pursueReply world id _ _ _
  next => exact shifts_pursueAcquire world id _
  next pool _ =>
    have waits : world.Shifts (some id) (world.awaitReady [pool] { process := .errand id }).1 :=
      .same (affairs_awaitReady world _ _)
    split
    next given =>
      rw [given] at waits
      exact shifts_finishErrand waits _
    next given =>
      rw [given] at waits
      exact waits
  next pool closing _ =>
    have finishes (later : World) : later.Shifts (some id) (later.finishErrand id .done) :=
      shifts_finishErrand (.refl later) _
    cases closing with
    | some channels => exact shifts_pursueClosed finishes world channels _
    | none =>
      exact (Shifts.rewires (rewires_closePool world pool)).trans
        (shifts_pursueClosed finishes _ _ _)
  next => exact shifts_pursueRemoval world id _ _ _
  next =>
    split
    next => exact shifts_finishErrand (.refl world) _
    next removed =>
      exact (Shifts.rewires (rewires_removeNode? removed).1).trans (shifts_pursueRemoval _ id _ _ _)
  next timeout progress _ =>
    have finishes (later : World) (up : Nat) :
        later.Shifts (some id) (later.finishErrand id (.count up)) :=
      shifts_finishErrand (.refl later) _
    cases progress with
    | some progress => exact shifts_pursueConnectAll finishes world progress _
    | none =>
      exact (Shifts.rewires (rewires_startConnectingAll world timeout)).trans
        (shifts_pursueConnectAll finishes _ _ _)
  next => exact shifts_pursueOpening world id _ _
  next config opening =>
    split
    next => exact shifts_finishErrand (.refl world) _
    next =>
      have blank : world.isBlank = true := by simpa [forbids, opening] using allowed
      have configured : world.Shifts (some id) (world.withConfig config) :=
        .move (.opens config (blank_of_isBlank blank)) rfl
      have opened := rewires_startConnectingAll (world.withConfig config)
        (config.pool.connectTimeout + connectGrace)
      exact (configured.trans (.rewires opened)).trans (shifts_pursueOpening _ id config _)
  next => exact shifts_pursueClosing world id _ _
  next context given => simp [forbids, given] at allowed

theorem affairs_keep (world : World) (id : TaskId) (task : RequestTask) (submission : Submission) :
    (world.keep id task submission).affairs = world.affairs.keep id task submission := by
  let setRun (task : RequestTask) : RequestTask :=
    { task with run := submission.run, aborted := task.aborted || submission.isDropped }
  let plainRun (task : RequestTask) : RequestTask := { task with
    run := submission.run.map fun run => { run with woken := [] }
    aborted := task.aborted || submission.isDropped }
  let finish (task : RequestTask) := { task with isOver := true }
  have kept : (((world.updateContext task.context fun _ => submission.context).record
      submission.events).updateTask id setRun).affairs = { world.affairs with
        metrics := world.metrics.recordAll submission.events
        contexts := world.contexts.modify (task.context - 1) fun _ => submission.context
        tasks := world.affairs.tasks.modify id plainRun } :=
    (@affairs_updateTask setRun plainRun fun _ => rfl) _ id
  have ended (later : World) : ((later.updateTask id finish).clearAlarms (.request id)).affairs =
      { later.affairs with tasks := later.affairs.tasks.modify id finish } :=
    (@affairs_updateTask finish finish fun _ => rfl) later id
  simp only [keep, Affairs.keep]
  -- A request that is over also gives its worker back.
  cases ceased : submission.isOver with
  | false =>
    simp only [Bool.or_false, Bool.false_eq_true, if_false]
    exact kept
  | true =>
    simp only [Bool.or_true, if_true, endTask]
    have finished := ended (((world.updateContext task.context fun _ => submission.context).record
      submission.events).updateTask id setRun)
    rw [kept] at finished
    simp only [List.modify_modify_eq] at finished
    cases task.job with
    | none => exact finished
    | some job =>
      have left := affairs_endJob (((((world.updateContext task.context fun _ =>
        submission.context).record submission.events).updateTask id setRun).updateTask id
          finish).clearAlarms (.request id)) job
      rw [finished] at left
      exact left

def attending (world : World) (id : TaskId) (task : RequestTask) : World :=
  world.await (.cancelled task.context) { process := .request id }

/-- What a request does in its turn: while it waits for a worker it may be given up, otherwise it
runs. -/
inductive Attends (world : World) (id : TaskId) (task : RequestTask) (context : RequestContext) :
    Submission → World → Prop where
  | held (waits : task.job.any (· ∈ world.scheduler.waiting) = true)
      (ceased : (Submission.hold { request := task.request, options := task.options, context }
        world.now).isOver = true) :
      Attends world id task context
        (Submission.hold { request := task.request, options := task.options, context } world.now)
        world
  | starts {submission : Submission} {middle : World}
      (serves : task.job.any (· ∈ world.scheduler.waiting) = false) (unborn : task.run = none)
      (started : Submission.start (cluster id) (world.attending id task).setup.registry
        (world.attending id task).setup.codec
        { request := task.request, options := task.options, context }
        (world.attending id task) = (submission, middle)) :
      Attends world id task context submission middle
  | breaksOff (serves : task.job.any (· ∈ world.scheduler.waiting) = false)
      (unborn : task.run = none)
      (planless : (world.attending id task).breaksOff
        { request := task.request, options := task.options, context } = true) :
      Attends world id task context
        (Submission.breakOff { request := task.request, options := task.options, context })
        ((world.attending id task).makePlan task.options.routingKey).2
  | polls {submission : Submission} {middle : World} {run : Run}
      (serves : task.job.any (· ∈ world.scheduler.waiting) = false) (born : task.run = some run)
      (polled : Submission.poll (cluster id)
        { request := task.request, options := task.options, context, run := some run }
        (world.attending id task) = (submission, middle)) :
      Attends world id task context submission middle

theorem Attends.rewires {world middle : World} {id : TaskId} {task : RequestTask}
    {context : RequestContext} {submission : Submission}
    (attends : world.Attends id task context submission middle) : world.Rewires middle := by
  have waits : world.Rewires (world.attending id task) := .same (affairs_await _ _ _)
  have keeps := cluster_rewires world id
  cases attends with
  | held => exact .refl world
  | starts _ _ started =>
    have done := Submission.start_holds keeps (world.attending id task).setup.registry
      (world.attending id task).setup.codec
      { request := task.request, options := task.options, context } waits
    rwa [started] at done
  | breaksOff => exact keeps.plan _ _ waits
  | @polls _ _ run _ _ polled =>
    have done := Submission.poll_holds keeps
      { request := task.request, options := task.options, context, run := some run } waits
    rwa [polled] at done

theorem turnRequest_spec {world : World} {id : TaskId} {task : RequestTask}
    {context : RequestContext} (found : world.tasks[id]? = some task)
    (goesOn : task.isOver = false) (known : world.context? task.context = some context) :
    ((Submission.hold { request := task.request, options := task.options, context }
        world.now).isOver = false ∧
      world.turnRequest id =
        (world.attending id task).setAlarm context.deadline { process := .request id }) ∨
    ∃ submission middle, world.Attends id task context submission middle ∧
      world.turnRequest id = middle.keep id task submission := by
  simp only [turnRequest, found, goesOn, Bool.false_eq_true, if_false]
  split
  next waits =>
    simp only [holdTask, known]
    split
    next ceased => exact .inr ⟨_, world, .held waits ceased, rfl⟩
    next waiting => exact .inl ⟨by simpa using waiting, rfl⟩
  next serves =>
    right
    have runs : task.job.any (· ∈ world.scheduler.waiting) = false := by simpa using serves
    simp only [runTask, known]
    cases born : task.run with
    | none =>
      simp only [Option.isSome_none, Bool.false_eq_true, if_false]
      split
      next planless => exact ⟨_, _, .breaksOff runs born planless, rfl⟩
      next => exact ⟨_, _, .starts runs born rfl, rfl⟩
    | some run =>
      simp only [Option.isSome_some, if_true]
      exact ⟨_, _, .polls runs born rfl, rfl⟩

theorem turnRequest_idle {world : World} {id : TaskId}
    (idle : ∀ task context, world.tasks[id]? = some task → task.isOver = false →
      world.context? task.context ≠ some context) : world.turnRequest id = world := by
  unfold turnRequest
  split
  next => rfl
  next task found =>
    split
    next => rfl
    next goesOn =>
      have unknown : world.context? task.context = none := Option.eq_none_iff_forall_ne_some.2
        fun context => idle task context found (by simpa using goesOn)
      simp [holdTask, runTask, unknown]

theorem turnRequest_cases (world : World) (id : TaskId) :
    (world.turnRequest id).affairs = world.affairs ∨
      ∃ task context submission middle, world.tasks[id]? = some task ∧ task.isOver = false ∧
        world.context? task.context = some context ∧
        world.Attends id task context submission middle ∧
        (world.turnRequest id).affairs = middle.affairs.keep id task submission := by
  by_cases goesOn : ∃ task context, world.tasks[id]? = some task ∧ task.isOver = false ∧
      world.context? task.context = some context
  · obtain ⟨task, context, found, goesOn, known⟩ := goesOn
    rcases turnRequest_spec found goesOn known with ⟨_, same⟩ | ⟨submission, middle, attends, same⟩
    · left
      rw [same, affairs_setAlarm]
      exact affairs_await world _ _
    · right
      rw [same]
      exact ⟨task, context, submission, middle, found, goesOn, known, attends, affairs_keep _ _ _ _⟩
  · left
    rw [turnRequest_idle fun task context found unfinished known =>
      goesOn ⟨task, context, found, unfinished, known⟩]

/-- Whose errand it is that something happens for. -/
def Happening.actor : Happening → Option ErrandId
  | .turn (.errand id) => some id
  | _ => none

def act (world : World) (happening : Happening) : World :=
  if world.forbids happening then world else world.occur happening

def live (world : World) (happenings : List Happening) : World := happenings.foldl act world

theorem shifts_step (world : World) (step : Scenario.NodeStep) :
    world.Shifts none (step.run world).1 := by
  cases step with
  | stop server => exact .same (affairs_stopServer world server)
  | restart server => exact .same (affairs_restartServer world server)
  | markDown address =>
    exact .rewires (rewires_changeNodes (fun orderly => .markDown orderly address) _)
  | markUp address =>
    exact .rewires (rewires_changeNodes (fun orderly => .markUp orderly _ address) _)
  | addNode contact => exact .rewires (.move (.adds contact) rfl)
  | _ => exact .same rfl

theorem shifts_act {world : World} {happening : Happening}
    (other : ∀ id, happening ≠ .turn (.request id)) :
    world.Shifts happening.actor (world.act happening) := by
  unfold act
  split
  next => exact .refl world
  next possible =>
    have allowed : world.forbids happening = false := by simpa using possible
    cases happening with
    | turn process =>
      cases process with
      | connection channel => exact .rewires (rewires_turnConnection _ world channel)
      | reader channel => exact .same (affairs_turnReader _ world channel)
      | watcher channel => exact .rewires (rewires_turnWatcher world channel)
      | manager pool => exact .rewires (rewires_turnManager _ world pool)
      | tracking => exact .rewires (rewires_turnTracking world)
      | listener id => exact .same (affairs_turnListener world id)
      | request task => exact absurd rfl (other task)
      | timer id => exact shifts_turnTimer world id
      | callback job =>
        exact shifts_turnCallback (by simpa [forbids] using allowed)
      | errand id =>
        simp only [occur]
        split
        next => exact .refl world
        next => exact shifts_turnErrand allowed
      | acceptor server => exact .same (affairs_turnAcceptor _ world server)
      | service socket => exact .same (affairs_turnService _ world socket)
      | delayedReply id => exact .same (affairs_turnDelayedReply world id)
    | schedule agenda => exact .same rfl
    | wake waker => exact .same (affairs_wake world waker)
    | begin errand => exact .move (.asks errand rfl) (affairs_wakeProcess _ _)
    | submit request options =>
      rcases occur_submit world request options with same | same <;> rw [same]
      · exact .refl world
      · exact shifts_offer world request options
    | cancel context => exact shifts_cancelContext world context
    | step step => exact shifts_step world step
    | addServer server => exact .same rfl
    | startServer server => exact .same (affairs_startServer world server)
    | watch => exact .same rfl
    | forget => exact .move (.clears rfl) rfl

theorem act_request (world : World) (id : TaskId) :
    world.act (.turn (.request id)) = world.turnRequest id :=
  rfl

end World

end ClusterDriver.Simulation
