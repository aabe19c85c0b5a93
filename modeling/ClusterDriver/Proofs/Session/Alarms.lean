import ClusterDriver.Proofs.Request.Deadline
import ClusterDriver.Proofs.Session.Promises
import ClusterDriver.Proofs.Session.Vigil

set_option autoImplicit false

namespace ClusterDriver.Simulation

namespace World

variable {start world later : World}

/-! ### Requests -/

theorem minds_sendVia (minds : start.Minds world) (pool : PoolId) (opcode : Opcode)
    (body : ByteArray) (waiter : Waker) :
    start.Minds (world.sendVia pool opcode body waiter).2 := by
  unfold sendVia
  split
  next => exact minds
  next =>
    split
    next => exact minds_await minds _ _
    next => exact minds
    next =>
      split
      next => exact minds
      next sent => exact minds_send minds sent

theorem cluster_minds (start : World) (task : TaskId) : (cluster task).Keeps start.Minds where
  plan key world minds := by
    simp only [cluster, makePlan, makePlan?]
    split
    next => exact minds_mk.2 minds
    next => exact minds
    next => exact minds
    next => exact minds_mk.2 minds
  pool node _ minds := minds_poolOf minds node.id
  send _ pool opcode body _ minds := minds_sendVia minds pool opcode body _
  reply _ handle _ minds := minds_takeReply minds handle _
  abandon handle _ minds := minds_abandon minds handle
  count profile world minds := by
    simp only [cluster, countRetryCall]
    split
    next => exact minds_mk.2 minds
    next => exact minds
  alarm _ due _ minds := minds_setAlarm minds due _
  dismiss execution _ minds := minds_dismissAlarms minds _ execution

theorem minds_updateContext (minds : start.Minds world) (id : Nat)
    (change : RequestContext → RequestContext) : start.Minds (world.updateContext id change) :=
  minds_mk.2 minds

theorem minds_updateTask (minds : start.Minds world) (id : TaskId)
    (change : RequestTask → RequestTask) : start.Minds (world.updateTask id change) :=
  minds.notes (.refl _) rfl (List.length_modify _ _ _)

theorem minds_record (minds : start.Minds world) (events : List Metrics.Event) :
    start.Minds (world.record events) :=
  minds_mk.2 minds

theorem minds_cancelContext (minds : start.Minds world) (number : Nat) :
    start.Minds (world.cancelContext number) :=
  minds_emit (minds_updateContext minds _ _) _

/-! ### Errands -/

theorem minds_setErrand (minds : start.Minds world) (id : ErrandId) (errand : Errand) :
    start.Minds (world.setErrand id errand) :=
  minds_mk.2 minds

theorem minds_finishErrand (minds : start.Minds world) (id : ErrandId) (result : Errand.Result) :
    start.Minds (world.finishErrand id result) :=
  minds_mk.2 (minds_setErrand minds id .ended)

theorem minds_pursueConnect (minds : start.Minds world) (id : ErrandId) (address : SocketAddress)
    (limits : ChannelLimits) (authenticator : Option Authenticator) (attempt : Connecting) :
    start.Minds (world.pursueConnect id address limits authenticator attempt) := by
  have tried := minds_continueConnecting minds attempt
  unfold pursueConnect
  split
  next given =>
    rw [given] at tried
    exact minds_setErrand tried _ _
  next given =>
    rw [given] at tried
    exact minds_finishErrand tried _ _
  next given =>
    rw [given] at tried
    exact minds_finishErrand (minds_addLink tried _ _ _) _ _

theorem minds_pursueReply (minds : start.Minds world) (id : ErrandId) (handle : Handle)
    (timeout : Nat) (due : Option Nat) :
    start.Minds (world.pursueReply id handle timeout due) := by
  have asked := minds_takeReply minds handle { process := .errand id }
  simp only [pursueReply]
  split
  next given =>
    rw [given] at asked
    exact minds_finishErrand asked _ _
  next given =>
    rw [given] at asked
    split
    next => exact minds_finishErrand (minds_abandon asked _) _ _
    next => exact minds_setAlarm (minds_setErrand asked _ _) _ _

theorem minds_pursueAcquire (minds : start.Minds world) (id : ErrandId) (pool : PoolId) :
    start.Minds (world.pursueAcquire id pool) := by
  unfold pursueAcquire
  split
  next => exact minds
  next =>
    split
    next => exact minds_await minds _ _
    next => exact minds_finishErrand minds _ _

theorem minds_pursueClosed {finish : World → World}
    (finishes : ∀ {world}, start.Minds world → start.Minds (finish world))
    (minds : start.Minds world) (id : ErrandId) (channels : List ChannelId)
    (waiting : List ChannelId → Errand) :
    start.Minds (world.pursueClosed id channels waiting finish) := by
  have waits := minds_awaitClosed minds channels { process := .errand id }
  unfold pursueClosed
  split
  next given =>
    rw [given] at waits
    exact finishes waits
  next given =>
    rw [given] at waits
    exact minds_setErrand waits _ _

theorem minds_pursueRemoval (minds : start.Minds world) (id : ErrandId) (address : SocketAddress)
    (forgets : Bool) (channels : List ChannelId) :
    start.Minds (world.pursueRemoval id address forgets channels) := by
  refine minds_pursueClosed (fun minds => ?_) minds id channels _
  split
  next => exact minds_finishErrand (minds_record minds _) _ _
  next => exact minds_finishErrand minds _ _

theorem minds_removeNode? {address : SocketAddress} {channels : List ChannelId}
    (minds : start.Minds world) (removed : world.removeNode? address = some (later, channels)) :
    start.Minds later := by
  unfold removeNode? at removed
  split at removed
  next => cases removed
  next tracker node events _ =>
    have changed := minds_changeNodes minds tracker events
    simp only at removed
    split at removed
    next =>
      cases removed
      exact changed
    next pool _ =>
      have closed := minds_closePool changed pool
      rwa [Option.some.inj removed] at closed

theorem minds_pursueConnectAll {finish : World → Nat → World}
    (finishes : ∀ {world} up, start.Minds world → start.Minds (finish world up))
    (minds : start.Minds world) (id : ErrandId) (progress : ConnectingAll)
    (waiting : ConnectingAll → Errand) :
    start.Minds (world.pursueConnectAll id progress waiting finish) := by
  have waits := minds_continueConnectingAll minds progress { process := .errand id }
  unfold pursueConnectAll
  split
  next given =>
    rw [given] at waits
    exact finishes _ waits
  next given =>
    rw [given] at waits
    exact minds_setErrand waits _ _

theorem minds_pursueOpening (minds : start.Minds world) (id : ErrandId) (config : DriverConfig)
    (progress : ConnectingAll) : start.Minds (world.pursueOpening id config progress) := by
  refine minds_pursueConnectAll (fun {world} up minds => ?_) minds id progress _
  have opened : start.Minds (world.finishOpening config up).1 := by
    unfold finishOpening
    split
    next =>
      exact minds_mk.2 (minds_foldl (fun _ pool minds => minds_forceClosePool minds pool) _ minds)
    next => exact minds_mk.2 minds
  exact minds_finishErrand opened _ _

theorem minds_pursueGivingUp (minds : start.Minds world) (id : ErrandId) (number : Nat) :
    start.Minds (world.pursueGivingUp id number) := by
  unfold pursueGivingUp
  split
  next => exact minds
  next =>
    simp only
    split
    next => exact minds_finishErrand (minds_record (minds_updateContext minds _ _) _) _ _
    next => exact minds_setAlarm (minds_await minds _ _) _ _

theorem minds_turnErrand (minds : start.Minds world) (id : ErrandId)
    (other : ∀ quietPeriod timeout, world.errands[id]? ≠ some (.closeSession quietPeriod timeout)) :
    start.Minds (world.turnErrand id) := by
  unfold turnErrand
  split
  next => exact minds
  next => exact minds
  next => exact minds_pursueConnect minds id _ _ _ _
  next address limits authenticator _ =>
    have begun := minds_startConnecting minds (.errand id) address limits authenticator
    split
    next given =>
      rw [given] at begun
      exact minds_finishErrand begun _ _
    next given =>
      rw [given] at begun
      exact minds_setErrand begun _ _
  next => exact minds_pursueReply minds id _ _ _
  next => exact minds_pursueAcquire minds id _
  next pool _ =>
    have waits := minds_awaitReady minds [pool] { process := .errand id }
    split
    next given =>
      rw [given] at waits
      exact minds_finishErrand waits _ _
    next given =>
      rw [given] at waits
      exact waits
  next pool closing _ =>
    have finishes {world : World} (minds : start.Minds world) :
        start.Minds (world.finishErrand id .done) := minds_finishErrand minds _ _
    cases closing with
    | some channels => exact minds_pursueClosed finishes minds id channels _
    | none => exact minds_pursueClosed finishes (minds_closePool minds pool) id _ _
  next => exact minds_pursueRemoval minds id _ _ _
  next =>
    split
    next => exact minds_finishErrand minds _ _
    next removed => exact minds_pursueRemoval (minds_removeNode? minds removed) id _ _ _
  next timeout progress _ =>
    have finishes {world : World} (up : Nat) (minds : start.Minds world) :
        start.Minds (world.finishErrand id (.count up)) := minds_finishErrand minds _ _
    cases progress with
    | some progress => exact minds_pursueConnectAll finishes minds id progress _
    | none => exact minds_pursueConnectAll finishes (minds_startConnectingAll minds timeout) id _ _
  next => exact minds_pursueOpening minds id _ _
  next config _ =>
    split
    next => exact minds_finishErrand minds _ _
    next =>
      have configured : start.Minds (world.withConfig config) := minds_mk.2 minds
      exact minds_pursueOpening (minds_startConnectingAll configured
        (config.pool.connectTimeout + connectGrace)) id config _
  next closing => exact absurd closing (other _ _)
  next => exact minds_pursueGivingUp minds id _

/-! ### Requests that end -/

def Over (id : TaskId) (world : World) : Prop :=
  ∃ task, world.tasks[id]? = some task ∧ task.isOver = true

theorem over_affairs {id : TaskId} :
    world.Over id ↔ ∃ task, world.affairs.tasks[id]? = some task ∧ task.isOver = true := by
  simp only [Over, affairs, List.getElem?_map, Option.map_eq_some_iff]
  constructor
  · rintro ⟨task, found, ceased⟩
    exact ⟨task.plain, ⟨task, found, rfl⟩, ceased⟩
  · rintro ⟨_, ⟨task, found, rfl⟩, ceased⟩
    exact ⟨task, found, ceased⟩

theorem Over.settles {id : TaskId} (ceased : world.Over id)
    (settles : world.affairs.Settles later.affairs) : later.Over id := by
  obtain ⟨task, found, ceased⟩ := over_affairs.1 ceased
  obtain ⟨next, known, _, ended⟩ := settles.tasks id task found
  exact over_affairs.2 ⟨next, known, ended ceased⟩

theorem Over.rewires {id : TaskId} (ceased : world.Over id) (rewires : world.Rewires later) :
    later.Over id := by
  rw [over_affairs, rewires.apart]
  exact over_affairs.1 ceased

theorem Over.updateTask {id other : TaskId} (ceased : world.Over id)
    {change : RequestTask → RequestTask} (stays : ∀ task, task.isOver = true →
      (change task).isOver = true) : (world.updateTask other change).Over id := by
  obtain ⟨task, found, ceased⟩ := ceased
  simp only [Over, World.updateTask, List.getElem?_modify, found]
  refine ⟨_, rfl, ?_⟩
  split
  next => exact stays task ceased
  next => exact ceased

theorem over_updateTask {id : TaskId} {task : RequestTask} (found : world.tasks[id]? = some task)
    {change : RequestTask → RequestTask} (ends : ∀ task, (change task).isOver = true) :
    (world.updateTask id change).Over id := by
  simp only [Over, World.updateTask, List.getElem?_modify, found]
  exact ⟨_, rfl, by simp [ends]⟩

/-- Of what was noted nothing about this request is lost before it has ended. -/
structure Heeds (id : TaskId) (before after : World) : Prop where
  now : after.now = before.now
  ready : before.agenda.ready <+: after.agenda.ready
  sorted : before.agenda.Sorted → after.agenda.Sorted
  tasks : after.tasks.length = before.tasks.length
  ceased : before.Over id → after.Over id
  alarm : ∀ due, lastCall id due ∈ before.agenda.alarms →
    lastCall id due ∈ after.agenda.alarms ∨ after.Over id

namespace Heeds

variable {id : TaskId} {before middle after : World}

theorem refl (world : World) : world.Heeds id world where
  now := rfl
  ready := List.prefix_rfl
  sorted sorted := sorted
  tasks := rfl
  ceased ceased := ceased
  alarm _ member := .inl member

theorem trans (one : before.Heeds id middle) (two : middle.Heeds id after) :
    before.Heeds id after where
  now := two.now.trans one.now
  ready := one.ready.trans two.ready
  sorted sorted := two.sorted (one.sorted sorted)
  tasks := two.tasks.trans one.tasks
  ceased ceased := two.ceased (one.ceased ceased)
  alarm due member :=
    (one.alarm due member).elim (two.alarm due) fun ceased => .inr (two.ceased ceased)

theorem minds (minds : before.Minds after) (ceased : before.Over id → after.Over id) :
    before.Heeds id after where
  now := minds.agenda.now
  ready := minds.agenda.ready
  sorted := minds.agenda.sorted
  tasks := minds.tasks
  ceased := ceased
  alarm due member := .inl (minds.agenda.alarms id due member)

theorem rewires (minds : before.Minds after) (rewires : before.Rewires after) :
    before.Heeds id after :=
  .minds minds fun ceased => ceased.rewires rewires

theorem same (agenda : after.agenda = before.agenda) (tasks : after.tasks = before.tasks) :
    before.Heeds id after := by
  refine .minds ⟨?_, by rw [tasks]⟩ fun ceased => ?_
  · rw [agenda]
    exact .refl _
  · rwa [Over, tasks]

theorem foldl {α : Type} {step : World → α → World}
    (each : ∀ world part, Heeds id world (step world part)) (parts : List α) (world : World) :
    world.Heeds id (parts.foldl step world) := by
  induction parts generalizing world with
  | nil => exact .refl world
  | cons part rest ih => exact (each world part).trans (ih (step world part))

theorem stands (heeds : before.Heeds id middle) (minds : middle.Minds after)
    (same : after.affairs = middle.affairs) : before.Heeds id after :=
  heeds.trans (.rewires minds (.same same))

theorem clears {own : TaskId} (ended : own = id → before.Over id) :
    before.Heeds id (before.clearAlarms (.request own)) where
  now := rfl
  ready := List.prefix_rfl
  sorted sorted := sorted.filter _
  tasks := rfl
  ceased ceased := ceased
  alarm due member := by
    by_cases same : own = id
    · exact .inr (ended same)
    · left
      refine List.mem_filter.2 ⟨member, ?_⟩
      simpa [lastCall] using Ne.symm same

end Heeds

section Drops

variable {id : TaskId}

theorem heeds_endJob (world : World) (job : JobId) : world.Heeds id (world.endJob job) := by
  refine .minds (minds_endJob (.refl world) job) fun ceased => ?_
  rw [over_affairs, affairs_endJob]
  exact over_affairs.1 ceased

theorem heeds_abortTask (world : World) (own : TaskId) : world.Heeds id (world.abortTask own) := by
  unfold abortTask
  split
  next => exact .refl world
  next task found =>
    have ends {later : World} (minds : world.Minds later) (rewires : world.Rewires later) :
        world.Heeds id ((later.updateTask own RequestTask.abort).clearAlarms (.request own)) := by
      refine Heeds.trans (.minds (minds_updateTask minds own _) fun ceased => ?_) (.clears ?_)
      · exact (ceased.rewires rewires).updateTask fun _ _ => rfl
      · rintro rfl
        have there : later.affairs.tasks[own]? = some task.plain := by
          rw [rewires.apart]
          simp [affairs, found]
        obtain ⟨known, found, _⟩ := Option.map_eq_some_iff.1 (List.getElem?_map.symm.trans there)
        exact over_updateTask found fun _ => rfl
    simp only
    split
    next run _ =>
      exact ends (Run.abandonAll_holds (cluster_minds world own) run (.refl world))
        (abandonAll_rewires world own run)
    next => exact ends (.refl world) (.refl world)

theorem heeds_abortJob (world : World) (job : JobId) : world.Heeds id (world.abortJob job) := by
  unfold abortJob
  split
  next => exact heeds_abortTask world _
  next => exact .refl world

theorem heeds_closeScheduler (world : World) (closing : ClosingSession) (waiter : Waker) :
    world.Heeds id (world.closeScheduler closing waiter).1 := by
  unfold closeScheduler
  split
  next => exact .refl world
  next =>
    split
    next => exact .rewires (minds_await (.refl world) _ _) (.same (affairs_await world _ _))
    next scheduler report left _ =>
      have begun : world.Heeds id { world with scheduler } := .same rfl rfl
      exact begun.trans (.foldl heeds_abortJob left _)

theorem heeds_closeMembers (started : Nat) (waiter : Waker) (entries : List ClosingPool)
    (world : World) : world.Heeds id (world.closeMembers started waiter entries).1 := by
  induction entries generalizing world with
  | nil => exact .refl world
  | cons entry rest ih =>
    refine Heeds.trans (.rewires ?_ (rewires_closeMember world started entry waiter)) (ih _)
    unfold closeMember
    split
    next => exact .refl world
    next =>
      cases entry.closing with
      | some channels => exact minds_awaitClosed (.refl world) channels waiter
      | none => exact minds_awaitClosed (minds_closePool (.refl world) entry.pool) _ waiter

theorem heeds_finishClosing (world : World) (closing : ClosingSession) :
    world.Heeds id (world.finishClosing closing).1 := by
  have dropped : world.Heeds id (if closing.scheduler.finished.isSome then world
      else world.scheduler.dropJobs.2.foldl abortJob
        { world with scheduler := world.scheduler.dropJobs.1 }) := by
    split
    next => exact .refl world
    next =>
      have begun : world.Heeds id { world with scheduler := world.scheduler.dropJobs.1 } :=
        .same rfl rfl
      exact begun.trans (.foldl heeds_abortJob _ _)
  have forced {later : World} (heeds : world.Heeds id later) (report : ShutdownReport) :
      world.Heeds id (if report.timedOut.isEmpty then later
        else closing.pools.foldl (fun world entry => world.forceClosePool entry.pool) later) := by
    split
    next => exact heeds
    next =>
      refine heeds.trans (.foldl (fun world (entry : ClosingPool) => ?_) closing.pools later)
      exact .rewires (minds_forceClosePool (.refl world) entry.pool)
        (rewires_forceClosePool world entry.pool)
  have noted {later : World} (heeds : world.Heeds id later) (report : ShutdownReport) :
      world.Heeds id (emit
        { later with tracking := false, closing := some { closing with report := some report } }
          .shutdownOver) := by
    have finished : later.Heeds id
        { later with tracking := false, closing := some { closing with report := some report } } :=
      .same rfl rfl
    exact (heeds.trans finished).stands (minds_emit (.refl _) _) (affairs_emit _ _)
  simp only [finishClosing]
  exact noted (forced dropped _) _

theorem heeds_pursueClosing (world : World) (errand : ErrandId) (quietPeriod timeout : Nat) :
    world.Heeds id (world.pursueClosing errand quietPeriod timeout) := by
  have begun : world.Heeds id (if world.closing.isSome then world
      else world.beginClosing quietPeriod timeout { process := .errand errand }) := by
    split
    next => exact .refl world
    next =>
      refine .minds ?_ fun ceased => ceased
      exact minds_setAlarm (minds_setAlarm (minds_mk.2 (.refl world)) _ _) _ _
  have told {later : World} (heeds : world.Heeds id later) (result : Errand.Result) :
      world.Heeds id (later.finishErrand errand result) := heeds.trans (.same rfl rfl)
  simp only [pursueClosing]
  generalize (if world.closing.isSome then world
    else world.beginClosing quietPeriod timeout { process := .errand errand }) = later at begun ⊢
  split
  next => exact begun
  next closing underWay =>
    split
    next => exact told begun _
    next =>
      have goesOn : later.Heeds id
          (later.continueClosing closing { process := .errand errand }).1 := by
        have scheduled : later.Heeds id
            (later.closeScheduler closing { process := .errand errand }).1 :=
          heeds_closeScheduler later closing _
        simp only [continueClosing]
        generalize later.closeScheduler closing { process := .errand errand } = ended at scheduled ⊢
        have closed := scheduled.trans (heeds_closeMembers ended.2.started
          { process := .errand errand } ended.2.pools ended.1)
        generalize ended.1.closeMembers ended.2.started { process := .errand errand }
          ended.2.pools = members at closed ⊢
        split
        next => exact closed.trans (heeds_finishClosing _ _)
        next =>
          have noted : members.1.Heeds id { members.1 with
              closing := some { ended.2 with pools := members.2 } } := .same rfl rfl
          exact (closed.trans noted).stands (minds_await (.refl _) _ _) (affairs_await _ _ _)
      split
      next given =>
        rw [given] at goesOn
        exact told (begun.trans goesOn) _
      next given =>
        rw [given] at goesOn
        exact begun.trans goesOn

end Drops

/-! ### The turn of a request -/

section Turns

variable {id own : TaskId} {task : RequestTask} {submission : Submission}

theorem over_endTask (found : ∃ known, world.tasks[own]? = some known) (task : RequestTask) :
    (world.endTask own task).Over own := by
  obtain ⟨known, found⟩ := found
  have ceased : (world.updateTask own fun task => { task with isOver := true }).Over own :=
    over_updateTask found fun _ => rfl
  simp only [endTask]
  split
  next => exact (heeds_endJob _ _).ceased ceased
  next => exact ceased

theorem heeds_endTask (found : ∃ known, world.tasks[own]? = some known) (task : RequestTask) :
    world.Heeds id (world.endTask own task) := by
  obtain ⟨known, found⟩ := found
  have ended : world.Heeds id (world.updateTask own fun task => { task with isOver := true }) :=
    .minds (minds_updateTask (.refl world) own _) fun ceased => ceased.updateTask fun _ _ => rfl
  have cleared : world.Heeds id ((world.updateTask own fun task =>
      { task with isOver := true }).clearAlarms (.request own)) := by
    -- The alarms of a task may be cleared only because it has ended.
    refine ended.trans (.clears ?_)
    rintro rfl
    exact over_updateTask found fun _ => rfl
  simp only [endTask]
  split
  next => exact cleared.trans (heeds_endJob _ _)
  next => exact cleared

def noting (world : World) (own : TaskId) (task : RequestTask) (submission : Submission) : World :=
  ((world.updateContext task.context fun _ => submission.context).record
    submission.events).updateTask own fun task =>
      { task with run := submission.run, aborted := task.aborted || submission.isDropped }

theorem found_noting (found : ∃ known, world.tasks[own]? = some known) (task : RequestTask)
    (submission : Submission) :
    ∃ known, (world.noting own task submission).tasks[own]? = some known := by
  obtain ⟨known, found⟩ := found
  simp only [noting, updateTask, updateContext, record, List.getElem?_modify, found]
  exact ⟨_, rfl⟩

theorem heeds_keep (found : ∃ known, world.tasks[own]? = some known) (task : RequestTask)
    (submission : Submission) : world.Heeds id (world.keep own task submission) := by
  have heeds : world.Heeds id (world.noting own task submission) := by
    refine .minds (minds_updateTask (minds_record (minds_updateContext (.refl world) _ _) _) own _)
      fun ceased => ?_
    have ceased : ((world.updateContext task.context fun _ => submission.context).record
      submission.events).Over id := ceased
    exact ceased.updateTask fun _ ceased => ceased
  simp only [keep]
  split
  next => exact heeds.trans (heeds_endTask (found_noting found task submission) task)
  next => exact heeds

theorem over_keep (found : ∃ known, world.tasks[own]? = some known)
    (ceased : submission.isOver = true) : (world.keep own task submission).Over own := by
  simp only [keep, ceased, if_true]
  exact over_endTask (found_noting found task submission) task

theorem alarms_keep (goesOn : submission.isOver = false) :
    (world.keep own task submission).agenda.alarms = world.agenda.alarms := by
  simp only [keep, goesOn, Bool.false_eq_true, if_false]
  rfl

theorem minds_attending (world : World) (id : TaskId) (task : RequestTask) :
    world.Minds (world.attending id task) :=
  minds_await (.refl world) _ _

theorem poll_alarm (run : Run) (around : World) :
    lastCall id run.context.deadline ∈ (run.poll (cluster id) around).2.agenda.alarms := by
  have set : lastCall id run.context.deadline ∈
      ((cluster id).alarm none run.context.deadline around).agenda.alarms :=
    Agenda.mem_setAlarm _ _ _
  have stepped := Run.steps_holds (cluster_minds _ id) run.stepLimit run
    (.refl ((cluster id).alarm none run.context.deadline around))
  simp only [Run.poll]
  split
  next => exact (minds_setAlarm stepped _ _).agenda.alarms _ _ set
  next => exact stepped.agenda.alarms _ _ set

namespace Attends

variable {context : RequestContext} {middle : World}

theorem minds (attends : world.Attends id task context submission middle) :
    world.Minds middle := by
  have waits := minds_attending world id task
  have keeps := cluster_minds world id
  cases attends with
  | held => exact .refl world
  | starts _ _ started =>
    have done := Submission.start_holds keeps (world.attending id task).setup.registry
      (world.attending id task).setup.codec
      { request := task.request, options := task.options, context } waits
    rwa [started] at done
  | breaksOff => exact keeps.plan _ _ waits
  | @polls _ _ run _ _ polled =>
    have done := Submission.poll_holds keeps
      { request := task.request, options := task.options, context, run := some run } waits
    rwa [polled] at done

theorem alarm (attends : world.Attends id task context submission middle) :
    submission.isOver = true ∨ lastCall id context.deadline ∈ middle.agenda.alarms := by
  cases attends with
  | held _ ceased => exact .inl ceased
  | starts _ _ started =>
    rcases @Submission.start_cases _ (cluster id)
        (world.attending id task).setup.registry (world.attending id task).setup.codec
        { request := task.request, options := task.options, context } rfl
        (world.attending id task) with
      ⟨cause, ceased, _⟩ | ⟨build, plan, later, _, prepared, same⟩
    · rw [started] at ceased
      exact .inl ceased
    · right
      rw [started] at same
      have around : middle = _ := congrArg Prod.snd same
      rw [around]
      exact poll_alarm { (build plan).startExecution later.now with context } later
  | breaksOff => exact .inl rfl
  | @polls _ _ run _ _ polled =>
    right
    have around : middle = _ := (congrArg Prod.snd polled).symm
    rw [around]
    exact poll_alarm { run with context } _

theorem deadline (attends : world.Attends id task context submission middle) :
    submission.context.deadline = context.deadline := by
  refine RequestContext.deadline_of_terms ?_
  cases attends with
  | held => exact Submission.hold_terms _ _
  | starts _ _ started =>
    rw [← congrArg (·.1.context) started]
    exact Submission.start_terms _ _
  | breaksOff => rfl
  | polls _ _ polled =>
    rw [← congrArg (·.1.context) polled]
    exact Submission.poll_terms _ _

theorem due (attends : world.Attends id task context submission middle)
    (tends : context.Tends task.run) (late : context.deadline ≤ world.now) :
    submission.isOver = true := by
  have now : (cluster id).now (world.attending id task) = world.now :=
    (minds_attending world id task).agenda.now
  have expired : context.isExpired ((cluster id).now (world.attending id task)) = true := by
    rw [now]
    simpa [RequestContext.isExpired] using late
  cases attends with
  | held _ ceased => exact ceased
  | starts _ _ started =>
    have ended := Submission.start_due (cluster_steady id) (world.attending id task).setup.registry
      (world.attending id task).setup.codec
      { request := task.request, options := task.options, context } (world.attending id task)
      (.inr expired)
    rwa [started] at ended
  | breaksOff => rfl
  | @polls _ _ run _ born polled =>
    rw [born] at tends
    have ended := @Submission.poll_due _ _ (cluster_steady id)
      { request := task.request, options := task.options, context, run := some run } run rfl
      (tends.unfinished run rfl) (world.attending id task) (.inr expired)
    rwa [polled] at ended

end Attends

theorem Attends.found {context : RequestContext} {middle : World}
    (attends : world.Attends id task context submission middle)
    (found : world.tasks[id]? = some task) : ∃ known, middle.tasks[id]? = some known := by
  obtain ⟨inside, _⟩ := List.getElem?_eq_some_iff.1 found
  rw [← attends.minds.tasks] at inside
  exact ⟨_, List.getElem?_eq_getElem inside⟩

theorem heeds_turnRequest (world : World) (own : TaskId) :
    world.Heeds id (world.turnRequest own) := by
  by_cases goesOn : ∃ task context, world.tasks[own]? = some task ∧ task.isOver = false ∧
      world.context? task.context = some context
  · obtain ⟨task, context, found, goesOn, known⟩ := goesOn
    rcases turnRequest_spec found goesOn known with ⟨_, same⟩ | ⟨submission, middle, attends, same⟩
    · rw [same]
      exact .rewires (minds_setAlarm (minds_attending world own task) _ _)
        (.same (affairs_await world _ _))
    · rw [same]
      exact (Heeds.rewires attends.minds attends.rewires).trans
        (heeds_keep (attends.found found) task submission)
  · rw [turnRequest_idle fun task context found unfinished known =>
      goesOn ⟨task, context, found, unfinished, known⟩]
    exact .refl world

theorem turnRequest_called {context : RequestContext} (tended : world.affairs.Tended)
    (found : world.tasks[id]? = some task) (goesOn : task.isOver = false)
    (known : world.context? task.context = some context) :
    ((world.turnRequest id).Over id ∨
        lastCall id context.deadline ∈ (world.turnRequest id).agenda.alarms) ∧
      (context.deadline ≤ world.now → (world.turnRequest id).Over id) := by
  have plain : world.affairs.tasks[id]? = some task.plain := by simp [affairs, found]
  obtain ⟨other, own, tends⟩ := (tended.goesOn id task.plain plain goesOn).tends
  obtain rfl := Option.some.inj (own.symm.trans known)
  rcases turnRequest_spec found goesOn known with
    ⟨waits, same⟩ | ⟨submission, middle, attends, same⟩
  · rw [same]
    refine ⟨.inr (Agenda.mem_setAlarm _ _ _), fun late => ?_⟩
    have expired : other.isExpired world.now = true := by
      simpa [RequestContext.isExpired] using late
    have ceased := @Submission.hold_due
      { request := task.request, options := task.options, context := other } world.now
      (.inr expired)
    cases waits.symm.trans ceased
  · have there := attends.found found
    rw [same]
    refine ⟨?_, fun late =>
      over_keep there (attends.due (RequestContext.tends_plain.1 tends) late)⟩
    rcases attends.alarm with ceased | alarm
    · exact .inl (over_keep there ceased)
    · cases ceased : submission.isOver with
      | true => exact .inl (over_keep there ceased)
      | false =>
        rw [alarms_keep ceased]
        exact .inr alarm

end Turns

end World

end ClusterDriver.Simulation
