import ClusterDriver.Proofs.Session.Rewiring
import ClusterDriver.Scenario.Cluster

set_option autoImplicit false

namespace ClusterDriver

namespace Scheduler

theorem untimed_remove (scheduler : Scheduler) (job : JobId) :
    (scheduler.remove job).1.untimed = (scheduler.untimed.remove job).1 :=
  rfl

theorem untimed_offer? {scheduler later : Scheduler} {job : JobId} {started : List JobId}
    (offered : scheduler.offer? job = some (later, started)) :
    scheduler.untimed.offer? job = some (later.untimed, started) := by
  have accepting : scheduler.untimed.isShutdown = scheduler.isShutdown := rfl
  unfold offer? at offered ⊢
  rw [accepting]
  split at offered
  next => cases offered
  next taken =>
    rw [if_neg taken]
    cases offered
    rfl

end Scheduler

namespace Simulation

def RequestTask.abort (task : RequestTask) : RequestTask :=
  { task with run := none, isOver := true, aborted := true }

def dropped (jobs : List Process) (left : List JobId) (tasks : List RequestTask) :
    List RequestTask :=
  left.foldl (fun tasks (job : JobId) =>
    match jobs[job]? with
    | some (.request task) => tasks.modify task RequestTask.abort
    | _ => tasks) tasks

namespace Affairs

structure Blank (affairs : Affairs) : Prop where
  pools : affairs.pools = []
  nodes : affairs.tracker.nodes = []
  contexts : affairs.contexts = []
  closing : affairs.closing = none

/-- Whatever can happen at a time, besides the turns of requests; only its own `actor` gets on with
an errand. -/
inductive Move (actor : Option ErrandId) (before : Affairs) : Affairs → Prop where
  | wires {wiring : Wiring} (moves : before.toWiring.Moves wiring) :
      Move actor before { before with toWiring := wiring }
  | opens (config : DriverConfig) (blank : before.Blank) :
      Move actor before { before with
        tracker := .ofConfig config
        scheduler := .ofWorkers config.scheduler.workers }
  | accepts (started timeout : Nat) (request : Request) (options : RequestOptions)
      {scheduler : Scheduler} {given : List JobId} (unclosed : before.closing = none)
      (offered : before.scheduler.offer? before.jobs.length = some (scheduler, given)) :
      Move actor before { before with
        contexts := before.contexts ++ [{ id := before.contexts.length + 1, started, timeout }]
        tasks := before.tasks ++ [{
          context := before.contexts.length + 1, request, options, job := some before.jobs.length }]
        jobs := before.jobs ++ [.request before.tasks.length]
        scheduler }
  | refuses (started timeout : Nat) :
      Move actor before { before with
        contexts := before.contexts ++
          [RequestContext.resolve { id := before.contexts.length + 1, started, timeout } started
            (.error .sessionClosed)] }
  | cancels (number : Nat) :
      Move actor before { before with
        contexts := before.contexts.modify (number - 1) (·.cancel) }
  | calls {scheduler : Scheduler} {given : List JobId}
      (offered : before.scheduler.offer? before.jobs.length = some (scheduler, given)) :
      Move actor before { before with
        jobs := before.jobs ++ [.callback before.jobs.length]
        scheduler }
  | calledBack {job : JobId} (own : before.jobs[job]? = some (.callback job)) :
      Move actor before { before with scheduler := (before.scheduler.remove job).1 }
  | begins (closing : ClosingSession) (scheduler : Scheduler) (unclosed : before.closing = none)
      (waiting : scheduler.waiting = before.scheduler.waiting)
      (running : scheduler.running = before.scheduler.running)
      (going : scheduler.isTerminated = true → before.scheduler.isTerminated = true) :
      Move actor before { before with closing := some closing, scheduler }
  | closes {closing : ClosingSession} (after : ClosingSession)
      (underWay : before.closing = some closing) :
      Move actor before { before with closing := some after }
  | drops (scheduler : Scheduler) (idle : scheduler.waiting = [] ∧ scheduler.running = []) :
      Move actor before { before with
        scheduler
        tasks := dropped before.jobs (before.scheduler.running ++ before.scheduler.waiting)
          before.tasks }
  | asks (errand : Errand) (nobody : actor = none) :
      Move actor before { before with errands := before.errands ++ [errand] }
  | strides {id : ErrandId} (errand : Errand) (own : actor = some id) :
      Move actor before { before with errands := before.errands.set id errand }
  | answers {id : ErrandId} (result : Errand.Result) (own : actor = some id) :
      Move actor before { before with
        errands := before.errands.set id .ended
        results := before.results ++ [(id, result)] }
  | forgets {id : ErrandId} (key : String) (own : actor = some id) :
      Move actor before { before with
        metrics := before.metrics.record (.nodeRemoved key)
        errands := before.errands.set id .ended
        results := before.results ++ [(id, .flag true)] }
  | clears (nobody : actor = none) : Move actor before { before with results := [] }

def Moves (actor : Option ErrandId) : Affairs → Affairs → Prop :=
  Relation.ReflTransGen (Move actor)

end Affairs

namespace World

def Shifts (actor : Option ErrandId) (before after : World) : Prop :=
  Affairs.Moves actor before.affairs after.affairs

namespace Shifts

variable {actor : Option ErrandId} {before middle after : World}

theorem refl (world : World) : world.Shifts actor world := Relation.ReflTransGen.refl

theorem trans (one : before.Shifts actor middle) (two : middle.Shifts actor after) :
    before.Shifts actor after :=
  Relation.ReflTransGen.trans one two

theorem same (same : after.affairs = before.affairs) : before.Shifts actor after := by
  unfold Shifts
  rw [same]
  exact .refl

theorem stands (shifts : before.Shifts actor middle) (same : after.affairs = middle.affairs) :
    before.Shifts actor after :=
  shifts.trans (.same same)

theorem move {affairs : Affairs} (move : Affairs.Move actor before.affairs affairs)
    (same : after.affairs = affairs) : before.Shifts actor after := by
  unfold Shifts
  rw [same]
  exact .single move

theorem rewires (rewires : before.Rewires after) : before.Shifts actor after :=
  .move (.wires rewires.moves) rewires.apart

end Shifts

/-! ### Jobs and callbacks -/

theorem affairs_startJobs (world : World) (result : Scheduler × List JobId) :
    (world.startJobs result).affairs =
      { world.affairs with scheduler := result.1.untimed } := by
  simp only [startJobs]
  rw [affairs_wakeAll]
  rfl

theorem affairs_endJob (world : World) (job : JobId) :
    (world.endJob job).affairs =
      { world.affairs with scheduler := (world.affairs.scheduler.remove job).1 } := by
  simp only [endJob]
  rw [affairs_emit, affairs_startJobs, Scheduler.untimed_remove]
  rfl

theorem affairs_addJob? {world later : World} {process : JobId → Process} {job : JobId}
    (added : world.addJob? process = some (later, job)) :
    job = world.jobs.length ∧ ∃ scheduler given,
      world.affairs.scheduler.offer? world.jobs.length = some (scheduler, given) ∧
        later.affairs = { world.affairs with
          scheduler, jobs := world.jobs ++ [process world.jobs.length] } := by
  simp only [addJob?] at added
  split at added
  next => cases added
  next scheduler given offered =>
    cases added
    refine ⟨rfl, scheduler.untimed, given, Scheduler.untimed_offer? offered, ?_⟩
    rw [affairs_wakeProcess]
    rfl

section Walk

variable {actor : Option ErrandId}

theorem shifts_turnTimer (world : World) (id : TimerId) :
    world.Shifts actor (world.turnTimer id) := by
  unfold turnTimer
  split
  next scheduler event fired _ =>
    have untimed : affairs { world with scheduler } = world.affairs := by
      simp only [affairs, Scheduler.untimed_fire? fired]
    simp only
    split
    next => exact .same untimed
    next later job added =>
      obtain ⟨_, left, given, offered, same⟩ := affairs_addJob? added
      have jobs : ({ world with scheduler } : World).jobs = world.affairs.jobs := rfl
      rw [untimed, jobs] at offered same
      exact .move (.calls offered) same
  next => exact .refl world

theorem shifts_turnCallback {world : World} {job : JobId}
    (own : world.jobs[job]? = some (.callback job)) :
    world.Shifts actor (world.turnCallback job) := by
  unfold turnCallback
  split
  next => exact .move (.calledBack own) (affairs_endJob _ job)
  next => exact .refl world

/-! ### Submitting -/

theorem affairs_refuse (world : World) (options : RequestOptions) :
    ((world.begun options).refuse (world.contexts.length + 1)).affairs =
      { world.affairs with contexts := world.affairs.contexts ++ [RequestContext.resolve {
          id := world.affairs.contexts.length + 1
          started := world.now
          timeout := Run.timeoutOf world.setup.registry options } world.now
            (.error .sessionClosed)] } := by
  have last := modify_last world.contexts {
    id := world.contexts.length + 1
    started := world.now
    timeout := Run.timeoutOf world.setup.registry options } fun context =>
      context.resolve world.now (.error .sessionClosed)
  have refused : ((world.begun options).refuse (world.contexts.length + 1)).affairs =
      { world.affairs with
        contexts := (world.begun options).contexts.modify world.contexts.length
          fun context => context.resolve world.now (.error .sessionClosed) } := rfl
  rw [refused]
  simp only [begun]
  rw [last]
  rfl

theorem affairs_addTask (world : World) (context : Nat) (request : Request)
    (options : RequestOptions) :
    (world.addTask context request options).1.affairs =
      { world.affairs with tasks := world.affairs.tasks ++ [{ context, request, options }] } := by
  simp only [addTask]
  rw [affairs_wakeProcess]
  simp [affairs, RequestTask.plain]

theorem affairs_updateTask {change inner : RequestTask → RequestTask}
    (within : ∀ task, (change task).plain = inner task.plain) (world : World) (id : TaskId) :
    (world.updateTask id change).affairs =
      { world.affairs with tasks := world.affairs.tasks.modify id inner } := by
  simp only [affairs, updateTask]
  rw [map_modify within]

theorem shifts_offer (world : World) (request : Request) (options : RequestOptions) :
    world.Shifts actor
      ((world.begun options).offer (world.contexts.length + 1) request options) := by
  have refused := affairs_refuse world options
  simp only [offer]
  split
  next => exact .move (.refuses _ _) refused
  next unclosed =>
    split
    next => exact .move (.refuses _ _) refused
    next later job added =>
      obtain ⟨rfl, scheduler, given, offered, same⟩ := affairs_addJob? added
      have began : (world.begun options).affairs = { world.affairs with
          contexts := world.affairs.contexts ++ [{
            id := world.affairs.contexts.length + 1
            started := world.now
            timeout := Run.timeoutOf world.setup.registry options }] } := rfl
      have jobs : (world.begun options).jobs = world.affairs.jobs := rfl
      have length : (world.begun options).tasks.length = world.affairs.tasks.length :=
        (List.length_map _).symm
      rw [jobs] at offered
      rw [jobs, length] at same
      rw [jobs, length]
      have none : world.affairs.closing = none :=
        Option.not_isSome_iff_eq_none.1 (unclosed : ¬world.closing.isSome = true)
      let assign (task : RequestTask) := { task with job := some world.affairs.jobs.length }
      have assigned := @affairs_updateTask assign assign fun _ => rfl
      refine .move (.accepts world.now (Run.timeoutOf world.setup.registry options) request options
        none offered) ?_
      rw [assigned, affairs_addTask, same, began]
      simp only
      rw [modify_last]
      rfl

theorem shifts_cancelContext (world : World) (number : Nat) :
    world.Shifts actor (world.cancelContext number) :=
  .move (.cancels number) (affairs_emit _ _)

/-! ### Requests that are dropped -/

theorem abandonAll_rewires (world : World) (id : TaskId) (run : Run) :
    world.Rewires (run.abandonAll (cluster id) world).2 :=
  Run.abandonAll_holds (cluster_rewires world id) run (.refl world)

theorem abortTask_spec (world : World) (id : TaskId) :
    ∃ wiring, world.affairs.toWiring.Moves wiring ∧ (world.abortTask id).affairs =
      { world.affairs with
        toWiring := wiring, tasks := world.affairs.tasks.modify id RequestTask.abort } := by
  have aborts := @affairs_updateTask RequestTask.abort RequestTask.abort fun _ => rfl
  unfold abortTask
  split
  next missing =>
    have beyond : world.affairs.tasks.length ≤ id := by
      rw [show world.affairs.tasks.length = world.tasks.length from List.length_map _]
      exact List.getElem?_eq_none_iff.1 missing
    refine ⟨world.affairs.toWiring, .refl, ?_⟩
    rw [List.modify_eq_self beyond]
  next task _ =>
    simp only
    split
    next run _ =>
      obtain ⟨moves, apart⟩ := abandonAll_rewires world id run
      refine ⟨_, moves, ?_⟩
      rw [affairs_clearAlarms]
      refine (aborts _ id).trans ?_
      rw [apart]
    next =>
      refine ⟨world.affairs.toWiring, .refl, ?_⟩
      rw [affairs_clearAlarms]
      exact aborts world id

theorem abortJob_spec (world : World) (job : JobId) :
    ∃ wiring, world.affairs.toWiring.Moves wiring ∧ (world.abortJob job).affairs =
      { world.affairs with
        toWiring := wiring, tasks := dropped world.affairs.jobs [job] world.affairs.tasks } := by
  unfold abortJob
  have jobs : world.affairs.jobs[job]? = world.jobs[job]? := rfl
  split
  next task given =>
    obtain ⟨wiring, moves, same⟩ := abortTask_spec world task
    refine ⟨wiring, moves, same.trans ?_⟩
    simp only [dropped, List.foldl_cons, List.foldl_nil, jobs, given]
  next other =>
    refine ⟨world.affairs.toWiring, .refl, ?_⟩
    simp only [dropped, List.foldl_cons, List.foldl_nil, jobs]

theorem abortJobs_spec (left : List JobId) (world : World) :
    ∃ wiring, world.affairs.toWiring.Moves wiring ∧ (left.foldl abortJob world).affairs =
      { world.affairs with
        toWiring := wiring, tasks := dropped world.affairs.jobs left world.affairs.tasks } := by
  induction left generalizing world with
  | nil => exact ⟨_, .refl, rfl⟩
  | cons job rest ih =>
    obtain ⟨first, moves, same⟩ := abortJob_spec world job
    obtain ⟨last, more, dropped⟩ := ih (world.abortJob job)
    rw [same] at more dropped
    exact ⟨last, Relation.ReflTransGen.trans moves more, dropped⟩

/-! ### Closing -/

/-- Something is done for a shutdown, before it is noted how far the shutdown is. -/
structure Works (actor : Option ErrandId) (before after : World) : Prop where
  shifts : before.Shifts actor after
  closing : after.closing = before.closing

namespace Works

variable {before middle after : World}

theorem refl (world : World) : world.Works actor world := ⟨.refl world, rfl⟩

theorem trans (one : before.Works actor middle) (two : middle.Works actor after) :
    before.Works actor after :=
  ⟨one.shifts.trans two.shifts, two.closing.trans one.closing⟩

theorem rewires (rewires : before.Rewires after) : before.Works actor after :=
  ⟨.rewires rewires, congrArg (·.closing) rewires.apart⟩

theorem stands (works : before.Works actor middle) (same : after.affairs = middle.affairs) :
    before.Works actor after :=
  works.trans (.rewires (.same same))

theorem foldl {α : Type} {step : World → α → World}
    (each : ∀ world part, Works actor world (step world part)) (parts : List α) (world : World) :
    world.Works actor (parts.foldl step world) := by
  induction parts generalizing world with
  | nil => exact .refl world
  | cons part rest ih => exact (each world part).trans (ih (step world part))

theorem notes {closing : ClosingSession} (works : before.Works actor middle)
    (underWay : before.closing = some closing) (after : ClosingSession) :
    before.Shifts actor { middle with closing := some after } :=
  works.shifts.trans (.move (.closes after (works.closing.trans underWay)) rfl)

end Works

theorem works_drops {world : World} {scheduler : Scheduler}
    (idle : scheduler.waiting = [] ∧ scheduler.running = []) {left : List JobId}
    (all : left = world.scheduler.running ++ world.scheduler.waiting) :
    world.Works actor (left.foldl abortJob { world with scheduler }) := by
  obtain ⟨wiring, moves, same⟩ := abortJobs_spec left { world with scheduler }
  have drops : Affairs.Move actor world.affairs { world.affairs with
      scheduler := scheduler.untimed
      tasks := dropped world.affairs.jobs left world.affairs.tasks } := by
    rw [all]
    exact .drops scheduler.untimed idle
  have rewired : Affairs.Move actor { world.affairs with
      scheduler := scheduler.untimed
      tasks := dropped world.affairs.jobs left world.affairs.tasks } { world.affairs with
        toWiring := wiring
        scheduler := scheduler.untimed
        tasks := dropped world.affairs.jobs left world.affairs.tasks } := .wires moves
  refine ⟨?_, congrArg (·.closing) same⟩
  unfold Shifts
  rw [same]
  exact .tail (.single drops) rewired

theorem works_closeScheduler (world : World) (closing : ClosingSession) (waiter : Waker) :
    world.Works actor (world.closeScheduler closing waiter).1 := by
  unfold closeScheduler
  split
  next => exact .refl world
  next =>
    split
    next => exact (Works.refl world).stands (affairs_await world _ waiter)
    next scheduler report left ended =>
      have given : (scheduler.waiting = [] ∧ scheduler.running = []) ∧
          left = world.scheduler.running ++ world.scheduler.waiting := by
        unfold Scheduler.endShutdown? at ended
        split at ended
        next =>
          simp only at ended
          split at ended
          next =>
            cases ended
            exact ⟨⟨rfl, rfl⟩, rfl⟩
          next => cases ended
        next => cases ended
      exact works_drops given.1 given.2

theorem rewires_closeMember (world : World) (started : Nat) (entry : ClosingPool)
    (waiter : Waker) : world.Rewires (world.closeMember started entry waiter).1 := by
  unfold closeMember
  split
  next => exact .refl world
  next =>
    cases entry.closing with
    | some channels => exact .same (affairs_awaitClosed world channels waiter)
    | none => exact (rewires_closePool world entry.pool).stands (affairs_awaitClosed _ _ waiter)

theorem rewires_closeMembers (world : World) (started : Nat) (waiter : Waker)
    (entries : List ClosingPool) :
    world.Rewires (world.closeMembers started waiter entries).1 := by
  induction entries generalizing world with
  | nil => exact .refl world
  | cons entry rest ih => exact (rewires_closeMember world started entry waiter).trans (ih _)

theorem shifts_finishClosing {world : World} {earlier : ClosingSession}
    (underWay : world.closing = some earlier) (closing : ClosingSession) :
    world.Shifts actor (world.finishClosing closing).1 := by
  have dropped : world.Works actor (if closing.scheduler.finished.isSome then world
      else world.scheduler.dropJobs.2.foldl abortJob
        { world with scheduler := world.scheduler.dropJobs.1 }) := by
    split
    next => exact .refl world
    next => exact works_drops ⟨rfl, rfl⟩ rfl
  have noted {later : World} (works : world.Works actor later) (report : Option ShutdownReport) :
      world.Shifts actor
        { later with tracking := false, closing := some { closing with report } } :=
    (works.notes underWay { closing with report }).stands rfl
  simp only [finishClosing]
  refine Shifts.stands (noted ?_ _) (affairs_emit _ _)
  split
  next => exact dropped
  next =>
    refine dropped.trans (.foldl (fun world (entry : ClosingPool) => ?_) closing.pools _)
    exact .rewires (rewires_forceClosePool world entry.pool)

theorem shifts_continueClosing {world : World} {closing : ClosingSession}
    (underWay : world.closing = some closing) (waiter : Waker) :
    world.Shifts actor (world.continueClosing closing waiter).1 := by
  have scheduled : world.Works actor (world.closeScheduler closing waiter).1 :=
    works_closeScheduler world closing waiter
  simp only [continueClosing]
  generalize world.closeScheduler closing waiter = ended at scheduled ⊢
  have closed := rewires_closeMembers ended.1 ended.2.started waiter ended.2.pools
  generalize ended.1.closeMembers ended.2.started waiter ended.2.pools = members at closed ⊢
  have worked := scheduled.trans (.rewires closed)
  split
  next => exact worked.shifts.trans (shifts_finishClosing (worked.closing.trans underWay) _)
  next => exact (worked.notes underWay _).stands (affairs_await _ _ _)

theorem shifts_beginClosing {world : World} (unclosed : world.closing = none)
    (quietPeriod timeout : Nat) (waiter : Waker) :
    world.Shifts actor (world.beginClosing quietPeriod timeout waiter) := by
  simp only [beginClosing]
  have kept : ((world.scheduler.beginShutdown? world.now quietPeriod).getD
        world.scheduler).waiting = world.scheduler.waiting ∧
      ((world.scheduler.beginShutdown? world.now quietPeriod).getD
        world.scheduler).running = world.scheduler.running ∧
      (((world.scheduler.beginShutdown? world.now quietPeriod).getD
        world.scheduler).isTerminated = true → world.scheduler.isTerminated = true) := by
    unfold Scheduler.beginShutdown?
    split
    next => exact ⟨rfl, rfl, fun ended => ended⟩
    next => exact ⟨rfl, rfl, nofun⟩
  generalize (world.scheduler.beginShutdown? world.now quietPeriod).getD world.scheduler =
    scheduler at kept ⊢
  rw [Shifts, affairs_setAlarm, affairs_setAlarm]
  exact .single (.begins _ scheduler.untimed unclosed kept.1 kept.2.1 kept.2.2)

theorem shifts_finishErrand {world later : World} {id : ErrandId}
    (shifts : world.Shifts (some id) later) (result : Errand.Result) :
    world.Shifts (some id) (later.finishErrand id result) :=
  shifts.trans (.move (.answers result rfl) rfl)

theorem shifts_setErrand {world later : World} {id : ErrandId}
    (shifts : world.Shifts (some id) later) (errand : Errand) :
    world.Shifts (some id) (later.setErrand id errand) :=
  shifts.trans (.move (.strides errand rfl) rfl)

theorem shifts_pursueClosing (world : World) (id : ErrandId) (quietPeriod timeout : Nat) :
    world.Shifts (some id) (world.pursueClosing id quietPeriod timeout) := by
  have begun : world.Shifts (some id) (if world.closing.isSome then world
      else world.beginClosing quietPeriod timeout { process := .errand id }) := by
    split
    next => exact .refl world
    next unclosed => exact shifts_beginClosing (by simpa using unclosed) _ _ _
  simp only [pursueClosing]
  generalize (if world.closing.isSome then world
    else world.beginClosing quietPeriod timeout { process := .errand id }) = later at begun ⊢
  split
  next => exact begun
  next closing underWay =>
    split
    next => exact shifts_finishErrand begun _
    next =>
      have goesOn : later.Shifts (some id)
          (later.continueClosing closing { process := .errand id }).1 :=
        shifts_continueClosing underWay _
      split
      next given =>
        rw [given] at goesOn
        exact shifts_finishErrand (begun.trans goesOn) _
      next given =>
        rw [given] at goesOn
        exact begun.trans goesOn

/-! ### Other errands -/

theorem shifts_pursueConnect (world : World) (id : ErrandId) (address : SocketAddress)
    (limits : ChannelLimits) (authenticator : Option Authenticator) (attempt : Connecting) :
    world.Shifts (some id) (world.pursueConnect id address limits authenticator attempt) := by
  have tried : world.Shifts (some id) (world.continueConnecting attempt).2 :=
    .same (affairs_continueConnecting world attempt)
  unfold pursueConnect
  split
  next given =>
    rw [given] at tried
    exact shifts_setErrand tried _
  next given =>
    rw [given] at tried
    exact shifts_finishErrand tried _
  next given =>
    rw [given] at tried
    exact shifts_finishErrand (tried.trans (.rewires (rewires_addLink _ _ _))) _

theorem shifts_pursueReply (world : World) (id : ErrandId) (handle : Handle) (timeout : Nat)
    (due : Option Nat) : world.Shifts (some id) (world.pursueReply id handle timeout due) := by
  have asked : world.Shifts (some id) (world.takeReply handle { process := .errand id }).2 :=
    .same (affairs_takeReply world handle _)
  simp only [pursueReply]
  split
  next given =>
    rw [given] at asked
    exact shifts_finishErrand asked _
  next given =>
    rw [given] at asked
    split
    next => exact shifts_finishErrand (asked.trans (.rewires (rewires_abandon _ _))) _
    next => exact (shifts_setErrand asked _).stands rfl

theorem shifts_pursueAcquire (world : World) (id : ErrandId) (pool : PoolId) :
    world.Shifts (some id) (world.pursueAcquire id pool) := by
  unfold pursueAcquire
  split
  next => exact .refl world
  next =>
    split
    next => exact .same (affairs_await world _ _)
    next => exact shifts_finishErrand (.refl world) _

theorem shifts_pursueClosed {id : ErrandId} {finish : World → World}
    (finishes : ∀ world, Shifts (some id) world (finish world))
    (world : World) (channels : List ChannelId) (waiting : List ChannelId → Errand) :
    world.Shifts (some id) (world.pursueClosed id channels waiting finish) := by
  have waits : world.Shifts (some id) (world.awaitClosed channels { process := .errand id }).1 :=
    .same (affairs_awaitClosed world channels _)
  unfold pursueClosed
  split
  next given =>
    rw [given] at waits
    exact waits.trans (finishes _)
  next given =>
    rw [given] at waits
    exact shifts_setErrand waits _

theorem shifts_pursueRemoval (world : World) (id : ErrandId) (address : SocketAddress)
    (forgets : Bool) (channels : List ChannelId) :
    world.Shifts (some id) (world.pursueRemoval id address forgets channels) := by
  unfold pursueRemoval
  apply shifts_pursueClosed
  intro later
  split
  next => exact .move (.forgets address.text rfl) rfl
  next => exact shifts_finishErrand (.refl later) _

theorem shifts_pursueConnectAll {id : ErrandId} {finish : World → Nat → World}
    (finishes : ∀ world up, Shifts (some id) world (finish world up)) (world : World)
    (progress : ConnectingAll) (waiting : ConnectingAll → Errand) :
    world.Shifts (some id) (world.pursueConnectAll id progress waiting finish) := by
  have waits : world.Shifts (some id)
      (world.continueConnectingAll progress { process := .errand id }).1 :=
    .same (affairs_continueConnectingAll world progress _)
  unfold pursueConnectAll
  split
  next given =>
    rw [given] at waits
    exact waits.trans (finishes _ _)
  next given =>
    rw [given] at waits
    exact shifts_setErrand waits _

theorem rewires_finishOpening (world : World) (config : DriverConfig) (up : Nat) :
    world.Rewires (world.finishOpening config up).1 := by
  unfold finishOpening
  split
  next => exact (Rewires.foldl rewires_forceClosePool world.tracker.pools world).stands rfl
  next => exact .same rfl

theorem shifts_pursueOpening (world : World) (id : ErrandId) (config : DriverConfig)
    (progress : ConnectingAll) :
    world.Shifts (some id) (world.pursueOpening id config progress) := by
  unfold pursueOpening
  apply shifts_pursueConnectAll
  intro later up
  exact shifts_finishErrand (.rewires (rewires_finishOpening later config up)) _

end Walk

end World

end Simulation

end ClusterDriver
