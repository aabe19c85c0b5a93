import ClusterDriver.Request.Submission
import ClusterDriver.Simulation.Nodes

set_option autoImplicit false

namespace ClusterDriver.Simulation

namespace World

def profileCountsCalls (world : World) (profile : String) : Bool :=
  (world.setup.registry.find? profile).any (·.retry.countsCalls)

def callsOf (world : World) (profile : String) : Nat := (world.retryCalls.lookup profile).getD 0

def countRetryCall (world : World) (profile : String) : World :=
  -- Calls are only counted where it matters.
  if world.profileCountsCalls profile then
    { world with
      retryCalls := (profile, world.callsOf profile + 1)
        :: world.retryCalls.filter fun entry => entry.1 ≠ profile }
  else world

def sendVia (world : World) (pool : PoolId) (opcode : Opcode) (body : ByteArray) (waiter : Waker) :
    Option (Except String Handle) × World :=
  match world.pool? pool with
  | none => (some (.error "no pool"), world)
  | some service =>
      match service.pool.acquire? world.view with
      | none => (none, world.await (.poolState pool) waiter)
      | some (.error e) => (some (.error e.message), world)
      | some (.ok channel) =>
          match world.send channel opcode body with
          | .error e => (some (.error e.message), world)
          | .ok (world, handle) => (some (.ok handle), world)

def makePlan? (world : World) (key : Option ByteArray) : Option Plan × World :=
  let present := world.tracker.present
  match world.setup.balancing with
  | .standard =>
      -- The cursor moves on even if there is no plan.
      (world.robin.plan? key present world.tracker.ring, { world with robin := world.robin.advance })
  | .nowhere => (some ⟨[]⟩, world)
  | .reversed => (some ⟨present.reverse⟩, world)
  | .custom choose =>
      let chosen := choose world.plansMade key present world.tracker.ring
      (some ⟨chosen.filterMap world.tracker.node?⟩, { world with plansMade := world.plansMade + 1 })

def makePlan (world : World) (key : Option ByteArray) : Plan × World :=
  let (plan, world) := world.makePlan? key
  (plan.getD ⟨[]⟩, world)

def cluster (task : TaskId) : Cluster World where
  now := now
  plan := fun key world => world.makePlan key
  pool node world := world.poolOf node.id
  send? execution pool opcode body world :=
    world.sendVia pool opcode body ⟨.request task, some execution⟩
  reply? execution handle world := world.takeReply handle ⟨.request task, some execution⟩
  abandon handle world := world.abandon handle
  retryCalls profile world := world.callsOf profile
  countRetryCall profile world := world.countRetryCall profile
  alarm execution due world := world.setAlarm due ⟨.request task, execution⟩
  dismissAlarms execution world := world.dismissAlarms ⟨.request task, some execution⟩

def beginContext? (world : World) (options : RequestOptions) : Option (World × Nat) :=
  let id := world.contexts.length + 1
  let timeout := Run.timeoutOf world.setup.registry options
  (RequestContext.create? id world.now timeout).map fun context =>
    ({ world with contexts := world.contexts ++ [context] }, id)

def cancelContext (world : World) (id : Nat) : World :=
  (world.updateContext id (·.cancel)).emit (.cancelled id)

def endTask (world : World) (id : TaskId) (task : RequestTask) : World :=
  let world := world.updateTask id fun task => { task with isOver := true }
  let world := world.clearAlarms (.request id)
  match task.job with
  | some job => world.endJob job
  | none => world

def keep (world : World) (id : TaskId) (task : RequestTask) (submission : Submission) : World :=
  let world := world.updateContext task.context fun _ => submission.context
  let world := world.record submission.events
  let world := world.updateTask id fun task =>
    { task with run := submission.run, aborted := task.aborted || submission.isDropped }
  if submission.isOver then world.endTask id task else world

def breaksOff (world : World) (submission : Submission) : Bool :=
  (world.makePlan? submission.options.routingKey).1.isNone &&
    (Run.prepare world.setup.registry world.setup.codec submission.context submission.request
      submission.options).isOk

def runTask (world : World) (id : TaskId) (task : RequestTask) : World :=
  match world.context? task.context with
  | none => world
  | some context =>
      let submission : Submission := {
        request := task.request, options := task.options, context, run := task.run }
      let world := world.await (.cancelled task.context) { process := .request id }
      let setup := world.setup
      let (submission, world) :=
        if task.run.isSome then submission.poll (cluster id) world
        else if world.breaksOff submission then
          (submission.breakOff, (world.makePlan submission.options.routingKey).2)
        else submission.start (cluster id) setup.registry setup.codec world
      world.keep id task submission

def holdTask (world : World) (id : TaskId) (task : RequestTask) : World :=
  match world.context? task.context with
  | none => world
  | some context =>
      let submission : Submission := { request := task.request, options := task.options, context }
      let submission := submission.hold world.now
      if submission.isOver then world.keep id task submission
      else
        (world.await (.cancelled task.context) { process := .request id }).setAlarm
          context.deadline { process := .request id }

def turnRequest (world : World) (id : TaskId) : World :=
  match world.tasks[id]? with
  | none => world
  | some task =>
      if task.isOver then world
      else if task.job.any fun job => job ∈ world.scheduler.waiting then world.holdTask id task
      else world.runTask id task

def addTask (world : World) (context : Nat) (request : Request) (options : RequestOptions) :
    World × TaskId :=
  let id := world.tasks.length
  let task : RequestTask := { context, request, options }
  ({ world with tasks := world.tasks ++ [task] }.wakeProcess (.request id), id)

def abortTask (world : World) (id : TaskId) : World :=
  -- The context is left without an outcome.
  match world.tasks[id]? with
  | none => world
  | some task =>
      let world := match task.run with
        | some run => (run.abandonAll (cluster id) world).2
        | none => world
      (world.updateTask id fun task =>
        { task with run := none, isOver := true, aborted := true }).clearAlarms (.request id)

def abortJob (world : World) (job : JobId) : World :=
  match world.jobs[job]? with
  | some (.request task) => world.abortTask task
  | _ => world

end World

end ClusterDriver.Simulation
