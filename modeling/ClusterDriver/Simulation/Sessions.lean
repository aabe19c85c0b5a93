import ClusterDriver.Simulation.Requests

set_option autoImplicit false

namespace ClusterDriver.Simulation

namespace World

def isSessionClosed (world : World) : Bool := world.closing.isSome

def refuse (world : World) (context : Nat) : World :=
  -- A request that was not accepted is not counted.
  world.updateContext context fun context => context.resolve world.now (.error .sessionClosed)

def offer (world : World) (context : Nat) (request : Request) (options : RequestOptions) : World :=
  if world.isSessionClosed then world.refuse context
  else
    let task := world.tasks.length
    match world.addJob? fun _ => .request task with
    | none => world.refuse context
    | some (world, job) =>
        let (world, _) := world.addTask context request options
        world.updateTask task fun task => { task with job := some job }

def submit? (world : World) (request : Request) (options : RequestOptions) :
    Option (World × Nat) :=
  (world.beginContext? options).map fun (world, context) =>
    (world.offer context request options, context)

def outcome? (world : World) (context : Nat) : Option Outcome :=
  -- A request that was dropped without an outcome ends with the session.
  match (world.context? context).bind (·.outcome) with
  | some outcome => some outcome
  | none =>
      if world.tasks.any fun task => task.context = context && task.aborted then
        some (.untraced .sessionClosed)
      else none

def withConfig (world : World) (config : DriverConfig) : World :=
  { world with
    tracker := .ofConfig config
    setup := { world.setup with pool := config.pool, authenticator := config.auth.authenticator? }
    scheduler := .ofWorkers config.scheduler.workers }

def unreachableNodes (config : DriverConfig) : DriverError :=
  .connection s!"none of the {config.contactPoints.length} contact points could be reached"

def connectGrace : Nat := 1000

def finishOpening (world : World) (config : DriverConfig) (up : Nat) :
    World × Except DriverError Unit :=
  -- A session is open when at least one node is up; otherwise nothing is left of it.
  if up = 0 then
    ({ world.tracker.pools.foldl forceClosePool world with tracking := false },
      .error (unreachableNodes config))
  else ({ world with nodeEvents := [] }, .ok ())

def beginClosing (world : World) (quietPeriod timeout : Nat) (waiter : Waker) : World :=
  let member (pool : PoolId) : ShutdownMember := {
    name := "pool " ++ ((world.pool? pool).map (·.pool.address.text)).getD "" }
  let closing : ClosingSession := {
    started := world.now, timeout
    scheduler := { name := "scheduler" }
    pools := world.tracker.pools.map fun pool => { pool, member := member pool } }
  let scheduler := (world.scheduler.beginShutdown? world.now quietPeriod).getD world.scheduler
  ({ world with closing := some closing, scheduler }.setAlarm (world.now + timeout) waiter).setAlarm
    (world.now + quietPeriod) waiter

def closeScheduler (world : World) (closing : ClosingSession) (waiter : Waker) :
    World × ClosingSession :=
  if closing.scheduler.finished.isSome then (world, closing)
  else
    match world.scheduler.endShutdown? world.now with
    | none => (world.await .jobOver waiter, closing)
    | some (scheduler, report, left) =>
        let world := left.foldl abortJob { world with scheduler }
        let failure :=
          if report.isClean then none
          else some s!"{report.abortedTasks} tasks aborted after the quiet period"
        (world, { closing with scheduler := { closing.scheduler with
          finished := some (world.now - closing.started), failure } })

def closeMember (world : World) (started : Nat) (entry : ClosingPool) (waiter : Waker) :
    World × ClosingPool :=
  -- A pool is closed once the scheduler has ended.
  if entry.member.finished.isSome ∨ !world.scheduler.isTerminated then (world, entry)
  else
    let (world, channels) := match entry.closing with
      | some channels => (world, channels)
      | none => world.closePool entry.pool
    let (world, closed) := world.awaitClosed channels waiter
    let finished := if closed then some (world.now - started) else none
    (world, { entry with closing := some channels, member := { entry.member with finished } })

def closeMembers (world : World) (started : Nat) (waiter : Waker) :
    List ClosingPool → World × List ClosingPool
  | [] => (world, [])
  | entry :: rest =>
      let (world, entry) := world.closeMember started entry waiter
      let (world, rest) := closeMembers world started waiter rest
      (world, entry :: rest)

def membersOf (closing : ClosingSession) : List ShutdownMember :=
  closing.scheduler :: closing.pools.map (·.member)

def finishClosing (world : World) (closing : ClosingSession) : World × ShutdownReport :=
  -- What is not finished by now is closed by force.
  let report := ShutdownReport.ofMembers closing.timeout (membersOf closing)
  let world :=
    if closing.scheduler.finished.isSome then world
    else
      let (scheduler, left) := world.scheduler.dropJobs
      left.foldl abortJob { world with scheduler }
  let world :=
    if report.timedOut.isEmpty then world
    else closing.pools.foldl (fun world entry => world.forceClosePool entry.pool) world
  ({ world with tracking := false, closing := some { closing with report := some report } }.emit
    .shutdownOver, report)

def continueClosing (world : World) (closing : ClosingSession) (waiter : Waker) :
    World × Option ShutdownReport :=
  let (world, closing) := world.closeScheduler closing waiter
  let (world, pools) := world.closeMembers closing.started waiter closing.pools
  let closing := { closing with pools }
  let allFinished := (membersOf closing).all fun member => member.finished.isSome
  if allFinished ∨ closing.started + closing.timeout ≤ world.now then
    let (world, report) := world.finishClosing closing
    (world, some report)
  else
    ({ world with closing := some closing }.await .shutdownOver waiter, none)

end World

end ClusterDriver.Simulation
