import ClusterDriver.Simulation.Pools

set_option autoImplicit false

namespace ClusterDriver.Simulation

namespace World

def poolOf (world : World) (id : NodeId) : Except String PoolId × World :=
  match world.tracker.node? id with
  | none => (.error "node is unknown", world)
  | some node =>
      if !node.isPoolable then (.error ("node is " ++ node.state.text), world)
      else
        match node.pool with
        | some pool => (.ok pool, world)
        | none =>
            let limits := PoolLimits.ofSettings world.setup.pool (node.distance = .near)
            let (world, pool) := world.addPool node.address limits world.setup.authenticator
            (.ok pool, { world with
              tracker := world.tracker.update { node with pool := some pool } })

def changeNodes (world : World) (tracker : Tracker) (events : List NodeEvent) : World :=
  let listeners := world.listeners.map fun listener =>
    if listener.stopped then listener else { listener with pending := listener.pending ++ events }
  let world := { world with tracker, listeners, nodeEvents := world.nodeEvents ++ events }
  if events.isEmpty then world
  else world.wakeAll ((List.range listeners.length).map Process.listener)

def turnTracking (world : World) : World :=
  if !world.tracking then world
  else
    let events := world.poolEvents
    events.foldl (fun world event =>
      let (tracker, events) := world.tracker.onPoolEvent event
      (world.changeNodes tracker events).emit .eventsApplied) { world with poolEvents := [] }

def startJobs (world : World) (result : Scheduler × List JobId) : World :=
  { world with scheduler := result.1 }.wakeAll
    (result.2.filterMap fun job => world.jobs[job]?)

def addJob? (world : World) (process : JobId → Process) : Option (World × JobId) :=
  let job := world.jobs.length
  match world.scheduler.offer? job with
  | none => none
  | some (scheduler, _) =>
      some ({ world with scheduler, jobs := world.jobs ++ [process job] }.wakeProcess (process job),
        job)

def endJob (world : World) (job : JobId) : World :=
  (world.startJobs (world.scheduler.remove job)).emit .jobOver

def addListener (world : World) : World :=
  { world with listeners := world.listeners ++ [{}] }

def addCallbackTimer? (world : World) (event : NodeEvent) : Option World :=
  let timer := world.callbackTimers.length
  match world.scheduler.addTimer? timer with
  | none => none
  | some scheduler =>
      some ({ world with
        scheduler, callbackTimers := world.callbackTimers ++ [event] }.wakeProcess (.timer timer))

def callBackAll (world : World) : List NodeEvent → World × Bool
  | [] => (world, true)
  | event :: rest =>
      match world.addCallbackTimer? event with
      | none => (world, false)
      | some world => callBackAll world rest

def turnListener (world : World) (id : ListenerId) : World :=
  match world.listeners[id]? with
  | none => world
  | some listener =>
      let (world, accepted) := world.callBackAll listener.pending
      { world with listeners := world.listeners.set id { stopped := !accepted } }

def turnTimer (world : World) (id : TimerId) : World :=
  -- The callback of a timer becomes a job.
  match world.scheduler.fire? id, world.callbackTimers[id]? with
  | some scheduler, some event =>
      let fired := { world with scheduler }
      match fired.addJob? .callback with
      | none => fired
      | some (world, job) => { world with callbacks := world.callbacks ++ [(job, event)] }
  | _, _ => world

def turnCallback (world : World) (job : JobId) : World :=
  if job ∈ world.scheduler.running then
    { world with calledBack := world.calledBack ++ (world.callbacks.lookup job).toList }.endJob job
  else world

def openPools (world : World) : List Node → World × List PoolId
  | [] => (world, [])
  | node :: rest =>
      match world.poolOf node.id with
      | (.ok pool, world) =>
          let (world, pools) := openPools world rest
          (world, pool :: pools)
      | (.error _, world) => openPools world rest

def startConnectingAll (world : World) (timeout : Nat) : World × ConnectingAll :=
  let (world, pools) := world.openPools world.tracker.present
  (world, { pools, deadline := world.now + timeout })

def settled (world : World) (progress : ConnectingAll) (waiter : Waker) :
    World × ConnectingAll × Bool :=
  -- The states are compared once, and again whenever an event has been applied.
  let (world, ready) :=
    if progress.seen.isSome then (world, true) else world.awaitReady progress.pools waiter
  if !ready then (world, progress, false)
  else
    let applied := world.tracker.applied
    if progress.seen ≠ some applied ∧ world.tracker.statesMatchPools world.poolState then
      (world, progress, true)
    else (world.await .eventsApplied waiter, { progress with seen := some applied }, false)

def continueConnectingAll (world : World) (progress : ConnectingAll) (waiter : Waker) :
    World × Except ConnectingAll Nat :=
  match world.settled progress waiter with
  | (world, _, true) => (world, .ok world.tracker.upCount)
  | (world, progress, false) =>
      if progress.deadline ≤ world.now then (world, .ok world.tracker.upCount)
      else (world.setAlarm progress.deadline waiter, .error progress)

end World

end ClusterDriver.Simulation
