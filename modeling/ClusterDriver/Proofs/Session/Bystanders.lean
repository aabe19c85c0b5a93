import ClusterDriver.Proofs.Session.Standing
import ClusterDriver.Proofs.Session.Affairs

set_option autoImplicit false

namespace ClusterDriver.Simulation

def Errand.Result.report? : Errand.Result → Option ShutdownReport
  | .report given => some given
  | _ => none

namespace World

def standing (world : World) : Standing where
  pools := world.pools.map (·.pool)
  tracker := world.tracker
  closing := world.closing
  told := world.results.filterMap (·.2.report?)

theorem standing_of_affairs {world later : World} (same : later.affairs = world.affairs) :
    later.standing = world.standing := by
  have seen (world : World) : world.standing = {
      pools := world.affairs.pools
      tracker := world.affairs.tracker
      closing := world.affairs.closing
      told := world.affairs.results.filterMap (·.2.report?) } := rfl
  rw [seen, seen, same]

@[simp]
theorem standing_mk {agenda signals network servers services delayedReplies sightings links expected
    setup tracking poolEvents nodeEvents listeners calledBack robin plansMade retryCalls metrics
    contexts tasks scheduler jobs callbackTimers callbacks errands} (world : World) :
    standing {
      agenda, signals, network, servers, services, delayedReplies, sightings, links, expected, setup,
      tracking, poolEvents, nodeEvents, listeners, calledBack, robin, plansMade, retryCalls, metrics,
      contexts, tasks, scheduler, jobs, callbackTimers, callbacks, errands
      pools := world.pools, tracker := world.tracker, closing := world.closing
      results := world.results } = world.standing :=
  rfl

theorem standing_foldl {α : Type} {step : World → α → World}
    (each : ∀ world part, (step world part).standing = world.standing) (parts : List α)
    (world : World) : (parts.foldl step world).standing = world.standing := by
  induction parts generalizing world with
  | nil => rfl
  | cons part rest ih => exact (ih (step world part)).trans (each world part)

@[simp]
theorem standing_wake (world : World) (waker : Waker) :
    (world.wake waker).standing = world.standing :=
  standing_of_affairs (affairs_wake world waker)

@[simp]
theorem standing_wakeProcess (world : World) (process : Process) :
    (world.wakeProcess process).standing = world.standing :=
  standing_of_affairs (affairs_wakeProcess world process)

@[simp]
theorem standing_wakeAll (world : World) (processes : List Process) :
    (world.wakeAll processes).standing = world.standing :=
  standing_of_affairs (affairs_wakeAll world processes)

@[simp]
theorem standing_setAlarm (world : World) (due : Nat) (waker : Waker) :
    (world.setAlarm due waker).standing = world.standing :=
  standing_of_affairs (affairs_setAlarm world due waker)

@[simp]
theorem standing_dismissAlarms (world : World) (waker : Waker) :
    (world.dismissAlarms waker).standing = world.standing :=
  standing_of_affairs (affairs_dismissAlarms world waker)

@[simp]
theorem standing_clearAlarms (world : World) (process : Process) :
    (world.clearAlarms process).standing = world.standing :=
  standing_of_affairs (affairs_clearAlarms world process)

@[simp]
theorem standing_await (world : World) (signal : Signal) (waker : Waker) :
    (world.await signal waker).standing = world.standing :=
  standing_of_affairs (affairs_await world signal waker)

@[simp]
theorem standing_emit (world : World) (signal : Signal) :
    (world.emit signal).standing = world.standing :=
  standing_of_affairs (affairs_emit world signal)

@[simp]
theorem standing_closeSocket (world : World) (socket : SocketId) :
    (world.closeSocket socket).standing = world.standing :=
  standing_of_affairs (affairs_closeSocket world socket)

@[simp]
theorem standing_hangUp (world : World) (socket : SocketId) :
    (world.hangUp socket).standing = world.standing :=
  standing_of_affairs (affairs_hangUp world socket)

@[simp]
theorem standing_writeFrame (world : World) (socket : SocketId) (frame : Frame) :
    (world.writeFrame socket frame).1.standing = world.standing :=
  standing_of_affairs (affairs_writeFrame world socket frame)

@[simp]
theorem standing_updateLink (world : World) (channel : ChannelId) (change : Link → Link) :
    (world.updateLink channel change).standing = world.standing :=
  rfl

@[simp]
theorem standing_updateContext (world : World) (id : Nat)
    (change : RequestContext → RequestContext) :
    (world.updateContext id change).standing = world.standing :=
  rfl

@[simp]
theorem standing_updateTask (world : World) (task : TaskId) (change : RequestTask → RequestTask) :
    (world.updateTask task change).standing = world.standing :=
  rfl

@[simp]
theorem standing_setErrand (world : World) (id : ErrandId) (errand : Errand) :
    (world.setErrand id errand).standing = world.standing :=
  rfl

@[simp]
theorem standing_record (world : World) (events : List Metrics.Event) :
    (world.record events).standing = world.standing :=
  rfl

theorem standing_finishErrand {result : Errand.Result} (other : result.report? = none) (world : World)
    (id : ErrandId) : (world.finishErrand id result).standing = world.standing := by
  simp [standing, finishErrand, setErrand, other]

@[simp]
theorem standing_begin (world : World) (errand : Errand) :
    (world.begin errand).1.standing = world.standing :=
  standing_wakeProcess _ _

theorem standing_modifyPool {change : PoolService → PoolService} {inner : Pool → Pool}
    (within : ∀ service, (change service).pool = inner service.pool) (world : World) (id : PoolId) :
    (world.updatePool id change).standing =
      { world.standing with pools := world.standing.pools.modify id inner } := by
  have kept : (world.pools.modify id change).map (·.pool) =
      (world.pools.map (·.pool)).modify id inner := by
    apply List.ext_getElem?
    intro other
    simp only [List.getElem?_map, List.getElem?_modify, Option.map_eq_map]
    cases world.pools[other]? with
    | none => rfl
    | some service =>
      simp only [Option.map_some]
      split
      next => rw [within]
      next => rfl
  simp only [standing, updatePool, kept]

theorem standing_updatePool {change : PoolService → PoolService}
    (same : ∀ service, (change service).pool = service.pool) (world : World) (pool : PoolId) :
    (world.updatePool pool change).standing = world.standing :=
  standing_of_affairs (affairs_updatePool same world pool)

@[simp]
theorem standing_startConnecting (world : World) (owner : Process) (address : SocketAddress)
    (limits : ChannelLimits) (authenticator : Option Authenticator) :
    (world.startConnecting owner address limits authenticator).2.standing = world.standing :=
  standing_of_affairs (affairs_startConnecting world owner address limits authenticator)

@[simp]
theorem standing_continueConnecting (world : World) (attempt : Connecting) :
    (world.continueConnecting attempt).2.standing = world.standing :=
  standing_of_affairs (affairs_continueConnecting world attempt)

@[simp]
theorem standing_addLink (world : World) (socket : SocketId) (limits : ChannelLimits)
    (pool : Option PoolId) : (world.addLink socket limits pool).1.standing = world.standing := by
  simp [addLink]

@[simp]
theorem standing_command (world : World) (id : ChannelId) (change : Channel → Channel) :
    (world.command id change).standing = world.standing := by
  simp [command]

theorem standing_send {world later : World} {id : ChannelId} {opcode : Opcode} {body : ByteArray}
    {handle : Handle} (sent : world.send id opcode body = .ok (later, handle)) :
    later.standing = world.standing := by
  unfold send at sent
  split at sent
  next => cases sent
  next =>
    split at sent
    next => cases sent
    next =>
      cases sent
      simp

@[simp]
theorem standing_takeReply (world : World) (handle : Handle) (waiter : Waker) :
    (world.takeReply handle waiter).2.standing = world.standing :=
  standing_of_affairs (affairs_takeReply world handle waiter)

@[simp]
theorem standing_abandon (world : World) (handle : Handle) :
    (world.abandon handle).standing = world.standing := by
  simp only [abandon]
  split
  next => simp
  next => rfl

@[simp]
theorem standing_closeChannel (world : World) (id : ChannelId) :
    (world.closeChannel id).standing = world.standing :=
  standing_command world id _

@[simp]
theorem standing_forceCloseChannel (world : World) (id : ChannelId) :
    (world.forceCloseChannel id).standing = world.standing :=
  standing_command world id _

@[simp]
theorem standing_deliver (world : World) (id : ChannelId) (answer : RequestId × Reply) :
    (world.deliver id answer).standing = world.standing :=
  standing_of_affairs (affairs_deliver world id answer)

@[simp]
theorem standing_apply (world : World) (id : ChannelId) (socket : SocketId)
    (reaction : Channel.Reaction) : (world.apply id socket reaction).standing = world.standing := by
  have writes (world : World) (frame : Frame) :
      (world.writeFrame socket frame).1.standing = world.standing :=
    standing_writeFrame world socket frame
  have delivers (world : World) (answer : RequestId × Reply) :
      (world.deliver id answer).standing = world.standing := standing_deliver world id answer
  simp only [apply]
  split
  next => simp [standing_foldl delivers, standing_foldl writes]
  next => simp [standing_foldl delivers, standing_foldl writes]

@[simp]
theorem standing_turnConnection (limit : Nat) (world : World) (id : ChannelId) :
    (turnConnection limit world id).standing = world.standing := by
  induction limit generalizing world with
  | zero =>
    unfold turnConnection
    split
    next => rfl
    next => split <;> simp
  | succ limit ih =>
    unfold turnConnection
    split
    next => rfl
    next =>
      split
      next => rfl
      next => split <;> simp [ih]

@[simp]
theorem standing_turnReader (limit : Nat) (world : World) (id : ChannelId) :
    (turnReader limit world id).standing = world.standing := by
  induction limit generalizing world with
  | zero => rfl
  | succ limit ih =>
    simp only [turnReader]
    split
    next => rfl
    next =>
      split
      next => rfl
      next => split <;> simp [ih]

@[simp]
theorem standing_awaitClosed (world : World) (channels : List ChannelId) (waiter : Waker) :
    (world.awaitClosed channels waiter).1.standing = world.standing :=
  standing_of_affairs (affairs_awaitClosed world channels waiter)

@[simp]
theorem standing_awaitReady (world : World) (pools : List PoolId) (waiter : Waker) :
    (world.awaitReady pools waiter).1.standing = world.standing :=
  standing_of_affairs (affairs_awaitReady world pools waiter)

@[simp]
theorem standing_continueConnectingAll (world : World) (progress : ConnectingAll) (waiter : Waker) :
    (world.continueConnectingAll progress waiter).1.standing = world.standing :=
  standing_of_affairs (affairs_continueConnectingAll world progress waiter)

@[simp]
theorem standing_setStage (world : World) (id : PoolId) (stage : ManagerStage) :
    (world.setStage id stage).standing = world.standing :=
  standing_of_affairs (affairs_setStage world id stage)

@[simp]
theorem standing_startJobs (world : World) (result : Scheduler × List JobId) :
    (world.startJobs result).standing = world.standing := by
  simp [startJobs]

theorem standing_addJob? {world later : World} {process : JobId → Process} {job : JobId}
    (added : world.addJob? process = some (later, job)) : later.standing = world.standing := by
  simp only [addJob?] at added
  split at added
  next => cases added
  next =>
    cases added
    simp

@[simp]
theorem standing_endJob (world : World) (job : JobId) :
    (world.endJob job).standing = world.standing := by
  simp [endJob]

@[simp]
theorem standing_turnListener (world : World) (id : ListenerId) :
    (world.turnListener id).standing = world.standing :=
  standing_of_affairs (affairs_turnListener world id)

@[simp]
theorem standing_turnTimer (world : World) (id : TimerId) :
    (world.turnTimer id).standing = world.standing := by
  unfold turnTimer
  split
  next =>
    simp only
    split
    next => rfl
    next added => simp [standing_addJob? added]
  next => rfl

@[simp]
theorem standing_turnCallback (world : World) (job : JobId) :
    (world.turnCallback job).standing = world.standing := by
  unfold turnCallback
  split
  next => simp
  next => rfl

@[simp]
theorem standing_countRetryCall (world : World) (profile : String) :
    (world.countRetryCall profile).standing = world.standing :=
  standing_of_affairs (affairs_countRetryCall world profile)

@[simp]
theorem standing_sendVia (world : World) (pool : PoolId) (opcode : Opcode) (body : ByteArray)
    (waiter : Waker) : (world.sendVia pool opcode body waiter).2.standing = world.standing := by
  unfold sendVia
  split
  next => rfl
  next =>
    split
    next => simp
    next => rfl
    next =>
      split
      next => rfl
      next sent => exact standing_send sent

@[simp]
theorem standing_makePlan (world : World) (key : Option ByteArray) :
    (world.makePlan key).2.standing = world.standing :=
  standing_of_affairs (affairs_makePlan world key)

@[simp]
theorem standing_begun (world : World) (options : RequestOptions) :
    (world.begun options).standing = world.standing :=
  rfl

@[simp]
theorem standing_cancelContext (world : World) (id : Nat) :
    (world.cancelContext id).standing = world.standing := by
  simp [cancelContext]

@[simp]
theorem standing_endTask (world : World) (id : TaskId) (task : RequestTask) :
    (world.endTask id task).standing = world.standing := by
  simp only [endTask]
  split <;> simp

@[simp]
theorem standing_keep (world : World) (id : TaskId) (task : RequestTask) (submission : Submission) :
    (world.keep id task submission).standing = world.standing := by
  simp only [keep]
  split <;> simp

@[simp]
theorem standing_holdTask (world : World) (id : TaskId) (task : RequestTask) :
    (world.holdTask id task).standing = world.standing := by
  unfold holdTask
  split
  next => rfl
  next =>
    simp only
    split <;> simp

@[simp]
theorem standing_addTask (world : World) (context : Nat) (request : Request)
    (options : RequestOptions) :
    (world.addTask context request options).1.standing = world.standing := by
  simp [addTask]

@[simp]
theorem standing_abortTask (world : World) (id : TaskId) :
    (world.abortTask id).standing = world.standing := by
  have abandons (world : World) (handle : Handle) :
      (world.abandon handle).standing = world.standing := standing_abandon world handle
  unfold abortTask
  split
  next => rfl
  next =>
    split
    next => simp [Run.abandonAll, cluster, standing_foldl abandons]
    next => simp

@[simp]
theorem standing_abortJob (world : World) (job : JobId) :
    (world.abortJob job).standing = world.standing := by
  unfold abortJob
  split <;> simp

@[simp]
theorem standing_refuse (world : World) (context : Nat) :
    (world.refuse context).standing = world.standing :=
  rfl

@[simp]
theorem standing_offer (world : World) (context : Nat) (request : Request)
    (options : RequestOptions) :
    (world.offer context request options).standing = world.standing := by
  simp only [offer]
  split
  next => simp
  next =>
    split
    next => simp
    next added => simp [standing_addJob? added]

@[simp]
theorem standing_startServer (world : World) (id : ServerId) :
    (world.startServer id).standing = world.standing :=
  standing_of_affairs (affairs_startServer world id)

@[simp]
theorem standing_restartServer (world : World) (id : ServerId) :
    (world.restartServer id).1.standing = world.standing :=
  standing_of_affairs (affairs_restartServer world id)

@[simp]
theorem standing_turnAcceptor (limit : Nat) (world : World) (id : ServerId) :
    (turnAcceptor limit world id).standing = world.standing :=
  standing_of_affairs (affairs_turnAcceptor limit world id)

@[simp]
theorem standing_turnService (limit : Nat) (world : World) (socket : SocketId) :
    (turnService limit world socket).standing = world.standing :=
  standing_of_affairs (affairs_turnService limit world socket)

@[simp]
theorem standing_turnDelayedReply (world : World) (id : DelayedReplyId) :
    (world.turnDelayedReply id).standing = world.standing :=
  standing_of_affairs (affairs_turnDelayedReply world id)

@[simp]
theorem standing_stopServer (world : World) (id : ServerId) :
    (world.stopServer id).standing = world.standing :=
  standing_of_affairs (affairs_stopServer world id)

end World

end ClusterDriver.Simulation
