import ClusterDriver.Simulation.Turns

set_option autoImplicit false

namespace ClusterDriver

namespace Scheduler

def untimed (scheduler : Scheduler) : Scheduler := { scheduler with timers := [], armed := [] }

theorem untimed_addTimer? {scheduler later : Scheduler} {timer : TimerId}
    (added : scheduler.addTimer? timer = some later) : later.untimed = scheduler.untimed := by
  unfold addTimer? at added
  split at added
  next => cases added
  next =>
    cases added
    rfl

theorem untimed_fire? {scheduler later : Scheduler} {timer : TimerId}
    (fired : scheduler.fire? timer = some later) : later.untimed = scheduler.untimed := by
  unfold fire? at fired
  split at fired
  next =>
    cases fired
    rfl
  next => cases fired

end Scheduler

namespace Simulation

structure Cord where
  channel : Channel
  pool : Option PoolId

def Link.cord (link : Link) : Cord := ⟨link.channel, link.pool⟩

/-- A request whatever its turn, be it waiting for a worker or running. -/
def RequestTask.plain (task : RequestTask) : RequestTask :=
  { task with run := task.run.map fun run => { run with woken := [] } }

structure Wiring where
  cords : List Cord
  pools : List Pool
  tracker : Tracker

structure Affairs extends Wiring where
  metrics : Metrics
  contexts : List RequestContext
  tasks : List RequestTask
  scheduler : Scheduler
  jobs : List Process
  closing : Option ClosingSession
  errands : List Errand
  results : List (ErrandId × Errand.Result)

namespace World

def affairs (world : World) : Affairs where
  cords := world.links.map Link.cord
  pools := world.pools.map (·.pool)
  tracker := world.tracker
  metrics := world.metrics
  contexts := world.contexts
  tasks := world.tasks.map RequestTask.plain
  scheduler := world.scheduler.untimed
  jobs := world.jobs
  closing := world.closing
  errands := world.errands
  results := world.results

@[simp]
theorem affairs_mk {agenda signals network servers services delayedReplies sightings expected setup
    tracking poolEvents nodeEvents listeners calledBack robin plansMade retryCalls callbackTimers
    callbacks} (world : World) :
    affairs {
      agenda, signals, network, servers, services, delayedReplies, sightings, expected, setup,
      tracking, poolEvents, nodeEvents, listeners, calledBack, robin, plansMade, retryCalls,
      callbackTimers, callbacks
      links := world.links, pools := world.pools, tracker := world.tracker
      metrics := world.metrics, contexts := world.contexts, tasks := world.tasks
      scheduler := world.scheduler, jobs := world.jobs, closing := world.closing
      errands := world.errands, results := world.results } = world.affairs :=
  rfl

theorem affairs_foldl {α : Type} {step : World → α → World}
    (each : ∀ world part, (step world part).affairs = world.affairs) (parts : List α)
    (world : World) : (parts.foldl step world).affairs = world.affairs := by
  induction parts generalizing world with
  | nil => rfl
  | cons part rest ih => exact (ih (step world part)).trans (each world part)

theorem map_modify_of_same {α β : Type} {view : α → β} {change : α → α}
    (same : ∀ part, view (change part) = view part) (parts : List α) (index : Nat) :
    (parts.modify index change).map view = parts.map view := by
  apply List.ext_getElem?
  intro other
  simp only [List.getElem?_map, List.getElem?_modify, Option.map_eq_map, Option.map_map]
  congr 1
  funext part
  simp only [Function.comp_apply]
  split
  next => exact same part
  next => rfl

theorem map_modify {α β : Type} {view : α → β} {change : α → α} {inner : β → β}
    (within : ∀ part, view (change part) = inner (view part)) (parts : List α) (index : Nat) :
    (parts.modify index change).map view = (parts.map view).modify index inner := by
  apply List.ext_getElem?
  intro other
  simp only [List.getElem?_map, List.getElem?_modify, Option.map_eq_map, Option.map_map]
  congr 1
  funext part
  simp only [Function.comp_apply]
  split
  next => exact within part
  next => rfl

theorem modify_last {α : Type} (parts : List α) (part : α) (change : α → α) :
    (parts ++ [part]).modify parts.length change = parts ++ [change part] := by
  induction parts with
  | nil => rfl
  | cons first rest ih => exact congrArg (first :: ·) ih

@[simp]
theorem affairs_wake (world : World) (waker : Waker) :
    (world.wake waker).affairs = world.affairs := by
  have plain (execution : Nat) (task : RequestTask) :
      RequestTask.plain { task with run := task.run.map (Run.wake · execution) } = task.plain := by
    cases underWay : task.run with
    | none => simp [RequestTask.plain, underWay]
    | some run =>
      simp only [RequestTask.plain, underWay, Option.map_some, Run.wake]
      split <;> rfl
  unfold wake
  split
  next =>
    simp only [affairs]
    rw [map_modify_of_same (plain _)]
  next => rfl

@[simp]
theorem affairs_wakeProcess (world : World) (process : Process) :
    (world.wakeProcess process).affairs = world.affairs :=
  affairs_wake world _

@[simp]
theorem affairs_wakeAll (world : World) (processes : List Process) :
    (world.wakeAll processes).affairs = world.affairs :=
  affairs_foldl affairs_wakeProcess processes world

@[simp]
theorem affairs_setAlarm (world : World) (due : Nat) (waker : Waker) :
    (world.setAlarm due waker).affairs = world.affairs :=
  rfl

@[simp]
theorem affairs_dismissAlarms (world : World) (waker : Waker) :
    (world.dismissAlarms waker).affairs = world.affairs :=
  rfl

@[simp]
theorem affairs_clearAlarms (world : World) (process : Process) :
    (world.clearAlarms process).affairs = world.affairs :=
  rfl

@[simp]
theorem affairs_await (world : World) (signal : Signal) (waker : Waker) :
    (world.await signal waker).affairs = world.affairs := by
  unfold await
  split <;> rfl

@[simp]
theorem affairs_emit (world : World) (signal : Signal) :
    (world.emit signal).affairs = world.affairs := by
  have each (world : World) (entry : Signal × Waker) :
      (world.wake entry.2).affairs = world.affairs := affairs_wake world entry.2
  simp [emit, affairs_foldl each]

@[simp]
theorem affairs_notice (world : World) (process : Process) :
    (world.notice process).affairs = world.affairs :=
  rfl

@[simp]
theorem affairs_withNetwork (world : World) (result : Network × List Process) :
    (world.withNetwork result).affairs = world.affairs := by
  simp [withNetwork, affairs_foldl affairs_notice]

@[simp]
theorem affairs_closeSocket (world : World) (socket : SocketId) :
    (world.closeSocket socket).affairs = world.affairs :=
  affairs_withNetwork world _

@[simp]
theorem affairs_hangUp (world : World) (socket : SocketId) :
    (world.hangUp socket).affairs = world.affairs :=
  affairs_withNetwork world _

@[simp]
theorem affairs_writeFrame (world : World) (socket : SocketId) (frame : Frame) :
    (world.writeFrame socket frame).1.affairs = world.affairs := by
  unfold writeFrame
  split
  next => exact affairs_withNetwork world _
  next => rfl

theorem affairs_written {world later : World} {socket : SocketId} {frame : Frame} {written : Bool}
    (wrote : world.writeFrame socket frame = (later, written)) :
    later.affairs = world.affairs := by
  rw [← affairs_writeFrame world socket frame, wrote]

@[simp]
theorem affairs_startConnecting (world : World) (owner : Process) (address : SocketAddress)
    (limits : ChannelLimits) (authenticator : Option Authenticator) :
    (world.startConnecting owner address limits authenticator).2.affairs = world.affairs := by
  unfold startConnecting
  split
  next => rfl
  next =>
    simp only
    split
    next =>
      cases (world.network.connect address owner).1 with
      | none => exact affairs_withNetwork world _
      | some socket => simp
    next => simp

theorem affairs_shakeHands (limit : Nat) (world : World) (attempt : Connecting)
    (socket : SocketId) (reader : FrameReader) (earlier : List AuthPrompt) :
    (shakeHands limit world attempt socket reader earlier).2.affairs = world.affairs := by
  induction limit generalizing world reader earlier with
  | zero => rfl
  | succ limit ih =>
    simp only [shakeHands]
    split
    next => split <;> simp
    next => simp
    next => simp
    next =>
      split
      next => simp
      next => simp
      next =>
        split
        next wrote => simp [ih, affairs_written wrote]
        next wrote => simp [affairs_written wrote]

@[simp]
theorem affairs_continueConnecting (world : World) (attempt : Connecting) :
    (world.continueConnecting attempt).2.affairs = world.affairs := by
  unfold continueConnecting
  split
  next => rfl
  next =>
    split
    next wrote => simp [affairs_shakeHands, affairs_written wrote]
    next wrote => simp [affairs_written wrote]
  next => exact affairs_shakeHands _ _ _ _ _ _

@[simp]
theorem affairs_release (world : World) (id : ChannelId) :
    (world.release id).affairs = world.affairs := by
  unfold release
  split
  next => exact affairs_wakeProcess world _
  next => rfl

@[simp]
theorem affairs_takeReply (world : World) (handle : Handle) (waiter : Waker) :
    (world.takeReply handle waiter).2.affairs = world.affairs := by
  unfold takeReply
  split
  next => rfl
  next =>
    split
    next => simp
    next => rfl

@[simp]
theorem affairs_deliver (world : World) (id : ChannelId) (answer : RequestId × Reply) :
    (world.deliver id answer).affairs = world.affairs := by
  simp only [deliver]
  split
  next => rfl
  next => split <;> simp

@[simp]
theorem affairs_awaitClosed (world : World) (channels : List ChannelId) (waiter : Waker) :
    (world.awaitClosed channels waiter).1.affairs = world.affairs := by
  have awaits (world : World) (channel : ChannelId) :
      (world.await (.channelClosed channel) waiter).affairs = world.affairs :=
    affairs_await world _ waiter
  unfold awaitClosed
  split
  next => rfl
  next => simp [affairs_foldl awaits]

@[simp]
theorem affairs_awaitReady (world : World) (pools : List PoolId) (waiter : Waker) :
    (world.awaitReady pools waiter).1.affairs = world.affairs := by
  have awaits (world : World) (pool : PoolId) :
      (world.await (.poolState pool) waiter).affairs = world.affairs :=
    affairs_await world _ waiter
  unfold awaitReady
  split
  next => rfl
  next => simp [affairs_foldl awaits]

@[simp]
theorem affairs_settled (world : World) (progress : ConnectingAll) (waiter : Waker) :
    (world.settled progress waiter).1.affairs = world.affairs := by
  simp only [settled]
  split
  next =>
    split
    next => rfl
    next => split <;> simp
  next =>
    split
    next => simp
    next => split <;> simp

@[simp]
theorem affairs_continueConnectingAll (world : World) (progress : ConnectingAll) (waiter : Waker) :
    (world.continueConnectingAll progress waiter).1.affairs = world.affairs := by
  have settled := affairs_settled world progress waiter
  unfold continueConnectingAll
  split
  next given =>
    rw [given] at settled
    exact settled
  next given =>
    rw [given] at settled
    split <;> simpa using settled

theorem affairs_updatePool {change : PoolService → PoolService}
    (same : ∀ service, (change service).pool = service.pool) (world : World) (pool : PoolId) :
    (world.updatePool pool change).affairs = world.affairs := by
  simp only [affairs, updatePool]
  rw [map_modify_of_same same]

@[simp]
theorem affairs_setStage (world : World) (id : PoolId) (stage : ManagerStage) :
    (world.setStage id stage).affairs = world.affairs := by
  apply affairs_updatePool
  intro service
  rfl

@[simp]
theorem affairs_callBackAll (world : World) (events : List NodeEvent) :
    (world.callBackAll events).1.affairs = world.affairs := by
  induction events generalizing world with
  | nil => rfl
  | cons event rest ih =>
    simp only [callBackAll, addCallbackTimer?]
    cases added : world.scheduler.addTimer? world.callbackTimers.length with
    | none => rfl
    | some scheduler =>
      simp only
      rw [ih, affairs_wakeProcess]
      simp [affairs, Scheduler.untimed_addTimer? added]

@[simp]
theorem affairs_turnListener (world : World) (id : ListenerId) :
    (world.turnListener id).affairs = world.affairs := by
  unfold turnListener
  split
  next => rfl
  next => simp

@[simp]
theorem affairs_countRetryCall (world : World) (profile : String) :
    (world.countRetryCall profile).affairs = world.affairs := by
  unfold countRetryCall
  split <;> rfl

def begun (world : World) (options : RequestOptions) : World :=
  { world with contexts := world.contexts ++ [{
      id := world.contexts.length + 1
      started := world.now
      timeout := Run.timeoutOf world.setup.registry options }] }

@[simp]
theorem affairs_makePlan (world : World) (key : Option ByteArray) :
    (world.makePlan key).2.affairs = world.affairs := by
  simp only [makePlan, makePlan?]
  split <;> rfl

@[simp]
theorem affairs_updateServer (world : World) (server : ServerId) (change : Server → Server) :
    (world.updateServer server change).affairs = world.affairs :=
  rfl

@[simp]
theorem affairs_startServer (world : World) (id : ServerId) :
    (world.startServer id).affairs = world.affairs := by
  unfold startServer
  split <;> simp

@[simp]
theorem affairs_restartServer (world : World) (id : ServerId) :
    (world.restartServer id).1.affairs = world.affairs := by
  unfold restartServer
  split
  next => rfl
  next => split <;> simp

@[simp]
theorem affairs_turnAcceptor (limit : Nat) (world : World) (id : ServerId) :
    (turnAcceptor limit world id).affairs = world.affairs := by
  induction limit generalizing world with
  | zero => rfl
  | succ limit ih =>
    simp only [turnAcceptor]
    split
    next => rfl
    next => split <;> simp [ih]

@[simp]
theorem affairs_updateService (world : World) (socket : SocketId) (change : Service → Service) :
    (world.updateService socket change).affairs = world.affairs :=
  rfl

@[simp]
theorem affairs_closeUnused (world : World) (socket : SocketId) :
    (world.closeUnused socket).affairs = world.affairs := by
  simp only [closeUnused]
  split <;> simp

@[simp]
theorem affairs_endService (world : World) (socket : SocketId) :
    (world.endService socket).affairs = world.affairs := by
  simp [endService]

@[simp]
theorem affairs_writeFrames (world : World) (socket : SocketId) (frames : List Frame) :
    (world.writeFrames socket frames).1.affairs = world.affairs := by
  induction frames generalizing world with
  | nil => rfl
  | cons frame rest ih =>
    unfold writeFrames
    split
    next wrote => rw [ih, affairs_written wrote]
    next wrote => exact affairs_written wrote

@[simp]
theorem affairs_addDelayedReply (world : World) (server : ServerId) (socket : SocketId)
    (delay : Nat) (frame : Frame) :
    (world.addDelayedReply server socket delay frame).affairs = world.affairs := by
  simp [addDelayedReply]

@[simp]
theorem affairs_serve (world : World) (service : Service) (frame : Frame) :
    (world.serve service frame).1.affairs = world.affairs := by
  unfold serve
  split
  next => rfl
  next =>
    simp only [affairs_writeFrames]
    split <;> simp

theorem affairs_served {world later : World} {service : Service} {frame : Frame} {goesOn : Bool}
    (served : world.serve service frame = (later, goesOn)) : later.affairs = world.affairs := by
  rw [← affairs_serve world service frame, served]

@[simp]
theorem affairs_sight (world : World) (service : Service) (sighting : Sighting) :
    (world.sight service sighting).affairs = world.affairs := by
  unfold sight
  split <;> rfl

@[simp]
theorem affairs_turnService (limit : Nat) (world : World) (socket : SocketId) :
    (turnService limit world socket).affairs = world.affairs := by
  induction limit generalizing world with
  | zero => rfl
  | succ limit ih =>
    simp only [turnService]
    split
    next => rfl
    next service _ =>
      split
      next => rfl
      next =>
        split
        next => simp
        next => simp
        next => simp
        next =>
          split
          next served => simp [ih, affairs_served served]
          next served => simp [affairs_served served]

@[simp]
theorem affairs_turnDelayedReply (world : World) (id : DelayedReplyId) :
    (world.turnDelayedReply id).affairs = world.affairs := by
  unfold turnDelayedReply
  split
  next => rfl
  next =>
    split
    next => rfl
    next =>
      simp only
      split <;> simp

@[simp]
theorem affairs_stopServer (world : World) (id : ServerId) :
    (world.stopServer id).affairs = world.affairs := by
  unfold stopServer
  split
  next => rfl
  next => simp [affairs_foldl affairs_endService]

end World

end Simulation

end ClusterDriver
