import ClusterDriver.Proofs.Request.Surroundings
import ClusterDriver.Scenario.Cluster

set_option autoImplicit false

namespace ClusterDriver.Simulation

/-- The alarm at which this request runs out of time, if that is when it does. -/
def lastCall (id : TaskId) (due : Nat) : Alarm Waker := ⟨due, { process := .request id }⟩

namespace Agenda

def Sorted (agenda : Agenda Process Waker) : Prop :=
  agenda.alarms.Pairwise fun earlier later => earlier.due ≤ later.due

structure Minds (before after : Agenda Process Waker) : Prop where
  now : after.now = before.now
  ready : before.ready <+: after.ready
  alarms : ∀ id due, lastCall id due ∈ before.alarms → lastCall id due ∈ after.alarms
  sorted : before.Sorted → after.Sorted

variable {before middle after agenda : Agenda Process Waker}

theorem Minds.refl (agenda : Agenda Process Waker) : agenda.Minds agenda where
  now := rfl
  ready := List.prefix_rfl
  alarms _ _ member := member
  sorted sorted := sorted

theorem Minds.trans (one : before.Minds middle) (two : middle.Minds after) :
    before.Minds after where
  now := two.now.trans one.now
  ready := one.ready.trans two.ready
  alarms id due member := two.alarms id due (one.alarms id due member)
  sorted sorted := two.sorted (one.sorted sorted)

theorem minds_wake (agenda : Agenda Process Waker) (process : Process) :
    agenda.Minds (agenda.wake process) := by
  unfold wake
  split
  next => exact .refl agenda
  next => exact ⟨rfl, List.prefix_append _ _, fun _ _ member => member, fun sorted => sorted⟩

theorem minds_notice (agenda : Agenda Process Waker) (process : Process) :
    agenda.Minds (agenda.notice process) := by
  unfold notice
  split
  next => exact .refl agenda
  next => exact ⟨rfl, List.prefix_rfl, fun _ _ member => member, fun sorted => sorted⟩

theorem mem_insertAlarm {alarm other : Alarm Waker} {alarms : List (Alarm Waker)} :
    other ∈ insertAlarm alarm alarms ↔ other = alarm ∨ other ∈ alarms := by
  induction alarms with
  | nil => simp [insertAlarm]
  | cons first rest ih =>
    unfold insertAlarm
    split
    next =>
      simp only [List.mem_cons, ih]
      exact or_left_comm
    next => exact List.mem_cons

theorem sorted_insertAlarm (alarm : Alarm Waker) {alarms : List (Alarm Waker)}
    (sorted : alarms.Pairwise fun earlier later => earlier.due ≤ later.due) :
    (insertAlarm alarm alarms).Pairwise fun earlier later => earlier.due ≤ later.due := by
  induction alarms with
  | nil => exact List.pairwise_singleton _ _
  | cons first rest ih =>
    obtain ⟨least, sorted⟩ := List.pairwise_cons.1 sorted
    unfold insertAlarm
    split
    next earlier =>
      refine List.pairwise_cons.2 ⟨fun other member => ?_, ih sorted⟩
      rcases mem_insertAlarm.1 member with rfl | member
      · exact earlier
      · exact least other member
    next later =>
      refine List.pairwise_cons.2 ⟨fun other member => ?_, List.pairwise_cons.2 ⟨least, sorted⟩⟩
      rcases List.mem_cons.1 member with rfl | member
      · omega
      · exact Nat.le_trans (by omega) (least other member)

theorem mem_setAlarm (agenda : Agenda Process Waker) (due : Nat) (waker : Waker) :
    ⟨due, waker⟩ ∈ (agenda.setAlarm due waker).alarms := by
  unfold setAlarm
  split
  next member => exact member
  next => exact mem_insertAlarm.2 (.inl rfl)

theorem minds_setAlarm (agenda : Agenda Process Waker) (due : Nat) (waker : Waker) :
    agenda.Minds (agenda.setAlarm due waker) := by
  unfold setAlarm
  split
  next => exact .refl agenda
  next =>
    exact ⟨rfl, List.prefix_rfl, fun _ _ member => mem_insertAlarm.2 (.inr member),
      fun sorted => sorted_insertAlarm _ sorted⟩

theorem minds_clearAlarms {belongs : Waker → Bool}
    (spares : ∀ id, belongs { process := .request id } = false) (agenda : Agenda Process Waker) :
    agenda.Minds (agenda.clearAlarms belongs) where
  now := rfl
  ready := List.prefix_rfl
  alarms id due member := by
    refine List.mem_filter.2 ⟨member, ?_⟩
    simp [lastCall, spares id]
  sorted sorted := sorted.filter _

end Agenda

namespace World

structure Minds (before after : World) : Prop where
  agenda : before.agenda.Minds after.agenda
  tasks : after.tasks.length = before.tasks.length

variable {start world later : World}

theorem Minds.refl (world : World) : world.Minds world := ⟨.refl _, rfl⟩

theorem Minds.notes {agenda : Agenda Process Waker} (minds : start.Minds world)
    (next : world.agenda.Minds agenda) (same : later.agenda = agenda)
    (tasks : later.tasks.length = world.tasks.length) : start.Minds later where
  agenda := by
    rw [same]
    exact minds.agenda.trans next
  tasks := tasks.trans minds.tasks

@[simp]
theorem minds_mk {signals network servers services delayedReplies sightings links expected pools
    setup tracker tracking poolEvents nodeEvents listeners calledBack robin plansMade retryCalls
    metrics contexts scheduler jobs callbackTimers callbacks closing errands results} :
    start.Minds {
      agenda := world.agenda, tasks := world.tasks
      signals, network, servers, services, delayedReplies, sightings, links, expected, pools, setup,
      tracker, tracking, poolEvents, nodeEvents, listeners, calledBack, robin, plansMade, retryCalls,
      metrics, contexts, scheduler, jobs, callbackTimers, callbacks, closing, errands, results } ↔
    start.Minds world :=
  ⟨fun minds => ⟨minds.agenda, minds.tasks⟩, fun minds => ⟨minds.agenda, minds.tasks⟩⟩

theorem minds_foldl {α : Type} {step : World → α → World}
    (each : ∀ world part, start.Minds world → start.Minds (step world part)) (parts : List α)
    (minds : start.Minds world) : start.Minds (parts.foldl step world) := by
  induction parts generalizing world with
  | nil => exact minds
  | cons part rest ih => exact ih (each world part minds)

/-! ### Waking and waiting -/

@[simp]
theorem minds_wake (minds : start.Minds world) (waker : Waker) :
    start.Minds (world.wake waker) := by
  refine minds.notes (Agenda.minds_wake _ waker.process) ?_ ?_
  · unfold wake
    split <;> rfl
  · unfold wake
    split
    next => exact List.length_modify _ _ _
    next => rfl

@[simp]
theorem minds_wakeProcess (minds : start.Minds world) (process : Process) :
    start.Minds (world.wakeProcess process) :=
  minds_wake minds _

@[simp]
theorem minds_wakeAll (minds : start.Minds world) (processes : List Process) :
    start.Minds (world.wakeAll processes) :=
  minds_foldl (fun _ process minds => minds_wakeProcess minds process) processes minds

@[simp]
theorem minds_setAlarm (minds : start.Minds world) (due : Nat) (waker : Waker) :
    start.Minds (world.setAlarm due waker) :=
  minds.notes (Agenda.minds_setAlarm _ due waker) rfl rfl

@[simp]
theorem minds_dismissAlarms (minds : start.Minds world) (process : Process) (execution : Nat) :
    start.Minds (world.dismissAlarms ⟨process, some execution⟩) := by
  have cleared := @Agenda.minds_clearAlarms (fun other => other = ⟨process, some execution⟩)
    (fun id => by simp) world.agenda
  exact minds.notes cleared rfl rfl

theorem minds_clearAlarms (minds : start.Minds world) {process : Process}
    (other : ∀ id, process ≠ .request id) : start.Minds (world.clearAlarms process) := by
  have cleared := @Agenda.minds_clearAlarms (fun waker => waker.process = process)
    (fun id => by simpa using (other id).symm) world.agenda
  exact minds.notes cleared rfl rfl

@[simp]
theorem minds_await (minds : start.Minds world) (signal : Signal) (waker : Waker) :
    start.Minds (world.await signal waker) := by
  unfold await
  split <;> simp [minds]

@[simp]
theorem minds_emit (minds : start.Minds world) (signal : Signal) :
    start.Minds (world.emit signal) := by
  simp only [emit]
  exact minds_foldl (fun _ (entry : Signal × Waker) minds => minds_wake minds entry.2) _
    (minds_mk.2 minds)

/-! ### The network -/

@[simp]
theorem minds_notice (minds : start.Minds world) (process : Process) :
    start.Minds (world.notice process) :=
  minds.notes (Agenda.minds_notice _ process) rfl rfl

@[simp]
theorem minds_withNetwork (minds : start.Minds world) (result : Network × List Process) :
    start.Minds (world.withNetwork result) :=
  minds_foldl (fun _ process minds => minds_notice minds process) _ (minds_mk.2 minds)

@[simp]
theorem minds_closeSocket (minds : start.Minds world) (socket : SocketId) :
    start.Minds (world.closeSocket socket) :=
  minds_withNetwork minds _

@[simp]
theorem minds_hangUp (minds : start.Minds world) (socket : SocketId) :
    start.Minds (world.hangUp socket) :=
  minds_withNetwork minds _

@[simp]
theorem minds_writeFrame (minds : start.Minds world) (socket : SocketId) (frame : Frame) :
    start.Minds (world.writeFrame socket frame).1 := by
  unfold writeFrame
  split <;> simp [minds]

theorem minds_written {socket : SocketId} {frame : Frame} {written : Bool}
    (minds : start.Minds world) (wrote : world.writeFrame socket frame = (later, written)) :
    start.Minds later := by
  have wrote : (world.writeFrame socket frame).1 = later := congrArg Prod.fst wrote
  rw [← wrote]
  exact minds_writeFrame minds socket frame

/-! ### Connections -/

@[simp]
theorem minds_startConnecting (minds : start.Minds world) (owner : Process) (address : SocketAddress)
    (limits : ChannelLimits) (authenticator : Option Authenticator) :
    start.Minds (world.startConnecting owner address limits authenticator).2 := by
  unfold startConnecting
  split
  next => exact minds
  next =>
    simp only
    split
    next =>
      cases (world.network.connect address owner).1 with
      | none => exact minds_withNetwork minds _
      | some socket => exact minds_closeSocket (minds_withNetwork minds _) socket
    next => exact minds_setAlarm (minds_notice (minds_withNetwork minds _) owner) _ _

theorem minds_shakeHands (limit : Nat) (minds : start.Minds world) (attempt : Connecting)
    (socket : SocketId) (reader : FrameReader) (earlier : List AuthPrompt) :
    start.Minds (shakeHands limit world attempt socket reader earlier).2 := by
  induction limit generalizing world reader earlier with
  | zero => exact minds
  | succ limit ih =>
    simp only [shakeHands]
    split
    next => split <;> simp [minds]
    next => simp [minds]
    next => simp [minds]
    next =>
      split
      next => simp [minds]
      next => simp [minds]
      next =>
        split
        next wrote => exact ih (minds_written (minds_mk.2 minds) wrote) _ _
        next wrote => exact minds_closeSocket (minds_written (minds_mk.2 minds) wrote) _

@[simp]
theorem minds_continueConnecting (minds : start.Minds world) (attempt : Connecting) :
    start.Minds (world.continueConnecting attempt).2 := by
  unfold continueConnecting
  split
  next => exact minds
  next =>
    split
    next wrote => exact minds_shakeHands _ (minds_written minds wrote) _ _ _ _
    next wrote => exact minds_closeSocket (minds_written minds wrote) _
  next => exact minds_shakeHands _ minds _ _ _ _

@[simp]
theorem minds_addLink (minds : start.Minds world) (socket : SocketId) (limits : ChannelLimits)
    (pool : Option PoolId) : start.Minds (world.addLink socket limits pool).1 := by
  simp [addLink, minds]

@[simp]
theorem minds_updateLink (minds : start.Minds world) (id : ChannelId) (change : Link → Link) :
    start.Minds (world.updateLink id change) :=
  minds_mk.2 minds

@[simp]
theorem minds_command (minds : start.Minds world) (id : ChannelId) (change : Channel → Channel) :
    start.Minds (world.command id change) := by
  simp [command, minds]

theorem minds_send {id : ChannelId} {opcode : Opcode} {body : ByteArray} {handle : Handle}
    (minds : start.Minds world) (sent : world.send id opcode body = .ok (later, handle)) :
    start.Minds later := by
  unfold send at sent
  split at sent
  next => cases sent
  next =>
    split at sent
    next => cases sent
    next =>
      cases sent
      simp [minds]

@[simp]
theorem minds_release (minds : start.Minds world) (id : ChannelId) :
    start.Minds (world.release id) := by
  unfold release
  split <;> simp [minds]

@[simp]
theorem minds_takeReply (minds : start.Minds world) (handle : Handle) (waiter : Waker) :
    start.Minds (world.takeReply handle waiter).2 := by
  unfold takeReply
  split
  next => exact minds
  next => split <;> simp [minds]

@[simp]
theorem minds_abandon (minds : start.Minds world) (handle : Handle) :
    start.Minds (world.abandon handle) := by
  simp only [abandon]
  split <;> simp [minds]

@[simp]
theorem minds_closeChannel (minds : start.Minds world) (id : ChannelId) :
    start.Minds (world.closeChannel id) :=
  minds_command minds id _

@[simp]
theorem minds_forceCloseChannel (minds : start.Minds world) (id : ChannelId) :
    start.Minds (world.forceCloseChannel id) :=
  minds_command minds id _

@[simp]
theorem minds_deliver (minds : start.Minds world) (id : ChannelId) (answer : RequestId × Reply) :
    start.Minds (world.deliver id answer) := by
  simp only [deliver]
  split
  next => exact minds
  next => split <;> simp [minds]

@[simp]
theorem minds_apply (minds : start.Minds world) (id : ChannelId) (socket : SocketId)
    (reaction : Channel.Reaction) : start.Minds (world.apply id socket reaction) := by
  have written := minds_foldl (fun world frame minds => minds_writeFrame minds socket frame)
    reaction.frames (minds_updateLink minds id fun link =>
      { link with channel := reaction.channel })
  have delivered {world : World} (minds : start.Minds world) :=
    minds_foldl (fun world answer minds => minds_deliver minds id answer) reaction.replies minds
  simp only [apply]
  split
  next => exact delivered written
  next =>
    refine minds_clearAlarms ?_ nofun
    exact minds_hangUp (minds_updateLink (delivered (minds_emit written _)) _ _) _

@[simp]
theorem minds_turnConnection (limit : Nat) (minds : start.Minds world) (id : ChannelId) :
    start.Minds (turnConnection limit world id) := by
  induction limit generalizing world with
  | zero =>
    unfold turnConnection
    split
    next => exact minds
    next => split <;> simp [minds]
  | succ limit ih =>
    unfold turnConnection
    split
    next => exact minds
    next =>
      split
      next => exact minds
      next =>
        split
        next => simp [minds]
        next =>
          have cleared : start.Minds (world.clearAlarms (.connection id)) :=
            minds_clearAlarms minds nofun
          exact ih (minds_apply (minds_updateLink cleared _ _) _ _ _)

@[simp]
theorem minds_turnReader (limit : Nat) (minds : start.Minds world) (id : ChannelId) :
    start.Minds (turnReader limit world id) := by
  induction limit generalizing world with
  | zero => exact minds
  | succ limit ih =>
    simp only [turnReader]
    split
    next => exact minds
    next =>
      split
      next => exact minds
      next =>
        split
        next => exact minds_updateLink (minds_mk.2 minds) _ _
        next => exact ih (minds_wakeProcess (minds_updateLink (minds_mk.2 minds) _ _) _)
        next => exact minds_wakeProcess (minds_updateLink (minds_mk.2 minds) _ _) _
        next => exact minds_wakeProcess (minds_updateLink (minds_mk.2 minds) _ _) _

/-! ### Pools -/

@[simp]
theorem minds_updatePool (minds : start.Minds world) (id : PoolId)
    (change : PoolService → PoolService) : start.Minds (world.updatePool id change) :=
  minds_mk.2 minds

@[simp]
theorem minds_addPool (minds : start.Minds world) (address : SocketAddress) (limits : PoolLimits)
    (authenticator : Option Authenticator) :
    start.Minds (world.addPool address limits authenticator).1 :=
  minds_wakeProcess (minds_mk.2 minds) _

@[simp]
theorem minds_changePool (minds : start.Minds world) (id : PoolId)
    (result : Pool × List PoolEvent) : start.Minds (world.changePool id result) := by
  have told : start.Minds (if result.2.isEmpty then
      world.updatePool id fun service => { service with pool := result.1 }
    else wakeProcess { world.updatePool id fun service => { service with pool := result.1 } with
      poolEvents := world.poolEvents ++ result.2 } .tracking) := by
    split
    next => exact minds_updatePool minds _ _
    next => exact minds_wakeProcess (minds_mk.2 (minds_updatePool minds id _)) _
  simp only [changePool]
  split
  next => exact told
  next => exact minds_emit told _

@[simp]
theorem minds_setStage (minds : start.Minds world) (id : PoolId) (stage : ManagerStage) :
    start.Minds (world.setStage id stage) :=
  minds_updatePool minds _ _

@[simp]
theorem minds_connectFailed (minds : start.Minds world) (id : PoolId) (service : PoolService)
    (cause : ChannelError) : start.Minds (world.connectFailed id service cause) :=
  minds_changePool (minds_clearAlarms (minds_updatePool minds _ _) fun _ => by simp) _ _

@[simp]
theorem minds_addToPool (minds : start.Minds world) (id : PoolId) (service : PoolService)
    (socket : SocketId) : start.Minds (world.addToPool id service socket) := by
  have cleared : start.Minds (world.clearAlarms (.manager id)) := minds_clearAlarms minds nofun
  have linked := minds_updatePool (minds_addLink cleared socket service.pool.limits.channel
    (some id)) id fun service =>
      { service with schedule := service.schedule.reset, stage := .looking }
  simp only [addToPool]
  split
  next => exact minds_forceCloseChannel linked _
  next => exact minds_wakeProcess (minds_changePool linked _ _) _

@[simp]
theorem minds_turnManager (limit : Nat) (minds : start.Minds world) (id : PoolId) :
    start.Minds (turnManager limit world id) := by
  induction limit generalizing world with
  | zero => exact minds
  | succ limit ih =>
    unfold turnManager
    split
    next => exact minds
    next service _ =>
      split
      next => exact minds
      next =>
        split
        next => exact minds_setStage minds _ _
        next =>
          split
          next =>
            have tried := minds_startConnecting minds (.manager id) service.pool.address
              service.pool.limits.channel service.authenticator
            split
            next given =>
              rw [given] at tried
              exact ih (minds_connectFailed tried _ _ _)
            next given =>
              rw [given] at tried
              exact minds_setStage tried _ _
          next => exact ih (minds_setStage minds _ _)
      next =>
        split
        next => exact ih (minds_updatePool minds _ _)
        next => exact minds
      next attempt _ =>
        have tried := minds_continueConnecting minds attempt
        split
        next given =>
          rw [given] at tried
          exact minds_setStage tried _ _
        next given =>
          rw [given] at tried
          exact ih (minds_connectFailed tried _ _ _)
        next given =>
          rw [given] at tried
          exact ih (minds_addToPool tried _ _ _)
      next =>
        split
        next => exact ih (minds_setStage minds _ _)
        next => exact minds_setAlarm minds _ _

@[simp]
theorem minds_turnWatcher (minds : start.Minds world) (channel : ChannelId) :
    start.Minds (world.turnWatcher channel) := by
  have lost (id : PoolId) : start.Minds (world.loseChannel id channel) := by
    unfold loseChannel
    split
    next => exact minds
    next service _ =>
      split
      next => exact minds
      next =>
        have noticed := minds_updatePool (minds_changePool minds id
          (service.pool.removeChannel world.view channel)) id fun service =>
            { service with noticed := true }
        simp only
        split
        next => exact minds_wakeProcess noticed _
        next => exact noticed
  unfold turnWatcher
  split
  next => exact minds
  next =>
    split
    next => exact lost _
    next => exact minds_await minds _ _

@[simp]
theorem minds_beginClosePool (minds : start.Minds world) (id : PoolId) :
    start.Minds (world.beginClosePool id).1 := by
  unfold beginClosePool
  split
  next => exact minds
  next service _ =>
    refine minds_clearAlarms (minds_emit (minds_updatePool ?_ _ _) _) fun _ same => by cases same
    split
    next attempt _ =>
      cases attempt.stage.socket? with
      | none => exact minds
      | some socket => exact minds_closeSocket minds socket
    next => exact minds

@[simp]
theorem minds_closePool (minds : start.Minds world) (id : PoolId) :
    start.Minds (world.closePool id).1 :=
  minds_foldl (fun _ channel minds => minds_closeChannel minds channel) _
    (minds_beginClosePool minds id)

@[simp]
theorem minds_forceClosePool (minds : start.Minds world) (id : PoolId) :
    start.Minds (world.forceClosePool id) := by
  simp only [forceClosePool]
  split
  next => exact minds_beginClosePool minds id
  next =>
    exact minds_foldl (fun _ channel minds => minds_forceCloseChannel minds channel) _
      (minds_beginClosePool minds id)

@[simp]
theorem minds_awaitClosed (minds : start.Minds world) (channels : List ChannelId)
    (waiter : Waker) : start.Minds (world.awaitClosed channels waiter).1 := by
  unfold awaitClosed
  split
  next => exact minds
  next => exact minds_foldl (fun _ _ minds => minds_await minds _ waiter) _ minds

@[simp]
theorem minds_awaitReady (minds : start.Minds world) (pools : List PoolId) (waiter : Waker) :
    start.Minds (world.awaitReady pools waiter).1 := by
  unfold awaitReady
  split
  next => exact minds
  next => exact minds_foldl (fun _ _ minds => minds_await minds _ waiter) _ minds

/-! ### Nodes and jobs -/

@[simp]
theorem minds_poolOf (minds : start.Minds world) (id : NodeId) :
    start.Minds (world.poolOf id).2 := by
  unfold poolOf
  split
  next => exact minds
  next =>
    split
    next => exact minds
    next =>
      split
      next => exact minds
      next => exact minds_mk.2 (minds_addPool minds _ _ _)

@[simp]
theorem minds_changeNodes (minds : start.Minds world) (tracker : Tracker)
    (events : List NodeEvent) : start.Minds (world.changeNodes tracker events) := by
  simp only [changeNodes]
  split
  next => exact minds_mk.2 minds
  next => exact minds_wakeAll (minds_mk.2 minds) _

@[simp]
theorem minds_turnTracking (minds : start.Minds world) : start.Minds world.turnTracking := by
  simp only [turnTracking]
  split
  next => exact minds
  next =>
    exact minds_foldl (fun _ _ minds => minds_emit (minds_changeNodes minds _ _) _) _
      (minds_mk.2 minds)

@[simp]
theorem minds_endJob (minds : start.Minds world) (job : JobId) :
    start.Minds (world.endJob job) :=
  minds_emit (minds_wakeAll (minds_mk.2 minds) _) _

theorem minds_addJob? {process : JobId → Process} {job : JobId} (minds : start.Minds world)
    (added : world.addJob? process = some (later, job)) : start.Minds later := by
  simp only [addJob?] at added
  split at added
  next => cases added
  next =>
    cases added
    exact minds_wakeProcess (minds_mk.2 minds) _

@[simp]
theorem minds_turnListener (minds : start.Minds world) (id : ListenerId) :
    start.Minds (world.turnListener id) := by
  have calls (events : List NodeEvent) {world : World} (minds : start.Minds world) :
      start.Minds (world.callBackAll events).1 := by
    induction events generalizing world with
    | nil => exact minds
    | cons event rest ih =>
      simp only [callBackAll, addCallbackTimer?]
      cases world.scheduler.addTimer? world.callbackTimers.length with
      | none => exact minds
      | some scheduler => exact ih (minds_wakeProcess (minds_mk.2 minds) _)
  unfold turnListener
  split
  next => exact minds
  next => exact minds_mk.2 (calls _ minds)

@[simp]
theorem minds_turnTimer (minds : start.Minds world) (id : TimerId) :
    start.Minds (world.turnTimer id) := by
  unfold turnTimer
  split
  next =>
    simp only
    split
    next => exact minds_mk.2 minds
    next added => exact minds_mk.2 (minds_addJob? (minds_mk.2 minds) added)
  next => exact minds

@[simp]
theorem minds_turnCallback (minds : start.Minds world) (job : JobId) :
    start.Minds (world.turnCallback job) := by
  unfold turnCallback
  split
  next => exact minds_endJob (minds_mk.2 minds) job
  next => exact minds

@[simp]
theorem minds_startConnectingAll (minds : start.Minds world) (timeout : Nat) :
    start.Minds (world.startConnectingAll timeout).1 := by
  have opens (nodes : List Node) {world : World} (minds : start.Minds world) :
      start.Minds (world.openPools nodes).1 := by
    induction nodes generalizing world with
    | nil => exact minds
    | cons node rest ih =>
      have pooled := minds_poolOf minds node.id
      unfold openPools
      split
      next given =>
        rw [given] at pooled
        exact ih pooled
      next given =>
        rw [given] at pooled
        exact ih pooled
  exact opens _ minds

@[simp]
theorem minds_continueConnectingAll (minds : start.Minds world) (progress : ConnectingAll)
    (waiter : Waker) : start.Minds (world.continueConnectingAll progress waiter).1 := by
  have compared {world : World} (minds : start.Minds world) : start.Minds
      (if progress.seen ≠ some world.tracker.applied ∧
          world.tracker.statesMatchPools world.poolState then (world, progress, true)
        else (world.await .eventsApplied waiter,
          { progress with seen := some world.tracker.applied }, false)).1 := by
    split
    next => exact minds
    next => exact minds_await minds _ _
  have settled : start.Minds (world.settled progress waiter).1 := by
    simp only [World.settled]
    split
    next =>
      split
      next => exact minds
      next => exact compared minds
    next =>
      split
      next => exact minds_awaitReady minds _ _
      next => exact compared (minds_awaitReady minds _ _)
  unfold continueConnectingAll
  split
  next given =>
    rw [given] at settled
    exact settled
  next given =>
    rw [given] at settled
    split
    next => exact settled
    next => exact minds_setAlarm settled _ _

/-! ### Servers -/

@[simp]
theorem minds_startServer (minds : start.Minds world) (id : ServerId) :
    start.Minds (world.startServer id) := by
  unfold startServer
  split
  next => exact minds
  next => exact minds_wakeProcess (minds_mk.2 minds) _

@[simp]
theorem minds_restartServer (minds : start.Minds world) (id : ServerId) :
    start.Minds (world.restartServer id).1 := by
  unfold restartServer
  split
  next => exact minds
  next => split <;> simp [minds]

@[simp]
theorem minds_turnAcceptor (limit : Nat) (minds : start.Minds world) (id : ServerId) :
    start.Minds (turnAcceptor limit world id) := by
  induction limit generalizing world with
  | zero => exact minds
  | succ limit ih =>
    simp only [turnAcceptor]
    split
    next => exact minds
    next =>
      split
      next => exact minds
      next => exact ih (minds_notice (minds_mk.2 minds) _)

@[simp]
theorem minds_updateService (minds : start.Minds world) (socket : SocketId)
    (change : Service → Service) : start.Minds (world.updateService socket change) :=
  minds_mk.2 minds

@[simp]
theorem minds_closeUnused (minds : start.Minds world) (socket : SocketId) :
    start.Minds (world.closeUnused socket) := by
  simp only [closeUnused]
  split <;> simp [minds]

@[simp]
theorem minds_endService (minds : start.Minds world) (socket : SocketId) :
    start.Minds (world.endService socket) :=
  minds_closeUnused (minds_updateService minds _ _) _

@[simp]
theorem minds_serve (minds : start.Minds world) (service : Service) (frame : Frame) :
    start.Minds (world.serve service frame).1 := by
  have writes (frames : List Frame) {world : World} (minds : start.Minds world) :
      start.Minds (world.writeFrames service.socket frames).1 := by
    induction frames generalizing world with
    | nil => exact minds
    | cons frame rest ih =>
      unfold writeFrames
      split
      next wrote => exact ih (minds_written minds wrote)
      next wrote => exact minds_written minds wrote
  unfold serve
  split
  next => exact minds
  next =>
    refine writes _ ?_
    split
    next => exact minds_wakeProcess (minds_mk.2 (minds_updateService (minds_mk.2 minds) _ _)) _
    next => exact minds_updateService (minds_mk.2 minds) _ _

theorem minds_served {service : Service} {frame : Frame} {goesOn : Bool}
    (minds : start.Minds world) (served : world.serve service frame = (later, goesOn)) :
    start.Minds later := by
  have served : (world.serve service frame).1 = later := congrArg Prod.fst served
  rw [← served]
  exact minds_serve minds service frame

@[simp]
theorem minds_sight (minds : start.Minds world) (service : Service) (sighting : Sighting) :
    start.Minds (world.sight service sighting) := by
  unfold sight
  split
  next => exact minds_mk.2 minds
  next => exact minds

@[simp]
theorem minds_turnService (limit : Nat) (minds : start.Minds world) (socket : SocketId) :
    start.Minds (turnService limit world socket) := by
  induction limit generalizing world with
  | zero => exact minds
  | succ limit ih =>
    simp only [turnService]
    split
    next => exact minds
    next service _ =>
      split
      next => exact minds
      next =>
        split
        next => exact minds_updateService (minds_mk.2 minds) _ _
        next => exact minds_endService (minds_sight (minds_mk.2 minds) _ _) _
        next => exact minds_endService (minds_sight (minds_mk.2 minds) _ _) _
        next =>
          split
          next served =>
            exact ih (minds_served (minds_updateService (minds_sight (minds_mk.2 minds) _ _) _ _)
              served)
          next served =>
            exact minds_endService (minds_served (minds_updateService
              (minds_sight (minds_mk.2 minds) _ _) _ _) served) _

@[simp]
theorem minds_turnDelayedReply (minds : start.Minds world) (id : DelayedReplyId) :
    start.Minds (world.turnDelayedReply id) := by
  unfold turnDelayedReply
  split
  next => exact minds
  next reply _ =>
    split
    next => exact minds
    next =>
      simp only
      split
      next => exact minds_closeUnused (minds_mk.2 (minds_writeFrame minds _ _)) _
      next => exact minds_setAlarm (minds_mk.2 minds) _ _

@[simp]
theorem minds_stopServer (minds : start.Minds world) (id : ServerId) :
    start.Minds (world.stopServer id) := by
  unfold stopServer
  split
  next => exact minds
  next =>
    exact minds_foldl (fun _ socket minds => minds_endService minds socket) _
      (minds_mk.2 (minds_withNetwork minds _))

end World

end ClusterDriver.Simulation
