import ClusterDriver.Simulation.Servers
import ClusterDriver.Simulation.Sessions

set_option autoImplicit false

namespace ClusterDriver.Simulation

namespace World

def pursueConnect (world : World) (id : ErrandId) (address : SocketAddress)
    (limits : ChannelLimits) (authenticator : Option Authenticator) (attempt : Connecting) :
    World :=
  match world.continueConnecting attempt with
  | (.waiting attempt, world) =>
      world.setErrand id (.connect address limits authenticator (some attempt))
  | (.failed cause, world) => world.finishErrand id (.connected (.error cause))
  | (.established socket token, world) =>
      let (world, channel) := world.addLink socket limits none
      world.finishErrand id (.connected (.ok (channel, token)))

def pursueReply (world : World) (id : ErrandId) (handle : Handle) (timeout : Nat)
    (due : Option Nat) : World :=
  let waiter : Waker := { process := .errand id }
  let due := due.getD (world.now + timeout)
  match world.takeReply handle waiter with
  | (some reply, world) => world.finishErrand id (.reply reply)
  | (none, world) =>
      if due ≤ world.now then
        (world.abandon handle).finishErrand id (.reply (.error (.timeout (.ofMillis timeout))))
      else (world.setErrand id (.awaitReply handle timeout (some due))).setAlarm due waiter

def pursueAcquire (world : World) (id : ErrandId) (pool : PoolId) : World :=
  match world.pool? pool with
  | none => world
  | some service =>
      match service.pool.acquire? world.view with
      | none => world.await (.poolState pool) { process := .errand id }
      | some result => world.finishErrand id (.acquired result)

def pursueClosed (world : World) (id : ErrandId) (channels : List ChannelId)
    (waiting : List ChannelId → Errand) (finish : World → World) : World :=
  match world.awaitClosed channels { process := .errand id } with
  | (world, true) => finish world
  | (world, false) => world.setErrand id (waiting channels)

def removeNode? (world : World) (address : SocketAddress) : Option (World × List ChannelId) :=
  match world.tracker.removeNode address with
  | none => none
  | some (tracker, node, events) =>
      let world := world.changeNodes tracker events
      match node.pool with
      | none => some (world, [])
      | some pool => some (world.closePool pool)

def pursueRemoval (world : World) (id : ErrandId) (address : SocketAddress) (forgets : Bool)
    (channels : List ChannelId) : World :=
  world.pursueClosed id channels (fun channels => .removeNode address forgets (some channels))
    fun world =>
      (if forgets then world.record [.nodeRemoved address.text] else world).finishErrand id
        (.flag true)

def pursueConnectAll (world : World) (id : ErrandId) (progress : ConnectingAll)
    (waiting : ConnectingAll → Errand) (finish : World → Nat → World) : World :=
  match world.continueConnectingAll progress { process := .errand id } with
  | (world, .ok up) => finish world up
  | (world, .error progress) => world.setErrand id (waiting progress)

def pursueOpening (world : World) (id : ErrandId) (config : DriverConfig)
    (progress : ConnectingAll) : World :=
  world.pursueConnectAll id progress (fun progress => .openSession config (some progress))
    fun world up =>
      let (world, result) := world.finishOpening config up
      world.finishErrand id (.opened result)

def pursueClosing (world : World) (id : ErrandId) (quietPeriod timeout : Nat) : World :=
  let waiter : Waker := { process := .errand id }
  let world :=
    if world.closing.isSome then world else world.beginClosing quietPeriod timeout waiter
  match world.closing with
  | none => world
  | some closing =>
      match closing.report with
      | some report => world.finishErrand id (.report report)
      | none =>
          match world.continueClosing closing waiter with
          | (world, some report) => world.finishErrand id (.report report)
          | (world, none) => world

def pursueGivingUp (world : World) (id : ErrandId) (context : Nat) : World :=
  match world.context? context with
  | none => world
  | some state =>
      let waiter : Waker := { process := .errand id }
      match state.giveUp world.now with
      | some (state, events) =>
          ((world.updateContext context fun _ => state).record events).finishErrand id .done
      | none => (world.await (.cancelled context) waiter).setAlarm state.deadline waiter

def turnErrand (world : World) (id : ErrandId) : World :=
  match world.errands[id]? with
  | none | some .ended => world
  | some (.connect address limits authenticator (some attempt)) =>
      world.pursueConnect id address limits authenticator attempt
  | some (.connect address limits authenticator none) =>
      match world.startConnecting (.errand id) address limits authenticator with
      | (.error cause, world) => world.finishErrand id (.connected (.error cause))
      | (.ok attempt, world) =>
          world.setErrand id (.connect address limits authenticator (some attempt))
  | some (.awaitReply handle timeout due) => world.pursueReply id handle timeout due
  | some (.acquire pool) => world.pursueAcquire id pool
  | some (.ready pool) =>
      match world.awaitReady [pool] { process := .errand id } with
      | (world, true) => world.finishErrand id (.state (world.poolState pool))
      | (world, false) => world
  | some (.closePool pool closing) =>
      let (world, channels) := match closing with
        | some channels => (world, channels)
        | none => world.closePool pool
      world.pursueClosed id channels (fun channels => .closePool pool (some channels))
        fun world => world.finishErrand id .done
  | some (.removeNode address forgets (some channels)) =>
      world.pursueRemoval id address forgets channels
  | some (.removeNode address forgets none) =>
      match world.removeNode? address with
      | none => world.finishErrand id (.flag false)
      | some (world, channels) => world.pursueRemoval id address forgets channels
  | some (.connectAll timeout progress) =>
      let (world, progress) := match progress with
        | some progress => (world, progress)
        | none => world.startConnectingAll timeout
      world.pursueConnectAll id progress (fun progress => .connectAll timeout (some progress))
        fun world up => world.finishErrand id (.count up)
  | some (.openSession config (some progress)) => world.pursueOpening id config progress
  | some (.openSession config none) =>
      match config.validate with
      | .error e => world.finishErrand id (.opened (.error (.config e)))
      | .ok () =>
          let (world, progress) := (world.withConfig config).startConnectingAll
            (config.pool.connectTimeout + connectGrace)
          world.pursueOpening id config progress
  | some (.closeSession quietPeriod timeout) => world.pursueClosing id quietPeriod timeout
  | some (.giveUp context) => world.pursueGivingUp id context

def turn (world : World) : Process → World
  | .connection channel => turnConnection (world.eventLimit channel) world channel
  | .reader channel => turnReader frameLimit world channel
  | .watcher channel => world.turnWatcher channel
  | .manager pool => turnManager (world.stageLimit pool) world pool
  | .tracking => world.turnTracking
  | .listener id => world.turnListener id
  | .request task => world.turnRequest task
  | .timer id => world.turnTimer id
  | .callback job => world.turnCallback job
  | .errand id => world.turnErrand id
  | .acceptor server => turnAcceptor frameLimit world server
  | .service socket => turnService frameLimit world socket
  | .delayedReply id => world.turnDelayedReply id

def settleWithin : Nat → World → World
  | 0, world => world
  | limit + 1, world =>
      match world.agenda.next? with
      | none => world
      | some (process, agenda) => settleWithin limit ({ world with agenda }.turn process)

def turnLimit : Nat := 1000000

def settle (world : World) : World := settleWithin turnLimit world

def pass : Nat → World → World
  -- The alarms of each millisecond go off before anybody takes a turn.
  | 0, world => world
  | millis + 1, world =>
      let (agenda, woken) := world.agenda.tick
      pass millis (woken.foldl wake { world with agenda }).settle

end World

end ClusterDriver.Simulation
