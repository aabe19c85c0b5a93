import ClusterDriver.Channel.Handshake
import ClusterDriver.Cluster.Tracker
import ClusterDriver.Request.Run
import ClusterDriver.Shutdown
import ClusterDriver.Simulation.Agenda
import ClusterDriver.Simulation.Network
import ClusterDriver.Simulation.Server

/-!
Everything that exists in a simulated cluster: the network with its servers, and the client with
its connections, pools, nodes and requests. Whatever can happen is a turn of one of the processes;
they wake each other by name. Whole turns are indivisible: nothing happens between the look at a
node's state and the opening of its pool, as something may where processes run in parallel.
-/

set_option autoImplicit false

namespace ClusterDriver.Simulation

/-! ### Connections -/

inductive Inbound where
  | frame (frame : Frame)
  | lost (reason : String)

/-- An established connection. It ends when it is not `held` and nobody waits for a reply. -/
structure Link where
  channel : Channel
  socket : SocketId
  pool : Option PoolId := none
  reader : FrameReader := .start
  reading : Bool := true
  inbound : List Inbound := []
  held : Bool := true

/-- What a connection that is being established waits for: the network, which will tell whether
there is somebody to connect to, or the next frame of the handshake. -/
inductive ConnectStage where
  | dialing (socket : Option SocketId)
  | shakingHands (socket : SocketId) (reader : FrameReader) (earlier : List AuthPrompt)

def ConnectStage.socket? : ConnectStage → Option SocketId
  | .dialing socket => socket
  | .shakingHands socket _ _ => some socket

structure Connecting where
  address : SocketAddress
  limits : ChannelLimits
  authenticator : Option Authenticator
  deadline : Nat
  stage : ConnectStage

structure ExpectedReply where
  handle : Handle
  reply : Option Reply := none
  waiter : Option Waker := none

/-! ### Pools -/

inductive ManagerStage where
  | looking
  | waiting
  | connecting (attempt : Connecting)
  | resting (due : Nat)
  | stopped

/-- A pool and its manager; `noticed` tells that a connection was lost since it last looked. -/
structure PoolService where
  pool : Pool
  authenticator : Option Authenticator
  schedule : ReconnectSchedule
  stage : ManagerStage := .looking
  noticed : Bool := false

/-! ### Servers -/

structure Service where
  server : ServerId
  socket : SocketId
  authenticated : Bool
  reader : FrameReader := .start
  running : Bool := true

structure DelayedReply where
  server : ServerId
  socket : SocketId
  delay : Nat
  frame : Frame
  due : Option Nat := none
  isOver : Bool := false

inductive Sighting where
  | frame (frame : Frame)
  | ended
  | failed (cause : DriverError)

/-! ### Requests and nodes -/

/-- How plans are made. A `custom` policy is asked with the number of its earlier plans, the routing
key, the nodes that are present and their ring, and may name any node there ever was. -/
inductive Balancing where
  | standard
  | nowhere
  | reversed
  | custom (choose : Nat → Option ByteArray → List Node → TokenRing → List NodeId)

structure RequestTask where
  context : Nat
  request : Request
  options : RequestOptions
  job : Option JobId := none
  run : Option Run := none
  isOver : Bool := false
  aborted : Bool := false

structure NodeListener where
  pending : List NodeEvent := []
  stopped : Bool := false

/-! ### What users of the client wait for -/

structure ConnectingAll where
  pools : List PoolId
  deadline : Nat
  seen : Option Nat := none

inductive Errand where
  | connect (address : SocketAddress) (limits : ChannelLimits)
      (authenticator : Option Authenticator) (attempt : Option Connecting)
  | awaitReply (handle : Handle) (timeout : Nat) (due : Option Nat)
  | acquire (pool : PoolId)
  | ready (pool : PoolId)
  | closePool (pool : PoolId) (closing : Option (List ChannelId))
  | removeNode (address : SocketAddress) (forgets : Bool) (closing : Option (List ChannelId))
  | connectAll (timeout : Nat) (progress : Option ConnectingAll)
  | openSession (config : DriverConfig) (progress : Option ConnectingAll)
  | closeSession (quietPeriod timeout : Nat)
  | giveUp (context : Nat)
  | ended

inductive Errand.Result where
  | connected (result : Except ChannelError (ChannelId × Option ByteArray))
  | reply (reply : Reply)
  | acquired (result : Except PoolError ChannelId)
  | state (state : PoolState)
  | flag (value : Bool)
  | count (value : Nat)
  | opened (result : Except DriverError Unit)
  | report (report : ShutdownReport)
  | done

structure ClosingPool where
  pool : PoolId
  member : ShutdownMember
  closing : Option (List ChannelId) := none

structure ClosingSession where
  -- The scheduler comes first, the pools follow.
  started : Nat
  timeout : Nat
  scheduler : ShutdownMember
  pools : List ClosingPool
  report : Option ShutdownReport := none

/-! ### The world -/

structure Setup where
  pool : PoolSettings := {}
  authenticator : Option Authenticator := none
  registry : ProfileRegistry := .initial
  codec : Codec := .passThrough
  balancing : Balancing := .standard

/-- `nodeEvents` and `calledBack` hold what subscribers have received and not looked at yet,
`sightings` what silent servers have read, and `results` what errands came to. -/
structure World where
  agenda : Agenda Process Waker := {}
  signals : List (Signal × Waker) := []
  network : Network
  servers : List Server := []
  services : List Service := []
  delayedReplies : List DelayedReply := []
  sightings : List Sighting := []
  links : List Link := []
  expected : List ExpectedReply := []
  pools : List PoolService := []
  setup : Setup := {}
  tracker : Tracker := { localDatacenter := none, allowRemote := true, replicationFactor := 1 }
  tracking : Bool := true
  poolEvents : List PoolEvent := []
  nodeEvents : List NodeEvent := []
  listeners : List NodeListener := []
  calledBack : List NodeEvent := []
  robin : RoundRobin := {}
  plansMade : Nat := 0
  retryCalls : List (String × Nat) := []
  metrics : Metrics := {}
  contexts : List RequestContext := []
  tasks : List RequestTask := []
  scheduler : Scheduler := .ofWorkers 1
  jobs : List Process := []
  callbackTimers : List NodeEvent := []
  callbacks : List (JobId × NodeEvent) := []
  closing : Option ClosingSession := none
  errands : List Errand := []
  results : List (ErrandId × Errand.Result) := []

namespace World

def now (world : World) : Nat := world.agenda.now

/-! ### Waking and waiting -/

def wake (world : World) (waker : Waker) : World :=
  -- An execution of a request is also marked as woken.
  let world := match waker.process, waker.execution with
    | .request task, some execution =>
        { world with tasks := world.tasks.modify task fun task =>
            { task with run := task.run.map (Run.wake · execution) } }
    | _, _ => world
  { world with agenda := world.agenda.wake waker.process }

def wakeProcess (world : World) (process : Process) : World := world.wake { process }

def wakeAll (world : World) (processes : List Process) : World :=
  processes.foldl wakeProcess world

def setAlarm (world : World) (due : Nat) (waker : Waker) : World :=
  { world with agenda := world.agenda.setAlarm due waker }

def dismissAlarms (world : World) (waker : Waker) : World :=
  { world with agenda := world.agenda.clearAlarms fun other => other = waker }

def clearAlarms (world : World) (process : Process) : World :=
  { world with agenda := world.agenda.clearAlarms fun waker => waker.process = process }

def await (world : World) (signal : Signal) (waker : Waker) : World :=
  if (signal, waker) ∈ world.signals then world
  else { world with signals := world.signals ++ [(signal, waker)] }

def emit (world : World) (signal : Signal) : World :=
  let (told, others) := world.signals.partition fun entry => entry.1 = signal
  told.foldl (fun world entry => world.wake entry.2) { world with signals := others }

/-! ### The network -/

def notice (world : World) (process : Process) : World :=
  { world with agenda := world.agenda.notice process }

def withNetwork (world : World) (result : Network × List Process) : World :=
  result.2.foldl notice { world with network := result.1 }

def closeSocket (world : World) (socket : SocketId) : World :=
  world.withNetwork (world.network.close socket)

def hangUp (world : World) (socket : SocketId) : World :=
  world.withNetwork (world.network.hangUp socket)

def writeFrame (world : World) (socket : SocketId) (frame : Frame) : World × Bool :=
  match world.network.writeFault? socket, frame.encode with
  | none, .ok bytes => (world.withNetwork (world.network.write socket bytes), true)
  | _, _ => (world, false)

/-! ### Parts by number -/

def link? (world : World) (channel : ChannelId) : Option Link := world.links[channel]?

def updateLink (world : World) (channel : ChannelId) (change : Link → Link) : World :=
  { world with links := world.links.modify channel change }

def isClosed (world : World) (channel : ChannelId) : Bool :=
  (world.link? channel).all (·.channel.isClosed)

def view (world : World) (channel : ChannelId) : ChannelView :=
  match world.link? channel with
  | none => ⟨false, 0⟩
  | some link => ⟨link.channel.isUsable, link.channel.available⟩

def inFlight (world : World) (channels : List ChannelId) : Nat :=
  channels.foldl (fun total channel =>
    total + ((world.link? channel).map (·.channel.inFlight)).getD 0) 0

def pool? (world : World) (pool : PoolId) : Option PoolService := world.pools[pool]?

def poolState (world : World) (pool : PoolId) : PoolState :=
  match world.pool? pool with
  | none => .closed
  | some service => service.pool.state

def updatePool (world : World) (pool : PoolId) (change : PoolService → PoolService) : World :=
  { world with pools := world.pools.modify pool change }

def updateServer (world : World) (server : ServerId) (change : Server → Server) : World :=
  { world with servers := world.servers.modify server change }

def context? (world : World) (id : Nat) : Option RequestContext :=
  if id = 0 then none else world.contexts[id - 1]?

def updateContext (world : World) (id : Nat) (change : RequestContext → RequestContext) : World :=
  { world with contexts := world.contexts.modify (id - 1) change }

def updateTask (world : World) (task : TaskId) (change : RequestTask → RequestTask) : World :=
  { world with tasks := world.tasks.modify task change }

def setErrand (world : World) (id : ErrandId) (errand : Errand) : World :=
  { world with errands := world.errands.set id errand }

def record (world : World) (events : List Metrics.Event) : World :=
  { world with metrics := world.metrics.recordAll events }

def finishErrand (world : World) (id : ErrandId) (result : Errand.Result) : World :=
  { world.setErrand id .ended with results := world.results ++ [(id, result)] }

def begin (world : World) (errand : Errand) : World × ErrandId :=
  let id := world.errands.length
  ({ world with errands := world.errands ++ [errand] }.wakeProcess (.errand id), id)

end World

end ClusterDriver.Simulation
