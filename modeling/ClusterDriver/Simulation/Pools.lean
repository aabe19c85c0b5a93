import ClusterDriver.Simulation.Connections

set_option autoImplicit false

namespace ClusterDriver.Simulation

namespace World

def addPool (world : World) (address : SocketAddress) (limits : PoolLimits)
    (authenticator : Option Authenticator) : World × PoolId :=
  let id := world.pools.length
  let service : PoolService := {
    pool := { address, limits }, authenticator
    schedule := .ofLimits limits.reconnectBase limits.reconnectMax }
  ({ world with pools := world.pools ++ [service] }.wakeProcess (.manager id), id)

def changePool (world : World) (id : PoolId) (result : Pool × List PoolEvent) : World :=
  let before := world.poolState id
  let world := world.updatePool id fun service => { service with pool := result.1 }
  let world := if result.2.isEmpty then world
    else { world with poolEvents := world.poolEvents ++ result.2 }.wakeProcess .tracking
  if result.1.state = before then world else world.emit (.poolState id)

def setStage (world : World) (id : PoolId) (stage : ManagerStage) : World :=
  world.updatePool id fun service => { service with stage }

def connectFailed (world : World) (id : PoolId) (service : PoolService) (cause : ChannelError) :
    World :=
  -- The manager rests for as long as the schedule may ask.
  let ceiling := service.schedule.ceiling
  let delay := service.schedule.delay (ceiling - ceiling / 2)
  let world := world.updatePool id fun service => { service with
    schedule := service.schedule.failed
    stage := .resting (world.now + delay) }
  (world.clearAlarms (.manager id)).changePool id
    (service.pool.connectFailed world.view cause.message)

def addToPool (world : World) (id : PoolId) (service : PoolService) (socket : SocketId) : World :=
  let (world, channel) :=
    (world.clearAlarms (.manager id)).addLink socket service.pool.limits.channel (some id)
  let world := world.updatePool id fun service => { service with
    schedule := service.schedule.reset
    stage := .looking }
  match service.pool.addChannel channel with
  | none => world.forceCloseChannel channel
  | some result => (world.changePool id result).wakeProcess (.watcher channel)

def turnManager : Nat → World → PoolId → World
  | 0, world, _ => world
  | limit + 1, world, id =>
      match world.pool? id with
      | none => world
      | some service =>
          match service.stage with
          | .stopped => world
          | .looking =>
              if service.pool.isClosed then world.setStage id .stopped
              else if service.pool.wantsChannel then
                match world.startConnecting (.manager id) service.pool.address
                    service.pool.limits.channel service.authenticator with
                | (.error cause, world) =>
                    turnManager limit (world.connectFailed id service cause) id
                | (.ok attempt, world) => world.setStage id (.connecting attempt)
              else turnManager limit (world.setStage id .waiting) id
          | .waiting =>
              if service.noticed then
                let world := world.updatePool id fun service =>
                  { service with noticed := false, stage := .looking }
                turnManager limit world id
              else world
          | .connecting attempt =>
              match world.continueConnecting attempt with
              | (.waiting attempt, world) => world.setStage id (.connecting attempt)
              | (.failed cause, world) =>
                  turnManager limit (world.connectFailed id service cause) id
              | (.established socket _, world) =>
                  turnManager limit (world.addToPool id service socket) id
          | .resting due =>
              if due ≤ world.now then turnManager limit (world.setStage id .looking) id
              else world.setAlarm due { process := .manager id }

def stageLimit (world : World) (id : PoolId) : Nat :=
  match world.pool? id with
  | none => 0
  | some service => 3 * service.pool.limits.size + 8

def loseChannel (world : World) (id : PoolId) (channel : ChannelId) : World :=
  match world.pool? id with
  | none => world
  | some service =>
      if service.pool.isClosed then world
      else
        let world := world.changePool id (service.pool.removeChannel world.view channel)
        let world := world.updatePool id fun service => { service with noticed := true }
        match service.stage with
        | .waiting => world.wakeProcess (.manager id)
        | _ => world

def turnWatcher (world : World) (channel : ChannelId) : World :=
  match (world.link? channel).bind (·.pool) with
  | none => world
  | some pool =>
      if world.isClosed channel then world.loseChannel pool channel
      else world.await (.channelClosed channel) { process := .watcher channel }

def beginClosePool (world : World) (id : PoolId) : World × List ChannelId :=
  match world.pool? id with
  | none => (world, [])
  | some service =>
      let world := match service.stage with
        | .connecting attempt => attempt.stage.socket?.elim world world.closeSocket
        | _ => world
      let (pool, channels) := service.pool.beginClose
      let world := world.updatePool id fun service => { service with pool, stage := .stopped }
      ((world.emit (.poolState id)).clearAlarms (.manager id), channels)

def closePool (world : World) (id : PoolId) : World × List ChannelId :=
  let (world, channels) := world.beginClosePool id
  (channels.foldl closeChannel world, channels)

def forceClosePool (world : World) (id : PoolId) : World :=
  let (world, _) := world.beginClosePool id
  match world.pool? id with
  | none => world
  | some service => service.pool.closing.foldl forceCloseChannel world

def awaitClosed (world : World) (channels : List ChannelId) (waiter : Waker) : World × Bool :=
  match channels.filter fun channel => !world.isClosed channel with
  | [] => (world, true)
  | unclosed =>
      let awaitClosing (world : World) (channel : ChannelId) : World :=
        world.await (.channelClosed channel) waiter
      (unclosed.foldl awaitClosing world, false)

def awaitReady (world : World) (pools : List PoolId) (waiter : Waker) : World × Bool :=
  match pools.filter fun pool => world.poolState pool = .initializing with
  | [] => (world, true)
  | initializing =>
      (initializing.foldl (fun world pool => world.await (.poolState pool) waiter) world, false)

end World

end ClusterDriver.Simulation
