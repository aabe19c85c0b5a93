import ClusterDriver.Simulation.World

set_option autoImplicit false

namespace ClusterDriver.Simulation

namespace World

def connectFailure (address : SocketAddress) (detail : String) : ChannelError :=
  .ofDriverError (.connection ("Failed to connect to " ++ address.text ++ ": " ++ detail))

def dialTimeout (limits : ChannelLimits) : ChannelError :=
  .ofDriverError (.timeout (.ofMillis limits.connectTimeout))

def connectTimeout (address : SocketAddress) (limits : ChannelLimits) : ChannelError :=
  .connectFailed ("Connecting to " ++ address.text ++ " timed out after "
    ++ (Duration.ofMillis limits.connectTimeout).text)

def handshakeLost : ChannelError :=
  .ofDriverError (.ofFault "writing frame" ⟨.connectionReset, ""⟩)

/-- Begins to connect. An unreachable network is known at once, all else only when `owner` is
woken; without any time for it, the attempt has failed by then. -/
def startConnecting (world : World) (owner : Process) (address : SocketAddress)
    (limits : ChannelLimits) (authenticator : Option Authenticator) :
    Except ChannelError Connecting × World :=
  if !world.network.isUp then (.error (connectFailure address Network.unreachable), world)
  else
    let (socket, change) := world.network.connect address owner
    let world := world.withNetwork change
    if limits.connectTimeout = 0 then
      (.error (dialTimeout limits), socket.elim world world.closeSocket)
    else
      let deadline := world.now + limits.connectTimeout
      (.ok { address, limits, authenticator, deadline, stage := .dialing socket },
        (world.notice owner).setAlarm deadline { process := owner })

inductive ConnectProgress where
  | waiting (attempt : Connecting)
  | failed (cause : ChannelError)
  | established (socket : SocketId) (token : Option ByteArray)

def shakeHands : Nat → World → Connecting → SocketId → FrameReader → List AuthPrompt →
    ConnectProgress × World
  | 0, world, attempt, socket, reader, earlier =>
      (.waiting { attempt with stage := .shakingHands socket reader earlier }, world)
  | limit + 1, world, attempt, socket, reader, earlier =>
      let (reading, network) := world.network.read socket reader
      let world := { world with network }
      match reading with
      | .more reader =>
          if attempt.deadline ≤ world.now then
            (.failed (connectTimeout attempt.address attempt.limits), world.closeSocket socket)
          else (.waiting { attempt with stage := .shakingHands socket reader earlier }, world)
      | .ended => (.failed Handshake.endedEarly, world.closeSocket socket)
      | .failed cause => (.failed (.ofDriverError cause), world.closeSocket socket)
      | .frame frame =>
          match Handshake.onFrame attempt.authenticator earlier frame with
          | .done token => (.established socket token, world)
          | .failed cause => (.failed cause, world.closeSocket socket)
          | .answer reply prompt =>
              match world.writeFrame socket reply with
              | (world, true) =>
                  shakeHands limit world attempt socket .start (prompt :: earlier)
              | (world, false) => (.failed handshakeLost, world.closeSocket socket)

def frameLimit : Nat := 100000

def continueConnecting (world : World) (attempt : Connecting) : ConnectProgress × World :=
  match attempt.stage with
  | .dialing none => (.failed (connectFailure attempt.address Network.refused), world)
  | .dialing (some socket) =>
      match world.writeFrame socket Handshake.startup with
      | (world, true) => shakeHands frameLimit world attempt socket .start []
      | (world, false) => (.failed handshakeLost, world.closeSocket socket)
  | .shakingHands socket reader earlier =>
      shakeHands frameLimit world attempt socket reader earlier

def addLink (world : World) (socket : SocketId) (limits : ChannelLimits) (pool : Option PoolId) :
    World × ChannelId :=
  let id := world.links.length
  let link : Link := { channel := .opened limits world.now, socket, pool }
  let network := world.network.setOwner socket (.reader id)
  let world := { world with links := world.links ++ [link], network }
  ((world.wakeProcess (.reader id)).wakeProcess (.connection id), id)

def command (world : World) (id : ChannelId) (change : Channel → Channel) : World :=
  (world.updateLink id fun link => { link with channel := change link.channel }).wakeProcess
    (.connection id)

def send (world : World) (id : ChannelId) (opcode : Opcode) (body : ByteArray) :
    Except ChannelError (World × Handle) :=
  match world.link? id with
  | none => .error (.closed "channel task ended")
  | some link =>
      match link.channel.send opcode body with
      | .error e => .error e
      | .ok (request, channel) =>
          let handle : Handle := ⟨id, request⟩
          .ok ({ world.command id (fun _ => channel) with
            expected := world.expected ++ [{ handle }] }, handle)

def release (world : World) (id : ChannelId) : World :=
  match world.link? id with
  | some { held := false, .. } => world.wakeProcess (.connection id)
  | _ => world

def takeReply (world : World) (handle : Handle) (waiter : Waker) : Option Reply × World :=
  -- A reply is handed out once; before it has come, somebody is woken when it does.
  match world.expected.find? fun expected => expected.handle = handle with
  | none => (none, world)
  | some expected =>
      match expected.reply with
      | some reply =>
          (some reply, ({ world with
            expected := world.expected.filter fun expected => expected.handle ≠ handle }).release
            handle.channel)
      | none =>
          (none, { world with
            expected := world.expected.map fun expected =>
              if expected.handle = handle then { expected with waiter := some waiter }
              else expected })

def abandon (world : World) (handle : Handle) : World :=
  let expects := world.expected.any fun expected => expected.handle = handle
  if expects then
    ({ world with
        expected := world.expected.filter fun expected => expected.handle ≠ handle }).command
      handle.channel (·.abandon handle.request)
  else world

def closeChannel (world : World) (id : ChannelId) : World := world.command id (·.close)

def forceCloseChannel (world : World) (id : ChannelId) : World := world.command id (·.forceClose)

def deliver (world : World) (id : ChannelId) (answer : RequestId × Reply) : World :=
  let handle : Handle := ⟨id, answer.1⟩
  match world.expected.find? fun expected => expected.handle = handle with
  | none => world
  | some expected =>
      let world := { world with
        expected := world.expected.map fun other =>
          if other.handle = handle then { other with reply := some answer.2 } else other }
      match expected.waiter with
      | some waiter => world.wake waiter
      | none => world

def apply (world : World) (id : ChannelId) (socket : SocketId) (reaction : Channel.Reaction) :
    World :=
  -- When the connection ends, its end is made known, and the socket gets an orderly end.
  let world := world.updateLink id fun link => { link with channel := reaction.channel }
  let world := reaction.frames.foldl (fun world frame => (world.writeFrame socket frame).1) world
  match reaction.ending with
  | none => reaction.replies.foldl (fun world answer => world.deliver id answer) world
  | some _ =>
      let world := world.emit (.channelClosed id)
      let world := reaction.replies.foldl (fun world answer => world.deliver id answer) world
      let world := world.updateLink id fun link => { link with reading := false, inbound := [] }
      (world.hangUp socket).clearAlarms (.connection id)

def isForsaken (world : World) (id : ChannelId) (link : Link) : Bool :=
  !link.held && world.expected.all fun expected => expected.handle.channel ≠ id

def nextEvent? (world : World) (id : ChannelId) (link : Link) : Option (Channel.Event × Link) :=
  -- Commands come first, then what was received, then the end of interest in it, then the time.
  if !link.channel.commands.isEmpty then some (.command, link)
  else
    match link.inbound with
    | .frame frame :: rest => some (.frame frame, { link with inbound := rest })
    | .lost reason :: rest => some (.lost reason, { link with inbound := rest })
    | [] =>
        if world.isForsaken id link then some (.abandonedByAll, link)
        else if link.channel.nextWake ≤ world.now then some (.tick, link)
        else none

/-- The turn of a connection: up to `limit` events. Each of them puts off the next look at the
time, for which an alarm is set anew, a millisecond later at the earliest. -/
def turnConnection : Nat → World → ChannelId → World
  | 0, world, id =>
      match world.link? id with
      | none => world
      | some link =>
          if link.channel.isClosed then world
          else world.setAlarm (max link.channel.nextWake (world.now + 1))
            { process := .connection id }
  | limit + 1, world, id =>
      match world.link? id with
      | none => world
      | some link =>
          if link.channel.isClosed then world
          else
            match world.nextEvent? id link with
            | none => world.setAlarm link.channel.nextWake { process := .connection id }
            | some (event, link) =>
                let world := (world.clearAlarms (.connection id)).updateLink id fun _ => link
                let fault := world.network.frameFault? link.socket
                let reaction := link.channel.react world.now fault event
                turnConnection limit (world.apply id link.socket reaction) id

def eventLimit (world : World) (id : ChannelId) : Nat :=
  match world.link? id with
  | none => 0
  | some link => link.channel.commands.length + link.inbound.length + 4

def turnReader : Nat → World → ChannelId → World
  | 0, world, _ => world
  | limit + 1, world, id =>
      match world.link? id with
      | none => world
      | some link =>
          if !link.reading then world
          else
            let (reading, network) := world.network.read link.socket link.reader
            let world := { world with network }
            let handOn (world : World) (message : Inbound) (reading : Bool) : World :=
              (world.updateLink id fun link => { link with
                reader := .start, reading, inbound := link.inbound ++ [message] }).wakeProcess
                (.connection id)
            match reading with
            | .more reader => world.updateLink id fun link => { link with reader }
            | .frame frame => turnReader limit (handOn world (.frame frame) true) id
            | .ended => handOn world (.lost "connection closed by peer") false
            | .failed cause => handOn world (.lost ("read failed: " ++ cause.message)) false

end World

end ClusterDriver.Simulation
