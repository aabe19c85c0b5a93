import ClusterDriver.Simulation.World

set_option autoImplicit false

namespace ClusterDriver.Simulation

namespace World

def addServer (world : World) (server : Server) : World × ServerId :=
  let id := world.servers.length
  ({ world with servers := world.servers ++ [server] }, id)

def startServer (world : World) (id : ServerId) : World :=
  match world.servers[id]? with
  | none => world
  | some server =>
      { world with network := world.network.listen server.address (.acceptor id) }.wakeProcess
        (.acceptor id)

def restartServer (world : World) (id : ServerId) : World × Bool :=
  match world.servers[id]? with
  | none => (world, false)
  | some server =>
      if (world.network.listener? server.address).isSome then (world, false)
      else (world.startServer id, true)

def turnAcceptor : Nat → World → ServerId → World
  | 0, world, _ => world
  | limit + 1, world, id =>
      match world.servers[id]? with
      | none => world
      | some server =>
          match world.network.accept? server.address with
          | none => world
          | some (socket, network) =>
              let service : Service := {
                server := id, socket, authenticated := !server.auth.requiresAuth }
              let network := network.setOwner socket (.service socket)
              let world := { world with network, services := world.services ++ [service] }
              let world := world.updateServer id fun server =>
                { server with connections := server.connections + 1 }
              turnAcceptor limit (world.notice (.service socket)) id

def service? (world : World) (socket : SocketId) : Option Service :=
  world.services.find? fun service => service.socket = socket

def updateService (world : World) (socket : SocketId) (change : Service → Service) : World :=
  { world with services := world.services.map fun service =>
      if service.socket = socket then change service else service }

def closeUnused (world : World) (socket : SocketId) : World :=
  -- A socket stays open as long as it is read from or an answer is still to be written to it.
  let read := (world.service? socket).any (·.running)
  let written := world.delayedReplies.any fun reply => reply.socket = socket && !reply.isOver
  if read || written then world else world.hangUp socket

def endService (world : World) (socket : SocketId) : World :=
  (world.updateService socket fun service => { service with running := false }).closeUnused socket

def writeFrames (world : World) (socket : SocketId) : List Frame → World × Bool
  | [] => (world, true)
  | frame :: rest =>
      match world.writeFrame socket frame with
      | (world, true) => writeFrames world socket rest
      | (world, false) => (world, false)

def addDelayedReply (world : World) (server : ServerId) (socket : SocketId) (delay : Nat)
    (frame : Frame) : World :=
  let id := world.delayedReplies.length
  let reply : DelayedReply := { server, socket, delay, frame }
  { world with delayedReplies := world.delayedReplies ++ [reply] }.wakeProcess (.delayedReply id)

def serve (world : World) (service : Service) (frame : Frame) : World × Bool :=
  match world.servers[service.server]? with
  | none => (world, false)
  | some server =>
      let reaction := server.react service.authenticated frame
      let world := world.updateServer service.server fun _ => reaction.server
      let world := world.updateService service.socket fun service =>
        { service with authenticated := reaction.authenticated }
      let world := match reaction.delayed with
        | some (delay, answer) => world.addDelayedReply service.server service.socket delay answer
        | none => world
      let (world, written) := world.writeFrames service.socket reaction.answers
      (world, written && !reaction.closes)

def isSilent (world : World) (server : ServerId) : Bool :=
  match world.servers[server]? with
  | some { conduct := .silent, .. } => true
  | _ => false

def sight (world : World) (service : Service) (sighting : Sighting) : World :=
  if world.isSilent service.server then
    { world with sightings := world.sightings ++ [sighting] }
  else world

def turnService : Nat → World → SocketId → World
  | 0, world, _ => world
  | limit + 1, world, socket =>
      match world.service? socket with
      | none => world
      | some service =>
          if !service.running then world
          else
            let (reading, network) := world.network.read socket service.reader
            let world := { world with network }
            match reading with
            | .more reader => world.updateService socket fun service => { service with reader }
            | .ended => (world.sight service .ended).endService socket
            | .failed cause => (world.sight service (.failed cause)).endService socket
            | .frame frame =>
                let world := world.sight service (.frame frame)
                let world := world.updateService socket fun service =>
                  { service with reader := .start }
                match world.serve service frame with
                | (world, true) => turnService limit world socket
                | (world, false) => world.endService socket

def turnDelayedReply (world : World) (id : DelayedReplyId) : World :=
  match world.delayedReplies[id]? with
  | none => world
  | some reply =>
      if reply.isOver then world
      else
        let due := reply.due.getD (world.now + reply.delay)
        if due ≤ world.now then
          let (world, _) := world.writeFrame reply.socket reply.frame
          let delayedReplies := world.delayedReplies.set id { reply with isOver := true }
          { world with delayedReplies }.closeUnused reply.socket
        else
          let delayedReplies := world.delayedReplies.set id { reply with due := some due }
          { world with delayedReplies }.setAlarm due { process := .delayedReply id }

def stopServer (world : World) (id : ServerId) : World :=
  -- Connections are dropped, and answers that were still to come are lost.
  match world.servers[id]? with
  | none => world
  | some server =>
      let world := world.withNetwork (world.network.unlisten server.address)
      let delayedReplies := world.delayedReplies.map fun reply =>
        if reply.server = id then { reply with isOver := true } else reply
      let world := { world with delayedReplies }
      let sockets := (world.services.filter fun service => service.server = id).map (·.socket)
      sockets.foldl endService world

end World

end ClusterDriver.Simulation
