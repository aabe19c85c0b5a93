import ClusterDriver.Frame.Reader
import ClusterDriver.Simulation.Process

/-!
A loopback network. Each connection has a socket at either end, known by number. Closing a socket
whose bytes were all read is an orderly end for the other one; closing one with unread bytes
resets the connection, and so does writing to a socket that is closed. Bytes that have arrived can
still be read after a reset, and an orderly end that came before it is still an end.
-/

set_option autoImplicit false

namespace ClusterDriver.Simulation

/-- One end of a connection. `received` has not been read yet; `ended` tells that nothing more
will be sent from the other end, `reset` that the connection was broken. The owner is woken when
there is something to read. -/
structure Socket where
  peer : SocketId
  owner : Option Process := none
  received : ByteArray := ByteArray.empty
  ended : Bool := false
  reset : Bool := false
  closed : Bool := false

structure Listener where
  address : SocketAddress
  owner : Process
  backlog : List SocketId := []

structure Network where
  isUp : Bool
  sockets : List Socket := []
  listeners : List Listener := []

namespace Network

def socket? (network : Network) (id : SocketId) : Option Socket := network.sockets[id]?

def update (network : Network) (id : SocketId) (change : Socket → Socket) : Network :=
  { network with sockets := network.sockets.modify id change }

def owner? (network : Network) (id : SocketId) : Option Process :=
  (network.socket? id).bind (·.owner)

def setOwner (network : Network) (id : SocketId) (owner : Process) : Network :=
  network.update id fun socket => { socket with owner := some owner }

def unreachable : String := "Network is unreachable (os error 101)"

def refused : String := "Connection refused (os error 111)"

def listener? (network : Network) (address : SocketAddress) : Option Listener :=
  network.listeners.find? fun listener => listener.address = address

def connect (network : Network) (address : SocketAddress) (owner : Process) :
    Option SocketId × Network × List Process :=
  match network.listener? address with
  | none => (none, network, [])
  | some listener =>
      let client := network.sockets.length
      let server := client + 1
      let listeners := network.listeners.map fun other =>
        if other.address = address then { other with backlog := other.backlog ++ [server] }
        else other
      let sockets :=
        network.sockets ++ [{ peer := server, owner := some owner }, { peer := client }]
      (some client, { network with sockets, listeners }, [listener.owner])

def accept? (network : Network) (address : SocketAddress) : Option (SocketId × Network) :=
  match (network.listener? address).map (·.backlog) with
  | some (socket :: rest) =>
      let listeners := network.listeners.map fun listener =>
        if listener.address = address then { listener with backlog := rest } else listener
      some (socket, { network with listeners })
  | _ => none

def listen (network : Network) (address : SocketAddress) (owner : Process) : Network :=
  if (network.listener? address).isSome then network
  else { network with listeners := network.listeners ++ [{ address, owner }] }

def resetPeer (network : Network) (id : SocketId) : Network × List Process :=
  match network.socket? id with
  | none => (network, [])
  | some socket =>
      (network.update socket.peer fun peer => { peer with reset := true },
        (network.owner? socket.peer).toList)

def finish (network : Network) (id : SocketId) : Network × List Process :=
  match network.socket? id with
  | none => (network, [])
  | some socket =>
      (network.update socket.peer fun peer => { peer with ended := true },
        (network.owner? socket.peer).toList)

def forget (network : Network) (id : SocketId) : Network :=
  network.update id fun socket =>
    { socket with closed := true, owner := none, received := ByteArray.empty }

def close (network : Network) (id : SocketId) : Network × List Process :=
  -- Unread bytes reset the connection.
  match network.socket? id with
  | none => (network, [])
  | some socket =>
      if socket.closed then (network, [])
      else
        let (after, woken) :=
          if socket.received.size = 0 then network.finish id else network.resetPeer id
        (after.forget id, woken)

/-- Ends the sending first and then closes the socket, so that the other end sees an orderly end
even if there are unread bytes; the connection is still reset by them. -/
def hangUp (network : Network) (id : SocketId) : Network × List Process :=
  if (network.socket? id).any (·.closed) then (network, [])
  else
    let (network, told) := network.finish id
    let (network, woken) := network.close id
    (network, told ++ woken)

def abort (network : Network) (id : SocketId) : Network × List Process :=
  let (after, woken) := network.resetPeer id
  (after.forget id, woken)

def unlisten (network : Network) (address : SocketAddress) : Network × List Process :=
  match network.listener? address with
  | none => (network, [])
  | some listener =>
      let remaining := { network with
        listeners := network.listeners.filter fun other => other.address ≠ address }
      listener.backlog.foldl (fun (network, woken) socket =>
        let (network, more) := network.abort socket
        (network, woken ++ more)) (remaining, [])

def writeFault? (network : Network) (id : SocketId) : Option StreamFault :=
  match network.socket? id with
  | none => some ⟨.notConnected, ""⟩
  | some socket => if socket.reset then some ⟨.connectionReset, ""⟩ else none

def frameFault? (network : Network) (id : SocketId) : Option DriverError :=
  (network.writeFault? id).map (DriverError.ofFault "writing frame")

def write (network : Network) (id : SocketId) (bytes : ByteArray) : Network × List Process :=
  match network.socket? id with
  | none => (network, [])
  | some socket =>
      if (network.socket? socket.peer).any (·.closed) then
        (network.update id fun socket => { socket with reset := true }, socket.owner.toList)
      else
        (network.update socket.peer fun peer => { peer with received := peer.received ++ bytes },
          (network.owner? socket.peer).toList)

inductive Reading where
  | more (reader : FrameReader)
  | frame (frame : Frame)
  | ended
  | failed (cause : DriverError)

def read (network : Network) (id : SocketId) (reader : FrameReader) : Reading × Network :=
  match network.socket? id with
  | none => (.ended, network)
  | some socket =>
      match reader.feed socket.received with
      | .done result rest =>
          let network := network.update id fun socket => { socket with received := rest }
          match result with
          | .ok frame => (.frame frame, network)
          | .error e => (.failed (.protocol e), network)
      | .more reader =>
          let network := network.update id fun socket =>
            { socket with received := ByteArray.empty }
          if socket.ended then
            match reader.atEnd with
            | .ok () => (.ended, network)
            | .error e => (.failed e, network)
          else if socket.reset then (.failed (reader.atFault ⟨.connectionReset, ""⟩), network)
          else (.more reader, network)

end Network

end ClusterDriver.Simulation
