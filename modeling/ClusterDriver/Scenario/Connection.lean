import ClusterDriver.Document.Config
import ClusterDriver.Scenario.Naming
import ClusterDriver.Scenario.Waits

set_option autoImplicit false

namespace ClusterDriver.Scenario.Connection

open Json (Read)
open Document (Input)
open Simulation

structure State where
  world : World
  connecting : ErrandId
  channel : Option ChannelId := none
  held : Bool := false
  reported : Bool := false
  token : Option ByteArray := none
  showsToken : Bool := false
  waits : Waits := {}

inductive Step where
  -- The opcode of a request is looked at only when there is a connection to send it on.
  | start
  | peerSend (bytes : ByteArray)
  | peerClose
  | peerReset
  | send (name : String) (opcode : Input Opcode) (body : ByteArray)
  | wait (name : String) (timeout : Nat)
  | cancel (name : String)
  | drop (name : String)
  | close
  | forceClose
  | dropChannel
  | advance (millis : Nat)

def encodeAll (frames : List Frame) : ByteArray :=
  frames.foldl (fun bytes frame =>
    match frame.encode with
    | .ok more => bytes ++ more
    | .error _ => bytes) ByteArray.empty

def asStep (value : Json) : Input Step := do
  match ← value.getString "do" with
  | "peer_send" =>
      return .peerSend (encodeAll (← Document.getListOf value "frames" (Document.asFrame true)))
  | "peer_raw" => return .peerSend (← Document.getBytes value "data")
  | "peer_close" => return .peerClose
  | "peer_reset" => return .peerReset
  | "send" =>
      return .send (← value.getString "id") (Document.getOpcode value "opcode")
        (← Document.getBytes value "body")
  | "wait" => return .wait (← value.getString "id") (← value.getNat "timeout_ms")
  | "cancel" => return .cancel (← value.getString "id")
  | "drop" => return .drop (← value.getString "id")
  | "close" => return .close
  | "force_close" => return .forceClose
  | "drop_channel" => return .dropChannel
  | "advance" => return .advance (← value.getNat "ms")
  | other => .error (.unreadable ("unknown step " ++ other))

/-- An authenticator whose first token is the name of the mechanism followed by given bytes, and
which turns challenges around. -/
def scriptedAuthenticator (initial : ByteArray) : Authenticator where
  respond _ prompt :=
    match prompt with
    | .mechanism name => .ok (name.toUTF8 ++ initial)
    | .challenge bytes =>
        if bytes.size = 0 then .error (.authentication "empty challenge")
        else .ok (bytesOfList bytes.toList.reverse)

def asAuthenticator (value : Json) : Read (Authenticator × Bool) := do
  match ← value.get? "initial" Document.asBytes with
  | some initial => return (scriptedAuthenticator initial, true)
  | none => return (.plainText (← Document.asCredentials value), false)

namespace State

def peer? (state : State) : Option SocketId :=
  (state.world.services.find? (·.running)).map (·.socket)

def withChannel (state : State) (action : World → ChannelId → World) : State × Json :=
  match state.channel, state.held with
  | some channel, true => ({ state with world := action state.world channel }, .null)
  | _, _ => (state, .null)

def send (state : State) (name : String) (opcode : Input Opcode) (body : ByteArray) :
    Input (State × Json) := do
  match state.channel, state.held with
  | some channel, true =>
      match state.world.send channel (← opcode) body with
      | .error e => return (state, Document.channelError e)
      | .ok (world, handle) =>
          let (waits, world) := state.waits.keep world name handle
          return ({ state with waits, world }, .record [("request", .nat handle.request)])
  | _, _ => return (state, .text "no channel")

def act (state : State) : Step → State × Json
  | .start | .send .. => (state, .null)
  | .peerSend bytes =>
      match state.peer? with
      | none => (state, .bool false)
      | some socket =>
          let world := state.world.withNetwork (state.world.network.write socket bytes)
          ({ state with world }, .bool true)
  | .peerClose =>
      match state.peer? with
      | none => (state, .null)
      | some socket => ({ state with world := state.world.endService socket }, .bool true)
  | .peerReset =>
      match state.peer? with
      | none => (state, .null)
      | some socket =>
          let world := state.world.withNetwork (state.world.network.abort socket)
          ({ state with world := world.endService socket }, .bool true)
  | .wait name timeout =>
      let (waits, world, result) := state.waits.start state.world name timeout
      ({ state with waits, world }, result)
  | .cancel name =>
      let (waits, world, result) := state.waits.cancel state.world name
      ({ state with waits, world }, result)
  | .drop name =>
      let (waits, world) := state.waits.drop state.world name
      ({ state with waits, world }, .null)
  | .close => state.withChannel fun world channel => world.closeChannel channel
  | .forceClose => state.withChannel fun world channel => world.forceCloseChannel channel
  | .dropChannel =>
      let (state, result) := state.withChannel fun world channel =>
        (world.updateLink channel fun link => { link with held := false }).wakeProcess
          (.connection channel)
      ({ state with held := false }, result)
  | .advance millis => ({ state with world := (state.world.settle).pass millis }, .null)

def run (state : State) : Step → Input (State × Json)
  | .send name opcode body => state.send name opcode body
  | step => return state.act step

def noteConnection (state : State) : State × Json :=
  match state.world.results.lookup state.connecting with
  | some (.connected (.ok (channel, token))) =>
      ({ state with channel := some channel, held := true, reported := true, token }, .text "ok")
  | some (.connected (.error e)) => ({ state with reported := true }, Document.channelError e)
  | _ => (state, if state.reported then .null else .text "pending")

def sighting : Sighting → Json
  | .frame frame => Document.frame frame
  | .ended => .text "eof"
  | .failed cause => Document.driverError cause

def shown (state : State) (result : Json) : State × Json :=
  let (state, connect) := state.noteConnection
  let (waits, done) := state.waits.finished state.world.results
  let link := state.channel.bind state.world.link?
  let closed := link.map fun link => Json.bool link.channel.isClosed
  let channel := if state.held then link.map fun link => channelState link.channel else none
  let token :=
    if state.showsToken then [("auth_success", .optional Document.bytes state.token)] else []
  ({ state with waits, world := { state.world with results := [], sightings := [] } },
    .record ([("t", .nat state.world.now), ("result", result), ("connect", connect),
      ("done", .record done), ("peer", .list sighting state.world.sightings),
      ("closed_future", closed.getD .null), ("channel", channel.getD .null)] ++ token))

def runAll (state : State) : List Step → Input (List Json)
  | [] => return []
  | step :: rest => do
      let (state, result) ← state.run step
      let (state, answer) := { state with world := state.world.settle }.shown result
      return answer :: (← runAll state rest)

end State

def naming : Naming := ["peer"]

def answer (input : Json) : Input Json := do
  let settings ← input.getD "config" {} (Json.asPart "pool" Document.Config.poolSettings?)
  let auth ← input.get? "auth" asAuthenticator
  let isUp ← input.getFlag "net"
  let listens ← input.getD "listen" true Json.asBool
  let steps ← Document.getListOf input "steps" asStep
  let address := addressOf 0
  let (world, server) := ({ network := { isUp } } : World).addServer
    { address, conduct := .silent }
  let world := if listens then world.startServer server else world
  let (world, connecting) := world.begin
    (.connect address (.ofSettings settings) (auth.map (·.1)) none)
  let state : State := { world, connecting, showsToken := (auth.map (·.2)).getD false }
  return naming.apply (.record [("steps", .array (← state.runAll (.start :: steps)))])

end ClusterDriver.Scenario.Connection
