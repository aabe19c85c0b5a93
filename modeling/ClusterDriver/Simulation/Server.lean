import ClusterDriver.Credentials
import ClusterDriver.Frame
import ClusterDriver.Request
import ClusterDriver.ServerError
import ClusterDriver.SocketAddress

set_option autoImplicit false

namespace ClusterDriver.Simulation

inductive Behavior where
  | echo
  | respond (body : ByteArray)
  | delay (millis : Nat) (body : ByteArray)
  | error (cause : ServerError)
  | never
  | close
  | duplicate (body : ByteArray)
deriving DecidableEq

/-- An item of a script: a frame whose stream id is relative to that of the statement, or the
end of the connection. -/
inductive ScriptItem where
  | frame (frame : Frame)
  | close
deriving DecidableEq

inductive Conduct where
  -- `next` behaviors are used for one statement each, before the usual one.
  | ordinary (usual : Behavior) (next : List Behavior)
  | scripted (answers : List (List ScriptItem))
  | silent
deriving DecidableEq

structure Server where
  address : SocketAddress
  conduct : Conduct
  auth : AuthConfig := {}
  answersHeartbeats : Bool := true
  requests : Nat := 0
  heartbeats : Nat := 0
  connections : Nat := 0

namespace Server

structure Reaction where
  server : Server
  authenticated : Bool
  answers : List Frame := []
  delayed : Option (Nat × Frame) := none
  closes : Bool := false

def errorFrame (stream : Int16) (kind : ServerErrorKind) (message : String) : Frame :=
  .response stream .error (ServerError.encode ⟨kind, message⟩)

def isStatement : Opcode → Bool
  | .query | .execute | .batch | .prepare => true
  | _ => false

def onStartup (server : Server) (authenticated : Bool) (stream : Int16) : Reaction :=
  { server, authenticated
    answers := [
      if server.auth.requiresAuth then
        .response stream .authenticate "PasswordAuthenticator".toUTF8
      else .response stream .ready ByteArray.empty] }

def onAuthResponse (server : Server) (authenticated : Bool) (frame : Frame) : Reaction :=
  if server.auth.acceptsToken frame.body then
    { server, authenticated := true
      answers := [.response frame.stream .authSuccess ByteArray.empty] }
  else
    { server, authenticated
      answers := [errorFrame frame.stream .badCredentials "Bad credentials"] }

def onHeartbeat (server : Server) (authenticated : Bool) (stream : Int16) : Reaction :=
  { server := { server with heartbeats := server.heartbeats + 1 }, authenticated
    answers :=
      if server.answersHeartbeats then [.response stream .supported ByteArray.empty] else [] }

def onStatement (server : Server) (authenticated : Bool) (frame : Frame) (behavior : Behavior) :
    Reaction :=
  let result (body : ByteArray) : Frame := .response frame.stream .result body
  match behavior with
  | .echo => { server, authenticated, answers := [result frame.body] }
  | .respond body => { server, authenticated, answers := [result body] }
  | .delay millis body => { server, authenticated, delayed := some (millis, result body) }
  | .error cause =>
      { server, authenticated, answers := [errorFrame frame.stream cause.kind cause.message] }
  | .never => { server, authenticated }
  | .close => { server, authenticated, closes := true }
  | .duplicate body => { server, authenticated, answers := [result body, result body] }

def onOrdinary (server : Server) (authenticated : Bool) (frame : Frame) (usual : Behavior)
    (next : List Behavior) : Reaction :=
  match frame.opcode with
  | .startup => server.onStartup authenticated frame.stream
  | .authResponse => server.onAuthResponse authenticated frame
  | .options => server.onHeartbeat authenticated frame.stream
  | opcode =>
      if isStatement opcode then
        if !authenticated then
          { server, authenticated
            answers := [errorFrame frame.stream .unauthorized "Not authenticated"] }
        else
          let counted := { server with
            requests := server.requests + 1
            conduct := .ordinary usual next.tail }
          counted.onStatement authenticated frame (next.headD usual)
      else
        { server, authenticated
          answers := [errorFrame frame.stream .protocol ("Unexpected opcode " ++ opcode.name)] }

def scriptedFrames (stream : Int16) : List ScriptItem → List Frame × Bool
  | [] => ([], false)
  | .close :: _ => ([], true)
  | .frame frame :: rest =>
      let (frames, closes) := scriptedFrames stream rest
      ({ frame with stream := stream + frame.stream } :: frames, closes)

def onScripted (server : Server) (authenticated : Bool) (frame : Frame)
    (answers : List (List ScriptItem)) : Reaction :=
  match frame.opcode with
  | .startup =>
      { server, authenticated, answers := [.response frame.stream .ready ByteArray.empty] }
  | .options => server.onHeartbeat authenticated frame.stream
  | _ =>
      let (frames, closes) := scriptedFrames frame.stream (answers.headD [])
      { server := { server with
          requests := server.requests + 1
          conduct := .scripted answers.tail }
        authenticated, answers := frames, closes }

def react (server : Server) (authenticated : Bool) (frame : Frame) : Reaction :=
  match server.conduct with
  | .ordinary usual next => server.onOrdinary authenticated frame usual next
  | .scripted answers => server.onScripted authenticated frame answers
  | .silent => { server, authenticated }

def setBehavior (server : Server) (behavior : Behavior) : Server :=
  match server.conduct with
  | .ordinary _ next => { server with conduct := .ordinary behavior next }
  | _ => server

def enqueue (server : Server) (behavior : Behavior) : Server :=
  match server.conduct with
  | .ordinary usual next => { server with conduct := .ordinary usual (next ++ [behavior]) }
  | _ => server

end Server

end ClusterDriver.Simulation
