import ClusterDriver.Channel.Error
import ClusterDriver.Channel.Limits
import ClusterDriver.Channel.StreamIds
import ClusterDriver.Frame
import Std.Data.TreeMap

/-!
A connection that carries many requests at a time. Each request has a stream id of its own from
the moment its frame is written until its response arrives, even when nobody waits for it any
more: then the id is an orphan, and the late response sets it free. Silence is broken by
heartbeats. The senders' side only reserves room and queues commands; the connection's side
takes the commands, the received frames and the passing of time one after the other, and says
in a `Reaction` which frame to write, which requests are answered and whether the connection
ends. Times are in milliseconds.
-/

set_option autoImplicit false

namespace ClusterDriver

abbrev RequestId := Nat

structure Heartbeat where
  stream : StreamId
  deadline : Nat
deriving DecidableEq, Repr

inductive Command where
  | send (request : RequestId) (opcode : Opcode) (body : ByteArray)
  | abandon (request : RequestId)
  | close (graceful : Bool)
deriving DecidableEq

/-- `inFlight` counts the ids in use and the queued requests that will need one. `requests`
leads from a request to its stream, `pending` back. -/
structure Channel where
  limits : ChannelLimits
  inFlight : Nat := 0
  nextRequest : RequestId := 0
  closing : Bool := false
  closeReason : Option String := none
  rejected : Nat := 0
  commands : List Command := []
  ids : StreamIds
  pending : Std.TreeMap StreamId RequestId := ∅
  requests : Std.TreeMap RequestId StreamId := ∅
  orphans : List StreamId := []
  heartbeat : Option Heartbeat := none
  lastRead : Nat
  drainDeadline : Option Nat := none

abbrev Reply := Except ChannelError Frame

namespace Channel

def opened (limits : ChannelLimits) (now : Nat) : Channel where
  limits
  ids := .ofCapacity limits.capacity
  lastRead := now

def capacity (channel : Channel) : Nat := channel.limits.capacity

def isClosed (channel : Channel) : Bool := channel.closeReason.isSome

def isUsable (channel : Channel) : Bool := !channel.isClosed && !channel.closing

def available (channel : Channel) : Nat :=
  if channel.isUsable then channel.capacity - channel.inFlight else 0

def enqueue (channel : Channel) (command : Command) : Channel :=
  -- A connection that has ended takes no commands.
  if channel.isClosed then channel
  else { channel with commands := channel.commands ++ [command] }

def reserve? (channel : Channel) : Option Channel :=
  if channel.inFlight < channel.capacity then
    some { channel with inFlight := channel.inFlight + 1 }
  else none

/-- The first half of sending: a sender is turned away from a connection that is closing or full;
otherwise there is room reserved for its request. -/
def checkIn (channel : Channel) : Except ChannelError Channel :=
  match channel.closeReason with
  | some reason => .error (.closed reason)
  | none =>
      if channel.closing then .error (.closed "channel is closing")
      else
        match channel.reserve? with
        | none => .error (.busy channel.capacity)
        | some channel => .ok channel

def release (channel : Channel) : Channel := { channel with inFlight := channel.inFlight - 1 }

def submit (channel : Channel) (opcode : Opcode) (body : ByteArray) :
    Except ChannelError RequestId × Channel :=
  -- If the connection has ended since the sender was let in, the room is given back.
  let request := channel.nextRequest
  let channel := { channel with nextRequest := request + 1 }
  match channel.closeReason with
  | some reason => (.error (.closed reason), channel.release)
  | none => (.ok request, channel.enqueue (.send request opcode body))

def send (channel : Channel) (opcode : Opcode) (body : ByteArray) :
    Except ChannelError (RequestId × Channel) :=
  match channel.checkIn with
  | .error cause => .error cause
  | .ok entered =>
      match entered.submit opcode body with
      | (.error cause, _) => .error cause
      | (.ok request, channel) => .ok (request, channel)

def abandon (channel : Channel) (request : RequestId) : Channel :=
  channel.enqueue (.abandon request)

def close (channel : Channel) : Channel :=
  if channel.closing then channel
  else { channel with closing := true }.enqueue (.close true)

def forceClose (channel : Channel) : Channel :=
  { channel with closing := true }.enqueue (.close false)

structure Reaction where
  channel : Channel
  frames : List Frame := []
  replies : List (RequestId × Reply) := []
  ending : Option String := none

inductive Event where
  -- A command is taken from the front of the queue.
  | command
  | frame (frame : Frame)
  | lost (reason : String)
  | tick
  | abandonedByAll

def freeStream (channel : Channel) (stream : StreamId) : Channel :=
  match channel.ids.release? stream with
  | some ids => { channel with ids }.release
  | none => channel

def freeStreams (channel : Channel) (streams : List StreamId) : Channel :=
  streams.foldl freeStream channel

def ends (channel : Channel) (reason : String) : Reaction := { channel, ending := some reason }

def onSend (channel : Channel) (fault : Option DriverError) (request : RequestId)
    (opcode : Opcode) (body : ByteArray) : Reaction :=
  -- The room was reserved by the sender, so a request that is turned away gives it back.
  if channel.drainDeadline.isSome then
    { channel := channel.release, replies := [(request, .error (.closed "channel is closing"))] }
  else if maxBodyLength < body.size then
    { channel := channel.release,
      replies := [(request, .error (.protocol (.frameTooLarge body.size maxBodyLength)))] }
  else
    match channel.ids.acquire? with
    | none =>
        { channel := channel.release, replies := [(request, .error (.busy channel.capacity))] }
    | some (stream, ids) =>
        let channel := { channel with
          ids
          pending := channel.pending.insert stream request
          requests := channel.requests.insert request stream }
        match fault with
        | some e => channel.ends ("write failed: " ++ e.message)
        | none => { channel, frames := [.request stream opcode body] }

def onAbandon (channel : Channel) (request : RequestId) : Reaction :=
  -- The stream id stays in use until the late response arrives.
  match channel.requests[request]? with
  | none => { channel }
  | some stream =>
      let channel := { channel with
        requests := channel.requests.erase request
        pending := channel.pending.erase stream
        orphans := stream :: channel.orphans }
      let count := channel.orphans.length
      let limit := channel.limits.orphanLimit
      if limit < count then
        channel.ends s!"{count} orphaned stream ids exceed the limit of {limit}"
      else { channel }

def onCommand (channel : Channel) (now : Nat) (fault : Option DriverError) : Command → Reaction
  | .send request opcode body => channel.onSend fault request opcode body
  | .abandon request => channel.onAbandon request
  | .close true =>
      { channel := { channel with
          drainDeadline := some
            (channel.drainDeadline.getD (now + channel.limits.closeDrainTimeout)) } }
  | .close false => channel.ends "force closed by client"

def onResponse (channel : Channel) (frame : Frame) : Reaction :=
  -- A response on an orphan answers nobody and only frees the stream.
  match channel.pending[frame.stream]? with
  | some request =>
      { channel := { channel with
          pending := channel.pending.erase frame.stream
          requests := channel.requests.erase request }.freeStream frame.stream,
        replies := [(request, .ok frame)] }
  | none =>
      if frame.stream ∈ channel.orphans then
        { channel := { channel with
            orphans := channel.orphans.erase frame.stream }.freeStream frame.stream }
      else { channel := { channel with rejected := channel.rejected + 1 } }

def onFrame (channel : Channel) (now : Nat) (frame : Frame) : Reaction :=
  let channel := { channel with lastRead := now }
  if !frame.isResponse then
    channel.ends s!"peer sent a request frame ({frame.opcode.name})"
  else if frame.stream = eventStream then { channel }
  else
    match channel.heartbeat with
    | some heartbeat =>
        if heartbeat.stream = frame.stream then
          { channel := { channel with heartbeat := none }.freeStream frame.stream }
        else channel.onResponse frame
    | none => channel.onResponse frame

def startHeartbeat (channel : Channel) (now : Nat) (fault : Option DriverError) : Reaction :=
  -- Without room for a heartbeat, another interval passes.
  match channel.reserve? with
  | none => { channel := { channel with lastRead := now } }
  | some reserved =>
      match reserved.ids.acquire? with
      | none => { channel := { reserved with lastRead := now } }
      | some (stream, ids) =>
          let channel := { reserved with ids }
          match fault with
          | some e => channel.ends ("heartbeat write failed: " ++ e.message)
          | none =>
              let deadline := now + channel.limits.heartbeatTimeout
              { channel := { channel with heartbeat := some ⟨stream, deadline⟩ },
                frames := [.request stream .options ByteArray.empty] }

def onTick (channel : Channel) (now : Nat) (fault : Option DriverError) : Reaction :=
  match channel.heartbeat with
  | some heartbeat =>
      if heartbeat.deadline ≤ now then
        channel.ends ("heartbeat not answered within "
          ++ (Duration.ofMillis channel.limits.heartbeatTimeout).text)
      else { channel }
  | none =>
      match channel.drainDeadline with
      | some deadline =>
          if deadline ≤ now then
            channel.ends s!"{channel.pending.size} requests still pending after drain timeout"
          else { channel }
      | none =>
          if now < channel.lastRead + channel.limits.heartbeatInterval then { channel }
          else channel.startHeartbeat now fault

def nextWake (channel : Channel) : Nat :=
  let wake := match channel.heartbeat with
    | some heartbeat => heartbeat.deadline
    | none => channel.lastRead + channel.limits.heartbeatInterval
  match channel.drainDeadline with
  | some deadline => min wake deadline
  | none => wake

def queuedRequests (commands : List Command) : List RequestId :=
  commands.filterMap fun
    | .send request _ _ => some request
    | _ => none

def shutdown (channel : Channel) (reason : String) : Channel × List (RequestId × Reply) :=
  let queued := queuedRequests channel.commands
  let held := channel.pending.keys ++ channel.orphans
    ++ (channel.heartbeat.map (·.stream)).toList
  let freed := channel.freeStreams held
  ({ freed with
      closing := true
      closeReason := some reason
      pending := ∅
      requests := ∅
      orphans := []
      heartbeat := none
      commands := []
      inFlight := freed.inFlight - queued.length },
    (channel.pending.values ++ queued).map fun request => (request, .error (.closed reason)))

def settle (reaction : Reaction) : Reaction :=
  -- A connection that drains ends as soon as nothing is pending.
  let reason? := match reaction.ending with
    | some reason => some reason
    | none =>
        if reaction.channel.drainDeadline.isSome ∧ reaction.channel.pending.isEmpty then
          some "closed by client"
        else none
  match reason? with
  | none => reaction
  | some reason =>
      let (channel, replies) := reaction.channel.shutdown reason
      { reaction with channel, replies := reaction.replies ++ replies, ending := some reason }

/-- What an event leads to, before it is known whether the connection ends; `fault` tells how
writing a frame fails at this moment. -/
def handle (channel : Channel) (now : Nat) (fault : Option DriverError) : Event → Reaction
  | .command =>
      match channel.commands with
      | [] => { channel }
      | command :: rest => onCommand { channel with commands := rest } now fault command
  | .frame frame => channel.onFrame now frame
  | .lost reason => channel.ends reason
  | .tick => channel.onTick now fault
  | .abandonedByAll => channel.ends "all channel handles dropped"

def react (channel : Channel) (now : Nat) (fault : Option DriverError) (event : Event) : Reaction :=
  if channel.isClosed then { channel } else settle (channel.handle now fault event)

end Channel

end ClusterDriver
