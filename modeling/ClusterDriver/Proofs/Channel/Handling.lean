import ClusterDriver.Channel
import ClusterDriver.Proofs.StreamIds

set_option autoImplicit false

namespace ClusterDriver.Channel

theorem freeStream_eq (channel : Channel) (stream : StreamId) :
    channel.freeStream stream = { channel with
      ids := (channel.ids.release? stream).getD channel.ids
      inFlight := channel.inFlight - (channel.ids.release? stream).toList.length } := by
  unfold freeStream
  cases channel.ids.release? stream <;> rfl

theorem reserve?_some {channel reserved : Channel} (room : channel.reserve? = some reserved) :
    channel.inFlight < channel.capacity ∧
      reserved = { channel with inFlight := channel.inFlight + 1 } := by
  unfold reserve? at room
  split at room
  next less => exact ⟨less, (Option.some.inj room).symm⟩
  next => cases room

@[simp]
theorem queuedRequests_send (request : RequestId) (opcode : Opcode) (body : ByteArray)
    (rest : List Command) :
    queuedRequests (.send request opcode body :: rest) = request :: queuedRequests rest := rfl

@[simp]
theorem queuedRequests_abandon (request : RequestId) (rest : List Command) :
    queuedRequests (.abandon request :: rest) = queuedRequests rest := rfl

@[simp]
theorem queuedRequests_close (graceful : Bool) (rest : List Command) :
    queuedRequests (.close graceful :: rest) = queuedRequests rest := rfl

@[simp]
theorem queuedRequests_append (first second : List Command) :
    queuedRequests (first ++ second) = queuedRequests first ++ queuedRequests second := by
  simp [queuedRequests]

theorem mem_queuedRequests {commands : List Command} {request : RequestId} :
    request ∈ queuedRequests commands ↔ ∃ opcode body, .send request opcode body ∈ commands := by
  simp only [queuedRequests, List.mem_filterMap]
  constructor
  · rintro ⟨command, member, found⟩
    cases command with
    | send sent opcode body =>
      obtain rfl : sent = request := by simpa using found
      exact ⟨opcode, body, member⟩
    | abandon => cases found
    | close => cases found
  · rintro ⟨opcode, body, member⟩
    exact ⟨_, member, rfl⟩

inductive Handled (channel : Channel) : Event → Reaction → Prop where
  -- No stream and no request is concerned.
  | quiet {event : Event} {commands : List Command} {lastRead : Nat} {drainDeadline : Option Nat}
      {ending : Option String}
      (kept : queuedRequests commands = queuedRequests channel.commands)
      (fewer : ∀ command ∈ commands, command ∈ channel.commands)
      (silent : ∀ frame, event = .frame frame →
        frame.isResponse = false ∧ ending.isSome ∨ frame.stream = eventStream) :
      Handled channel event {
        channel := { channel with commands, lastRead, drainDeadline }
        ending }
  -- A queued request is turned away because the connection drains or its body is too long.
  | refused {request : RequestId} {opcode : Opcode} {body : ByteArray} {rest : List Command}
      {cause : ChannelError}
      (first : channel.commands = .send request opcode body :: rest) :
      Handled channel .command {
        channel := { channel with commands := rest }.release
        replies := [(request, .error cause)] }
  -- A queued request finds no stream id.
  | starved {request : RequestId} {opcode : Opcode} {body : ByteArray} {rest : List Command}
      (first : channel.commands = .send request opcode body :: rest)
      (none : channel.ids.acquire? = none) :
      Handled channel .command {
        channel := { channel with commands := rest }.release
        replies := [(request, .error (.busy channel.capacity))] }
  -- A queued request gets a stream id; its frame is written, or the connection ends.
  | sent {request : RequestId} {opcode : Opcode} {body : ByteArray} {rest : List Command}
      {stream : StreamId} {ids : StreamIds} {frames : List Frame} {ending : Option String}
      (first : channel.commands = .send request opcode body :: rest)
      (acquired : channel.ids.acquire? = some (stream, ids))
      (written : ending = none → frames = [.request stream opcode body])
      (unwritten : ending.isSome → frames = []) :
      Handled channel .command {
        channel := { channel with
          commands := rest
          ids
          pending := channel.pending.insert stream request
          requests := channel.requests.insert request stream }
        frames
        ending }
  -- A request that is pending loses its owner.
  | orphaned {request : RequestId} {rest : List Command} {stream : StreamId}
      {ending : Option String}
      (first : channel.commands = .abandon request :: rest)
      (found : channel.requests[request]? = some stream)
      (tolerated : ending = none → channel.orphans.length + 1 ≤ channel.limits.orphanLimit) :
      Handled channel .command {
        channel := { channel with
          commands := rest
          requests := channel.requests.erase request
          pending := channel.pending.erase stream
          orphans := stream :: channel.orphans }
        ending }
  -- A response to a request that is pending.
  | answered {frame : Frame} {lastRead : Nat} {request : RequestId}
      (other : ∀ heartbeat, channel.heartbeat = some heartbeat → heartbeat.stream ≠ frame.stream)
      (found : channel.pending[frame.stream]? = some request) :
      Handled channel (.frame frame) {
        channel := { channel with
          lastRead
          pending := channel.pending.erase frame.stream
          requests := channel.requests.erase request }.freeStream frame.stream
        replies := [(request, .ok frame)] }
  -- A response to a request that nobody waits for any more.
  | discarded {frame : Frame} {lastRead : Nat}
      (other : ∀ heartbeat, channel.heartbeat = some heartbeat → heartbeat.stream ≠ frame.stream)
      (orphan : frame.stream ∈ channel.orphans) :
      Handled channel (.frame frame) {
        channel := { channel with
          lastRead
          orphans := channel.orphans.erase frame.stream }.freeStream frame.stream }
  -- A response on a stream that is not in use.
  | rejected {frame : Frame} {lastRead : Nat}
      (other : ∀ heartbeat, channel.heartbeat = some heartbeat → heartbeat.stream ≠ frame.stream)
      (unknown : channel.pending[frame.stream]? = none) (strange : frame.stream ∉ channel.orphans) :
      Handled channel (.frame frame) {
        channel := { channel with lastRead, rejected := channel.rejected + 1 } }
  -- The response to the heartbeat.
  | beatAnswered {frame : Frame} {lastRead : Nat} {heartbeat : Heartbeat}
      (outstanding : channel.heartbeat = some heartbeat)
      (same : heartbeat.stream = frame.stream) :
      Handled channel (.frame frame) {
        channel := { channel with lastRead, heartbeat := none }.freeStream frame.stream }
  | beatSent {stream : StreamId} {ids : StreamIds} {deadline : Nat}
      (idle : channel.heartbeat = none)
      (room : channel.inFlight < channel.capacity)
      (acquired : channel.ids.acquire? = some (stream, ids)) :
      Handled channel .tick {
        channel := { channel with
          inFlight := channel.inFlight + 1
          ids
          heartbeat := some ⟨stream, deadline⟩ }
        frames := [.request stream .options ByteArray.empty] }
  | beatFailed {stream : StreamId} {ids : StreamIds} {reason : String}
      (acquired : channel.ids.acquire? = some (stream, ids)) :
      Handled channel .tick {
        channel := { channel with inFlight := channel.inFlight + 1, ids }
        ending := some reason }
  -- There is room for a heartbeat, but no stream id.
  | beatStarved {lastRead : Nat}
      (room : channel.inFlight < channel.capacity)
      (none : channel.ids.acquire? = none) :
      Handled channel .tick {
        channel := { channel with inFlight := channel.inFlight + 1, lastRead } }

namespace Handled

theorem ofCommand (channel : Channel) (now : Nat) (fault : Option DriverError) :
    Handled channel .command (channel.handle now fault .command) := by
  unfold handle
  cases commands : channel.commands with
  | nil => exact .quiet rfl (fun _ member => member) nofun
  | cons command rest =>
    cases command with
    | send request opcode body =>
      simp only [onCommand, onSend]
      split
      · exact .refused commands
      split
      · exact .refused commands
      cases acquired : channel.ids.acquire? with
      | none => exact .starved commands acquired
      | some taken =>
        cases fault with
        | none => exact .sent commands acquired (fun _ => rfl) nofun
        | some cause => exact .sent commands acquired nofun (fun _ => rfl)
    | abandon request =>
      simp only [onCommand, onAbandon]
      cases found : channel.requests[request]? with
      | none => exact .quiet (by simp [commands]) (by simp +contextual [commands]) nofun
      | some stream =>
        simp only
        split
        next => exact .orphaned commands found nofun
        next within =>
          refine .orphaned commands found fun _ => ?_
          simpa using within
    | close graceful =>
      cases graceful <;>
        exact .quiet (by simp [commands]) (by simp +contextual [commands]) nofun

theorem ofFrame (channel : Channel) (now : Nat) (fault : Option DriverError) (frame : Frame) :
    Handled channel (.frame frame) (channel.handle now fault (.frame frame)) := by
  -- A response that is not to the heartbeat ends in one of three ways.
  have response (other : ∀ heartbeat, channel.heartbeat = some heartbeat →
      heartbeat.stream ≠ frame.stream) :
      Handled channel (.frame frame) (onResponse { channel with lastRead := now } frame) := by
    unfold onResponse
    split
    next found => exact .answered other found
    next unknown =>
      split
      next orphan => exact .discarded other orphan
      next strange => exact .rejected other unknown strange
  simp only [handle, onFrame]
  split
  next request =>
    refine .quiet rfl (fun _ member => member) fun received same => .inl ?_
    cases same
    simpa using request
  split
  next pushed =>
    refine .quiet rfl (fun _ member => member) fun received same => .inr ?_
    cases same
    exact pushed
  split
  next heartbeat outstanding =>
    split
    next same => exact .beatAnswered outstanding same
    next other =>
      refine response fun beat found => ?_
      obtain rfl : heartbeat = beat := Option.some.inj (outstanding.symm.trans found)
      exact other
  next idle =>
    refine response fun beat found => ?_
    cases idle.symm.trans found

theorem ofTick (channel : Channel) (now : Nat) (fault : Option DriverError) :
    Handled channel .tick (channel.handle now fault .tick) := by
  simp only [handle, onTick]
  cases outstanding : channel.heartbeat with
  | some heartbeat =>
    simp only
    split <;> exact .quiet rfl (fun _ member => member) nofun
  | none =>
    cases draining : channel.drainDeadline with
    | some deadline =>
      simp only
      split <;> exact .quiet rfl (fun _ member => member) nofun
    | none =>
      simp only
      split
      · exact .quiet rfl (fun _ member => member) nofun
      unfold startHeartbeat
      cases room : channel.reserve? with
      | none => exact .quiet rfl (fun _ member => member) nofun
      | some reserved =>
        obtain ⟨less, rfl⟩ := reserve?_some room
        simp only
        cases acquired : channel.ids.acquire? with
        | none => exact .beatStarved less acquired
        | some taken =>
          cases fault with
          | none => exact .beatSent outstanding less acquired
          | some cause => exact .beatFailed acquired

end Handled

theorem handle_handled (channel : Channel) (now : Nat) (fault : Option DriverError)
    (event : Event) : Handled channel event (channel.handle now fault event) := by
  cases event with
  | command => exact .ofCommand channel now fault
  | frame frame => exact .ofFrame channel now fault frame
  | lost reason => exact .quiet rfl (fun _ member => member) nofun
  | tick => exact .ofTick channel now fault
  | abandonedByAll => exact .quiet rfl (fun _ member => member) nofun

theorem settle_cases (reaction : Reaction) :
    (settle reaction = reaction ∧ reaction.ending = none) ∨
      ∃ reason, settle reaction = { reaction with
        channel := (reaction.channel.shutdown reason).1
        replies := reaction.replies ++ (reaction.channel.shutdown reason).2
        ending := some reason } := by
  cases ended : reaction.ending with
  | some reason => exact .inr ⟨reason, by simp [settle, ended]⟩
  | none =>
    by_cases drained : reaction.channel.drainDeadline.isSome ∧ reaction.channel.pending.isEmpty
    · exact .inr ⟨"closed by client", by simp [settle, ended, drained]⟩
    · exact .inl ⟨by simp only [settle, ended, drained, if_false], rfl⟩

theorem shutdown_closeReason (channel : Channel) (reason : String) :
    (channel.shutdown reason).1.closeReason = some reason := rfl

theorem react_open {channel : Channel} {now : Nat} {fault : Option DriverError} {event : Event}
    (goesOn : (channel.react now fault event).channel.isClosed = false) :
    channel.isClosed = false ∧ channel.react now fault event = channel.handle now fault event ∧
      (channel.handle now fault event).ending = none := by
  cases closed : channel.isClosed with
  | true => simp [react, closed] at goesOn
  | false =>
    simp only [react, closed] at goesOn ⊢
    rcases settle_cases (channel.handle now fault event) with ⟨same, none⟩ | ⟨reason, same⟩
    · exact ⟨trivial, same, none⟩
    · simp [same, isClosed, shutdown_closeReason] at goesOn

theorem Handled.closeReason {channel : Channel} {event : Event} {reaction : Reaction}
    (handled : Handled channel event reaction) :
    reaction.channel.closeReason = channel.closeReason := by
  cases handled <;> simp only [freeStream_eq, release]

end ClusterDriver.Channel
