import ClusterDriver.Proofs.Channel.Accounts

/-!
Everything that can happen to a connection, in any order: senders come and go, requests are
abandoned, the connection is closed, and events are handled. A history is the connection together
with what its users know of it.
-/

set_option autoImplicit false

namespace ClusterDriver

structure Ticket where
  request : RequestId
  opcode : Opcode
  body : ByteArray

/-- `entered` senders have been let in and have not queued their request yet. A request is
`abandoned` if its owner gave up before it was completed. -/
structure History where
  channel : Channel
  entered : Nat := 0
  tickets : List Ticket := []
  completed : List (RequestId × Reply) := []
  abandoned : List RequestId := []

namespace History

/-- What users do and what happens to the connection. The two halves of sending may lie apart: a
sender `enter`s on what it has seen of the connection earlier, and `submit`s later. -/
inductive Action where
  | send (opcode : Opcode) (body : ByteArray)
  | enter
  | submit (opcode : Opcode) (body : ByteArray)
  | abandon (request : RequestId)
  | close
  | forceClose
  | event (now : Nat) (fault : Option DriverError) (event : Channel.Event)

def opened (limits : ChannelLimits) (now : Nat) : History where
  channel := .opened limits now

def issued (history : History) : List RequestId := history.tickets.map (·.request)

def isCompleted (history : History) (request : RequestId) : Bool :=
  request ∈ history.completed.map (·.1)

def issue (history : History) (channel : Channel) (ticket : Ticket) : History :=
  { history with channel, tickets := history.tickets ++ [ticket] }

def act (history : History) : Action → History
  | .send opcode body =>
      match history.channel.send opcode body with
      | .error _ => history
      | .ok (request, channel) => history.issue channel ⟨request, opcode, body⟩
  | .enter =>
      match history.channel.reserve? with
      | none => history
      | some channel => { history with channel, entered := history.entered + 1 }
  | .submit opcode body =>
      if history.entered = 0 then history
      else
        let history := { history with entered := history.entered - 1 }
        match history.channel.submit opcode body with
        | (.error _, channel) => { history with channel }
        | (.ok request, channel) => history.issue channel ⟨request, opcode, body⟩
  | .abandon request =>
      if request ∈ history.issued then
        { history with
          channel := history.channel.abandon request
          abandoned :=
            if history.isCompleted request then history.abandoned
            else history.abandoned ++ [request] }
      else history
  | .close => { history with channel := history.channel.close }
  | .forceClose => { history with channel := history.channel.forceClose }
  | .event now fault event =>
      let reaction := history.channel.react now fault event
      { history with
        channel := reaction.channel
        completed := history.completed ++ reaction.replies }

def run (history : History) (actions : List Action) : History := actions.foldl act history

end History

namespace Channel

theorem checkIn_ok {channel reserved : Channel} (allowed : channel.checkIn = .ok reserved) :
    channel.isClosed = false ∧ channel.reserve? = some reserved := by
  unfold checkIn at allowed
  split at allowed
  · cases allowed
  next reason =>
    split at allowed
    · cases allowed
    split at allowed
    · cases allowed
    next room =>
      cases allowed
      exact ⟨by simp [isClosed, reason], room⟩

theorem submit_open {channel : Channel} (isOpen : channel.isClosed = false) (opcode : Opcode)
    (body : ByteArray) :
    channel.submit opcode body = (.ok channel.nextRequest, { channel with
      nextRequest := channel.nextRequest + 1
      commands := channel.commands ++ [.send channel.nextRequest opcode body] }) := by
  cases reason : channel.closeReason with
  | some => simp [isClosed, reason] at isOpen
  | none => simp [submit, reason, enqueue, isClosed]

theorem submit_closed {channel : Channel} (closed : channel.isClosed = true) (opcode : Opcode)
    (body : ByteArray) :
    ∃ cause, channel.submit opcode body =
      (.error cause, { channel with nextRequest := channel.nextRequest + 1 }.release) := by
  cases ended : channel.closeReason with
  | some reason => exact ⟨.closed reason, by simp [submit, ended]⟩
  | none => simp [isClosed, ended] at closed

theorem send_ok {channel sent : Channel} {opcode : Opcode} {body : ByteArray}
    {request : RequestId} (accepted : channel.send opcode body = .ok (request, sent)) :
    channel.isClosed = false ∧ channel.inFlight < channel.capacity ∧
      request = channel.nextRequest ∧
      sent = { channel with
        inFlight := channel.inFlight + 1
        nextRequest := channel.nextRequest + 1
        commands := channel.commands ++ [.send channel.nextRequest opcode body] } := by
  unfold send at accepted
  split at accepted
  · cases accepted
  next reserved allowed =>
    obtain ⟨isOpen, room⟩ := checkIn_ok allowed
    obtain ⟨less, rfl⟩ := reserve?_some room
    have stillOpen : Channel.isClosed { channel with inFlight := channel.inFlight + 1 } = false :=
      isOpen
    rw [submit_open stillOpen] at accepted
    cases accepted
    exact ⟨isOpen, less, rfl, rfl⟩

theorem enqueue_cases (channel : Channel) (command : Command) :
    channel.enqueue command = channel ∨
      channel.enqueue command = { channel with commands := channel.commands ++ [command] } := by
  unfold enqueue
  split
  next => exact .inl rfl
  next => exact .inr rfl

end Channel

namespace History

open Channel

theorem run_append (history : History) (first second : List Action) :
    history.run (first ++ second) = (history.run first).run second :=
  List.foldl_append

theorem run_induction (holds : History → Prop)
    (step : ∀ history action, holds history → holds (history.act action)) {history : History}
    (start : holds history) (actions : List Action) : holds (history.run actions) := by
  induction actions generalizing history with
  | nil => exact start
  | cons action rest ih => exact ih (step history action start)

inductive Acted (history : History) : Action → History → Prop where
  | idle {action : Action} : Acted history action history
  | sent {opcode : Opcode} {body : ByteArray}
      (isOpen : history.channel.isClosed = false)
      (room : history.channel.inFlight < history.channel.capacity) :
      Acted history (.send opcode body) (history.issue
        { history.channel with
          inFlight := history.channel.inFlight + 1
          nextRequest := history.channel.nextRequest + 1
          commands := history.channel.commands ++
            [Command.send history.channel.nextRequest opcode body] }
        ⟨history.channel.nextRequest, opcode, body⟩)
  | entered (room : history.channel.inFlight < history.channel.capacity) :
      Acted history .enter { history with
        channel := { history.channel with inFlight := history.channel.inFlight + 1 }
        entered := history.entered + 1 }
  | submitted {opcode : Opcode} {body : ByteArray}
      (some : history.entered ≠ 0)
      (isOpen : history.channel.isClosed = false) :
      Acted history (.submit opcode body) ({ history with entered := history.entered - 1 }.issue
        { history.channel with
          nextRequest := history.channel.nextRequest + 1
          commands := history.channel.commands ++
            [Command.send history.channel.nextRequest opcode body] }
        ⟨history.channel.nextRequest, opcode, body⟩)
  | turnedAway {opcode : Opcode} {body : ByteArray}
      (some : history.entered ≠ 0)
      (closed : history.channel.isClosed = true) :
      Acted history (.submit opcode body) { history with
        channel := { history.channel with nextRequest := history.channel.nextRequest + 1 }.release
        entered := history.entered - 1 }
  -- An owner that gives up a request counts as abandoning it only before it is completed.
  | queued {action : Action} {command : Command} {closing : Bool} {abandoned : List RequestId}
      (other : queuedRequests [command] = [])
      (more : history.abandoned ⊆ abandoned)
      (known : ∀ request, command = .abandon request →
        request ∈ abandoned ∨ history.isCompleted request) :
      Acted history action { history with
        channel := { history.channel with closing }.enqueue command
        abandoned }
  | happened {now : Nat} {fault : Option DriverError} {event : Channel.Event} :
      Acted history (.event now fault event) (history.act (.event now fault event))

theorem act_acted (history : History) (action : Action) :
    history.Acted action (history.act action) := by
  cases action with
  | send opcode body =>
    simp only [act]
    split
    next => exact .idle
    next accepted =>
      obtain ⟨isOpen, room, rfl, rfl⟩ := send_ok accepted
      exact .sent isOpen room
  | enter =>
    simp only [act]
    split
    next => exact .idle
    next reserved =>
      obtain ⟨room, rfl⟩ := reserve?_some reserved
      exact .entered room
  | submit opcode body =>
    simp only [act]
    split
    next => exact .idle
    next some =>
      cases isOpen : history.channel.isClosed with
      | true =>
        obtain ⟨cause, refused⟩ := submit_closed isOpen opcode body
        rw [refused]
        exact .turnedAway some isOpen
      | false =>
        rw [submit_open isOpen]
        exact .submitted some isOpen
  | abandon request =>
    simp only [act]
    split
    next =>
      refine .queued rfl ?_ ?_
      · split
        · exact List.Subset.refl _
        · exact List.subset_append_left _ _
      · rintro _ ⟨⟩
        split
        next completed => exact .inr completed
        next => exact .inl (by simp)
    next => exact .idle
  | close =>
    simp only [act, close]
    split
    next => exact .idle
    next => exact .queued rfl (List.Subset.refl _) nofun
  | forceClose => exact .queued rfl (List.Subset.refl _) nofun
  | event now fault event => exact .happened

theorem act_cases (history : History) (action : Action) :
    (∃ inFlight nextRequest closing commands, (history.act action).channel =
        { history.channel with inFlight, nextRequest, closing, commands }) ∧
        (history.act action).completed = history.completed ∨
      history.channel.isClosed = false ∧ ∃ now fault event, action = .event now fault event := by
  have acted := history.act_acted action
  generalize history.act action = later at acted ⊢
  cases acted with
  | idle => exact .inl ⟨⟨_, _, _, _, rfl⟩, rfl⟩
  | sent => exact .inl ⟨⟨_, _, _, _, rfl⟩, rfl⟩
  | entered => exact .inl ⟨⟨_, _, _, _, rfl⟩, rfl⟩
  | submitted => exact .inl ⟨⟨_, _, _, _, rfl⟩, rfl⟩
  | turnedAway => exact .inl ⟨⟨_, _, _, _, rfl⟩, rfl⟩
  | @queued _ command closing =>
    left
    rcases enqueue_cases { history.channel with closing } command with same | same
    · rw [same]
      exact ⟨⟨_, _, _, _, rfl⟩, rfl⟩
    · rw [same]
      exact ⟨⟨_, _, _, _, rfl⟩, rfl⟩
  | @happened now fault event =>
    cases closed : history.channel.isClosed with
    | false => exact .inr ⟨rfl, now, fault, event, rfl⟩
    | true =>
      left
      simp only [act, react, closed, if_true, List.append_nil]
      exact ⟨⟨_, _, _, _, rfl⟩, trivial⟩

theorem act_open {history : History} {action : Action}
    (isOpen : (history.act action).channel.isClosed = false) :
    history.channel.isClosed = false := by
  rcases act_cases history action with ⟨⟨_, _, _, _, same⟩, _⟩ | ⟨wasOpen, _⟩
  · rwa [same] at isOpen
  · exact wasOpen

def InOrder (history : History) : Prop :=
  history.channel.isClosed = false → history.channel.Consistent history.entered

theorem act_inOrder (history : History) (action : Action) (inOrder : history.InOrder) :
    (history.act action).InOrder := by
  intro isOpen
  have consistent := inOrder (act_open isOpen)
  have acted := history.act_acted action
  generalize history.act action = later at acted isOpen ⊢
  cases acted with
  | idle => exact consistent
  | sent _ room => exact (consistent.reserved room).queued _ _
  | entered room => exact consistent.reserved room
  | submitted some =>
    have shifted : history.entered - 1 + 1 = history.entered := Nat.succ_pred some
    exact Consistent.queued (shifted.symm ▸ consistent) _ _
  | turnedAway _ closed => exact absurd (closed.symm.trans isOpen) (by decide)
  | @queued _ command closing _ other =>
    have same : Consistent { history.channel with closing } history.entered := { consistent with }
    exact same.enqueued other
  | @happened now fault event =>
    obtain ⟨_, same, goesOn⟩ := react_open isOpen
    simp only [act, same]
    exact consistent.handled (handle_handled _ now fault event) goesOn

theorem run_inOrder (limits : ChannelLimits) (start : Nat) (actions : List Action) :
    ((opened limits start).run actions).InOrder :=
  run_induction InOrder act_inOrder (fun _ => opened_consistent limits start) actions

def Reached (history : History) : Prop :=
  ∃ limits start actions, history = (opened limits start).run actions

theorem Reached.consistent {history : History} (reached : history.Reached)
    (isOpen : history.channel.isClosed = false) : history.channel.Consistent history.entered := by
  obtain ⟨limits, start, actions, rfl⟩ := reached
  exact run_inOrder limits start actions isOpen

/-- As long as a connection is open, each stream id in use is expected in exactly one place,
requests and pending streams lead to each other, and there is exactly as much room reserved as
ids are in use, requests are queued and senders have entered. So a queued request always finds an
id; and a sender that is turned away changes nothing, and none is after it has entered. -/
theorem Reached.books_balance {history : History} (reached : history.Reached)
    (isOpen : history.channel.isClosed = false) :
    history.channel.expected.Nodup ∧
      (∀ stream, stream ∈ history.channel.expected ↔ history.channel.ids.Holds stream) ∧
      (∀ (request : RequestId) (stream : StreamId),
        history.channel.requests[request]? = some stream ↔
          history.channel.pending[stream]? = some request) ∧
      history.channel.inFlight =
        history.channel.ids.held.card + (queuedRequests history.channel.commands).length
          + history.entered ∧
      history.channel.inFlight ≤ history.channel.capacity ∧
      history.channel.orphans.length ≤ history.channel.limits.orphanLimit ∧
      history.channel.limits.orphanLimit < history.channel.capacity ∧
      (∀ request opcode body rest, history.channel.commands = .send request opcode body :: rest →
        history.channel.ids.acquire?.isSome) ∧
      (∀ opcode body cause, history.channel.send opcode body = .error cause →
        history.act (.send opcode body) = history) ∧
      (∀ opcode body,
        (history.channel.submit opcode body).1 = .ok history.channel.nextRequest) := by
  have consistent := reached.consistent isOpen
  refine ⟨?_, ?_, consistent.inverse, consistent.counted, consistent.bounded,
    consistent.tolerated, orphanLimit_lt_capacity _, ?_, ?_, ?_⟩
  · rw [List.nodup_iff_count_le_one]
    intro stream
    rw [count_expected]
    exact consistent.owners_le_one stream
  · intro stream
    rw [← List.count_pos_iff, count_expected, consistent.owned stream]
    split <;> simp [*]
  · intro request opcode body rest first
    exact Option.isSome_iff_ne_none.2 (consistent.acquires first)
  · intro opcode body cause refused
    simp only [act, refused]
  · intro opcode body
    rw [submit_open isOpen]

def crowded : History :=
  (opened ⟨3, 0, 5, 5, 1, 0⟩ 0).run
    [.send .query ByteArray.empty, .send .query ByteArray.empty, .event 0 none .command,
      .event 0 none .command, .abandon 0, .event 0 none .command, .enter]

theorem crowded_books_balance :
    crowded.Reached ∧ crowded.channel.isClosed = false ∧ crowded.channel.expected = [1, 0] ∧
      crowded.channel.expected.Nodup ∧
      crowded.channel.inFlight = crowded.channel.ids.held.card + 0 + 1 := by
  have reached : crowded.Reached := ⟨_, _, _, rfl⟩
  have isOpen : crowded.channel.isClosed = false := by decide
  obtain ⟨distinct, _, _, counted, _⟩ := reached.books_balance isOpen
  exact ⟨reached, isOpen, by decide, distinct, counted⟩

theorem entered_act_le (history : History) {action : Action} (other : action ≠ .enter) :
    (history.act action).entered ≤ history.entered := by
  have acted := history.act_acted action
  generalize history.act action = later at acted ⊢
  cases acted with
  | entered => exact absurd rfl other
  | submitted => exact Nat.sub_le _ _
  | turnedAway => exact Nat.sub_le _ _
  | _ => exact Nat.le_refl _

theorem entered_run (limits : ChannelLimits) (start : Nat) {actions : List Action}
    (whole : .enter ∉ actions) : ((opened limits start).run actions).entered = 0 := by
  have never : ∀ (history : History) (actions : List Action), .enter ∉ actions →
      (history.run actions).entered ≤ history.entered := by
    intro history actions
    induction actions generalizing history with
    | nil => exact fun _ => Nat.le_refl _
    | cons action rest ih =>
      intro whole
      rw [List.mem_cons, not_or] at whole
      exact Nat.le_trans (ih _ whole.2) (history.entered_act_le (Ne.symm whole.1))
  exact Nat.le_zero.1 (never _ actions whole)

/-- Where requests are only sent as a whole, there is exactly as much room reserved as ids are in
use and requests are queued. -/
theorem counted_of_whole (limits : ChannelLimits) (start : Nat) {actions : List Action}
    (whole : .enter ∉ actions)
    (isOpen : ((opened limits start).run actions).channel.isClosed = false) :
    ((opened limits start).run actions).channel.inFlight =
      ((opened limits start).run actions).channel.ids.held.card +
        (queuedRequests ((opened limits start).run actions).channel.commands).length := by
  have counted := (run_inOrder limits start actions isOpen).counted
  rwa [entered_run limits start whole] at counted

end History

end ClusterDriver
