import ClusterDriver.Proofs.Channel.Ending

set_option autoImplicit false

namespace ClusterDriver

namespace Channel

def Parts (channel : Channel) (request : RequestId) : Prop :=
  request ∉ channel.waiting ∨
    ∃ before after, channel.commands = before ++ .abandon request :: after ∧
      request ∉ queuedRequests after

/-- A response is expected on the stream, for the request or for nobody any more. -/
def Keeps (channel : Channel) (stream : StreamId) (request : RequestId) : Prop :=
  channel.pending[stream]? = some request ∨ stream ∈ channel.orphans

section Handling

variable {channel : Channel} {entered : Nat}

theorem startHeartbeat_commands (channel : Channel) (now : Nat) (fault : Option DriverError) :
    (channel.startHeartbeat now fault).channel.commands = channel.commands := by
  unfold startHeartbeat
  cases room : channel.reserve? with
  | none => rfl
  | some reserved =>
    obtain ⟨_, rfl⟩ := reserve?_some room
    simp only
    split
    next => rfl
    next => split <;> rfl

theorem handle_commands (channel : Channel) (now : Nat) (fault : Option DriverError)
    (event : Event) :
    (channel.handle now fault event).channel.commands = channel.commands ∨
      event = .command ∧ ∃ first,
        channel.commands = first :: (channel.handle now fault event).channel.commands := by
  cases event with
  | command =>
    cases queue : channel.commands with
    | nil => exact .inl (by simp [handle, queue])
    | cons command rest =>
      refine .inr ⟨rfl, command, ?_⟩
      simp only [handle, queue]
      cases command with
      | send request opcode body =>
        simp only [onCommand, onSend]
        repeat' split
        all_goals rfl
      | abandon request =>
        simp only [onCommand, onAbandon]
        repeat' split
        all_goals rfl
      | close graceful => cases graceful <;> rfl
  | frame frame =>
    left
    simp only [handle, onFrame, onResponse]
    repeat' split
    all_goals simp [freeStream_eq, ends]
  | lost reason => exact .inl rfl
  | tick =>
    left
    simp only [handle, onTick]
    split
    next => split <;> rfl
    next =>
      split
      next => split <;> rfl
      next =>
        split
        next => rfl
        next => exact startHeartbeat_commands channel now fault
  | abandonedByAll => exact .inl rfl

theorem handle_abandons (now : Nat) (fault : Option DriverError) {request : RequestId}
    {rest : List Command} (queue : channel.commands = .abandon request :: rest) :
    (channel.handle now fault .command).channel.requests[request]? = none := by
  simp only [handle, queue, onCommand, onAbandon]
  split
  next missing => exact missing
  next =>
    split <;> exact Std.TreeMap.getElem?_erase_self

theorem Parts.handled {request : RequestId} (parts : channel.Parts request)
    (consistent : channel.Consistent entered) (now : Nat) (fault : Option DriverError)
    (event : Event) : (channel.handle now fault event).channel.Parts request := by
  have handled := handle_handled channel now fault event
  rcases parts with gone | ⟨before, after, queue, last⟩
  · left
    rw [← List.count_eq_zero] at gone ⊢
    rcases handled.count_waiting consistent request with same | ⟨_, fewer⟩ <;> omega
  rcases handle_commands channel now fault event with same | ⟨rfl, first, popped⟩
  · exact .inr ⟨before, after, same.trans queue, last⟩
  rw [queue] at popped
  cases before with
  | nil =>
    -- The command itself is taken, and the request loses its place if it still has one.
    left
    obtain ⟨rfl, rest⟩ := List.cons.inj popped
    have none := handle_abandons now fault queue
    have inverse := handled.inverse consistent
    rw [waiting, List.mem_append, ← rest]
    rintro (pending | queued)
    · rw [inverse.mem_values_iff, Std.TreeMap.mem_iff_isSome_getElem?, none] at pending
      cases pending
    · exact last queued
  | cons command before =>
    obtain ⟨_, rest⟩ := List.cons.inj popped
    exact .inr ⟨before, after, rest.symm, last⟩

theorem Parts.appended {later : Channel} {request : RequestId} {command : Command}
    (parts : channel.Parts request) (other : request ∉ queuedRequests [command])
    (pending : later.pending = channel.pending)
    (queue : later.commands = channel.commands ++ [command]) : later.Parts request := by
  rcases parts with gone | ⟨before, after, first, last⟩
  · left
    rw [waiting, pending, queue, queuedRequests_append, ← List.append_assoc, List.mem_append]
    exact not_or.2 ⟨gone, other⟩
  · refine .inr ⟨before, after ++ [command], ?_, ?_⟩
    · rw [queue, first, List.append_assoc]
      rfl
    · rw [queuedRequests_append, List.mem_append]
      exact not_or.2 ⟨last, other⟩

theorem Parts.same {later : Channel} {request : RequestId} (parts : channel.Parts request)
    (pending : later.pending = channel.pending) (queue : later.commands = channel.commands) :
    later.Parts request := by
  simpa only [Parts, waiting, pending, queue] using parts

theorem Keeps.owned {stream : StreamId} {request : RequestId}
    (keeps : channel.Keeps stream request) : 0 < channel.owners stream := by
  rcases keeps with pending | orphan
  · exact Consistent.owned_pending pending
  · have counted := List.count_pos_iff.2 orphan
    simp only [owners]
    omega

theorem Covered.holds_of_owned {lost : Option StreamId} (covered : channel.Covered entered lost)
    {stream : StreamId} (owned : 0 < channel.owners stream) :
    channel.ids.Holds stream ∧ lost ≠ some stream := by
  by_contra absent
  have none := covered.owned stream
  rw [if_neg absent] at none
  omega

theorem freeStream_free (valid : channel.ids.Valid) (stream : StreamId) :
    ¬(channel.freeStream stream).ids.Holds stream := by
  rw [freeStream_eq]
  cases released : channel.ids.release? stream with
  | none => exact (StreamIds.release?_eq_none_iff stream).1 released
  | some ids =>
    have holds := (StreamIds.release?_holds valid released).1
    exact fun held => ((holds stream).1 held).1 rfl

theorem Keeps.handled {stream : StreamId} {request : RequestId} {event : Event}
    {reaction : Reaction} (keeps : channel.Keeps stream request)
    (handled : Handled channel event reaction) (consistent : channel.Consistent entered) :
    reaction.channel.Keeps stream request ∨ ¬reaction.channel.ids.Holds stream := by
  have held := consistent.holds_of_owners keeps.owned
  cases handled with
  | quiet => exact .inl keeps
  | refused => exact .inl keeps
  | starved => exact .inl keeps
  | @sent _ _ _ _ other _ _ _ _ acquired =>
    left
    -- A stream that is handed out was free, so it is not this one.
    have free := (StreamIds.acquire?_holds consistent.valid acquired).1
    have different : other ≠ stream := by
      rintro rfl
      exact free held
    simpa [Keeps, Std.TreeMap.getElem?_insert, Std.LawfulEqCmp.compare_eq_iff_eq, different]
      using keeps
  | @orphaned _ _ other =>
    left
    by_cases same : other = stream
    · exact .inr (by simp [same])
    · rcases keeps with pending | orphan
      · left
        simpa [Std.TreeMap.getElem?_erase, Std.LawfulEqCmp.compare_eq_iff_eq, same] using pending
      · exact .inr (by simp [orphan])
  | @answered frame =>
    by_cases same : frame.stream = stream
    · subst same
      right
      exact freeStream_free (by exact consistent.valid) frame.stream
    · left
      simpa [Keeps, freeStream_eq, Std.TreeMap.getElem?_erase, Std.LawfulEqCmp.compare_eq_iff_eq,
        same] using keeps
  | @discarded frame =>
    by_cases same : frame.stream = stream
    · subst same
      right
      exact freeStream_free (by exact consistent.valid) frame.stream
    · left
      rcases keeps with pending | orphan
      · exact .inl (by simpa [freeStream_eq] using pending)
      · refine .inr ?_
        have kept := (List.mem_erase_of_ne (Ne.symm same)).2 orphan
        simpa [freeStream_eq] using kept
  | rejected => exact .inl keeps
  | beatAnswered => exact .inl (by simpa [Keeps, freeStream_eq] using keeps)
  | beatSent => exact .inl keeps
  | beatFailed => exact .inl keeps
  | beatStarved => exact .inl keeps

theorem Covered.vacates {lost : Option StreamId} (covered : channel.Covered entered lost)
    {stream : StreamId} {request : RequestId}
    (kept : channel.Keeps stream request ∨ ¬channel.ids.Holds stream) (reason : String) :
    ¬(channel.shutdown reason).1.ids.Holds stream := by
  have vacant := covered.shutdown reason
  rw [vacant.held stream]
  intro same
  rcases kept with keeps | free
  · exact (covered.holds_of_owned keeps.owned).2 same
  · exact free (covered.held stream same)

end Handling

end Channel

namespace History

open Channel

theorem issued_issue (history : History) (channel : Channel) (ticket : Ticket) :
    (history.issue channel ticket).issued = history.issued ++ [ticket.request] := by
  simp [issued, issue]

theorem act_issued {history : History} {request : RequestId} (issued : request ∈ history.issued)
    (action : Action) : request ∈ (history.act action).issued := by
  have acted := history.act_acted action
  generalize history.act action = later at acted ⊢
  cases acted with
  | sent =>
    rw [issued_issue]
    exact List.mem_append_left _ issued
  | submitted =>
    rw [issued_issue]
    exact List.mem_append_left _ issued
  | _ => exact issued

theorem act_completed {history : History} {answer : RequestId × Reply}
    (told : answer ∈ history.completed) (action : Action) :
    answer ∈ (history.act action).completed := by
  rcases act_cases history action with ⟨_, same⟩ | ⟨_, now, fault, event, rfl⟩
  · rwa [same]
  · exact List.mem_append_left _ told

theorem act_parts {history : History} {request : RequestId} (inOrder : history.InOrder)
    (tracked : history.Tracked) (issued : request ∈ history.issued)
    (parts : history.channel.Parts request) (action : Action) :
    (history.act action).channel.Parts request := by
  -- New requests have numbers that were never given out.
  have another (opcode : Opcode) (body : ByteArray) :
      request ∉ queuedRequests [.send history.channel.nextRequest opcode body] := by
    have older := tracked.older request issued
    simpa [queuedRequests] using Nat.ne_of_lt older
  have acted := history.act_acted action
  generalize history.act action = later at acted ⊢
  cases acted with
  | idle => exact parts
  | sent => exact parts.appended (another _ _) rfl rfl
  | entered => exact parts.same rfl rfl
  | submitted => exact parts.appended (another _ _) rfl rfl
  | turnedAway => exact parts.same rfl rfl
  | @queued _ command closing _ other =>
    rcases enqueue_cases { history.channel with closing } command with same | same
    · rw [same]
      exact parts.same rfl rfl
    · rw [same]
      exact parts.appended (by simp [other]) rfl rfl
  | @happened now fault event =>
    cases isOpen : history.channel.isClosed with
    | true =>
      simp only [act, react, isOpen, if_true]
      exact parts
    | false =>
      simp only [act]
      rcases react_cases isOpen now fault event with same | ⟨reason, same⟩
      · rw [same]
        exact parts.handled (inOrder isOpen) now fault event
      · rw [same]
        exact .inl (by simp [shutdown_waiting])

theorem act_keeps {history : History} {stream : StreamId} {request : RequestId}
    (inOrder : history.InOrder) (keeps : history.channel.Keeps stream request) (action : Action) :
    (history.act action).channel.Keeps stream request ∨
      ¬(history.act action).channel.ids.Holds stream := by
  rcases act_cases history action with ⟨⟨_, _, _, _, same⟩, _⟩ | ⟨isOpen, now, fault, event, rfl⟩
  · left
    rw [same]
    exact keeps
  · have consistent := inOrder isOpen
    have kept := keeps.handled (handle_handled history.channel now fault event) consistent
    simp only [act]
    rcases react_cases isOpen now fault event with same | ⟨reason, same⟩
    · rwa [same]
    · rw [same]
      right
      have covered := handle_covered consistent now fault event
      split at covered
      next =>
        obtain ⟨_, covered⟩ := covered
        exact covered.vacates kept reason
      next => exact covered.vacates kept reason

theorem act_abandon_channel {history : History} {request : RequestId}
    (issued : request ∈ history.issued) :
    (history.act (.abandon request)).channel = history.channel.abandon request := by
  simp [act, issued]

theorem act_abandon_queues {history : History} {request : RequestId}
    (issued : request ∈ history.issued) (isOpen : history.channel.isClosed = false) :
    (history.act (.abandon request)).channel.commands =
      history.channel.commands ++ [.abandon request] := by
  rw [act_abandon_channel issued]
  simp [Channel.abandon, enqueue, isOpen]

theorem act_abandoned {history : History} {action : Action} {request : RequestId}
    (abandoned : request ∈ (history.act action).abandoned) :
    request ∈ history.abandoned ∨
      action = .abandon request ∧ request ∈ history.issued ∧
        history.isCompleted request = false := by
  -- Nothing but giving up a request adds to the list.
  cases action with
  | abandon other =>
    simp only [act] at abandoned
    split at abandoned
    next issued =>
      simp only at abandoned
      split at abandoned
      next => exact .inl abandoned
      next incomplete =>
        rcases List.mem_append.1 abandoned with before | new
        · exact .inl before
        · obtain rfl := List.mem_singleton.1 new
          exact .inr ⟨rfl, issued, by simpa using incomplete⟩
    next => exact .inl abandoned
  | send =>
    left
    simp only [act] at abandoned
    split at abandoned <;> exact abandoned
  | enter =>
    left
    simp only [act] at abandoned
    split at abandoned <;> exact abandoned
  | submit =>
    left
    simp only [act] at abandoned
    split at abandoned
    next => exact abandoned
    next => split at abandoned <;> exact abandoned
  | close => exact .inl abandoned
  | forceClose => exact .inl abandoned
  | event => exact .inl abandoned

end History

end ClusterDriver
