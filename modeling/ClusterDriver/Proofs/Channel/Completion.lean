import ClusterDriver.Proofs.Channel.History

set_option autoImplicit false

namespace ClusterDriver.Channel

def waiting (channel : Channel) : List RequestId :=
  channel.pending.values ++ queuedRequests channel.commands

theorem values_eq_toList (pending : Std.TreeMap StreamId RequestId) :
    pending.values = pending.toList.map (·.2) := by
  -- Both are known for the trees inside, as views of the same list of entries.
  have values := Std.DTreeMap.Internal.Impl.values_eq_map_snd (t := pending.inner.inner)
  have pairs :=
    Std.DTreeMap.Internal.Impl.Const.toList_eq_toListModel_map (t := pending.inner.inner)
  have listed : pending.inner.inner.values =
      (Std.DTreeMap.Internal.Impl.Const.toList pending.inner.inner).map (·.2) := by
    rw [values, pairs, List.map_map]
    rfl
  exact listed

theorem mem_values {pending : Std.TreeMap StreamId RequestId} {request : RequestId} :
    request ∈ pending.values ↔ ∃ stream : StreamId, pending[stream]? = some request := by
  rw [values_eq_toList, List.mem_map]
  constructor
  · rintro ⟨⟨stream, _⟩, member, rfl⟩
    exact ⟨stream, Std.TreeMap.mem_toList_iff_getElem?_eq_some.1 member⟩
  · rintro ⟨stream, found⟩
    exact ⟨(stream, request), Std.TreeMap.mem_toList_iff_getElem?_eq_some.2 found, rfl⟩

namespace Inverse

variable {requests : Std.TreeMap RequestId StreamId} {pending : Std.TreeMap StreamId RequestId}

theorem nodup_values (inverse : Inverse requests pending) : pending.values.Nodup := by
  rw [values_eq_toList, List.Nodup, List.pairwise_map]
  refine Std.TreeMap.distinct_keys_toList.imp_of_mem ?_
  intro first second member other distinct same
  have found := Std.TreeMap.mem_toList_iff_getElem?_eq_some.1 member
  have again := Std.TreeMap.mem_toList_iff_getElem?_eq_some.1 other
  have one := (inverse first.2 first.1).2 found
  have two := (inverse second.2 second.1).2 again
  rw [same, two] at one
  exact distinct (Std.LawfulEqCmp.compare_eq_iff_eq.2 (Option.some.inj one).symm)

theorem mem_values_iff (inverse : Inverse requests pending) (request : RequestId) :
    request ∈ pending.values ↔ request ∈ requests := by
  rw [mem_values, Std.TreeMap.mem_iff_isSome_getElem?, Option.isSome_iff_exists]
  exact exists_congr fun stream => (inverse request stream).symm

theorem count_values (inverse : Inverse requests pending) (request : RequestId) :
    pending.values.count request = if request ∈ requests then 1 else 0 := by
  rw [inverse.nodup_values.count]
  simp only [inverse.mem_values_iff]

end Inverse

theorem count_waiting {channel : Channel} (inverse : Inverse channel.requests channel.pending)
    (request : RequestId) :
    channel.waiting.count request = (if request ∈ channel.requests then 1 else 0)
      + (queuedRequests channel.commands).count request := by
  rw [waiting, List.count_append, inverse.count_values]

theorem Handled.inverse {channel : Channel} {entered : Nat} {event : Event} {reaction : Reaction}
    (handled : Handled channel event reaction) (consistent : channel.Consistent entered) :
    Inverse reaction.channel.requests reaction.channel.pending := by
  cases handled with
  | quiet => exact consistent.inverse
  | refused => exact consistent.inverse
  | starved => exact consistent.inverse
  | @sent request _ _ _ _ _ _ _ first acquired =>
    have fresh := consistent.unsent request (by simp [first])
    exact consistent.inverse.insert fresh (consistent.pending_acquired acquired)
  | orphaned _ found => exact consistent.inverse.erase found
  | @answered frame _ request _ found =>
    have known := (consistent.inverse request frame.stream).2 found
    simpa only [freeStream_eq] using consistent.inverse.erase known
  | discarded => simpa only [freeStream_eq] using consistent.inverse
  | rejected => exact consistent.inverse
  | beatAnswered => simpa only [freeStream_eq] using consistent.inverse
  | beatSent => exact consistent.inverse
  | beatFailed => exact consistent.inverse
  | beatStarved => exact consistent.inverse

def Reaction.answers (reaction : Reaction) (request : RequestId) : Nat :=
  (reaction.replies.map (·.1)).count request

theorem Handled.count_waiting {channel : Channel} {entered : Nat} {event : Event}
    {reaction : Reaction} (handled : Handled channel event reaction)
    (consistent : channel.Consistent entered) (request : RequestId) :
    reaction.channel.waiting.count request + reaction.answers request =
        channel.waiting.count request ∨
      .abandon request ∈ channel.commands ∧
        reaction.channel.waiting.count request + reaction.answers request ≤
          channel.waiting.count request := by
  have before := consistent.inverse
  have after := handled.inverse consistent
  cases handled with
  | quiet kept =>
    left
    simp [Reaction.answers, waiting, kept]
  | refused first =>
    left
    simp [Reaction.answers, waiting, release, first, List.count_cons, Nat.add_assoc]
  | starved first =>
    left
    simp [Reaction.answers, waiting, release, first, List.count_cons, Nat.add_assoc]
  | @sent sent _ _ _ _ _ _ _ first =>
    left
    have fresh : sent ∉ channel.requests := by
      have absent := consistent.unsent sent (by simp [first])
      simp [Std.TreeMap.mem_iff_isSome_getElem?, absent]
    rw [Channel.count_waiting before, Channel.count_waiting after]
    by_cases same : sent = request
    · subst same
      simp [Reaction.answers, first, fresh]
      omega
    · simp [Reaction.answers, first, same]
  | @orphaned orphaned _ _ _ first found =>
    rw [Channel.count_waiting before, Channel.count_waiting after]
    by_cases same : orphaned = request
    · subst same
      -- The owner gave up, so the request leaves its place without an answer.
      right
      refine ⟨by simp [first], ?_⟩
      simp [Reaction.answers, first]
    · left
      simp [Reaction.answers, first, same]
  | @answered frame _ answered _ found =>
    left
    have known := (before answered frame.stream).2 found
    have present : answered ∈ channel.requests := by
      simp [Std.TreeMap.mem_iff_isSome_getElem?, known]
    rw [Channel.count_waiting before, Channel.count_waiting after]
    by_cases same : answered = request
    · subst same
      simp [Reaction.answers, freeStream_eq, present]
      omega
    · simp [Reaction.answers, freeStream_eq, same]
  | discarded => exact .inl (by simp [Reaction.answers, waiting, freeStream_eq])
  | rejected => exact .inl rfl
  | beatAnswered => exact .inl (by simp [Reaction.answers, waiting, freeStream_eq])
  | beatSent => exact .inl rfl
  | beatFailed => exact .inl rfl
  | beatStarved => exact .inl rfl

/-! ### The end of a connection -/

theorem shutdown_waiting (channel : Channel) (reason : String) :
    (channel.shutdown reason).1.waiting = [] := rfl

theorem shutdown_replies (channel : Channel) (reason : String) :
    (channel.shutdown reason).2 =
      channel.waiting.map fun request => (request, .error (.closed reason)) := rfl

theorem settle_count (reaction : Reaction) (request : RequestId) :
    (settle reaction).channel.waiting.count request + (settle reaction).answers request =
      reaction.channel.waiting.count request + reaction.answers request := by
  rcases settle_cases reaction with ⟨same, _⟩ | ⟨reason, same⟩
  · rw [same]
  · have told : (reaction.channel.shutdown reason).2.map (·.1) = reaction.channel.waiting := by
      rw [shutdown_replies, List.map_map]
      exact List.map_id _
    rw [same]
    simp only [Reaction.answers, shutdown_waiting, List.map_append, List.count_append, told,
      List.count_nil]
    omega

theorem freeStreams_eq (channel : Channel) (streams : List StreamId) :
    ∃ ids inFlight, channel.freeStreams streams = { channel with ids, inFlight } := by
  induction streams generalizing channel with
  | nil => exact ⟨channel.ids, channel.inFlight, rfl⟩
  | cons stream rest ih =>
    obtain ⟨ids, inFlight, same⟩ := ih (channel.freeStream stream)
    refine ⟨ids, inFlight, ?_⟩
    rw [freeStream_eq] at same
    rw [freeStreams, List.foldl_cons, freeStream_eq]
    exact same

theorem shutdown_eq (channel : Channel) (reason : String) :
    ∃ ids inFlight, (channel.shutdown reason).1 = { channel with
      closing := true
      closeReason := some reason
      pending := ∅
      requests := ∅
      orphans := []
      heartbeat := none
      commands := []
      ids
      inFlight } := by
  obtain ⟨ids, inFlight, freed⟩ := freeStreams_eq channel channel.expected
  refine ⟨ids, inFlight - (queuedRequests channel.commands).length, ?_⟩
  have same : (channel.shutdown reason).1 = { channel.freeStreams channel.expected with
    closing := true
    closeReason := some reason
    pending := ∅
    requests := ∅
    orphans := []
    heartbeat := none
    commands := []
    inFlight := (channel.freeStreams channel.expected).inFlight
      - (queuedRequests channel.commands).length } := rfl
  rw [same, freed]

theorem Handled.nextRequest {channel : Channel} {event : Event} {reaction : Reaction}
    (handled : Handled channel event reaction) :
    reaction.channel.nextRequest = channel.nextRequest := by
  cases handled <;> simp only [freeStream_eq, release]

theorem Handled.commands {channel : Channel} {event : Event} {reaction : Reaction}
    (handled : Handled channel event reaction) :
    reaction.channel.commands ⊆ channel.commands := by
  cases handled with
  | quiet _ fewer => exact fun command member => fewer command member
  | refused first => simp [release, first]
  | starved first => simp [release, first]
  | sent first => simp [first]
  | orphaned first => simp [first]
  | answered => simp [freeStream_eq]
  | discarded => simp [freeStream_eq]
  | beatAnswered => simp [freeStream_eq]
  | rejected => exact List.Subset.refl _
  | beatSent => exact List.Subset.refl _
  | beatFailed => exact List.Subset.refl _
  | beatStarved => exact List.Subset.refl _

theorem react_cases {channel : Channel} (isOpen : channel.isClosed = false) (now : Nat)
    (fault : Option DriverError) (event : Event) :
    channel.react now fault event = channel.handle now fault event ∨
      ∃ reason, channel.react now fault event = { channel.handle now fault event with
        channel := ((channel.handle now fault event).channel.shutdown reason).1
        replies := (channel.handle now fault event).replies
          ++ ((channel.handle now fault event).channel.shutdown reason).2
        ending := some reason } := by
  have reacts : channel.react now fault event = settle (channel.handle now fault event) := by
    simp [react, isOpen]
  rw [reacts]
  exact (settle_cases _).imp_left And.left

section Reacting

variable {channel : Channel} (isOpen : channel.isClosed = false) (now : Nat)
  (fault : Option DriverError) (event : Event)

include isOpen

theorem react_count {entered : Nat} (consistent : channel.Consistent entered)
    (request : RequestId) :
    (channel.react now fault event).channel.waiting.count request
          + (channel.react now fault event).answers request = channel.waiting.count request ∨
      .abandon request ∈ channel.commands ∧
        (channel.react now fault event).channel.waiting.count request
          + (channel.react now fault event).answers request ≤ channel.waiting.count request := by
  have reacts : channel.react now fault event = settle (channel.handle now fault event) := by
    simp [react, isOpen]
  rw [reacts, settle_count]
  exact (handle_handled channel now fault event).count_waiting consistent request

theorem react_commands : (channel.react now fault event).channel.commands ⊆ channel.commands := by
  rcases react_cases isOpen now fault event with same | ⟨reason, same⟩
  · rw [same]
    exact (handle_handled channel now fault event).commands
  · rw [same]
    exact List.nil_subset _

theorem react_nextRequest :
    (channel.react now fault event).channel.nextRequest = channel.nextRequest := by
  have handled := (handle_handled channel now fault event).nextRequest
  rcases react_cases isOpen now fault event with same | ⟨reason, same⟩
  · rw [same, handled]
  · obtain ⟨ids, inFlight, ended⟩ := shutdown_eq (channel.handle now fault event).channel reason
    rw [same, ended, ← handled]

theorem react_closed (closed : (channel.react now fault event).channel.isClosed = true) :
    ∃ reason, channel.react now fault event = { channel.handle now fault event with
      channel := ((channel.handle now fault event).channel.shutdown reason).1
      replies := (channel.handle now fault event).replies
        ++ ((channel.handle now fault event).channel.shutdown reason).2
      ending := some reason } := by
  refine (react_cases isOpen now fault event).resolve_left fun same => ?_
  have kept := (handle_handled channel now fault event).closeReason
  rw [same, isClosed, kept] at closed
  exact absurd (closed.symm.trans isOpen) (by decide)

end Reacting

end ClusterDriver.Channel

namespace ClusterDriver.History

open Channel

/-- In how many places a request is: waiting, or completed. -/
def places (history : History) (request : RequestId) : Nat :=
  history.channel.waiting.count request + (history.completed.map (·.1)).count request

/-- No request is lost, and none is in two places. -/
structure Tracked (history : History) : Prop where
  once : ∀ request, history.places request ≤ 1
  known : ∀ request, 0 < history.places request → request ∈ history.issued
  kept : ∀ request ∈ history.issued, 0 < history.places request ∨ request ∈ history.abandoned
  givenUp : ∀ request, .abandon request ∈ history.channel.commands →
    request ∈ history.abandoned ∨ history.isCompleted request
  older : ∀ request ∈ history.issued, request < history.channel.nextRequest
  distinct : history.issued.Nodup
  finished : history.channel.isClosed → history.channel.waiting = []

theorem opened_tracked (limits : ChannelLimits) (start : Nat) : (opened limits start).Tracked where
  once := fun _ => Nat.zero_le _
  known := fun _ placed => absurd placed (Nat.lt_irrefl _)
  kept := nofun
  givenUp := nofun
  older := nofun
  distinct := List.nodup_nil
  finished := nofun

theorem isCompleted_iff {history : History} {request : RequestId} :
    history.isCompleted request ↔ 0 < (history.completed.map (·.1)).count request := by
  rw [List.count_pos_iff, isCompleted, decide_eq_true_iff]

namespace Tracked

variable {history : History}

theorem carried (tracked : history.Tracked) {later : History}
    (issued : later.issued = history.issued)
    (places : ∀ request, later.places request = history.places request ∨
      later.places request ≤ history.places request ∧
        (0 < later.places request ∨ request ∈ later.abandoned))
    (abandoned : history.abandoned ⊆ later.abandoned)
    (givenUp : ∀ request, .abandon request ∈ later.channel.commands →
      request ∈ later.abandoned ∨ later.isCompleted request)
    (numbers : history.channel.nextRequest ≤ later.channel.nextRequest)
    (finished : later.channel.isClosed → later.channel.waiting = []) : later.Tracked := by
  -- No request gets another place, so each still has one at most.
  have fewer (request : RequestId) : later.places request ≤ history.places request := by
    rcases places request with same | ⟨less, _⟩
    · exact same.le
    · exact less
  exact {
    once := fun request => (fewer request).trans (tracked.once request)
    known := by
      intro request placed
      rw [issued]
      exact tracked.known request (placed.trans_le (fewer request))
    kept := by
      intro request member
      rw [issued] at member
      rcases places request with same | ⟨_, kept⟩
      · rw [same]
        exact (tracked.kept request member).imp_right fun gone => abandoned gone
      · exact kept
    givenUp
    older := by
      intro request member
      rw [issued] at member
      exact (tracked.older request member).trans_le numbers
    distinct := issued ▸ tracked.distinct
    finished }

theorem moved (tracked : history.Tracked) {channel : Channel} {entered : Nat}
    (pending : channel.pending = history.channel.pending)
    (commands : channel.commands = history.channel.commands)
    (numbers : history.channel.nextRequest ≤ channel.nextRequest)
    (same : channel.isClosed = history.channel.isClosed) :
    { history with channel, entered }.Tracked := by
  have waits : channel.waiting = history.channel.waiting := by
    simp only [waiting, pending, commands]
  refine tracked.carried rfl (fun request => .inl ?_) (List.Subset.refl _) ?_ numbers ?_
  · simp only [places, waits]
  · simp only [commands]
    exact tracked.givenUp
  · simp only [same, waits]
    exact tracked.finished

theorem added (tracked : history.Tracked) {channel : Channel} (entered : Nat) (opcode : Opcode)
    (body : ByteArray)
    (pending : channel.pending = history.channel.pending)
    (commands : channel.commands =
      history.channel.commands ++ [Command.send history.channel.nextRequest opcode body])
    (later : channel.nextRequest = history.channel.nextRequest + 1)
    (isOpen : channel.isClosed = false) :
    ({ history with entered }.issue channel
      ⟨history.channel.nextRequest, opcode, body⟩).Tracked := by
  -- The number is new, so the request has no place yet, and gets one in the queue.
  have unknown : history.channel.nextRequest ∉ history.issued :=
    fun member => absurd (tracked.older _ member) (Nat.lt_irrefl _)
  have unplaced : history.places history.channel.nextRequest = 0 := by
    by_contra placed
    exact unknown (tracked.known _ (Nat.pos_of_ne_zero placed))
  have older := tracked.older
  generalize history.channel.nextRequest = next at *
  have placed (request : RequestId) :
      places ({ history with entered }.issue channel ⟨next, opcode, body⟩) request =
        history.places request + if next = request then 1 else 0 := by
    simp only [places, issue, waiting, pending, commands, queuedRequests_append, List.count_append,
      queuedRequests_send]
    simp [queuedRequests, List.count_singleton]
    omega
  have numbers : issued ({ history with entered }.issue channel ⟨next, opcode, body⟩) =
      history.issued ++ [next] := by
    simp [issued, issue]
  exact {
    once := by
      intro request
      rw [placed]
      by_cases same : next = request
      · simp [← same, unplaced]
      · simpa [same] using tracked.once request
    known := by
      intro request
      rw [placed, numbers, List.mem_append, List.mem_singleton]
      by_cases same : next = request
      · exact fun _ => .inr same.symm
      · simpa [same, Ne.symm same] using tracked.known request
    kept := by
      intro request member
      rw [placed]
      rw [numbers, List.mem_append, List.mem_singleton] at member
      rcases member with old | rfl
      · exact (tracked.kept request old).imp_left fun placed => Nat.lt_add_right _ placed
      · exact .inl (by simp)
    givenUp := by
      intro request member
      have old : .abandon request ∈ history.channel.commands := by
        simpa [issue, commands] using member
      exact tracked.givenUp request old
    older := by
      intro request member
      simp only [issue, later]
      rw [numbers, List.mem_append, List.mem_singleton] at member
      rcases member with old | rfl
      · exact Nat.lt_succ_of_lt (older request old)
      · exact Nat.lt_succ_self _
    distinct := by
      rw [numbers]
      exact tracked.distinct.append (List.nodup_singleton _) (List.disjoint_singleton.2 unknown)
    finished := fun closed => absurd (closed.symm.trans isOpen) (by decide) }

end Tracked

theorem Tracked.enqueued {history : History} (tracked : history.Tracked) {command : Command}
    {abandoned : List RequestId} (other : queuedRequests [command] = [])
    (more : history.abandoned ⊆ abandoned)
    (known : ∀ request, command = .abandon request →
      request ∈ abandoned ∨ history.isCompleted request) :
    { history with channel := history.channel.enqueue command, abandoned }.Tracked := by
  have waits : (history.channel.enqueue command).waiting = history.channel.waiting := by
    rcases enqueue_cases history.channel command with same | same
    · rw [same]
    · simp [same, waiting, other]
  refine tracked.carried rfl (fun request => .inl ?_) more ?_ ?_ ?_
  · simp only [places, waits]
  · intro request member
    have before : .abandon request ∈ history.channel.commands ∨ command = .abandon request := by
      rcases enqueue_cases history.channel command with same | same
      · exact .inl (same ▸ member)
      · simpa [same, eq_comm] using member
    rcases before with old | new
    · exact (tracked.givenUp request old).imp_left fun gone => more gone
    · exact known request new
  · rcases enqueue_cases history.channel command with same | same <;> simp [same]
  · intro closed
    refine waits.trans (tracked.finished ?_)
    rcases enqueue_cases history.channel command with same | same
    · rwa [same] at closed
    · rwa [same] at closed

theorem Tracked.reacted {history : History} (tracked : history.Tracked)
    (inOrder : history.InOrder) (now : Nat) (fault : Option DriverError) (event : Event) :
    (history.act (.event now fault event)).Tracked := by
  cases isOpen : history.channel.isClosed with
  | true =>
    have nothing : history.channel.react now fault event = { channel := history.channel } := by
      simp [react, isOpen]
    simpa [act, nothing] using tracked
  | false =>
    have counts (request : RequestId) :
        (history.act (.event now fault event)).places request =
          (history.channel.react now fault event).channel.waiting.count request
            + (history.channel.react now fault event).answers request
            + (history.completed.map (·.1)).count request := by
      simp only [places, act, Reaction.answers, List.map_append, List.count_append]
      omega
    have completed {request : RequestId} (before : history.isCompleted request) :
        (history.act (.event now fault event)).isCompleted request := by
      rw [isCompleted_iff] at before ⊢
      simp only [act, List.map_append, List.count_append]
      omega
    refine tracked.carried rfl (fun request => ?_) (List.Subset.refl _) ?_ ?_ ?_
    · have consistent := inOrder isOpen
      rcases react_count isOpen now fault event consistent request with same | ⟨gone, less⟩
      · left
        rw [counts, same, places]
      · -- A request that loses its place was given up, before or after it was completed.
        right
        refine ⟨by rw [counts, places]; omega, ?_⟩
        rcases tracked.givenUp request gone with abandoned | before
        · exact .inr abandoned
        · left
          have after := isCompleted_iff.1 (completed before)
          rw [places]
          omega
    · intro request member
      have before := tracked.givenUp request (react_commands isOpen now fault event member)
      exact before.imp_right completed
    · exact (react_nextRequest isOpen now fault event).ge
    · intro closed
      obtain ⟨reason, same⟩ := react_closed isOpen now fault event closed
      simp only [act, same]
      exact shutdown_waiting _ reason

theorem act_tracked (history : History) (action : Action) (inOrder : history.InOrder)
    (tracked : history.Tracked) : (history.act action).Tracked := by
  have acted := history.act_acted action
  generalize history.act action = later at acted ⊢
  cases acted with
  | idle => exact tracked
  | sent isOpen => exact tracked.added history.entered _ _ rfl rfl rfl isOpen
  | entered => exact tracked.moved rfl rfl (Nat.le_refl _) rfl
  | submitted _ isOpen => exact tracked.added _ _ _ rfl rfl rfl isOpen
  | turnedAway => exact tracked.moved rfl rfl (Nat.le_succ _) rfl
  | @queued _ command closing _ other more known =>
    have same : { history with channel := { history.channel with closing } }.Tracked :=
      tracked.moved rfl rfl (Nat.le_refl _) rfl
    exact same.enqueued other more known
  | happened => exact tracked.reacted inOrder _ _ _

theorem Reached.tracked {history : History} (reached : history.Reached) : history.Tracked := by
  obtain ⟨limits, start, actions, rfl⟩ := reached
  have both : ((opened limits start).run actions).InOrder ∧
      ((opened limits start).run actions).Tracked := by
    refine run_induction (fun history => history.InOrder ∧ history.Tracked) ?_ ?_ actions
    · intro history action before
      exact ⟨act_inOrder history action before.1, act_tracked history action before.1 before.2⟩
    · exact ⟨fun _ => opened_consistent limits start, opened_tracked limits start⟩
  exact both.2

/-! ### When a connection has ended -/

theorem act_ended {history : History} (ended : history.channel.isClosed = true)
    (action : Action) :
    (history.act action).channel.closeReason = history.channel.closeReason ∧
      (history.act action).completed = history.completed := by
  rcases act_cases history action with ⟨⟨_, _, _, _, same⟩, completed⟩ | ⟨isOpen, _⟩
  · rw [same]
    exact ⟨rfl, completed⟩
  · exact absurd (ended.symm.trans isOpen) (by decide)

theorem run_ended {history : History} (ended : history.channel.isClosed = true)
    (actions : List Action) :
    (history.run actions).channel.closeReason = history.channel.closeReason ∧
      (history.run actions).completed = history.completed := by
  refine run_induction (fun later => later.channel.closeReason =
    history.channel.closeReason ∧ later.completed = history.completed) ?_ ⟨rfl, rfl⟩ actions
  intro later action before
  have stillEnded : later.channel.isClosed = true := by
    rw [isClosed, before.1]
    exact ended
  obtain ⟨reason, completed⟩ := act_ended stillEnded action
  exact ⟨reason.trans before.1, completed.trans before.2⟩

theorem act_ends {history : History} {action : Action}
    (isOpen : history.channel.isClosed = false)
    (ended : (history.act action).channel.isClosed = true) :
    ∃ now fault event, action = .event now fault event := by
  rcases act_cases history action with ⟨⟨_, _, _, _, same⟩, _⟩ | ⟨_, reacts⟩
  · rw [same] at ended
    exact absurd (ended.symm.trans isOpen) (by decide)
  · exact reacts

theorem run_ends {history : History} {actions : List Action}
    (isOpen : history.channel.isClosed = false)
    (ended : (history.run actions).channel.isClosed = true) :
    ∃ before now fault event after, actions = before ++ .event now fault event :: after ∧
      (history.run before).channel.isClosed = false ∧
      ((history.run before).act (.event now fault event)).channel.isClosed = true := by
  induction actions generalizing history with
  | nil => exact absurd (ended.symm.trans isOpen) (by decide)
  | cons action rest ih =>
    cases next : (history.act action).channel.isClosed with
    | true =>
      obtain ⟨now, fault, event, rfl⟩ := act_ends isOpen next
      exact ⟨[], now, fault, event, rest, rfl, isOpen, next⟩
    | false =>
      obtain ⟨before, now, fault, event, after, rfl, isOpen, ended⟩ := ih next ended
      exact ⟨action :: before, now, fault, event, after, rfl, isOpen, ended⟩

/-- When a connection has ended, for whatever reason, no request waits any more. Each was completed
once at most, and with a response or an error unless its owner gave it up earlier; and those that
were still waiting when the last event had been handled were told that the connection is closed. -/
theorem every_request_ends {limits : ChannelLimits} {start : Nat} {actions : List Action}
    {history : History} (reached : history = (opened limits start).run actions)
    (ended : history.channel.isClosed = true) :
    history.issued.Nodup ∧
      (history.completed.map (·.1)).Nodup ∧
      history.completed.map (·.1) ⊆ history.issued ∧
      (∀ request ∈ history.issued,
        (∃ frame, (request, .ok frame) ∈ history.completed) ∨
          (∃ cause, (request, .error cause) ∈ history.completed) ∨
          request ∈ history.abandoned) ∧
      history.channel.waiting = [] ∧
      ∃ before now fault event after reason,
        actions = before ++ .event now fault event :: after ∧
        ((opened limits start).run before).channel.isClosed = false ∧
        (((opened limits start).run before).act
          (.event now fault event)).channel.isClosed = true ∧
        history.channel.closeReason = some reason ∧
        ∀ request ∈
            (((opened limits start).run before).channel.handle now fault event).channel.waiting,
          (request, .error (.closed reason)) ∈ history.completed := by
  have tracked := Reached.tracked ⟨limits, start, actions, reached⟩
  have nobody := tracked.finished ended
  have places (request : RequestId) :
      history.places request = (history.completed.map (·.1)).count request := by
    simp [History.places, nobody]
  refine ⟨tracked.distinct, ?_, ?_, ?_, nobody, ?_⟩
  · rw [List.nodup_iff_count_le_one]
    intro request
    rw [← places]
    exact tracked.once request
  · intro request member
    have placed := List.count_pos_iff.2 member
    rw [← places] at placed
    exact tracked.known request placed
  · intro request member
    rcases tracked.kept request member with placed | abandoned
    · rw [places, List.count_pos_iff, List.mem_map] at placed
      obtain ⟨⟨_, reply⟩, told, rfl⟩ := placed
      cases reply with
      | ok frame => exact .inl ⟨frame, told⟩
      | error cause => exact .inr (.inl ⟨cause, told⟩)
    · exact .inr (.inr abandoned)
  · subst reached
    -- The event that ended the connection told all who waited, and nothing happened after it.
    obtain ⟨before, now, fault, event, after, rfl, isOpen, closed⟩ := run_ends rfl ended
    obtain ⟨reason, same⟩ := react_closed isOpen now fault event closed
    have later := run_ended closed after
    have split : (opened limits start).run (before ++ .event now fault event :: after) =
        (((opened limits start).run before).act (.event now fault event)).run after :=
      run_append _ before (.event now fault event :: after)
    rw [split, later.1, later.2]
    refine ⟨before, now, fault, event, after, reason, rfl, isOpen, closed, ?_, ?_⟩
    · simp only [act, same, shutdown_closeReason]
    · intro request waits
      simp only [act, same, shutdown_replies, List.mem_append, List.mem_map]
      exact .inr (.inr ⟨request, waits, rfl⟩)

def lost : History :=
  (opened ⟨3, 0, 5, 5, 1, 0⟩ 0).run
    [.send .query ByteArray.empty, .send .query ByteArray.empty, .event 0 none .command,
      .event 0 none .command, .event 1 none (.frame (.response 0 .result ByteArray.empty)),
      .send .query ByteArray.empty, .event 2 none (.lost "reset")]

theorem lost_every_request_ends :
    lost.channel.isClosed = true ∧ lost.issued = [0, 1, 2] ∧
      lost.completed.map (·.1) = [0, 1, 2] ∧ (lost.completed.map (·.1)).Nodup ∧
      lost.channel.waiting = [] := by
  have ended : lost.channel.isClosed = true := by decide
  obtain ⟨_, once, _, _, nobody, _⟩ := every_request_ends rfl ended
  exact ⟨ended, by decide, by decide, once, nobody⟩

end ClusterDriver.History
