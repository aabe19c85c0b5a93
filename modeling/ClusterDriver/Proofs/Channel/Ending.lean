import ClusterDriver.Proofs.Channel.Completion

set_option autoImplicit false

namespace ClusterDriver

namespace StreamIds

theorem holds_ofNat {ids : StreamIds} (valid : ids.Valid) {id : Nat} (member : id ∈ ids.held) :
    ids.Holds (Int16.ofNat id) := by
  have inside := ((mem_held ids id).1 member).1
  have small : id < maxStreamsLimit := Nat.lt_of_lt_of_le inside valid.numbered
  exact ⟨ofNat_nonnegative small, by rwa [number_ofNat small]⟩

theorem held_eq_empty {ids : StreamIds} (valid : ids.Valid)
    (free : ∀ stream, ¬ids.Holds stream) : ids.held = ∅ := by
  rw [Finset.eq_empty_iff_forall_notMem]
  intro id member
  exact free _ (holds_ofNat valid member)

theorem held_eq_singleton {ids : StreamIds} (valid : ids.Valid) {stream : StreamId}
    (only : ∀ tested, ids.Holds tested ↔ tested = stream) :
    ids.held = {stream.toNatClampNeg} := by
  have present : stream.toNatClampNeg ∈ ids.held := ((only stream).2 rfl).2
  rw [Finset.eq_singleton_iff_unique_mem]
  refine ⟨present, fun id member => ?_⟩
  have inside := ((mem_held ids id).1 member).1
  have same := (only _).1 (holds_ofNat valid member)
  rw [← same, number_ofNat (Nat.lt_of_lt_of_le inside valid.numbered)]

end StreamIds

namespace Channel

/-- Every id in use is expected in one place, but for one that may be `lost`. -/
structure Covered (channel : Channel) (entered : Nat) (lost : Option StreamId) : Prop where
  valid : channel.ids.Valid
  owned : ∀ stream, channel.owners stream =
    if channel.ids.Holds stream ∧ lost ≠ some stream then 1 else 0
  held : ∀ stream, lost = some stream → channel.ids.Holds stream
  counted : channel.inFlight =
    channel.ids.held.card + (queuedRequests channel.commands).length + entered

theorem Consistent.covered {channel : Channel} {entered : Nat}
    (consistent : channel.Consistent entered) : channel.Covered entered none where
  valid := consistent.valid
  owned := by simpa using consistent.owned
  held := nofun
  counted := consistent.counted

def losesBeat (channel : Channel) (now : Nat) (fault : Option DriverError) : Event → Bool
  | .tick =>
      channel.heartbeat.isNone && channel.drainDeadline.isNone &&
        channel.lastRead + channel.limits.heartbeatInterval ≤ now &&
        channel.inFlight < channel.capacity && fault.isSome
  | _ => false

section Handling

variable {channel : Channel} {entered : Nat}

theorem Consistent.beatLost (consistent : channel.Consistent entered) {stream : StreamId}
    {ids : StreamIds} (acquired : channel.ids.acquire? = some (stream, ids)) :
    Covered { channel with inFlight := channel.inFlight + 1, ids } entered (some stream) := by
  obtain ⟨free, holds, card, _, valid⟩ := StreamIds.acquire?_holds consistent.valid acquired
  have counted := consistent.counted
  refine ⟨valid, fun tested => ?_, ?_, ?_⟩
  · have owned := consistent.owned tested
    simp only [owners] at owned
    simp only [owners, owned, holds, ne_eq, Option.some.injEq]
    by_cases same : tested = stream
    · simp [same, free]
    · simp [same, Ne.symm same]
  · rintro _ ⟨⟩
    exact (holds stream).2 (.inl rfl)
  · simp only
    omega

theorem Consistent.overflowed (consistent : channel.Consistent entered) {request : RequestId}
    {rest : List Command} {stream : StreamId}
    (first : channel.commands = .abandon request :: rest)
    (found : channel.requests[request]? = some stream) :
    Covered { channel with
      commands := rest
      requests := channel.requests.erase request
      pending := channel.pending.erase stream
      orphans := stream :: channel.orphans } entered none where
  valid := consistent.valid
  owned tested := by
    have pending := (consistent.inverse request stream).1 found
    rw [Consistent.owners_orphaned pending, consistent.owned tested]
    simp
  held := nofun
  counted := by
    have counted := consistent.counted
    rwa [first, queuedRequests_abandon] at counted

theorem Handled.covered {event : Event} {reaction : Reaction}
    (handled : Handled channel event reaction) (consistent : channel.Consistent entered) :
    (∃ stream ids reason, channel.ids.acquire? = some (stream, ids) ∧ event = .tick ∧
      reaction = {
        channel := { channel with inFlight := channel.inFlight + 1, ids }
        ending := some reason }) ∨ reaction.channel.Covered entered none := by
  cases goesOn : reaction.ending with
  | none => exact .inr (consistent.handled handled goesOn).covered
  | some reason =>
    cases handled with
    | quiet kept => exact .inr (consistent.quiet kept).covered
    | sent first acquired => exact .inr (consistent.sent first acquired).covered
    | orphaned first found => exact .inr (consistent.overflowed first found)
    | beatFailed acquired => exact .inl ⟨_, _, _, acquired, rfl, rfl⟩
    | refused => cases goesOn
    | starved => cases goesOn
    | answered => cases goesOn
    | discarded => cases goesOn
    | rejected => cases goesOn
    | beatAnswered => cases goesOn
    | beatSent => cases goesOn
    | beatStarved => cases goesOn

theorem losesBeat_iff {now : Nat} {fault : Option DriverError} :
    channel.losesBeat now fault .tick = true ↔
      channel.heartbeat = none ∧ channel.drainDeadline = none ∧
        channel.lastRead + channel.limits.heartbeatInterval ≤ now ∧
        channel.inFlight < channel.capacity ∧ fault.isSome := by
  simp [losesBeat, and_assoc]

theorem handle_losesBeat {now : Nat} {fault : Option DriverError} {event : Event}
    (loses : channel.losesBeat now fault event = true) {stream : StreamId} {ids : StreamIds}
    (acquired : channel.ids.acquire? = some (stream, ids)) :
    ∃ reason, channel.handle now fault event = {
      channel := { channel with inFlight := channel.inFlight + 1, ids }
      ending := some reason } := by
  cases event with
  | tick =>
    obtain ⟨idle, open_, due, room, failing⟩ := losesBeat_iff.1 loses
    obtain ⟨cause, rfl⟩ := Option.isSome_iff_exists.1 failing
    exact ⟨"heartbeat write failed: " ++ cause.message, by
      simp [handle, onTick, startHeartbeat, reserve?, idle, open_, Nat.not_lt.2 due, room, acquired,
        ends]⟩
  | _ => cases loses

theorem losesBeat_of_reserved {now : Nat} {fault : Option DriverError}
    (ended : (channel.handle now fault .tick).ending.isSome = true)
    (reserved : (channel.handle now fault .tick).channel.inFlight ≠ channel.inFlight) :
    channel.losesBeat now fault .tick = true := by
  rw [losesBeat_iff]
  simp only [handle, onTick] at ended reserved
  cases idle : channel.heartbeat with
  | some heartbeat =>
    simp only [idle] at reserved
    split at reserved <;> exact absurd rfl reserved
  | none =>
    cases calm : channel.drainDeadline with
    | some deadline =>
      simp only [idle, calm] at reserved
      split at reserved <;> exact absurd rfl reserved
    | none =>
      simp only [idle, calm] at ended reserved
      split at reserved
      next => exact absurd rfl reserved
      next due =>
        simp only [due, if_false] at ended
        unfold startHeartbeat reserve? at ended reserved
        by_cases room : channel.inFlight < channel.capacity
        · cases fault with
          | some cause => exact ⟨rfl, rfl, Nat.not_lt.1 due, room, rfl⟩
          | none => cases acquired : channel.ids.acquire? <;> simp [room, acquired] at ended
        · simp [room] at reserved

theorem Consistent.acquires_beat (consistent : channel.Consistent entered)
    (room : channel.inFlight < channel.capacity) :
    ∃ stream ids, channel.ids.acquire? = some (stream, ids) := by
  cases acquired : channel.ids.acquire? with
  | some taken => exact ⟨taken.1, taken.2, rfl⟩
  | none =>
    have full := StreamIds.acquire?_none consistent.valid acquired
    have counted := consistent.counted
    have capacity := consistent.capacity
    omega

theorem handle_covered (consistent : channel.Consistent entered) (now : Nat)
    (fault : Option DriverError) (event : Event) :
    if channel.losesBeat now fault event then
      ∃ stream, (channel.handle now fault event).channel.Covered entered (some stream)
    else (channel.handle now fault event).channel.Covered entered none := by
  split
  next loses =>
    have room : channel.inFlight < channel.capacity := by
      cases event with
      | tick => exact (losesBeat_iff.1 loses).2.2.2.1
      | _ => cases loses
    obtain ⟨stream, ids, acquired⟩ := consistent.acquires_beat room
    obtain ⟨reason, same⟩ := handle_losesBeat loses acquired
    rw [same]
    exact ⟨stream, consistent.beatLost acquired⟩
  next keeps =>
    refine ((handle_handled channel now fault event).covered consistent).resolve_left ?_
    rintro ⟨stream, ids, reason, _, rfl, same⟩
    refine keeps (losesBeat_of_reserved ?_ ?_)
    · rw [same]
      rfl
    · rw [same]
      exact Nat.succ_ne_self _

end Handling

theorem freeStreams_held {channel : Channel} (valid : channel.ids.Valid) {streams : List StreamId}
    (distinct : streams.Nodup) (held : ∀ stream ∈ streams, channel.ids.Holds stream) :
    (channel.freeStreams streams).ids.Valid ∧
      (∀ tested, (channel.freeStreams streams).ids.Holds tested ↔
        channel.ids.Holds tested ∧ tested ∉ streams) ∧
      (channel.freeStreams streams).ids.held.card + streams.length = channel.ids.held.card ∧
      (channel.freeStreams streams).inFlight = channel.inFlight - streams.length := by
  induction streams generalizing channel with
  | nil => exact ⟨valid, by simp [freeStreams], rfl, rfl⟩
  | cons stream rest ih =>
    obtain ⟨fresh, distinct⟩ := List.nodup_cons.1 distinct
    cases released : channel.ids.release? stream with
    | none =>
      exact absurd (held stream (by simp)) ((StreamIds.release?_eq_none_iff stream).1 released)
    | some ids =>
      obtain ⟨holds, card, _, stillValid⟩ := StreamIds.release?_holds valid released
      have freed : channel.freeStream stream =
          { channel with ids, inFlight := channel.inFlight - 1 } := by
        simp [freeStream_eq, released]
      -- Releasing one stream leaves the others in use.
      have others : ∀ other ∈ rest, ids.Holds other := by
        intro other member
        have different : other ≠ stream := fun same => fresh (same ▸ member)
        exact (holds other).2 ⟨different, held other (by simp [member])⟩
      obtain ⟨valid, left, counted, reserved⟩ :=
        @ih { channel with ids, inFlight := channel.inFlight - 1 } stillValid distinct others
      have step : channel.freeStreams (stream :: rest) =
          { channel with ids, inFlight := channel.inFlight - 1 }.freeStreams rest := by
        rw [← freed]
        rfl
      rw [step]
      refine ⟨valid, fun tested => ?_, ?_, ?_⟩
      · rw [left tested, holds tested, List.mem_cons]
        tauto
      · exact (congrArg (· + 1) counted).trans card
      · rw [reserved, List.length_cons]
        exact (Nat.sub_sub _ _ _).trans (congrArg (channel.inFlight - ·) (Nat.add_comm _ _))

/-- What is left of a connection that has ended: nothing is expected or queued, and no id is in use
but one that is `lost`. -/
structure Vacant (channel : Channel) (entered : Nat) (lost : Option StreamId) : Prop where
  commands : channel.commands = []
  expected : channel.expected = []
  held : ∀ stream, channel.ids.Holds stream ↔ lost = some stream
  valid : channel.ids.Valid
  counted : channel.inFlight = channel.ids.held.card + entered

theorem Covered.shutdown {channel : Channel} {entered : Nat} {lost : Option StreamId}
    (covered : channel.Covered entered lost) (reason : String) :
    (channel.shutdown reason).1.Vacant entered lost := by
  have distinct : channel.expected.Nodup := by
    rw [List.nodup_iff_count_le_one]
    intro stream
    rw [count_expected, covered.owned stream]
    split <;> simp
  have mem_expected (stream : StreamId) :
      stream ∈ channel.expected ↔ channel.ids.Holds stream ∧ lost ≠ some stream := by
    rw [← List.count_pos_iff, count_expected, covered.owned stream]
    split
    next held => exact ⟨fun _ => held, fun _ => Nat.one_pos⟩
    next absent => exact ⟨fun some => absurd some (Nat.lt_irrefl 0), fun held => absurd held absent⟩
  have held : ∀ stream ∈ channel.expected, channel.ids.Holds stream :=
    fun stream member => ((mem_expected stream).1 member).1
  obtain ⟨valid, left, card, reserved⟩ := freeStreams_held covered.valid distinct held
  have counted := covered.counted
  refine ⟨rfl, rfl, fun stream => ?_, valid, ?_⟩
  · refine (left stream).trans ?_
    rw [mem_expected]
    constructor
    · rintro ⟨holds, unexpected⟩
      by_contra other
      exact unexpected ⟨holds, other⟩
    · exact fun same => ⟨covered.held stream same, fun member => member.2 same⟩
  · -- Each id takes its reservation with it, and so does each queued request.
    have emptied : (channel.shutdown reason).1.inFlight =
        (channel.freeStreams channel.expected).inFlight
          - (queuedRequests channel.commands).length := rfl
    have same : (channel.shutdown reason).1.ids = (channel.freeStreams channel.expected).ids := rfl
    rw [emptied, same, reserved]
    omega

end Channel

namespace History

open Channel

theorem vacated (history : History) (inOrder : history.InOrder) {now : Nat}
    {fault : Option DriverError} {event : Event} (isOpen : history.channel.isClosed = false)
    (closed : (history.act (.event now fault event)).channel.isClosed = true) :
    ∃ lost, lost.isSome = history.channel.losesBeat now fault event ∧
      (history.act (.event now fault event)).channel.Vacant history.entered lost := by
  obtain ⟨reason, same⟩ := react_closed isOpen now fault event closed
  have left : (history.act (.event now fault event)).channel =
      ((history.channel.handle now fault event).channel.shutdown reason).1 :=
    congrArg (·.channel) same
  have covered := handle_covered (inOrder isOpen) now fault event
  rw [left]
  split at covered
  next loses =>
    obtain ⟨stream, covered⟩ := covered
    exact ⟨some stream, loses.symm, covered.shutdown reason⟩
  next keeps =>
    exact ⟨none, (by simpa using keeps), covered.shutdown reason⟩

theorem act_vacant {history : History} {lost : Option StreamId}
    (closed : history.channel.isClosed = true)
    (vacant : history.channel.Vacant history.entered lost) (action : Action) :
    (history.act action).channel.Vacant (history.act action).entered lost := by
  have acted := history.act_acted action
  generalize history.act action = later at acted ⊢
  cases acted with
  | idle => exact vacant
  | sent isOpen => exact absurd (closed.symm.trans isOpen) (by decide)
  | entered =>
    have counted := vacant.counted
    exact { vacant with counted := by simp only; omega }
  | submitted _ isOpen => exact absurd (closed.symm.trans isOpen) (by decide)
  | turnedAway some =>
    have counted := vacant.counted
    exact { vacant with counted := by simp only [release]; omega }
  | queued =>
    have ended : ∀ closing, Channel.isClosed { history.channel with closing } = true :=
      fun _ => closed
    simp only [enqueue, ended, if_true]
    exact { vacant with }
  | happened =>
    simp only [act, react, closed, if_true]
    exact vacant

theorem run_vacant {history : History} {lost : Option StreamId}
    (closed : history.channel.isClosed = true)
    (vacant : history.channel.Vacant history.entered lost) (actions : List Action) :
    (history.run actions).channel.Vacant (history.run actions).entered lost := by
  refine (run_induction (fun later => later.channel.isClosed = true ∧
    later.channel.Vacant later.entered lost) ?_ ⟨closed, vacant⟩ actions).2
  rintro later action ⟨closed, vacant⟩
  refine ⟨?_, act_vacant closed vacant action⟩
  rw [isClosed, (act_ended closed action).1]
  exact closed

/-- When a connection has ended, for whatever reason, nothing is queued and there are no orphans,
and room is reserved only for the ids in use and for senders that are about to be turned away. No id
is in use, unless the connection ended by a heartbeat that could not be written, which keeps one. -/
theorem leaves_no_stream {limits : ChannelLimits} {start : Nat} {actions : List Action}
    {history : History} (reached : history = (opened limits start).run actions)
    (ended : history.channel.isClosed = true) :
    history.channel.commands = [] ∧
      history.channel.orphans = [] ∧
      history.channel.inFlight = history.channel.ids.held.card + history.entered ∧
      ∃ before now fault event after,
        actions = before ++ .event now fault event :: after ∧
        ((opened limits start).run before).channel.isClosed = false ∧
        (((opened limits start).run before).act (.event now fault event)).channel.isClosed = true ∧
        if ((opened limits start).run before).channel.losesBeat now fault event then
          ∃ id, history.channel.ids.held = {id}
        else history.channel.ids.held = ∅ := by
  subst reached
  obtain ⟨before, now, fault, event, after, rfl, isOpen, closed⟩ := run_ends rfl ended
  have inOrder := run_inOrder limits start before
  obtain ⟨lost, kept, vacant⟩ := vacated _ inOrder isOpen closed
  have split : (opened limits start).run (before ++ .event now fault event :: after) =
      (((opened limits start).run before).act (.event now fault event)).run after :=
    run_append _ before (.event now fault event :: after)
  have left := run_vacant closed vacant after
  rw [← split] at left
  have nobody := left.expected
  simp only [expected, List.append_eq_nil_iff] at nobody
  refine ⟨left.commands, nobody.1.2, left.counted, before, now, fault, event, after, rfl, isOpen,
    closed, ?_⟩
  cases lost with
  | none =>
    rw [← kept]
    exact StreamIds.held_eq_empty left.valid fun stream holds =>
      Option.some_ne_none stream ((left.held stream).1 holds).symm
  | some stream =>
    rw [← kept]
    have only (tested : StreamId) :
        ((opened limits start).run (before ++ .event now fault event :: after)).channel.ids.Holds
          tested ↔ tested = stream := by
      rw [left.held tested, Option.some.injEq, eq_comm]
    exact ⟨_, StreamIds.held_eq_singleton left.valid only⟩

def abrupt : History :=
  (opened ⟨4, 0, 5, 5, 2, 0⟩ 0).run
    [.send .query ByteArray.empty, .event 0 none .command, .abandon 0, .event 0 none .command,
      .send .query ByteArray.empty, .event 1 none .command, .send .query ByteArray.empty,
      .event 2 (some (.connection "lost")) .command]

theorem abrupt_leaves_no_stream :
    abrupt.channel.isClosed = true ∧ abrupt.issued = [0, 1, 2] ∧ abrupt.entered = 0 ∧
      abrupt.channel.orphans = [] ∧ abrupt.channel.inFlight = abrupt.channel.ids.held.card + 0 ∧
      abrupt.channel.ids.held.card = 0 := by
  have ended : abrupt.channel.isClosed = true := by decide
  obtain ⟨_, nobody, counted, _⟩ := leaves_no_stream rfl ended
  exact ⟨ended, by decide, by decide, nobody, counted, by decide⟩

def unwritten : History :=
  (opened ⟨3, 0, 5, 5, 1, 0⟩ 0).run [.event 5 (some (.connection "lost")) .tick]

theorem unwritten_keeps_stream :
    ¬∀ history : History, history.Reached → history.channel.isClosed = true →
      history.entered = 0 → history.channel.ids.held = ∅ ∧ history.channel.inFlight = 0 ∧
        history.channel.orphans = [] := by
  intro vacates
  obtain ⟨_, nothing, _⟩ := vacates unwritten ⟨_, _, _, rfl⟩ (by decide) (by decide)
  exact absurd nothing (by decide)

end History

end ClusterDriver
