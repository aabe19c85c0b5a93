import ClusterDriver.Proofs.Channel.History

set_option autoImplicit false

namespace ClusterDriver

namespace Channel

section Looking

variable {channel : Channel} {deadline now : Nat}

/-- When a look at the time ends a connection that drains: an outstanding heartbeat is waited for,
be it longer or shorter than the drain deadline. -/
def drainEnd (channel : Channel) (deadline : Nat) : Nat :=
  (channel.heartbeat.map (·.deadline)).getD deadline

/-- The connection drains, and what a look at the time would act on is still to come. -/
def Stalls (channel : Channel) (now : Nat) : Prop :=
  ∃ deadline, channel.drainDeadline = some deadline ∧ now < channel.drainEnd deadline

theorem nextWake_le_deadline (draining : channel.drainDeadline = some deadline) :
    channel.nextWake ≤ deadline := by
  simp only [nextWake, draining]
  exact Nat.min_le_right _ _

theorem onTick_draining (draining : channel.drainDeadline = some deadline) (now : Nat)
    (fault : Option DriverError) :
    if channel.drainEnd deadline ≤ now then
      ∃ reason, channel.onTick now fault = channel.ends reason
    else channel.onTick now fault = { channel } := by
  unfold drainEnd onTick
  cases channel.heartbeat with
  | some heartbeat =>
    simp only [Option.map_some, Option.getD_some]
    split
    next => exact ⟨_, rfl⟩
    next => rfl
  | none =>
    simp only [draining, Option.map_none, Option.getD_none]
    split
    next => exact ⟨_, rfl⟩
    next => rfl

theorem onTick_draining_ends_iff (draining : channel.drainDeadline = some deadline) (now : Nat)
    (fault : Option DriverError) :
    (channel.onTick now fault).ending.isSome = true ↔ channel.drainEnd deadline ≤ now := by
  have look := onTick_draining draining now fault
  split at look
  next late =>
    obtain ⟨reason, same⟩ := look
    simp [same, ends, late]
  next early => simp [look, early]

theorem startHeartbeat_onward (calm : channel.drainDeadline = none)
    (idle : channel.heartbeat = none) (interval : 0 < channel.limits.heartbeatInterval)
    (timeout : 0 < channel.limits.heartbeatTimeout) (now : Nat) (fault : Option DriverError) :
    (channel.startHeartbeat now fault).ending.isSome = true ∨
      now < (channel.startHeartbeat now fault).channel.nextWake := by
  unfold startHeartbeat
  cases room : channel.reserve? with
  | none =>
    right
    simp only [nextWake, idle, calm]
    omega
  | some reserved =>
    obtain ⟨_, rfl⟩ := reserve?_some room
    cases acquired : channel.ids.acquire? with
    | none =>
      right
      simp only [acquired, nextWake, idle, calm]
      omega
    | some taken =>
      cases fault with
      | some cause => exact .inl (by simp [acquired, ends])
      | none =>
        right
        simp only [acquired, nextWake, calm]
        omega

theorem onTick_calm (calm : channel.drainDeadline = none)
    (interval : 0 < channel.limits.heartbeatInterval)
    (timeout : 0 < channel.limits.heartbeatTimeout) (due : channel.nextWake ≤ now)
    (fault : Option DriverError) :
    (channel.onTick now fault).ending.isSome = true ∨
      now < (channel.onTick now fault).channel.nextWake := by
  unfold nextWake at due
  unfold onTick
  cases outstanding : channel.heartbeat with
  | some heartbeat =>
    simp only [outstanding, calm] at due
    exact .inl (by simp [due, ends])
  | none =>
    simp only [outstanding, calm] at due
    simp only [calm, Nat.not_lt.2 due, if_false]
    exact startHeartbeat_onward calm outstanding interval timeout now fault

theorem onTick_onward_iff (interval : 0 < channel.limits.heartbeatInterval)
    (timeout : 0 < channel.limits.heartbeatTimeout) (due : channel.nextWake ≤ now)
    (fault : Option DriverError) :
    ((channel.onTick now fault).ending.isSome = true ∨
      now < (channel.onTick now fault).channel.nextWake) ↔ ¬channel.Stalls now := by
  cases draining : channel.drainDeadline with
  | none =>
    have calm : ¬channel.Stalls now := by
      rintro ⟨_, deadline, _⟩
      cases draining.symm.trans deadline
    exact iff_of_true (onTick_calm draining interval timeout due fault) calm
  | some deadline =>
    have look := onTick_draining draining now fault
    split at look
    next late =>
      obtain ⟨reason, same⟩ := look
      refine iff_of_true (.inl (by simp [same, ends])) ?_
      rintro ⟨other, set, early⟩
      cases draining.symm.trans set
      omega
    next early =>
      refine iff_of_false ?_ (not_not_intro ⟨deadline, draining, Nat.not_le.1 early⟩)
      rw [look]
      rintro (ended | later)
      · cases ended
      · exact absurd due (Nat.not_le.2 later)

end Looking

inductive Retimed (channel : Channel) (now : Nat) : Event → Channel → Prop where
  -- At most, the heartbeat is answered.
  | kept {event : Event} {later : Channel}
      (heartbeat : later.heartbeat = channel.heartbeat ∨ later.heartbeat = none)
      (same : later.drainDeadline = channel.drainDeadline) : Retimed channel now event later
  | beat {later : Channel} {stream : StreamId}
      (calm : channel.drainDeadline = none)
      (heartbeat : later.heartbeat = some ⟨stream, now + channel.limits.heartbeatTimeout⟩)
      (same : later.drainDeadline = none) : Retimed channel now .tick later
  | drains {later : Channel} {rest : List Command}
      (calm : channel.drainDeadline = none)
      (first : channel.commands = .close true :: rest)
      (heartbeat : later.heartbeat = channel.heartbeat)
      (set : later.drainDeadline = some (now + channel.limits.closeDrainTimeout)) :
      Retimed channel now .command later

namespace Retimed

variable (channel : Channel) (now : Nat) (fault : Option DriverError)

theorem ofCommand : channel.Retimed now .command (channel.handle now fault .command).channel := by
  unfold handle
  cases commands : channel.commands with
  | nil => exact .kept (.inl rfl) rfl
  | cons command rest =>
    cases command with
    | send request opcode body =>
      simp only [onCommand, onSend]
      split
      · exact .kept (.inl rfl) rfl
      split
      · exact .kept (.inl rfl) rfl
      split
      · exact .kept (.inl rfl) rfl
      · cases fault <;> exact .kept (.inl rfl) rfl
    | abandon request =>
      simp only [onCommand, onAbandon]
      split
      · exact .kept (.inl rfl) rfl
      split <;> exact .kept (.inl rfl) rfl
    | close graceful =>
      cases graceful with
      | false => exact .kept (.inl rfl) rfl
      | true =>
        cases draining : channel.drainDeadline with
        | none => exact .drains draining commands rfl (by simp [onCommand])
        | some deadline => exact .kept (.inl rfl) (by simp [onCommand, draining])

theorem ofFrame (frame : Frame) :
    channel.Retimed now (.frame frame) (channel.handle now fault (.frame frame)).channel := by
  have response : channel.Retimed now (.frame frame)
      (onResponse { channel with lastRead := now } frame).channel := by
    unfold onResponse
    split
    · exact .kept (.inl (by simp [freeStream_eq])) (by simp [freeStream_eq])
    split
    · exact .kept (.inl (by simp [freeStream_eq])) (by simp [freeStream_eq])
    · exact .kept (.inl rfl) rfl
  simp only [handle, onFrame]
  split
  · exact .kept (.inl rfl) rfl
  split
  · exact .kept (.inl rfl) rfl
  split
  · split
    · exact .kept (.inr (by simp [freeStream_eq])) (by simp [freeStream_eq])
    · exact response
  · exact response

theorem ofTick : channel.Retimed now .tick (channel.handle now fault .tick).channel := by
  simp only [handle, onTick]
  split
  · split <;> exact .kept (.inl rfl) rfl
  split
  · split <;> exact .kept (.inl rfl) rfl
  next calm =>
    split
    · exact .kept (.inl rfl) rfl
    unfold startHeartbeat
    cases room : channel.reserve? with
    | none => exact .kept (.inl rfl) rfl
    | some reserved =>
      obtain ⟨_, rfl⟩ := reserve?_some room
      simp only
      split
      · exact .kept (.inl rfl) rfl
      · cases fault with
        | some cause => exact .kept (.inl rfl) rfl
        | none => exact .beat calm rfl calm

end Retimed

theorem handle_retimed (channel : Channel) (now : Nat) (fault : Option DriverError)
    (event : Event) : channel.Retimed now event (channel.handle now fault event).channel := by
  cases event with
  | command => exact .ofCommand channel now fault
  | frame frame => exact .ofFrame channel now fault frame
  | tick => exact .ofTick channel now fault
  | lost reason => exact .kept (.inl rfl) rfl
  | abandonedByAll => exact .kept (.inl rfl) rfl

theorem Handled.limits {channel : Channel} {event : Event} {reaction : Reaction}
    (handled : Handled channel event reaction) : reaction.channel.limits = channel.limits := by
  cases handled <;> simp only [freeStream_eq, release]

end Channel

namespace History

open Channel

def moments (actions : List Action) : List Nat :=
  actions.filterMap fun
    | .event now _ _ => some now
    | _ => none

def Forward (actions : List Action) : Prop := (moments actions).Pairwise (· ≤ ·)

instance (actions : List Action) : Decidable (Forward actions) :=
  inferInstanceAs (Decidable ((moments actions).Pairwise (· ≤ ·)))

theorem moments_append (first second : List Action) :
    moments (first ++ second) = moments first ++ moments second :=
  List.filterMap_append

theorem act_retimed {history : History} {action : Action}
    (isOpen : (history.act action).channel.isClosed = false) :
    (history.act action).channel.limits = history.channel.limits ∧
      ((history.act action).channel.heartbeat = history.channel.heartbeat ∧
          (history.act action).channel.drainDeadline = history.channel.drainDeadline ∨
        ∃ now fault event, action = .event now fault event ∧
          history.channel.Retimed now event (history.act action).channel) := by
  rcases act_cases history action with ⟨⟨_, _, _, _, same⟩, _⟩ | ⟨_, now, fault, event, rfl⟩
  · rw [same]
    exact ⟨rfl, .inl ⟨rfl, rfl⟩⟩
  · obtain ⟨_, same, _⟩ := react_open isOpen
    have handled : (history.act (.event now fault event)).channel =
        (history.channel.handle now fault event).channel := congrArg (·.channel) same
    rw [handled]
    exact ⟨(handle_handled _ now fault event).limits,
      .inr ⟨now, fault, event, rfl, handle_retimed _ now fault event⟩⟩

section Runs

variable {limits : ChannelLimits} {start : Nat} {actions : List Action} {history : History}

theorem run_concat (actions : List Action) (action : Action) :
    history.run (actions ++ [action]) = (history.run actions).act action :=
  run_append history actions [action]

theorem act_tick_ends {now : Nat} {fault : Option DriverError}
    (ended : (history.channel.onTick now fault).ending.isSome = true) :
    (history.act (.event now fault .tick)).channel.isClosed = true := by
  by_contra goesOn
  obtain ⟨_, _, unended⟩ := react_open (Bool.eq_false_iff.2 goesOn)
  exact absurd (ended.symm.trans (congrArg Option.isSome unended)) (by decide)

theorem run_limits (isOpen : ((opened limits start).run actions).channel.isClosed = false) :
    ((opened limits start).run actions).channel.limits = limits := by
  induction actions using List.reverseRecOn with
  | nil => rfl
  | append_singleton actions action ih =>
    rw [run_concat] at isOpen ⊢
    exact (act_retimed isOpen).1.trans (ih (act_open isOpen))

theorem run_beat (isOpen : ((opened limits start).run actions).channel.isClosed = false)
    {heartbeat : Heartbeat}
    (outstanding : ((opened limits start).run actions).channel.heartbeat = some heartbeat) :
    ∃ moment ∈ moments actions, heartbeat.deadline = moment + limits.heartbeatTimeout := by
  induction actions using List.reverseRecOn with
  | nil => cases outstanding
  | append_singleton actions action ih =>
    rw [run_concat] at isOpen outstanding
    have earlier (same : ((opened limits start).run actions).channel.heartbeat = some heartbeat) :
        ∃ moment ∈ moments (actions ++ [action]),
          heartbeat.deadline = moment + limits.heartbeatTimeout := by
      obtain ⟨moment, member, counted⟩ := ih (act_open isOpen) same
      exact ⟨moment, moments_append .. ▸ List.mem_append_left _ member, counted⟩
    rcases (act_retimed isOpen).2 with ⟨same, _⟩ | ⟨now, fault, event, rfl, retimed⟩
    · exact earlier (same.symm.trans outstanding)
    cases retimed with
    | kept same =>
      rcases same with same | answered
      · exact earlier (same.symm.trans outstanding)
      · cases answered.symm.trans outstanding
    | beat _ sent =>
      obtain rfl := Option.some.inj (sent.symm.trans outstanding)
      refine ⟨now, moments_append .. ▸ List.mem_append_right _ (by simp [moments]), ?_⟩
      rw [run_limits (act_open isOpen)]
    | drains _ _ same => exact earlier (same.symm.trans outstanding)

/-- The command to close was taken at `closedAt`, after which `before` had happened. -/
def ClosesAt (limits : ChannelLimits) (start : Nat) (actions : List Action) (closedAt : Nat) :
    Prop :=
  ∃ before fault after rest, actions = before ++ .event closedAt fault .command :: after ∧
    ((opened limits start).run before).channel.drainDeadline = none ∧
    ((opened limits start).run before).channel.commands = .close true :: rest

theorem ClosesAt.concat {closedAt : Nat} (closes : ClosesAt limits start actions closedAt)
    (action : Action) : ClosesAt limits start (actions ++ [action]) closedAt := by
  obtain ⟨before, fault, after, rest, rfl, calm, first⟩ := closes
  exact ⟨before, fault, after ++ [action], rest, by simp, calm, first⟩

theorem run_drain (forward : Forward actions)
    (isOpen : ((opened limits start).run actions).channel.isClosed = false) {deadline : Nat}
    (draining : ((opened limits start).run actions).channel.drainDeadline = some deadline) :
    ∃ closedAt, ClosesAt limits start actions closedAt ∧
      deadline = closedAt + limits.closeDrainTimeout ∧
      ∀ heartbeat, ((opened limits start).run actions).channel.heartbeat = some heartbeat →
        heartbeat.deadline ≤ closedAt + limits.heartbeatTimeout := by
  -- The drain deadline counts from a graceful close, before which the outstanding heartbeat was
  -- sent: while a connection drains, it sends none.
  induction actions using List.reverseRecOn with
  | nil => cases draining
  | append_singleton actions action ih =>
    rw [run_concat] at isOpen draining ⊢
    rw [Forward, moments_append, List.pairwise_append] at forward
    obtain ⟨forward, _, ordered⟩ := forward
    have wasOpen := act_open isOpen
    -- As long as the drain deadline stays and no heartbeat is new, the earlier close still counts.
    have earlier (fewer : ∀ heartbeat,
          (((opened limits start).run actions).act action).channel.heartbeat = some heartbeat →
            ((opened limits start).run actions).channel.heartbeat = some heartbeat)
        (same : (((opened limits start).run actions).act action).channel.drainDeadline =
          ((opened limits start).run actions).channel.drainDeadline) :
        ∃ closedAt, ClosesAt limits start (actions ++ [action]) closedAt ∧
          deadline = closedAt + limits.closeDrainTimeout ∧
          ∀ heartbeat,
            (((opened limits start).run actions).act action).channel.heartbeat = some heartbeat →
              heartbeat.deadline ≤ closedAt + limits.heartbeatTimeout := by
      obtain ⟨closedAt, closes, set, beats⟩ := ih forward wasOpen (same.symm.trans draining)
      exact ⟨closedAt, closes.concat action, set, fun heartbeat outstanding =>
        beats heartbeat (fewer heartbeat outstanding)⟩
    rcases (act_retimed isOpen).2 with ⟨beat, drain⟩ | ⟨now, fault, event, rfl, retimed⟩
    · exact earlier (fun heartbeat outstanding => beat.symm.trans outstanding) drain
    cases retimed with
    | kept beat drain =>
      refine earlier (fun heartbeat outstanding => ?_) drain
      rcases beat with same | answered
      · exact same.symm.trans outstanding
      · cases answered.symm.trans outstanding
    | beat _ _ calm => cases calm.symm.trans draining
    | drains calm first beat set =>
      -- The drain begins now, and a heartbeat that is outstanding was sent no later.
      obtain rfl := Option.some.inj (set.symm.trans draining)
      refine ⟨now, ⟨actions, fault, [], _, rfl, calm, first⟩, by rw [run_limits wasOpen], ?_⟩
      intro heartbeat outstanding
      obtain ⟨moment, member, counted⟩ := run_beat wasOpen (beat.symm.trans outstanding)
      have before : moment ≤ now := ordered moment member now (by simp [moments])
      omega

theorem run_drainEnd (forward : Forward actions)
    (isOpen : ((opened limits start).run actions).channel.isClosed = false) {deadline : Nat}
    (draining : ((opened limits start).run actions).channel.drainDeadline = some deadline) :
    ∃ closedAt, ClosesAt limits start actions closedAt ∧
      deadline = closedAt + limits.closeDrainTimeout ∧
      ((opened limits start).run actions).channel.drainEnd deadline ≤
        closedAt + max limits.closeDrainTimeout limits.heartbeatTimeout := by
  obtain ⟨closedAt, closes, set, beats⟩ := run_drain forward isOpen draining
  refine ⟨closedAt, closes, set, ?_⟩
  unfold drainEnd
  cases outstanding : ((opened limits start).run actions).channel.heartbeat with
  | none =>
    simp only [Option.map_none, Option.getD_none]
    omega
  | some heartbeat =>
    have beat := beats heartbeat outstanding
    simp only [Option.map_some, Option.getD_some]
    omega

end Runs

section Statements

variable {limits : ChannelLimits} {start : Nat} {actions : List Action} {history : History}

/-- Once the drain deadline has passed, a look at the time ends the connection, unless a heartbeat
is outstanding whose own deadline is still to come. So a graceful close can wait longer than it
should, but no longer than the greater of the two timeouts. -/
theorem draining_ends_iff (reached : history = (opened limits start).run actions)
    (forward : Forward actions) (isOpen : history.channel.isClosed = false) {deadline : Nat}
    (draining : history.channel.drainDeadline = some deadline) :
    history.channel.nextWake ≤ deadline ∧
      (∀ now fault, deadline ≤ now →
        ((history.channel.onTick now fault).ending.isSome = true ↔
          ∀ heartbeat, history.channel.heartbeat = some heartbeat → heartbeat.deadline ≤ now)) ∧
      ∃ closedAt, ClosesAt limits start actions closedAt ∧
        deadline = closedAt + limits.closeDrainTimeout ∧
        ∀ now fault, closedAt + max limits.closeDrainTimeout limits.heartbeatTimeout ≤ now →
          (history.act (.event now fault .tick)).channel.isClosed = true := by
  subst reached
  refine ⟨nextWake_le_deadline draining, fun now fault passed => ?_, ?_⟩
  · rw [onTick_draining_ends_iff draining, drainEnd]
    cases ((opened limits start).run actions).channel.heartbeat with
    | none => simp [passed]
    | some heartbeat => simp
  · obtain ⟨closedAt, closes, set, bound⟩ := run_drainEnd forward isOpen draining
    refine ⟨closedAt, closes, set, fun now fault passed => ?_⟩
    exact act_tick_ends ((onTick_draining_ends_iff draining now fault).2 (Nat.le_trans bound passed))

/-- A look that is due ends the connection or puts off the next one, unless the connection stalls.
Then it is left as it was, so that the next look is due at once. That happens only after a graceful
close, and no longer than the greater of the two timeouts. -/
theorem look_onward_iff (reached : history = (opened limits start).run actions)
    (forward : Forward actions) (isOpen : history.channel.isClosed = false)
    (interval : 0 < limits.heartbeatInterval) (timeout : 0 < limits.heartbeatTimeout) {now : Nat}
    (due : history.channel.nextWake ≤ now) (fault : Option DriverError) :
    (((history.channel.onTick now fault).ending.isSome = true ∨
        now < (history.channel.onTick now fault).channel.nextWake) ↔
          ¬history.channel.Stalls now) ∧
      (history.channel.Stalls now →
        history.channel.onTick now fault = { channel := history.channel } ∧
          ∃ closedAt, ClosesAt limits start actions closedAt ∧
            now < closedAt + max limits.closeDrainTimeout limits.heartbeatTimeout) := by
  subst reached
  have same := run_limits isOpen
  refine ⟨onTick_onward_iff (same.symm ▸ interval) (same.symm ▸ timeout) due fault, ?_⟩
  rintro ⟨deadline, draining, early⟩
  obtain ⟨closedAt, closes, _, bound⟩ := run_drainEnd forward isOpen draining
  refine ⟨?_, closedAt, closes, Nat.lt_of_lt_of_le early bound⟩
  have look := onTick_draining draining now fault
  rwa [if_neg (Nat.not_le.2 early)] at look

end Statements

def beatingActions : List Action :=
  [.send .query ByteArray.empty, .event 0 none .command, .event 5 none .tick, .close,
    .event 6 none .command]

def beating : History := (opened ⟨4, 0, 5, 50, 2, 10⟩ 0).run beatingActions

theorem beating_ends_late :
    beating.channel.drainDeadline = some 16 ∧ beating.channel.isClosed = false ∧
      beating.channel.nextWake ≤ 16 ∧
      (beating.channel.onTick 54 none).ending.isSome = false ∧
      (beating.channel.onTick 55 none).ending.isSome = true := by
  have isOpen : beating.channel.isClosed = false := by decide
  have draining : beating.channel.drainDeadline = some 16 := by decide
  have reached : beating = (opened ⟨4, 0, 5, 50, 2, 10⟩ 0).run beatingActions := rfl
  have forward : Forward beatingActions := by decide
  obtain ⟨wakes, looks, _⟩ := draining_ends_iff reached forward isOpen draining
  have beat : beating.channel.heartbeat = some ⟨1, 55⟩ := by decide
  refine ⟨draining, isOpen, wakes, ?_, ?_⟩
  · rw [← Bool.not_eq_true, looks 54 none (by decide), beat]
    exact fun late => absurd (late _ rfl) (by decide)
  · rw [looks 55 none (by decide), beat]
    rintro _ ⟨⟩
    decide

theorem beating_outlasts_drain :
    ¬∀ history : History, history.Reached → history.channel.isClosed = false →
      ∀ deadline now fault, history.channel.drainDeadline = some deadline → deadline ≤ now →
        (history.channel.onTick now fault).ending.isSome = true := by
  intro ends
  have ended := ends beating ⟨_, _, _, rfl⟩ (by decide) 16 16 none (by decide) (by decide)
  exact absurd ended (by decide)

def hushedActions : List Action :=
  [.send .query ByteArray.empty, .event 0 none .command, .close, .event 1 none .command]

def hushed : History := (opened ⟨4, 0, 5, 50, 2, 30⟩ 0).run hushedActions

theorem hushed_stalls :
    hushed.channel.isClosed = false ∧ hushed.channel.nextWake = 5 ∧
      hushed.channel.onTick 5 none = { channel := hushed.channel } ∧
      ¬hushed.channel.Stalls 31 ∧ (hushed.channel.onTick 31 none).ending.isSome = true := by
  have reached : hushed = (opened ⟨4, 0, 5, 50, 2, 30⟩ 0).run hushedActions := rfl
  have isOpen : hushed.channel.isClosed = false := by decide
  have forward : Forward hushedActions := by decide
  have wakes : hushed.channel.nextWake = 5 := by decide
  have draining : hushed.channel.drainDeadline = some 31 := by decide
  have early := look_onward_iff reached forward isOpen (by decide) (by decide)
    (Nat.le_of_eq wakes) none
  have late := look_onward_iff reached forward isOpen (by decide) (by decide)
    (wakes ▸ (by decide : 5 ≤ 31)) none
  have ended : (hushed.channel.onTick 31 none).ending.isSome = true := by decide
  exact ⟨isOpen, wakes, (early.2 ⟨31, draining, by decide⟩).1, late.1.1 (.inl ended), ended⟩

theorem beating_look_repeats :
    ¬∀ history : History, history.Reached → history.channel.isClosed = false →
      0 < history.channel.limits.heartbeatInterval → 0 < history.channel.limits.heartbeatTimeout →
      ∀ now fault, history.channel.nextWake ≤ now →
        (history.channel.onTick now fault).ending.isSome = true ∨
          now < (history.channel.onTick now fault).channel.nextWake := by
  intro onward
  have looked := onward beating ⟨_, _, _, rfl⟩ (by decide) (by decide) (by decide) 16 none
    (by decide)
  exact absurd looked (by decide)

end History

end ClusterDriver
