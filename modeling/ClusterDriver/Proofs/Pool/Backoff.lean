import ClusterDriver.Proofs.Pool.History
import ClusterDriver.Proofs.Reconnect
import ClusterDriver.Simulation.Pools

set_option autoImplicit false

namespace ClusterDriver

theorem Pool.checkUsable_keeps (view : ChannelId → ChannelView) (pool : Pool) :
    (pool.checkUsable view).1.channels = pool.channels ∧
      (pool.checkUsable view).1.limits = pool.limits := by
  rcases pool.checkUsable_cases view with ⟨_, same⟩ | ⟨_, _, _, same⟩
  · rw [same]
    exact ⟨rfl, rfl⟩
  · rw [same]
    exact ⟨rfl, rfl⟩

namespace PoolHistory

def Action.connects : Action → Bool
  | .look | .connected _ | .connectFailed _ => true
  | _ => false

variable {history : PoolHistory} {action : Action}

theorem act_connect (other : action.connects = false) :
    (history.act action).task = .connect ↔ history.task = .connect := by
  cases action with
  | look | connected | connectFailed => cases other
  | add =>
    cases task : history.task with
    | add channel =>
      simp only [act, task]
      split
      next => simp [actLine]
      next => simp [change]
    | _ => simp only [act, task]
  | notice channel =>
    simp only [act]
    split <;> exact Iff.rfl
  | beginClose | line => exact Iff.rfl

theorem act_looking (other : action.connects = false) (looking : history.task = .look) :
    (history.act action).task = .look ∧
      (history.act action).pool.channels.length ≤ history.pool.channels.length := by
  cases action with
  | look | connected | connectFailed => cases other
  | add =>
    simp only [act, looking]
    exact ⟨trivial, Nat.le_refl _⟩
  | notice channel =>
    simp only [act]
    split
    next =>
      refine ⟨looking, ?_⟩
      simp only [change, Pool.removeChannel]
      split
      next => exact Nat.le_refl _
      next =>
        rw [(Pool.checkUsable_keeps history.view _).1]
        exact List.length_filter_le _ _
    next => exact ⟨looking, Nat.le_refl _⟩
  | beginClose => exact ⟨looking, Nat.zero_le _⟩
  | line => exact ⟨looking, Nat.le_refl _⟩

theorem wantsChannel_act (other : action.connects = false) (looking : history.task = .look)
    (wants : history.pool.wantsChannel = true) :
    (history.act action).pool.wantsChannel = true := by
  have fewer := (act_looking other looking).2
  simp only [Pool.wantsChannel, decide_eq_true_eq] at wants ⊢
  rw [(act_configured history action).2]
  exact Nat.lt_of_le_of_lt fewer wants

theorem wantsChannel_connectFailed (sound : history.Sound) (connecting : history.task = .connect)
    (reason : String) : (history.act (.connectFailed reason)).pool.wantsChannel = true := by
  have room := sound.room (by simp [connecting])
  simp only [act, connecting, if_true, change, Pool.connectFailed, Pool.wantsChannel,
    (Pool.checkUsable_keeps _ _).1, (Pool.checkUsable_keeps _ _).2]
  exact decide_eq_true room

end PoolHistory

/-- An attempt to connect that has ended, with times in nanoseconds. -/
structure ConnectAttempt where
  began : Nat
  ended : Nat
  result : ConnectResult

/-- A pool and the schedule of its manager. While the manager rests, `due` is when it goes on;
`began` is when it began with what it is about. -/
structure ManagerHistory where
  pool : PoolHistory
  schedule : ReconnectSchedule
  now : Nat := 0
  began : Nat := 0
  due : Option Nat := none
  attempts : List ConnectAttempt := []

namespace ManagerHistory

open PoolHistory (act_connect act_looking act_closed act_sound wantsChannel_act
  wantsChannel_connectFailed)
open ReconnectSchedule

inductive Action where
  /-- A nanosecond goes by. -/
  | pass
  | look
  | connected
  | connectFailed (reason : String) (choice : Nat)
  | other (action : PoolHistory.Action)

def opened (address : SocketAddress) (limits : PoolLimits) (base most : Duration) :
    ManagerHistory where
  pool := .opened address limits
  schedule := .ofDurations base most

def isReady (history : ManagerHistory) : Bool :=
  history.pool.task = .look && history.due.all (· ≤ history.now) && !history.pool.pool.isClosed
    && history.pool.pool.wantsChannel

def ended (history : ManagerHistory) (result : ConnectResult) : ConnectAttempt :=
  ⟨history.began, history.now, result⟩

def act (history : ManagerHistory) : Action → ManagerHistory
  | .pass => if history.isReady then history else { history with now := history.now + 1 }
  | .look =>
      if history.isReady then
        { history with pool := history.pool.act .look, began := history.now, due := none }
      else history
  | .connected =>
      if history.pool.task = .connect then
        { history with
          pool := history.pool.act (.connected (Duration.toMillis ⟨history.now⟩))
          schedule := history.schedule.reset
          attempts := history.attempts ++ [history.ended .connected] }
      else history
  | .connectFailed reason choice =>
      if history.pool.task = .connect then
        { history with
          pool := history.pool.act (.connectFailed reason)
          schedule := history.schedule.failed
          due := some (history.now + (history.schedule.rest choice).nanos)
          attempts := history.attempts ++ [history.ended (.failed choice)] }
      else history
  | .other action =>
      if action.connects then history else { history with pool := history.pool.act action }

def run (history : ManagerHistory) (actions : List Action) : ManagerHistory :=
  actions.foldl act history

def scheduleAfter (base most : Duration) (attempts : List ConnectAttempt) : ReconnectSchedule :=
  (ReconnectSchedule.ofDurations base most).after (attempts.map (·.result))

theorem scheduleAfter_concat (base most : Duration) (attempts : List ConnectAttempt)
    (last : ConnectAttempt) : scheduleAfter base most (attempts ++ [last]) =
      (scheduleAfter base most attempts).add last.result := by
  rw [scheduleAfter, List.map_append]
  exact ReconnectSchedule.after_concat _ _ _

/-- When a rest after some attempts and one more, which failed at a time, is over. -/
def restOver (base most : Duration) (before : List ConnectAttempt) (ended choice : Nat) : Nat :=
  ended + ((scheduleAfter base most before).rest choice).nanos

/-- What holds of a manager at any time: which schedule it has, that no attempt has begun before or
after the rest of its predecessor was over, and that it does not oversleep. -/
structure Paced (base most : Duration) (history : ManagerHistory) : Prop where
  sound : history.pool.Sound
  schedule : history.schedule = scheduleAfter base most history.attempts
  gaps : ∀ before failure next after choice,
    history.attempts = before ++ failure :: next :: after → failure.result = .failed choice →
    next.began = restOver base most before failure.ended choice
  underway : history.pool.task = .connect → ∀ before failure choice,
    history.attempts = before ++ [failure] → failure.result = .failed choice →
    history.began = restOver base most before failure.ended choice
  resting : history.pool.task ≠ .connect → history.pool.pool.isClosed = false →
    ∀ before failure choice,
      history.attempts = before ++ [failure] → failure.result = .failed choice →
      history.pool.task = .look ∧ history.pool.pool.wantsChannel = true ∧
        history.due = some (restOver base most before failure.ended choice) ∧
        history.now ≤ restOver base most before failure.ended choice

variable {base most : Duration} {history : ManagerHistory}

theorem paced_opened (address : SocketAddress) (limits : PoolLimits) (base most : Duration) :
    Paced base most (opened address limits base most) where
  sound := PoolHistory.opened_sound address limits
  schedule := rfl
  gaps before failure next after choice none := by simp [opened] at none
  underway := nofun
  resting _ _ before failure choice none := by simp [opened] at none

theorem isReady_iff : history.isReady = true ↔ history.pool.task = .look ∧
    (∀ due, history.due = some due → due ≤ history.now) ∧
    history.pool.pool.isClosed = false ∧ history.pool.pool.wantsChannel = true := by
  cases due : history.due <;> simp [isReady, due, and_assoc]

theorem act_look_of_ready (ready : history.isReady = true) :
    history.pool.act .look = { history.pool with task := .connect } := by
  obtain ⟨looking, _, isOpen, wants⟩ := isReady_iff.1 ready
  simp [PoolHistory.act, looking, isOpen, wants]

theorem Paced.pass (paced : Paced base most history) : Paced base most (history.act .pass) := by
  simp only [act]
  split
  next => exact paced
  next idle =>
    refine { paced with
      resting := fun busy isOpen before failure choice last failed => ?_ }
    obtain ⟨looking, wants, due, early⟩ :=
      paced.resting busy isOpen before failure choice last failed
    -- If the rest were over, the manager would be ready, and time would stand still.
    refine ⟨looking, wants, due, Nat.succ_le_of_lt (Nat.lt_of_not_le fun past => idle ?_)⟩
    refine isReady_iff.2 ⟨looking, fun other same => ?_, isOpen, wants⟩
    rw [due] at same
    cases same
    exact past

theorem Paced.look (paced : Paced base most history) : Paced base most (history.act .look) := by
  simp only [act]
  split
  next ready =>
    obtain ⟨looking, past, isOpen, _⟩ := isReady_iff.1 ready
    have sound := act_sound _ .look paced.sound
    rw [act_look_of_ready ready] at sound ⊢
    refine { paced with
      sound
      underway := fun _ before failure choice last failed => ?_
      resting := fun busy => absurd rfl busy }
    obtain ⟨_, _, due, early⟩ :=
      paced.resting (by simp [looking]) isOpen before failure choice last failed
    -- It is not too late and, as the manager is ready, not too early.
    exact Nat.le_antisymm early (past _ due)
  next => exact paced

theorem concat_cases {α : Type} {attempts before after : List α} {last failure next : α}
    (split : attempts ++ [last] = before ++ failure :: next :: after) :
    (after = [] ∧ next = last ∧ attempts = before ++ [failure]) ∨
      ∃ after, attempts = before ++ failure :: next :: after := by
  rcases after.eq_nil_or_concat with rfl | ⟨earlier, final, rfl⟩
  · have same : attempts ++ [last] = (before ++ [failure]) ++ [next] := by simpa using split
    obtain ⟨same, new⟩ := List.append_inj' same rfl
    exact .inl ⟨rfl, (List.singleton_inj.1 new).symm, same⟩
  · have same : attempts ++ [last] = (before ++ failure :: next :: earlier) ++ [final] := by
      simpa using split
    exact .inr ⟨earlier, (List.append_inj' same rfl).1⟩

theorem Paced.gaps_ended (paced : Paced base most history)
    (connecting : history.pool.task = .connect) (result : ConnectResult)
    (before : List ConnectAttempt) (failure next : ConnectAttempt) (after : List ConnectAttempt)
    (choice : Nat)
    (split : history.attempts ++ [history.ended result] = before ++ failure :: next :: after)
    (failed : failure.result = .failed choice) :
    next.began = restOver base most before failure.ended choice := by
  rcases concat_cases split with ⟨_, rfl, last⟩ | ⟨_, earlier⟩
  · exact paced.underway connecting before failure choice last failed
  · exact paced.gaps before failure next _ choice earlier failed

theorem Paced.connected (paced : Paced base most history) :
    Paced base most (history.act .connected) := by
  simp only [act]
  split
  next connecting =>
    have sound := act_sound _ (.connected (Duration.toMillis ⟨history.now⟩)) paced.sound
    refine ⟨sound, ?_, paced.gaps_ended connecting _, fun busy => ?_,
      fun _ _ before failure choice last failed => ?_⟩
    · rw [scheduleAfter_concat, ← paced.schedule]
      rfl
    · simp [PoolHistory.act, connecting] at busy
    · obtain ⟨_, same⟩ := List.append_inj' last rfl
      cases List.singleton_inj.1 same
      cases failed
  next => exact paced

theorem Paced.connectFailed (paced : Paced base most history) (reason : String) (choice : Nat) :
    Paced base most (history.act (.connectFailed reason choice)) := by
  simp only [act]
  split
  next connecting =>
    have sound := act_sound _ (.connectFailed reason) paced.sound
    have looking : (history.pool.act (.connectFailed reason)).task = .look := by
      simp [PoolHistory.act, connecting, PoolHistory.change]
    refine ⟨sound, ?_, paced.gaps_ended connecting _, fun busy => ?_,
      fun _ _ before failure choice last failed => ?_⟩
    · rw [scheduleAfter_concat, ← paced.schedule]
      rfl
    · rw [looking] at busy
      cases busy
    · obtain ⟨same, single⟩ := List.append_inj' last rfl
      cases List.singleton_inj.1 single
      cases failed
      refine ⟨looking, wantsChannel_connectFailed paced.sound connecting reason, ?_, ?_⟩
      · rw [restOver, ← same, ← paced.schedule]
        rfl
      · exact Nat.le_add_right _ _
  next => exact paced

theorem Paced.other (paced : Paced base most history) (action : PoolHistory.Action) :
    Paced base most (history.act (.other action)) := by
  simp only [act]
  split
  next => exact paced
  next other =>
    rw [Bool.not_eq_true] at other
    refine { paced with
      sound := act_sound _ action paced.sound
      underway := fun connecting => paced.underway ((act_connect other).1 connecting)
      resting := fun busy isOpen before failure choice last failed => ?_ }
    -- A closed pool does not open again.
    have wasOpen : history.pool.pool.isClosed = false := by
      cases closed : history.pool.pool.isClosed with
      | false => rfl
      | true => exact (act_closed closed action).1.symm.trans isOpen
    obtain ⟨looking, wants, rests⟩ := paced.resting (fun connecting =>
      busy ((act_connect other).2 connecting)) wasOpen before failure choice last failed
    exact ⟨(act_looking other looking).1, wantsChannel_act other looking wants, rests⟩

theorem Paced.act (paced : Paced base most history) (action : Action) :
    Paced base most (history.act action) := by
  cases action with
  | pass => exact paced.pass
  | look => exact paced.look
  | connected => exact paced.connected
  | connectFailed reason choice => exact paced.connectFailed reason choice
  | other action => exact paced.other action

theorem Paced.run (paced : Paced base most history) (actions : List Action) :
    Paced base most (history.run actions) := by
  induction actions generalizing history with
  | nil => exact paced
  | cons action rest ih => exact ih (paced.act action)

end ManagerHistory

namespace Simulation.World

variable {world : World} {id : PoolId} {service : PoolService}

theorem pools_wake (world : World) (waker : Waker) : (world.wake waker).pools = world.pools := by
  unfold wake
  split <;> rfl

theorem pools_emit (world : World) (signal : Signal) : (world.emit signal).pools = world.pools := by
  have each (told : List (Signal × Waker)) (world : World) :
      (told.foldl (fun world entry => world.wake entry.2) world).pools = world.pools := by
    induction told generalizing world with
    | nil => rfl
    | cons entry rest ih => exact (ih _).trans (pools_wake _ _)
  simp only [emit, each]

theorem pools_command (world : World) (channel : ChannelId) (change : Channel → Channel) :
    (world.command channel change).pools = world.pools :=
  pools_wake _ _

theorem pools_changePool (world : World) (id : PoolId) (result : Pool × List PoolEvent) :
    (world.changePool id result).pools =
      world.pools.modify id fun service => { service with pool := result.1 } := by
  have told : ∀ world : World, (if result.2.isEmpty then world else
      { world with poolEvents := world.poolEvents ++ result.2 }.wakeProcess .tracking).pools =
        world.pools := by
    intro world
    split
    next => rfl
    next => exact pools_wake _ _
  simp only [changePool]
  split
  next => exact told _
  next => exact (pools_emit _ _).trans (told _)

theorem pools_addLink (world : World) (socket : SocketId) (limits : ChannelLimits)
    (pool : Option PoolId) : (world.addLink socket limits pool).1.pools = world.pools :=
  (pools_wake _ _).trans (pools_wake _ _)

theorem connectFailed_rests (held : world.pool? id = some service) (cause : ChannelError) :
    ∃ rested, (world.connectFailed id service cause).pool? id = some rested ∧
      rested.schedule = service.schedule.failed ∧ ∃ choice,
        rested.stage = .resting (world.now + service.schedule.delay choice) := by
  simp only [connectFailed, pool?, pools_changePool, clearAlarms, updatePool,
    List.getElem?_modify_eq]
  rw [show world.pools[id]? = some service from held]
  exact ⟨_, rfl, rfl, _, rfl⟩

theorem addToPool_resets (held : world.pool? id = some service) (socket : SocketId) :
    ∃ added, (world.addToPool id service socket).pool? id = some added ∧
      added.schedule = service.schedule.reset ∧ added.stage = .looking := by
  simp only [addToPool]
  split
  next =>
    simp only [forceCloseChannel, pool?, pools_command, updatePool, pools_addLink, clearAlarms,
      List.getElem?_modify_eq]
    rw [show world.pools[id]? = some service from held]
    exact ⟨_, rfl, rfl, rfl⟩
  next =>
    simp only [wakeProcess, pool?, pools_wake, pools_changePool, updatePool, pools_addLink,
      clearAlarms, List.getElem?_modify_eq]
    rw [show world.pools[id]? = some service from held]
    exact ⟨_, rfl, rfl, rfl⟩

end Simulation.World

namespace ManagerHistory

open ReconnectSchedule
open Simulation (World)

/-- After some attempts, the bound of the next rest is the base, doubled with each failure since the
last success, and never above the greater of both limits; no failure makes it shorter. A rest is
within the bound and at least half of its whole milliseconds, wherever it is chosen. A success makes
the schedule a new one. The time from a failure of a manager to its next attempt is such a rest, and
as long as the pool is open no rest takes longer. -/
theorem rests_within_bounds {base most : Duration} (fit : Fit base most) :
    (∀ results, let schedule := (ofDurations base most).after results
      (failuresOf results = 0 → schedule.bound = base) ∧
      (failuresOf results ≤ 31 → schedule.bound.nanos =
        min (base.nanos * 2 ^ failuresOf results) (max base.nanos most.nanos)) ∧
      (∀ more, failuresOf results ≤ failuresOf more →
        schedule.bound.nanos ≤ ((ofDurations base most).after more).bound.nanos) ∧
      schedule.bound.nanos ≤ max base.nanos most.nanos ∧
      (∀ choice, (Duration.ofMillis (schedule.ceiling / 2)).nanos ≤ (schedule.rest choice).nanos ∧
        (schedule.rest choice).nanos ≤ schedule.bound.nanos) ∧
      (schedule.failures = min (failuresOf results) maxFailures ∧
        factor schedule.failures = 2 ^ min (failuresOf results) 31 ∧
        schedule.ceiling < UInt64.size) ∧
      (ofDurations base most).after (results ++ [.connected]) = ofDurations base most) ∧
    (∀ address limits actions, let history := (opened address limits base most).run actions
      history.schedule = scheduleAfter base most history.attempts ∧
      (∀ before failure next after choice,
        history.attempts = before ++ failure :: next :: after → failure.result = .failed choice →
        let schedule := scheduleAfter base most before
        failure.ended + (Duration.ofMillis (schedule.ceiling / 2)).nanos ≤ next.began ∧
          next.began ≤ failure.ended + schedule.bound.nanos) ∧
      ∀ before failure choice,
        history.attempts = before ++ [failure] → failure.result = .failed choice →
        history.pool.task ≠ .connect → history.pool.pool.isClosed = false →
        history.now ≤ failure.ended + (scheduleAfter base most before).bound.nanos) ∧
    ∀ (world : World) id service results, world.pool? id = some service →
      service.schedule = (ofDurations base most).after results →
      (∀ cause, ∃ rested due choice, (world.connectFailed id service cause).pool? id = some rested ∧
        rested.schedule = (ofDurations base most).after (results ++ [.failed choice]) ∧
        rested.stage = .resting due ∧
        world.now + service.schedule.ceiling / 2 ≤ due ∧
        due ≤ world.now + service.schedule.ceiling) ∧
      ∀ socket, ∃ added, (world.addToPool id service socket).pool? id = some added ∧
        added.schedule = ofDurations base most ∧ added.stage = .looking := by
  have least (results : List ConnectResult) (choice : Nat) :=
    le_rest (ceiling_after_lt fit results) choice
  refine ⟨fun results => ⟨bound_after_zero fit, fun few => ?_, fun more => bound_after_mono fit,
    bound_after_le fit results, fun choice => ⟨least results choice, rest_le choice⟩,
    ⟨?_, ?_, ceiling_after_lt fit results⟩, after_connected base most results⟩,
    fun address limits actions => ?_, fun world id service results held same =>
      ⟨fun cause => ?_, fun socket => ?_⟩⟩
  · rw [bound_after fit, Nat.min_eq_left few]
  · rw [after_eq]
  · rw [after_eq, factor_min_maxFailures, factor_eq]
  · have paced := (paced_opened address limits base most).run actions
    refine ⟨paced.schedule, fun before failure next after choice split failed => ?_,
      fun before failure choice last failed busy isOpen => ?_⟩
    · rw [paced.gaps before failure next after choice split failed]
      exact ⟨Nat.add_le_add_left (least _ choice) _, Nat.add_le_add_left (rest_le choice) _⟩
    · obtain ⟨_, _, _, early⟩ := paced.resting busy isOpen before failure choice last failed
      exact Nat.le_trans early (Nat.add_le_add_left (rest_le choice) _)
  · obtain ⟨rested, found, failed, choice, stage⟩ := World.connectFailed_rests held cause
    refine ⟨rested, _, choice, found, ?_, stage, ?_, ?_⟩
    · rw [failed, same, after_concat]
      rfl
    · exact Nat.add_le_add_left (same ▸ le_delay (ceiling_after_lt fit results) choice) _
    · exact Nat.add_le_add_left (delay_le choice) _
  · obtain ⟨added, found, reset, stage⟩ := World.addToPool_resets held socket
    refine ⟨added, found, ?_, stage⟩
    rw [reset, same]
    exact (after_concat _ _ .connected).symm.trans (after_connected base most results)

def flakyActions : List Action :=
  [.look, .connectFailed "refused" 7, .look, .pass, .pass, .pass, .look, .pass,
    .connectFailed "refused" 0, .pass, .pass, .pass, .pass, .look, .connectFailed "refused" 1,
    .pass, .pass, .pass, .pass, .pass, .pass, .look, .connected, .other .add,
    .other (.line 0 (.event 1 none (.lost "reset"))), .other (.notice 0), .look,
    .connectFailed "refused" 3, .pass, .pass, .look]

def flakyLimits : PoolLimits := ⟨1, ⟨3, 0, 5, 5, 1, 0⟩, 0, 0⟩

def flaky : ManagerHistory := (opened (.v4 1 9042) flakyLimits ⟨2⟩ ⟨5⟩).run flakyActions

def swaying : ReconnectSchedule :=
  (ofDurations (.ofMillis 100) (.ofMillis 1000)).after [.failed 5, .failed 9]

theorem flaky_rests_within_bounds :
    Fit ⟨2⟩ ⟨5⟩ ∧ flaky.attempts.map (fun attempt => (attempt.began, attempt.ended)) =
        [(0, 0), (2, 3), (7, 7), (12, 12), (12, 12)] ∧
      flaky.schedule.bound = ⟨4⟩ ∧
      (∀ before failure next after choice,
        flaky.attempts = before ++ failure :: next :: after → failure.result = .failed choice →
        next.began ≤ failure.ended + (scheduleAfter ⟨2⟩ ⟨5⟩ before).bound.nanos) ∧
      Fit (.ofMillis 100) (.ofMillis 1000) ∧
      swaying.rest 0 = .ofMillis 200 ∧ swaying.rest 137 = .ofMillis 337 ∧
      ∀ choice, (Duration.ofMillis 200).nanos ≤ (swaying.rest choice).nanos ∧
        (swaying.rest choice).nanos ≤ (Duration.ofMillis 400).nanos := by
  have fit : Fit ⟨2⟩ ⟨5⟩ := ⟨by decide, by decide⟩
  have ⟨_, gaps, _⟩ := (rests_within_bounds fit).2.1 (.v4 1 9042) flakyLimits flakyActions
  have sways : Fit (.ofMillis 100) (.ofMillis 1000) := ⟨by decide, by decide⟩
  have ⟨_, _, _, _, chosen, _⟩ := (rests_within_bounds sways).1 [.failed 5, .failed 9]
  refine ⟨fit, by decide +kernel, by decide +kernel, ?_, sways, by decide, by decide, chosen⟩
  intro before failure next after choice split failed
  exact (gaps before failure next after choice split failed).2

end ManagerHistory

end ClusterDriver
