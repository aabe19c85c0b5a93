import ClusterDriver.Proofs.Pool.History

set_option autoImplicit false

namespace ClusterDriver

theorem Pool.checkUsable_lists (view : ChannelId → ChannelView) (pool : Pool) :
    (pool.checkUsable view).1.channels = pool.channels ∧
      (pool.checkUsable view).1.closing = pool.closing ∧
      (pool.checkUsable view).1.isClosed = pool.isClosed := by
  unfold checkUsable
  split
  next =>
    rcases pool.transition_cases .unavailable with ⟨same, _⟩ | ⟨_, isOpen, same⟩
    · rw [same]
      exact ⟨rfl, rfl, rfl⟩
    · rw [same]
      refine ⟨rfl, rfl, ?_⟩
      simp [isClosed, isOpen]
  next => exact ⟨rfl, rfl, rfl⟩

namespace PoolHistory

theorem act_isClosed {history : PoolHistory} {channel : ChannelId}
    (ended : history.isClosed channel = true) (action : Action) :
    (history.act action).isClosed channel = true := by
  -- A connection that has ended stays so, whatever it is told.
  have told (tested : ChannelId) (does : History.Action) :
      (history.actLine tested does).isClosed channel = true := by
    obtain ⟨line, found, closed⟩ := (Option.any_eq_true _ _).1 ended
    simp only [isClosed, actLine, List.getElem?_modify, found, Option.map_eq_map, Option.map_some,
      Option.any_some]
    split
    next =>
      rw [Channel.isClosed, (History.act_ended closed does).1]
      exact closed
    next => exact closed
  cases action with
  | look =>
    simp only [act]
    split <;> exact ended
  | connected now =>
    simp only [act]
    split
    next =>
      obtain ⟨line, found, closed⟩ := (Option.any_eq_true _ _).1 ended
      have known := (List.getElem?_eq_some_iff.1 found).1
      simp only [isClosed, List.getElem?_append_left known, found]
      exact closed
    next => exact ended
  | connectFailed reason =>
    simp only [act]
    split <;> exact ended
  | add =>
    simp only [act]
    split
    next =>
      split
      next => exact told _ .forceClose
      next => exact ended
    next => exact ended
  | notice other =>
    simp only [act]
    split <;> exact ended
  | beginClose => exact ended
  | line other does => exact told other does

structure Serves (before after : PoolHistory) : Prop where
  closing : after.pool.closing = before.pool.closing
  isClosed : after.pool.isClosed = before.pool.isClosed
  rests : before.pool.isClosed = true → after.pool.channels = before.pool.channels
  kept : ∀ channel ∈ before.pool.channels,
    channel ∈ after.pool.channels ∨ before.isClosed channel = true

theorem Serves.same {before after : PoolHistory}
    (channels : after.pool.channels = before.pool.channels)
    (closing : after.pool.closing = before.pool.closing)
    (state : after.pool.isClosed = before.pool.isClosed) : before.Serves after where
  closing
  isClosed := state
  rests _ := channels
  kept _ member := .inl (channels ▸ member)

theorem serves_notice {history : PoolHistory} {channel : ChannelId}
    (ended : history.isClosed channel = true) (watched : List ChannelId) :
    history.Serves ({ history with watched }.change
      (history.pool.removeChannel history.view channel)) := by
  unfold Pool.removeChannel
  split
  next => exact .same rfl rfl rfl
  next isOpen =>
    obtain ⟨channels, closing, state⟩ := Pool.checkUsable_lists history.view
      { history.pool with channels := history.pool.channels.filter (· ≠ channel) }
    refine ⟨closing, state, fun closed => absurd closed isOpen, ?_⟩
    intro listed member
    by_cases own : listed = channel
    · rw [own]
      exact .inr ended
    · left
      rw [change, channels]
      exact List.mem_filter.2 ⟨member, by simpa using own⟩

theorem serves_added {history : PoolHistory} {channel : ChannelId} {result : Pool × List PoolEvent}
    (added : history.pool.addChannel channel = some result) (watched : List ChannelId) :
    history.Serves ({ history with task := .look, watched }.change result) := by
  rcases history.pool.addChannel_cases channel with ⟨_, none⟩ | ⟨isOpen, _, some, _, same⟩
  · cases none.symm.trans added
  obtain rfl := Option.some.inj (some.symm.trans added)
  refine ⟨?_, ?_, ?_, ?_⟩
  · rw [change, same]
  · simp [change, same, Pool.isClosed, isOpen]
  · intro closed
    exact absurd (Pool.isClosed_iff.1 closed) isOpen
  · intro listed member
    rw [change, same]
    exact .inl (List.mem_append_left _ member)

theorem act_serves (history : PoolHistory) (action : Action) :
    history.Serves (history.act action) ∨
      history.act action = { history with pool := history.pool.beginClose.1 } := by
  cases action with
  | look =>
    left
    simp only [act]
    split <;> exact .same rfl rfl rfl
  | connected now =>
    left
    simp only [act]
    split <;> exact .same rfl rfl rfl
  | connectFailed reason =>
    left
    simp only [act]
    split
    next =>
      obtain ⟨channels, closing, state⟩ := Pool.checkUsable_lists history.view
        { history.pool with lastError := some reason }
      exact .same channels closing state
    next => exact .same rfl rfl rfl
  | add =>
    left
    simp only [act]
    split
    next channel _ =>
      cases added : history.pool.addChannel channel with
      | none => exact .same rfl rfl rfl
      | some result => exact serves_added added _
    next => exact .same rfl rfl rfl
  | notice channel =>
    left
    simp only [act]
    split
    next noticed => exact serves_notice noticed.2 _
    next => exact .same rfl rfl rfl
  | beginClose => exact .inr rfl
  | line channel does => exact .inl (.same rfl rfl rfl)

end PoolHistory

/-- A call that closes a pool. It took `taken` out of service, has yet to tell `untold`, and was the
`first` if the pool was open until then. -/
structure ClosingCall where
  graceful : Bool
  first : Bool
  taken : List ChannelId
  untold : List ChannelId
deriving DecidableEq, Repr

structure ClosingHistory where
  history : PoolHistory
  calls : List ClosingCall := []

namespace ClosingHistory

inductive Action where
  | pool (action : PoolHistory.Action)
  | call (graceful : Bool)
  | tell (call : Nat)

def opened (address : SocketAddress) (limits : PoolLimits) : ClosingHistory where
  history := .opened address limits

def startCall (closing : ClosingHistory) (graceful : Bool) : ClosingHistory :=
  let before := closing.history.pool
  let history := closing.history.act .beginClose
  let call : ClosingCall := {
    graceful
    first := !before.isClosed
    taken := before.beginClose.2
    untold := if graceful then before.beginClose.2 else history.pool.closing }
  { history, calls := closing.calls ++ [call] }

def act (closing : ClosingHistory) : Action → ClosingHistory
  | .pool action => { closing with history := closing.history.act action }
  | .call graceful => closing.startCall graceful
  | .tell id =>
      match closing.calls[id]? with
      | none => closing
      | some call =>
          match call.untold with
          | [] => closing
          | channel :: rest => {
              history := closing.history.act
                (.line channel (if call.graceful then .close else .forceClose))
              calls := closing.calls.set id { call with untold := rest } }

def run (closing : ClosingHistory) (actions : List Action) : ClosingHistory :=
  actions.foldl act closing

theorem run_induction (holds : ClosingHistory → Prop)
    (step : ∀ closing action, holds closing → holds (closing.act action))
    {closing : ClosingHistory} (start : holds closing) (actions : List Action) :
    holds (closing.run actions) := by
  induction actions generalizing closing with
  | nil => exact start
  | cons action rest ih => exact ih (step closing action start)

/-- Only a graceful call waits, namely for what it took itself. -/
def isComplete (closing : ClosingHistory) (call : ClosingCall) : Bool :=
  call.untold.isEmpty && call.taken.all closing.history.isClosed

theorem act_history (closing : ClosingHistory) (action : Action) :
    ∃ actions, (closing.act action).history = closing.history.run actions := by
  cases action with
  | pool action => exact ⟨[action], rfl⟩
  | call graceful => exact ⟨[.beginClose], rfl⟩
  | tell id =>
    simp only [act]
    split
    next => exact ⟨[], rfl⟩
    next call _ =>
      split
      next => exact ⟨[], rfl⟩
      next channel _ _ =>
        exact ⟨[.line channel (if call.graceful then .close else .forceClose)], rfl⟩

theorem run_history (holds : PoolHistory → Prop)
    (step : ∀ history action, holds history → holds (PoolHistory.act history action))
    {closing : ClosingHistory} (start : holds closing.history) (actions : List Action) :
    holds (closing.run actions).history := by
  refine run_induction (fun later => holds later.history) ?_ start actions
  intro later action known
  obtain ⟨happened, same⟩ := later.act_history action
  rw [same]
  exact PoolHistory.run_induction holds step known happened

theorem run_isClosed {closing : ClosingHistory} {channel : ChannelId}
    (ended : closing.history.isClosed channel = true) (actions : List Action) :
    (closing.run actions).history.isClosed channel = true :=
  run_history (fun history => history.isClosed channel = true)
    (fun _ action ended => PoolHistory.act_isClosed ended action) ended actions

/-- A connection that was in service still is, or it is closing, or it has ended. -/
def Accounted (channel : ChannelId) (history : PoolHistory) : Prop :=
  channel ∈ history.pool.channels ∨ channel ∈ history.pool.closing ∨
    history.isClosed channel = true

theorem Accounted.act {channel : ChannelId} {history : PoolHistory}
    (accounted : Accounted channel history) (action : PoolHistory.Action) :
    Accounted channel (history.act action) := by
  rcases accounted with served | closes | ended
  · rcases history.act_serves action with serves | same
    · rcases serves.kept channel served with still | ended
      · exact .inl still
      · exact .inr (.inr (PoolHistory.act_isClosed ended action))
    · rw [same]
      exact .inr (.inl (List.mem_append_right _ served))
  · right
    left
    rcases history.act_serves action with serves | same
    · rwa [serves.closing]
    · rw [same]
      exact List.mem_append_left _ closes
  · exact .inr (.inr (PoolHistory.act_isClosed ended action))

/-- The first call has taken all that is closing, and there is nothing left for the others. -/
structure Divided (closing : ClosingHistory) : Prop where
  unclosed : closing.history.pool.isClosed = false →
    closing.history.pool.closing = [] ∧ closing.calls = []
  emptied : closing.history.pool.isClosed = true → closing.history.pool.channels = []
  first : ∀ call ∈ closing.calls, call.first = true → call.taken = closing.history.pool.closing
  others : ∀ call ∈ closing.calls, call.first = false → call.taken = []

section Steps

variable {closing : ClosingHistory}

theorem Divided.serves (divided : closing.Divided) {after : PoolHistory}
    (serves : closing.history.Serves after) : Divided { closing with history := after } where
  unclosed isOpen := by
    rw [serves.closing]
    exact divided.unclosed (serves.isClosed ▸ isOpen)
  emptied closed := by
    have wasClosed := serves.isClosed ▸ closed
    rw [serves.rests wasClosed]
    exact divided.emptied wasClosed
  first call member isFirst := by
    rw [serves.closing]
    exact divided.first call member isFirst
  others := divided.others

theorem Divided.taken (divided : closing.Divided) {call : ClosingCall}
    (taken : call.taken = closing.history.pool.channels)
    (isFirst : call.first = !closing.history.pool.isClosed) :
    Divided {
      history := { closing.history with pool := closing.history.pool.beginClose.1 }
      calls := closing.calls ++ [call] } := by
  cases state : closing.history.pool.isClosed with
  | false =>
    obtain ⟨none, noCalls⟩ := divided.unclosed state
    refine ⟨nofun, fun _ => rfl, ?_, ?_⟩
    · simp [noCalls, Pool.beginClose, none, taken]
    · simp [noCalls, isFirst, state]
  | true =>
    have empty := divided.emptied state
    refine ⟨nofun, fun _ => rfl, ?_, ?_⟩
    · simp only [Pool.beginClose, empty, List.append_nil]
      intro other member first
      rcases List.mem_append.1 member with old | new
      · exact divided.first other old first
      · simp [List.mem_singleton.1 new, isFirst, state] at first
    · intro other member later
      rcases List.mem_append.1 member with old | new
      · exact divided.others other old later
      · rw [List.mem_singleton.1 new, taken, empty]

theorem Divided.closes (divided : closing.Divided) :
    Divided { closing with
      history := { closing.history with pool := closing.history.pool.beginClose.1 } } := by
  cases state : closing.history.pool.isClosed with
  | false =>
    obtain ⟨_, noCalls⟩ := divided.unclosed state
    exact ⟨nofun, fun _ => rfl, by simp [noCalls], by simp [noCalls]⟩
  | true =>
    refine ⟨nofun, fun _ => rfl, ?_, divided.others⟩
    simp only [Pool.beginClose, divided.emptied state, List.append_nil]
    exact divided.first

theorem Divided.relabels (divided : closing.Divided) {id : Nat} {call : ClosingCall}
    (known : closing.calls[id]? = some call) (untold : List ChannelId) :
    Divided { closing with calls := closing.calls.set id { call with untold } } := by
  have member := List.mem_of_getElem? known
  refine ⟨fun isOpen => ?_, divided.emptied, ?_, ?_⟩
  · obtain ⟨none, noCalls⟩ := divided.unclosed isOpen
    refine ⟨none, ?_⟩
    simp only [noCalls, List.set_nil]
  · intro other changed
    rcases List.mem_or_eq_of_mem_set changed with old | rfl
    · exact divided.first other old
    · exact divided.first call member
  · intro other changed
    rcases List.mem_or_eq_of_mem_set changed with old | rfl
    · exact divided.others other old
    · exact divided.others call member

end Steps

theorem act_divided (closing : ClosingHistory) (action : Action) (divided : closing.Divided) :
    (closing.act action).Divided := by
  cases action with
  | pool action =>
    rcases closing.history.act_serves action with serves | same
    · exact divided.serves serves
    · simp only [act, same]
      exact divided.closes
  | call graceful => exact divided.taken rfl rfl
  | tell id =>
    simp only [act]
    split
    next => exact divided
    next call known =>
      split
      next => exact divided
      next channel rest _ =>
        have told : closing.history.Serves (closing.history.act
            (.line channel (if call.graceful then .close else .forceClose))) := .same rfl rfl rfl
        exact (divided.relabels known rest).serves told

theorem opened_divided (address : SocketAddress) (limits : PoolLimits) :
    (opened address limits).Divided where
  unclosed _ := ⟨rfl, rfl⟩
  emptied := nofun
  first := nofun
  others := nofun

/-- When a call is complete, what it took has closed, and whatever was in service at any time before
has closed or is closing. If the call was the first, all of that has closed, and stays so; any other
call took nothing. -/
theorem complete_closes_taken {address : SocketAddress} {limits : PoolLimits}
    {earlier later : List Action} {reached : ClosingHistory}
    (runs : reached = ((opened address limits).run earlier).run later) {call : ClosingCall}
    (made : call ∈ reached.calls) (complete : reached.isComplete call = true) :
    (∀ channel ∈ call.taken, ∀ more, (reached.run more).history.isClosed channel = true) ∧
      (∀ channel ∈ ((opened address limits).run earlier).history.pool.channels,
        (channel ∈ reached.history.pool.closing ∨ reached.history.isClosed channel = true) ∧
        (call.first = true → ∀ more, (reached.run more).history.isClosed channel = true)) ∧
      (call.first = false → call.taken = []) := by
  have divided : reached.Divided := by
    rw [runs]
    exact run_induction Divided act_divided
      (run_induction Divided act_divided (opened_divided address limits) earlier) later
  obtain ⟨_, allClosed⟩ := Bool.and_eq_true_iff.1 complete
  rw [List.all_eq_true] at allClosed
  have closed : reached.history.pool.isClosed = true := by
    cases state : reached.history.pool.isClosed with
    | true => rfl
    | false => simp [(divided.unclosed state).2] at made
  refine ⟨fun channel taken more => run_isClosed (allClosed channel taken) more, ?_,
    divided.others call made⟩
  intro channel listed
  have accounted : Accounted channel reached.history := by
    rw [runs]
    exact run_history (Accounted channel) (fun _ action known => known.act action) (.inl listed) later
  have gone : channel ∈ reached.history.pool.closing ∨ reached.history.isClosed channel = true := by
    simpa [Accounted, divided.emptied closed] using accounted
  refine ⟨gone, fun isFirst more => run_isClosed ?_ more⟩
  rcases gone with closes | ended
  · rw [← divided.first call made isFirst] at closes
    exact allClosed channel closes
  · exact ended

def busy : ClosingHistory :=
  (opened (.v4 1 9042) ⟨1, ⟨3, 0, 5, 5, 1, 9⟩, 1, 1⟩).run
    [.pool .look, .pool (.connected 0), .pool .add, .pool (.line 0 (.send .query ByteArray.empty)),
      .pool (.line 0 (.event 0 none .command))]

def closedTwice : ClosingHistory :=
  busy.run [.call true, .tell 0, .pool (.line 0 (.event 0 none .command)), .call true]

theorem second_call_leaves_open :
    ∃ call ∈ closedTwice.calls, call.graceful = true ∧ closedTwice.isComplete call = true ∧
      ∃ channel ∈ busy.history.pool.channels, closedTwice.history.isClosed channel = false := by
  refine ⟨⟨true, false, [], []⟩, by decide, rfl, by decide, 0, by decide, by decide⟩

def drained : ClosingHistory := closedTwice.run [.pool (.line 0 (.event 9 none .tick))]

theorem drained_closes_taken :
    drained.calls = [⟨true, true, [0], []⟩, ⟨true, false, [], []⟩] ∧
      busy.history.pool.channels = [0] ∧ drained.history.isClosed 0 = true := by
  refine ⟨by decide, by decide, ?_⟩
  obtain ⟨_, listed, _⟩ := @complete_closes_taken (.v4 1 9042) ⟨1, ⟨3, 0, 5, 5, 1, 9⟩, 1, 1⟩
    [.pool .look, .pool (.connected 0), .pool .add, .pool (.line 0 (.send .query ByteArray.empty)),
      .pool (.line 0 (.event 0 none .command))]
    [.call true, .tell 0, .pool (.line 0 (.event 0 none .command)), .call true,
      .pool (.line 0 (.event 9 none .tick))]
    drained rfl ⟨true, true, [0], []⟩ (by decide) (by decide)
  exact (listed 0 (by decide)).2 rfl []

end ClosingHistory

end ClusterDriver
