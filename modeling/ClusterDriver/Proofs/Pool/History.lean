import ClusterDriver.Pool
import ClusterDriver.Proofs.Channel.Completion
import Mathlib.Data.List.Chain

/-!
Everything that can happen to a pool, in any order: its manager opens connections one after the
other, connections live on and end by themselves, their watchers notice that, and the pool is
closed. The pool tells of its health by events, and they say neither more nor less than its state.
-/

set_option autoImplicit false

namespace ClusterDriver

/-! ### Connections that are of no use any more -/

theorem Channel.Handled.closing {channel : Channel} {event : Channel.Event} {reaction : Reaction}
    (handled : Handled channel event reaction) : reaction.channel.closing = channel.closing := by
  cases handled <;> simp only [freeStream_eq, release]

theorem Channel.isUsable_eq_false {channel : Channel} :
    channel.isUsable = false ↔ channel.isClosed = true ∨ channel.closing = true := by
  cases closed : channel.isClosed <;> cases closing : channel.closing <;>
    simp [isUsable, closed, closing]

namespace History

open Channel

theorem act_closing {history : History} {action : Action}
    (closing : history.channel.closing = true)
    (isOpen : (history.act action).channel.isClosed = false) :
    (history.act action).channel.closing = true := by
  cases action with
  | send opcode body =>
    simp only [act]
    split
    next => exact closing
    next accepted =>
      obtain ⟨_, _, rfl, rfl⟩ := send_ok accepted
      exact closing
  | enter =>
    simp only [act]
    split
    next => exact closing
    next reserved =>
      obtain ⟨_, rfl⟩ := reserve?_some reserved
      exact closing
  | submit opcode body =>
    have wasOpen := act_open isOpen
    simp only [act]
    split
    next => exact closing
    next =>
      rw [submit_open wasOpen]
      exact closing
  | abandon request =>
    simp only [act]
    split
    next =>
      rcases enqueue_cases history.channel (.abandon request) with same | same
      · exact (congrArg Channel.closing same).trans closing
      · exact (congrArg Channel.closing same).trans closing
    next => exact closing
  | close =>
    simp only [act, close, closing, if_true]
  | forceClose =>
    simp only [act, forceClose]
    rcases enqueue_cases { history.channel with closing := true } (.close false) with same | same
    · rw [same]
    · rw [same]
  | event now fault event =>
    obtain ⟨_, same, _⟩ := react_open isOpen
    simp only [act, same, (handle_handled _ now fault event).closing]
    exact closing

theorem act_unusable {history : History} (unusable : history.channel.isUsable = false)
    (action : Action) : (history.act action).channel.isUsable = false := by
  rw [isUsable_eq_false] at unusable ⊢
  rcases unusable with ended | closing
  · left
    rw [isClosed, (act_ended ended action).1]
    exact ended
  · cases closed : (history.act action).channel.isClosed with
    | true => exact .inl rfl
    | false => exact .inr (act_closing closing closed)

end History

/-! ### What a pool does -/

namespace PoolEvent

def address : PoolEvent → SocketAddress
  | .up node => node
  | .down node => node

def opposite : PoolEvent → PoolEvent
  | .up node => .down node
  | .down node => .up node

end PoolEvent

namespace Pool

def lastEvent? (pool : Pool) : Option PoolEvent :=
  match pool.state with
  | .ready => some (.up pool.address)
  | .unavailable => some (.down pool.address)
  | _ => none

theorem isClosed_iff {pool : Pool} : pool.isClosed = true ↔ pool.state = .closed := by
  simp [isClosed]

theorem size_eq_zero {view : ChannelId → ChannelView} {pool : Pool} :
    pool.size view = 0 ↔ ∀ channel ∈ pool.channels, (view channel).usable = false := by
  simp [size, usable]

theorem lastEvent?_address {pool : Pool} {event : PoolEvent}
    (told : pool.lastEvent? = some event) : event.address = pool.address := by
  unfold lastEvent? at told
  split at told
  next => cases told; rfl
  next => cases told; rfl
  next => cases told

theorem transition_cases (pool : Pool) (next : PoolState) :
    pool.transition next = (pool, []) ∧ (pool.state = next ∨ pool.state = .closed) ∨
      pool.state ≠ next ∧ pool.state ≠ .closed ∧
        pool.transition next =
          ({ pool with state := next }, { pool with state := next }.lastEvent?.toList) := by
  unfold transition
  split
  next kept =>
    rw [isClosed_iff] at kept
    exact .inl ⟨rfl, kept⟩
  next changes =>
    rw [isClosed_iff, not_or] at changes
    refine .inr ⟨changes.1, changes.2, ?_⟩
    cases next <;> rfl

theorem checkUsable_cases (view : ChannelId → ChannelView) (pool : Pool) :
    pool.size view ≠ 0 ∧ pool.checkUsable view = (pool, []) ∨
      pool.size view = 0 ∧ ∃ state, (state = .unavailable ∨ state = .closed) ∧
        (pool.checkUsable view).1 = { pool with state } := by
  unfold checkUsable
  split
  next none =>
    refine .inr ⟨none, ?_⟩
    rcases pool.transition_cases .unavailable with ⟨same, state⟩ | ⟨_, _, same⟩
    · rw [same]
      exact ⟨_, state, rfl⟩
    · rw [same]
      exact ⟨_, .inl rfl, rfl⟩
  next some => exact .inl ⟨some, rfl⟩

theorem addChannel_cases (pool : Pool) (channel : ChannelId) :
    pool.state = .closed ∧ pool.addChannel channel = none ∨
      pool.state ≠ .closed ∧ ∃ result, pool.addChannel channel = some result ∧
        result = { pool with channels := pool.channels ++ [channel] }.transition .ready ∧
        result.1 = { pool with channels := pool.channels ++ [channel], state := .ready } := by
  unfold addChannel
  split
  next closed => exact .inl ⟨isClosed_iff.1 closed, rfl⟩
  next isOpen =>
    rw [isClosed_iff] at isOpen
    refine .inr ⟨isOpen, _, rfl, rfl, ?_⟩
    rcases transition_cases { pool with channels := pool.channels ++ [channel] } .ready with
      ⟨same, ready | closed⟩ | ⟨_, _, same⟩
    · rw [same, ← ready]
    · exact absurd closed isOpen
    · rw [same]

theorem lastEvent?_opposite {pool : Pool} {next : PoolState} {earlier later : PoolEvent}
    (changes : pool.state ≠ next) (before : pool.lastEvent? = some earlier)
    (after : { pool with state := next }.lastEvent? = some later) : later = earlier.opposite := by
  cases state : pool.state with
  | ready =>
    obtain rfl : .up pool.address = earlier := by simpa [lastEvent?, state] using before
    cases next with
    | unavailable => exact (Option.some.inj after).symm
    | ready => exact absurd state changes
    | _ => cases after
  | unavailable =>
    obtain rfl : .down pool.address = earlier := by simpa [lastEvent?, state] using before
    cases next with
    | ready => exact (Option.some.inj after).symm
    | unavailable => exact absurd state changes
    | _ => cases after
  | _ => simp [lastEvent?, state] at before

end Pool

/-- What the manager of a pool is about: it looks whether a connection is wanted, it connects, or it
has a connection that is to be put in service. -/
inductive ManagerTask where
  | look
  | connect
  | add (channel : ChannelId)
deriving DecidableEq, Repr

/-- A pool together with all connections that were ever opened for it, the ones that are `watched`
for their end, and the events that it has emitted. -/
structure PoolHistory where
  pool : Pool
  task : ManagerTask := .look
  lines : List History := []
  watched : List ChannelId := []
  events : List PoolEvent := []

namespace PoolHistory

/-- The first four are what the manager does, in whatever order its task allows. Connections change
by actions of their own, also when they are closed together with their pool. -/
inductive Action where
  | look
  | connected (now : Nat)
  | connectFailed (reason : String)
  | add
  | notice (channel : ChannelId)
  | beginClose
  | line (channel : ChannelId) (action : History.Action)

def opened (address : SocketAddress) (limits : PoolLimits) : PoolHistory where
  pool := { address, limits }

def view (history : PoolHistory) (channel : ChannelId) : ChannelView :=
  match history.lines[channel]? with
  | none => ⟨false, 0⟩
  | some line => ⟨line.channel.isUsable, line.channel.available⟩

def isClosed (history : PoolHistory) (channel : ChannelId) : Bool :=
  history.lines[channel]?.any (·.channel.isClosed)

def change (history : PoolHistory) (result : Pool × List PoolEvent) : PoolHistory :=
  { history with pool := result.1, events := history.events ++ result.2 }

def actLine (history : PoolHistory) (channel : ChannelId) (action : History.Action) :
    PoolHistory :=
  { history with lines := history.lines.modify channel (·.act action) }

def act (history : PoolHistory) : Action → PoolHistory
  | .look =>
      if history.task = .look ∧ !history.pool.isClosed ∧ history.pool.wantsChannel then
        { history with task := .connect }
      else history
  | .connected now =>
      if history.task = .connect then
        { history with
          task := .add history.lines.length
          lines := history.lines ++ [.opened history.pool.limits.channel now] }
      else history
  | .connectFailed reason =>
      if history.task = .connect then
        { history with task := .look }.change (history.pool.connectFailed history.view reason)
      else history
  | .add =>
      -- A pool that was closed in the meantime has no use for the connection.
      match history.task with
      | .add channel =>
          match history.pool.addChannel channel with
          | none => { history with task := .look }.actLine channel .forceClose
          | some result =>
              { history with task := .look, watched := history.watched ++ [channel] }.change result
      | _ => history
  | .notice channel =>
      if channel ∈ history.watched ∧ history.isClosed channel then
        { history with watched := history.watched.erase channel }.change
          (history.pool.removeChannel history.view channel)
      else history
  | .beginClose => { history with pool := history.pool.beginClose.1 }
  | .line channel action => history.actLine channel action

def run (history : PoolHistory) (actions : List Action) : PoolHistory := actions.foldl act history

theorem run_induction (holds : PoolHistory → Prop)
    (step : ∀ history action, holds history → holds (history.act action)) {history : PoolHistory}
    (start : holds history) (actions : List Action) : holds (history.run actions) := by
  induction actions generalizing history with
  | nil => exact start
  | cons action rest ih => exact ih (step history action start)

/-! ### Views -/

theorem view_actLine (history : PoolHistory) (channel tested : ChannelId)
    (action : History.Action) (unusable : (history.view tested).usable = false) :
    ((history.actLine channel action).view tested).usable = false := by
  unfold view actLine at *
  simp only [List.getElem?_modify]
  cases found : history.lines[tested]? with
  | none => rfl
  | some line =>
    rw [found] at unusable
    by_cases same : channel = tested
    · simp only [same, if_true]
      exact line.act_unusable unusable action
    · simp only [same, if_false]
      exact unusable

theorem view_append {history : PoolHistory} {task : ManagerTask} {line : History}
    {channel : ChannelId} (known : channel < history.lines.length) :
    view { history with task, lines := history.lines ++ [line] } channel =
      history.view channel := by
  unfold view
  simp only [List.getElem?_append_left known]

/-! ### Events and states -/

/-- The events that a pool has emitted alternate, and before the pool is closed the last of them is
the one of its state. -/
structure Told (pool : Pool) (events : List PoolEvent) : Prop where
  last : pool.isClosed = false → events.getLast? = pool.lastEvent?
  addressed : ∀ event ∈ events, event.address = pool.address
  alternating : events.IsChain fun earlier later => later = earlier.opposite

theorem Told.transition {pool : Pool} {events : List PoolEvent} (told : Told pool events)
    {next : PoolState} (health : next = .ready ∨ next = .unavailable) :
    Told (pool.transition next).1 (events ++ (pool.transition next).2) := by
  rcases pool.transition_cases next with ⟨same, _⟩ | ⟨changes, isOpen, same⟩
  · rw [same, List.append_nil]
    exact told
  · have before := told.last (by simpa [Pool.isClosed] using isOpen)
    obtain ⟨event, emitted⟩ : ∃ event, { pool with state := next }.lastEvent? = some event := by
      rcases health with rfl | rfl
      · exact ⟨_, rfl⟩
      · exact ⟨_, rfl⟩
    rw [same, emitted]
    refine ⟨fun _ => by simp [emitted], ?_, ?_⟩
    · intro tested member
      rcases List.mem_append.1 member with old | new
      · exact told.addressed tested old
      · rw [List.mem_singleton.1 new]
        exact Pool.lastEvent?_address emitted
    rw [Option.toList_some, List.isChain_append]
    refine ⟨told.alternating, List.isChain_singleton event, ?_⟩
    intro earlier last later first
    obtain rfl : event = later := by simpa using first
    exact Pool.lastEvent?_opposite changes (before.symm.trans last) emitted

theorem Told.same {pool other : Pool} {events : List PoolEvent} (told : Told pool events)
    (address : other.address = pool.address) (state : other.state = pool.state) :
    Told other events := by
  refine ⟨fun isOpen => ?_, by simpa only [address] using told.addressed, told.alternating⟩
  have known := told.last (by simpa [Pool.isClosed, state] using isOpen)
  simpa only [Pool.lastEvent?, address, state] using known

structure Sound (history : PoolHistory) : Prop where
  told : Told history.pool history.events
  sized : history.pool.channels.length ≤ history.pool.limits.size
  room : history.task ≠ .look → history.pool.channels.length < history.pool.limits.size
  listed : ∀ channel ∈ history.pool.channels, channel < history.lines.length
  brought : ∀ channel, history.task = .add channel → channel < history.lines.length
  manned : history.pool.state = .ready → history.pool.channels ≠ []
  unmanned : history.pool.state = .unavailable →
    ∀ channel ∈ history.pool.channels, (history.view channel).usable = false

section Steps

variable {history : PoolHistory}

theorem Told.checkUsable {pool : Pool} {events : List PoolEvent} (told : Told pool events)
    (view : ChannelId → ChannelView) :
    Told (pool.checkUsable view).1 (events ++ (pool.checkUsable view).2) := by
  unfold Pool.checkUsable
  split
  next => exact told.transition (.inr rfl)
  next => simpa using told

theorem Sound.checkUsable (sound : history.Sound) {task : ManagerTask} {watched : List ChannelId}
    {channels : List ChannelId} {lastError : Option String}
    (fewer : channels.Sublist history.pool.channels)
    (goesOn : task = .look ∨ task = history.task) :
    Sound ({ history with task, watched }.change
      (Pool.checkUsable history.view { history.pool with channels, lastError })) := by
  have told : Told { history.pool with channels, lastError } history.events :=
    sound.told.same rfl rfl
  have shorter := fewer.length_le
  have sized := Nat.le_trans shorter sound.sized
  -- The manager is busy only while there is room, and there is no less of it now.
  have room : task ≠ .look → channels.length < history.pool.limits.size := by
    intro busy
    rcases goesOn with idle | rfl
    · exact absurd idle busy
    · exact Nat.lt_of_le_of_lt shorter (sound.room busy)
  have listed : ∀ channel ∈ channels, channel < history.lines.length :=
    fun channel member => sound.listed channel (fewer.subset member)
  have brought : ∀ channel, task = .add channel → channel < history.lines.length := by
    rintro channel rfl
    rcases goesOn with idle | same
    · cases idle
    · exact sound.brought channel same.symm
  rcases Pool.checkUsable_cases history.view { history.pool with channels, lastError } with
    ⟨some, same⟩ | ⟨none, state, ended, same⟩
  · rw [same]
    refine ⟨by simpa [change] using told, sized, room, listed, brought, ?_, ?_⟩
    · rintro _ rfl
      exact some rfl
    · exact fun state channel member => sound.unmanned state channel (fewer.subset member)
  · refine ⟨told.checkUsable history.view, ?_, ?_, ?_, brought, ?_, ?_⟩
    · simp only [change, same]
      exact sized
    · simp only [change, same]
      exact room
    · simp only [change, same]
      exact listed
    · simp only [change, same]
      rintro rfl
      rcases ended with ended | ended <;> cases ended
    · simp only [change, same]
      exact fun _ => Pool.size_eq_zero.1 none

theorem Sound.added (sound : history.Sound) {channel : ChannelId}
    (task : history.task = .add channel) {result : Pool × List PoolEvent}
    (added : history.pool.addChannel channel = some result) {watched : List ChannelId} :
    Sound ({ history with task := .look, watched }.change result) := by
  rcases history.pool.addChannel_cases channel with ⟨_, none⟩ | ⟨_, _, some, rfl, same⟩
  · cases none.symm.trans added
  obtain rfl := Option.some.inj (some.symm.trans added)
  refine ⟨?_, ?_, fun busy => absurd rfl busy, ?_, nofun, ?_, ?_⟩
  · have told : Told { history.pool with channels := history.pool.channels ++ [channel] }
        history.events := sound.told.same rfl rfl
    exact told.transition (.inl rfl)
  · simp only [change, same, List.length_append, List.length_singleton]
    exact sound.room (by rw [task]; nofun)
  · simp only [change, same]
    intro listed member
    rcases List.mem_append.1 member with old | new
    · exact sound.listed listed old
    · exact sound.brought listed (List.mem_singleton.1 new ▸ task)
  · simp [change, same]
  · simp [change, same]

theorem Sound.actLine (sound : history.Sound) (channel : ChannelId) (action : History.Action) :
    Sound (history.actLine channel action) where
  told := sound.told
  sized := sound.sized
  room := sound.room
  listed := by simpa [PoolHistory.actLine] using sound.listed
  brought := by simpa [PoolHistory.actLine] using sound.brought
  manned := sound.manned
  unmanned state listed member :=
    view_actLine history channel listed action (sound.unmanned state listed member)

theorem Sound.connected (sound : history.Sound) (task : history.task = .connect) (line : History) :
    Sound { history with
      task := .add history.lines.length
      lines := history.lines ++ [line] } where
  told := sound.told
  sized := sound.sized
  room _ := sound.room (by rw [task]; nofun)
  listed channel member := by
    have known := sound.listed channel member
    exact Nat.lt_of_lt_of_le known (by simp)
  brought := by
    rintro _ ⟨⟩
    simp
  manned := sound.manned
  unmanned state channel member := by
    rw [view_append (sound.listed channel member)]
    exact sound.unmanned state channel member

theorem Sound.closed (sound : history.Sound) :
    Sound { history with pool := history.pool.beginClose.1 } where
  told := ⟨nofun, sound.told.addressed, sound.told.alternating⟩
  sized := Nat.zero_le _
  room busy := Nat.lt_of_le_of_lt (Nat.zero_le _) (sound.room busy)
  listed := nofun
  brought := sound.brought
  manned := nofun
  unmanned := nofun

end Steps

theorem opened_sound (address : SocketAddress) (limits : PoolLimits) :
    (opened address limits).Sound where
  told := ⟨fun _ => rfl, nofun, .nil⟩
  sized := Nat.zero_le _
  room busy := absurd rfl busy
  listed := nofun
  brought := nofun
  manned := nofun
  unmanned := nofun

theorem act_sound (history : PoolHistory) (action : Action) (sound : history.Sound) :
    (history.act action).Sound := by
  cases action with
  | look =>
    simp only [act]
    split
    next wanted =>
      exact { sound with
        room := fun _ => by simpa [Pool.wantsChannel] using wanted.2.2
        brought := nofun }
    next => exact sound
  | connected now =>
    simp only [act]
    split
    next task => exact sound.connected task _
    next => exact sound
  | connectFailed reason =>
    simp only [act]
    split
    next => exact sound.checkUsable (List.Sublist.refl _) (.inl rfl)
    next => exact sound
  | add =>
    simp only [act]
    split
    next channel task =>
      cases added : history.pool.addChannel channel with
      | none =>
        have idle : Sound { history with task := .look } :=
          { sound with room := fun busy => absurd rfl busy, brought := nofun }
        exact idle.actLine channel .forceClose
      | some result => exact sound.added task added
    next => exact sound
  | notice channel =>
    simp only [act]
    split
    next =>
      unfold Pool.removeChannel
      split
      next => exact { sound with told := by simpa [change] using sound.told }
      next => exact sound.checkUsable List.filter_sublist (.inr rfl)
    next => exact sound
  | beginClose => exact sound.closed
  | line channel action => exact sound.actLine channel action

theorem run_sound (address : SocketAddress) (limits : PoolLimits) (actions : List Action) :
    ((opened address limits).run actions).Sound :=
  run_induction Sound act_sound (opened_sound address limits) actions

/-! ### What does not change -/

theorem act_events (history : PoolHistory) (action : Action) :
    history.events <+: (history.act action).events := by
  cases action with
  | look =>
    simp only [act]
    split <;> exact List.prefix_refl _
  | connected now =>
    simp only [act]
    split <;> exact List.prefix_refl _
  | connectFailed reason =>
    simp only [act]
    split
    next => exact List.prefix_append _ _
    next => exact List.prefix_refl _
  | add =>
    simp only [act]
    split
    next channel task =>
      split
      next => exact List.prefix_refl _
      next => exact List.prefix_append _ _
    next => exact List.prefix_refl _
  | notice channel =>
    simp only [act]
    split
    next => exact List.prefix_append _ _
    next => exact List.prefix_refl _
  | beginClose => exact List.prefix_refl _
  | line channel action => exact List.prefix_refl _

theorem act_configured (history : PoolHistory) (action : Action) :
    (history.act action).pool.address = history.pool.address ∧
      (history.act action).pool.limits = history.pool.limits := by
  have checked : ∀ pool : Pool, (pool.checkUsable history.view).1.address = pool.address ∧
      (pool.checkUsable history.view).1.limits = pool.limits := by
    intro pool
    rcases pool.checkUsable_cases history.view with ⟨_, same⟩ | ⟨_, _, _, same⟩
    · rw [same]
      exact ⟨rfl, rfl⟩
    · rw [same]
      exact ⟨rfl, rfl⟩
  cases action with
  | look =>
    simp only [act]
    split <;> exact ⟨rfl, rfl⟩
  | connected now =>
    simp only [act]
    split <;> exact ⟨rfl, rfl⟩
  | connectFailed reason =>
    simp only [act]
    split
    next => exact checked { history.pool with lastError := some reason }
    next => exact ⟨rfl, rfl⟩
  | add =>
    simp only [act]
    split
    next channel task =>
      rcases history.pool.addChannel_cases channel with ⟨_, none⟩ | ⟨_, _, some, _, same⟩
      · rw [none]
        exact ⟨rfl, rfl⟩
      · rw [some]
        simp only [change, same]
        exact ⟨trivial, trivial⟩
    next => exact ⟨rfl, rfl⟩
  | notice channel =>
    simp only [act, Pool.removeChannel]
    split
    next =>
      split
      next => exact ⟨rfl, rfl⟩
      next => exact checked { history.pool with channels := _ }
    next => exact ⟨rfl, rfl⟩
  | beginClose => exact ⟨rfl, rfl⟩
  | line channel action => exact ⟨rfl, rfl⟩

theorem run_configured (history : PoolHistory) (actions : List Action) :
    (history.run actions).pool.address = history.pool.address ∧
      (history.run actions).pool.limits = history.pool.limits := by
  refine run_induction (fun later => later.pool.address = history.pool.address ∧
    later.pool.limits = history.pool.limits) ?_ ⟨rfl, rfl⟩ actions
  intro later action same
  obtain ⟨address, limits⟩ := act_configured later action
  exact ⟨address.trans same.1, limits.trans same.2⟩

theorem transition_closed {pool : Pool} (closed : pool.isClosed = true) (next : PoolState) :
    pool.transition next = (pool, []) := by
  simp [Pool.transition, closed]

theorem act_closed {history : PoolHistory} (closed : history.pool.isClosed = true)
    (action : Action) : (history.act action).pool.isClosed = true ∧
      (history.act action).events = history.events := by
  -- A closed pool makes no transition, whatever its channels are like.
  have same : ∀ view lastError,
      Pool.checkUsable view { history.pool with lastError } =
        ({ history.pool with lastError }, []) := by
    intro view lastError
    unfold Pool.checkUsable
    split
    next =>
      have stillClosed : Pool.isClosed { history.pool with lastError } = true := closed
      exact transition_closed stillClosed _
    next => rfl
  cases action with
  | look =>
    simp only [act]
    split <;> exact ⟨closed, rfl⟩
  | connected now =>
    simp only [act]
    split <;> exact ⟨closed, rfl⟩
  | connectFailed reason =>
    simp only [act]
    split
    next =>
      simp only [Pool.connectFailed, same]
      exact ⟨closed, List.append_nil _⟩
    next => exact ⟨closed, rfl⟩
  | add =>
    simp only [act]
    split
    next channel task =>
      have refused : history.pool.addChannel channel = none := by
        simp [Pool.addChannel, closed]
      rw [refused]
      exact ⟨closed, rfl⟩
    next => exact ⟨closed, rfl⟩
  | notice channel =>
    simp only [act, Pool.removeChannel, closed, if_true]
    split
    next => exact ⟨closed, List.append_nil _⟩
    next => exact ⟨closed, rfl⟩
  | beginClose => exact ⟨rfl, rfl⟩
  | line channel action => exact ⟨closed, rfl⟩

theorem run_closed {history : PoolHistory} (closed : history.pool.isClosed = true)
    (actions : List Action) : (history.run actions).pool.isClosed = true ∧
      (history.run actions).events = history.events := by
  refine run_induction (fun later => later.pool.isClosed = true ∧
    later.events = history.events) ?_ ⟨closed, rfl⟩ actions
  rintro later action ⟨closed, same⟩
  obtain ⟨stillClosed, kept⟩ := act_closed closed action
  exact ⟨stillClosed, kept.trans same⟩

/-- A pool never has more connections than it should have. Its events alternate, and as long as it
is open, the last one tells its state: an open pool is ready, with a connection in service, when it
last said that it is up, it is unavailable, with no usable connection, when it last said that it is
down, and it is initializing when it has said nothing. A closed pool stays so, and is silent. -/
theorem tells_health {address : SocketAddress} {limits : PoolLimits} {actions : List Action}
    {history : PoolHistory} (reached : history = (opened address limits).run actions) :
    history.pool.channels.length ≤ limits.size ∧
      history.events.IsChain (fun earlier later => later = earlier.opposite) ∧
      (history.pool.state ≠ .closed →
        (history.pool.state = .ready ↔ history.events.getLast? = some (.up address)) ∧
        (history.pool.state = .unavailable ↔ history.events.getLast? = some (.down address)) ∧
        (history.pool.state = .initializing ↔ history.events = [])) ∧
      (history.pool.state = .ready → history.pool.channels ≠ []) ∧
      (history.pool.state = .unavailable →
        ∀ channel ∈ history.pool.channels, (history.view channel).usable = false) ∧
      (history.pool.state = .closed → ∀ actions, (history.run actions).pool.state = .closed ∧
        (history.run actions).events = history.events) := by
  subst reached
  have sound := run_sound address limits actions
  obtain ⟨sameAddress, sameLimits⟩ := run_configured (opened address limits) actions
  generalize (opened address limits).run actions = history at sound sameAddress sameLimits ⊢
  refine ⟨?_, sound.told.alternating, fun isOpen => ?_, sound.manned, sound.unmanned,
    fun closed actions => ?_⟩
  · have sized := sound.sized
    rwa [sameLimits] at sized
  · have last := sound.told.last (by simpa [Pool.isClosed] using isOpen)
    rw [← List.getLast?_eq_none_iff, last]
    cases state : history.pool.state with
    | closed => exact absurd state isOpen
    | _ => simp [Pool.lastEvent?, state, sameAddress, opened]
  · have stays := run_closed (Pool.isClosed_iff.2 closed) actions
    exact ⟨Pool.isClosed_iff.1 stays.1, stays.2⟩

def troubled : PoolHistory :=
  (opened (.v4 1 9042) ⟨2, ⟨3, 0, 5, 5, 1, 0⟩, 1, 1⟩).run
    [.look, .connected 0, .add, .look, .connected 0, .line 0 (.event 1 none (.lost "reset")), .add,
      .notice 0, .look, .line 1 (.event 1 none (.lost "reset")), .connectFailed "refused",
      .notice 1, .look, .connected 2, .add, .look, .connectFailed "refused"]

theorem troubled_tells_health :
    troubled.events = [.up (.v4 1 9042), .down (.v4 1 9042), .up (.v4 1 9042)] ∧
      troubled.pool.channels = [2] ∧ troubled.pool.channels.length ≤ 2 ∧
      troubled.pool.state = .ready ∧ (troubled.act .beginClose).pool.state = .closed := by
  obtain ⟨sized, _, last, _⟩ := @tells_health _ _ _ troubled rfl
  have told : troubled.events = [.up (.v4 1 9042), .down (.v4 1 9042), .up (.v4 1 9042)] := by
    decide
  refine ⟨told, by decide, sized, ?_, rfl⟩
  exact (last (by decide)).1.2 (by rw [told]; rfl)

end PoolHistory

end ClusterDriver
