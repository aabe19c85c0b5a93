import ClusterDriver.Proofs.Channel.Delivery
import ClusterDriver.Proofs.Pool.History

set_option autoImplicit false

namespace ClusterDriver

namespace Channel

variable {channel : Channel}

theorem available_pos : 0 < channel.available ↔
    channel.isUsable = true ∧ channel.inFlight < channel.capacity := by
  unfold available
  split
  next usable =>
    exact ⟨fun free => ⟨usable, Nat.sub_pos_iff_lt.1 free⟩,
      fun both => Nat.sub_pos_iff_lt.2 both.2⟩
  next unusable => simp [unusable]

theorem send_available (free : 0 < channel.available) (opcode : Opcode) (body : ByteArray) :
    ∃ sent, channel.send opcode body = .ok (channel.nextRequest, sent) := by
  obtain ⟨usable, room⟩ := available_pos.1 free
  obtain ⟨isOpen, closing⟩ : channel.isClosed = false ∧ channel.closing = false := by
    simpa [isUsable] using usable
  have noReason : channel.closeReason = none := by simpa [isClosed] using isOpen
  have entered : channel.checkIn = .ok { channel with inFlight := channel.inFlight + 1 } := by
    simp [checkIn, noReason, closing, reserve?, room]
  have stillOpen : Channel.isClosed { channel with inFlight := channel.inFlight + 1 } = false :=
    isOpen
  rw [send, entered]
  dsimp only
  rw [submit_open stillOpen]
  exact ⟨_, rfl⟩

end Channel

namespace History

open Channel

theorem Reached.available_eq {line : History} (reached : line.Reached)
    (usable : line.channel.isUsable = true) :
    line.channel.available = line.channel.capacity - (line.channel.ids.held.card +
      (queuedRequests line.channel.commands).length + line.entered) := by
  have isOpen : line.channel.isClosed = false := by
    simp only [isUsable, Bool.and_eq_true, Bool.not_eq_true'] at usable
    exact usable.1
  rw [available, if_pos usable, (reached.consistent isOpen).counted]

end History

namespace Pool

variable {view : ChannelId → ChannelView}

theorem freest?_none {channels : List ChannelId} :
    freest? view channels = none ↔ channels = [] := by
  cases channels with
  | nil => simp [freest?]
  | cons first rest =>
    simp only [freest?, reduceCtorEq, iff_false]
    split
    next => simp
    next => split <;> simp

theorem freest?_most {channels : List ChannelId} {chosen : ChannelId}
    (freest : freest? view channels = some chosen) : chosen ∈ channels ∧
      ∀ other ∈ channels, (view other).available ≤ (view chosen).available := by
  induction channels generalizing chosen with
  | nil => cases freest
  | cons first rest ih =>
    simp only [freest?] at freest
    split at freest
    next none =>
      cases freest
      simp [freest?_none.1 none]
    next second found =>
      -- `second` is the freest of the rest, and only has to stand up to `first`.
      obtain ⟨member, most⟩ := ih found
      split at freest
      next more =>
        cases freest
        refine ⟨List.mem_cons_self, fun other listed => ?_⟩
        rcases List.mem_cons.1 listed with rfl | later
        · exact Nat.le_refl _
        · exact Nat.le_trans (most other later) (Nat.le_of_lt more)
      next fewer =>
        cases freest
        refine ⟨List.mem_cons_of_mem _ member, fun other listed => ?_⟩
        rcases List.mem_cons.1 listed with rfl | later
        · exact Nat.le_of_not_lt fewer
        · exact most other later

/-- What a pool answers, and what there is about its connections then. -/
inductive Answers (view : ChannelId → ChannelView) (pool : Pool) :
    Except PoolError ChannelId → Prop
  | closed (closed : pool.state = .closed) : pool.Answers view (.error (.closed pool.address))
  | unavailable (isOpen : pool.state ≠ .closed)
      (none : ∀ channel ∈ pool.channels, (view channel).usable = false) :
      pool.Answers view
        (.error (.unavailable pool.address (pool.lastError.getD "no live connections")))
  | busy (isOpen : pool.state ≠ .closed)
      (some : ∃ channel ∈ pool.channels, (view channel).usable = true)
      (full : ∀ channel ∈ pool.channels, (view channel).usable = true →
        (view channel).available = 0) : pool.Answers view (.error (.busy pool.address))
  | given {chosen : ChannelId} (isOpen : pool.state ≠ .closed) (listed : chosen ∈ pool.channels)
      (usable : (view chosen).usable = true) (free : 1 ≤ (view chosen).available)
      (freest : ∀ other ∈ pool.channels, (view other).usable = true →
        (view other).available ≤ (view chosen).available) : pool.Answers view (.ok chosen)

theorem tryAcquire_answers (view : ChannelId → ChannelView) (pool : Pool) :
    pool.Answers view (pool.tryAcquire view) := by
  unfold tryAcquire
  split
  next closed => exact .closed (isClosed_iff.1 closed)
  next isOpen =>
    rw [isClosed_iff] at isOpen
    split
    next none => exact .unavailable isOpen (by simpa [usable] using freest?_none.1 none)
    next chosen found =>
      obtain ⟨member, most⟩ := freest?_most found
      obtain ⟨listed, isUsable⟩ := List.mem_filter.1 member
      have freest (other : ChannelId) (member : other ∈ pool.channels)
          (isUsable : (view other).usable = true) :
          (view other).available ≤ (view chosen).available :=
        most other (List.mem_filter.2 ⟨member, isUsable⟩)
      split
      next none =>
        refine .busy isOpen ⟨chosen, listed, isUsable⟩ fun other member isUsable => ?_
        exact Nat.le_zero.1 (none ▸ freest other member isUsable)
      next some => exact .given isOpen listed isUsable (Nat.one_le_iff_ne_zero.2 some) freest

theorem acquire?_mem {pool : Pool} {channel : ChannelId}
    (acquired : pool.acquire? view = some (.ok channel)) : channel ∈ pool.channels := by
  unfold acquire? at acquired
  split at acquired
  next => cases acquired
  next =>
    have given : pool.Answers view (.ok channel) :=
      Option.some.inj acquired ▸ pool.tryAcquire_answers view
    cases given with
    | given _ listed => exact listed

namespace Answers

variable {pool : Pool} {answer : Except PoolError ChannelId}

theorem closed_iff (answers : pool.Answers view answer) :
    answer = .error (.closed pool.address) ↔ pool.state = .closed := by
  cases answers <;> simp [*]

theorem unavailable_iff (answers : pool.Answers view answer) :
    answer = .error
        (.unavailable pool.address (pool.lastError.getD "no live connections")) ↔
      pool.state ≠ .closed ∧ ∀ channel ∈ pool.channels, (view channel).usable = false := by
  cases answers with
  | closed closed => simp [closed]
  | unavailable isOpen none => exact iff_of_true rfl ⟨isOpen, none⟩
  | busy isOpen some full =>
    obtain ⟨channel, listed, usable⟩ := some
    simpa using fun _ => ⟨channel, listed, usable⟩
  | given isOpen listed usable => simpa using fun _ => ⟨_, listed, usable⟩

theorem busy_iff (answers : pool.Answers view answer) :
    answer = .error (.busy pool.address) ↔ pool.state ≠ .closed ∧
      (∃ channel ∈ pool.channels, (view channel).usable = true) ∧
      ∀ channel ∈ pool.channels, (view channel).usable = true →
        (view channel).available = 0 := by
  cases answers with
  | closed closed => simp [closed]
  | unavailable isOpen none => simp +contextual [none]
  | busy isOpen some full => exact iff_of_true rfl ⟨isOpen, some, full⟩
  | given isOpen listed usable free =>
    refine iff_of_false nofun fun ⟨_, _, full⟩ => ?_
    exact absurd (full _ listed usable) (Nat.ne_of_gt free)

theorem given_iff (answers : pool.Answers view answer) :
    (∃ chosen, answer = .ok chosen) ↔ pool.state ≠ .closed ∧
      ∃ channel ∈ pool.channels, (view channel).usable = true ∧
        1 ≤ (view channel).available := by
  cases answers with
  | closed closed => simp [closed]
  | unavailable isOpen none => simp +contextual [none]
  | busy isOpen some full =>
    refine iff_of_false nofun fun ⟨_, channel, listed, usable, free⟩ => ?_
    exact absurd (full channel listed usable) (Nat.ne_of_gt free)
  | given isOpen listed usable free =>
    exact iff_of_true ⟨_, rfl⟩ ⟨isOpen, _, listed, usable, free⟩

end Answers

end Pool

namespace PoolHistory

variable {history : PoolHistory}

theorem actLine_reached (reached : ∀ line ∈ history.lines, line.Reached) (channel : ChannelId)
    (action : History.Action) : ∀ line ∈ (history.actLine channel action).lines, line.Reached := by
  intro line member
  obtain ⟨index, found⟩ := List.getElem?_of_mem member
  simp only [actLine, List.getElem?_modify] at found
  obtain ⟨before, known, rfl⟩ := Option.map_eq_some_iff.1 found
  have old := reached before (List.mem_of_getElem? known)
  split
  next => exact old.act action
  next => exact old

theorem act_reached (history : PoolHistory) (action : Action)
    (reached : ∀ line ∈ history.lines, line.Reached) :
    ∀ line ∈ (history.act action).lines, line.Reached := by
  cases action with
  | look =>
    simp only [act]
    split <;> exact reached
  | connected now =>
    simp only [act]
    split
    next =>
      intro line member
      rcases List.mem_append.1 member with old | new
      · exact reached line old
      · rw [List.mem_singleton.1 new]
        exact ⟨_, now, [], rfl⟩
    next => exact reached
  | connectFailed reason =>
    simp only [act]
    split <;> exact reached
  | add =>
    simp only [act]
    split
    next channel task =>
      split
      -- A connection that comes too late is closed at once.
      next => exact actLine_reached reached channel .forceClose
      next => exact reached
    next => exact reached
  | notice channel =>
    simp only [act]
    split <;> exact reached
  | beginClose => exact reached
  | line channel action => exact actLine_reached reached channel action

theorem checkUsable_left (view : ChannelId → ChannelView) (pool : Pool)
    (left : pool.state ≠ .initializing) : (pool.checkUsable view).1.state ≠ .initializing := by
  rcases pool.checkUsable_cases view with ⟨_, same⟩ | ⟨_, state, ended, same⟩
  · rwa [same]
  · rw [same]
    rcases ended with rfl | rfl <;> simp

theorem act_left (history : PoolHistory) (action : Action)
    (left : history.pool.state ≠ .initializing) :
    (history.act action).pool.state ≠ .initializing := by
  cases action with
  | look =>
    simp only [act]
    split <;> exact left
  | connected now =>
    simp only [act]
    split <;> exact left
  | connectFailed reason =>
    simp only [act]
    split
    next => exact checkUsable_left _ { history.pool with lastError := some reason } left
    next => exact left
  | add =>
    simp only [act]
    split
    next channel task =>
      rcases history.pool.addChannel_cases channel with ⟨_, none⟩ | ⟨_, _, some, _, same⟩
      · rw [none]
        exact left
      · rw [some]
        simp [change, same]
    next => exact left
  | notice channel =>
    simp only [act, Pool.removeChannel]
    split
    next =>
      split
      next => exact left
      next => exact checkUsable_left _ { history.pool with channels := _ } left
    next => exact left
  | beginClose =>
    intro same
    cases same
  | line channel action => exact left

theorem lines_reached (address : SocketAddress) (limits : PoolLimits) (actions : List Action) :
    ∀ line ∈ ((opened address limits).run actions).lines, line.Reached :=
  run_induction (fun history => ∀ line ∈ history.lines, line.Reached) act_reached
    (fun _ => List.not_mem_nil.elim) actions

theorem exists_line {channel : ChannelId} (usable : (history.view channel).usable = true) :
    ∃ line, history.lines[channel]? = some line ∧ line.channel.isUsable = true ∧
      (history.view channel).available = line.channel.available := by
  unfold view at usable ⊢
  cases found : history.lines[channel]? with
  | none =>
    rw [found] at usable
    cases usable
  | some line =>
    rw [found] at usable
    exact ⟨line, rfl, usable, rfl⟩

/-- A pool that is asked for a connection answers that it is closed if it is, else that it is
unavailable if none of its connections is usable, else that it is busy if none of those has a free
stream, and else it hands out one of those with the most, which takes a request at once. The free
streams are those that are neither in use nor promised to a request. Whoever would wait gets the
same answer once the pool has left its first state, to which it does not return, and none before. -/
theorem hands_out_freest {address : SocketAddress} {limits : PoolLimits} {actions : List Action}
    {history : PoolHistory} (reached : history = (opened address limits).run actions) :
    let answer := history.pool.tryAcquire history.view
    (answer = .error (.closed address) ↔ history.pool.state = .closed) ∧
      (answer = .error
          (.unavailable address (history.pool.lastError.getD "no live connections")) ↔
        history.pool.state ≠ .closed ∧
          ∀ channel ∈ history.pool.channels, (history.view channel).usable = false) ∧
      (answer = .error (.busy address) ↔ history.pool.state ≠ .closed ∧
        (∃ channel ∈ history.pool.channels, (history.view channel).usable = true) ∧
        ∀ channel ∈ history.pool.channels, (history.view channel).usable = true →
          (history.view channel).available = 0) ∧
      ((∃ chosen, answer = .ok chosen) ↔ history.pool.state ≠ .closed ∧
        ∃ channel ∈ history.pool.channels, (history.view channel).usable = true ∧
          1 ≤ (history.view channel).available) ∧
      (∀ chosen, answer = .ok chosen → chosen ∈ history.pool.channels ∧
        1 ≤ (history.view chosen).available ∧
        (∀ other ∈ history.pool.channels, (history.view other).usable = true →
          (history.view other).available ≤ (history.view chosen).available) ∧
        ∃ line, history.lines[chosen]? = some line ∧ line.channel.isUsable = true ∧
          (history.view chosen).available = line.channel.capacity -
            (line.channel.ids.held.card +
              (Channel.queuedRequests line.channel.commands).length + line.entered) ∧
          ∀ opcode body, ∃ request sent,
            line.channel.send opcode body = .ok (request, sent)) ∧
      (history.pool.acquire? history.view = none ↔ history.pool.state = .initializing) ∧
      (history.pool.state ≠ .initializing → ∀ more,
        (history.run more).pool.acquire? (history.run more).view =
          some ((history.run more).pool.tryAcquire (history.run more).view)) := by
  subst reached
  have sameAddress := (run_configured (opened address limits) actions).1
  have lines := lines_reached address limits actions
  generalize (opened address limits).run actions = history at sameAddress lines ⊢
  obtain rfl : history.pool.address = address := sameAddress
  have answers := history.pool.tryAcquire_answers history.view
  intro answer
  refine ⟨answers.closed_iff, answers.unavailable_iff, answers.busy_iff, answers.given_iff,
    fun chosen ok => ?_, by simp [Pool.acquire?], fun left more => ?_⟩
  · have given : history.pool.Answers history.view (.ok chosen) := ok ▸ answers
    cases given with
    | given isOpen listed usable free freest =>
      -- The line of a connection has a history of its own, whose accounts give its free streams.
      obtain ⟨line, found, lineUsable, same⟩ := exists_line usable
      have reached := lines line (List.mem_of_getElem? found)
      refine ⟨listed, free, freest, line, found, lineUsable,
        same.trans (reached.available_eq lineUsable), fun opcode body => ?_⟩
      exact ⟨_, Channel.send_available (same ▸ free) opcode body⟩
  · exact if_neg (run_induction (fun later => later.pool.state ≠ .initializing) act_left left more)

def laden : PoolHistory :=
  (opened (.v4 1 9042) ⟨2, ⟨3, 0, 5, 5, 1, 0⟩, 1, 1⟩).run
    [.look, .connected 0, .add, .look, .connected 0, .add,
      .line 1 (.send .query ByteArray.empty)]

theorem laden_hands_out_freest :
    laden.pool.tryAcquire laden.view = .ok 0 ∧ (laden.view 1).available = 2 ∧
      (laden.view 1).available ≤ (laden.view 0).available ∧
      (∃ line, laden.lines[0]? = some line ∧
        ∃ request sent, line.channel.send .query ByteArray.empty = .ok (request, sent)) ∧
      laden.pool.acquire? laden.view = some (.ok 0) := by
  have given : laden.pool.tryAcquire laden.view = .ok 0 := by decide
  obtain ⟨_, _, _, _, freest, _, answers⟩ := @hands_out_freest _ _ _ laden rfl
  obtain ⟨_, _, most, line, found, _, _, takes⟩ := freest 0 given
  have answer := answers (by decide) []
  exact ⟨given, by decide, most 1 (by decide) (by decide), ⟨line, found, takes _ _⟩,
    answer.trans (congrArg some given)⟩

end PoolHistory

end ClusterDriver
