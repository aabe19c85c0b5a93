import ClusterDriver.Proofs.Request.Custody

set_option autoImplicit false

namespace ClusterDriver

namespace Simulation

namespace World

structure Spares (before after : World) : Prop where
  links : after.links = before.links
  expected : after.expected = before.expected

theorem Spares.refl (world : World) : world.Spares world := ⟨rfl, rfl⟩

theorem Spares.trans {first second third : World} (one : first.Spares second)
    (two : second.Spares third) : first.Spares third :=
  ⟨two.links.trans one.links, two.expected.trans one.expected⟩

theorem spares_wake (world : World) (waker : Waker) : world.Spares (world.wake waker) := by
  unfold wake
  split <;> exact ⟨rfl, rfl⟩

theorem spares_await (world : World) (signal : Signal) (waker : Waker) :
    world.Spares (world.await signal waker) := by
  unfold await
  split <;> exact ⟨rfl, rfl⟩

theorem spares_foldl {α : Type} {step : World → α → World}
    (spares : ∀ (world : World) (part : α), world.Spares (step world part)) (parts : List α)
    (world : World) : world.Spares (parts.foldl step world) := by
  induction parts generalizing world with
  | nil => exact .refl world
  | cons part rest ih => exact (spares world part).trans (ih (step world part))

theorem spares_emit (world : World) (signal : Signal) : world.Spares (world.emit signal) := by
  have each (world : World) (entry : Signal × Waker) : world.Spares (world.wake entry.2) :=
    spares_wake world entry.2
  have told := spares_foldl each (world.signals.partition fun entry => entry.1 = signal).1
    { world with signals := (world.signals.partition fun entry => entry.1 = signal).2 }
  exact ⟨told.links, told.expected⟩

theorem spares_withNetwork (world : World) (result : Network × List Process) :
    world.Spares (world.withNetwork result) := by
  have each (world : World) (process : Process) : world.Spares (world.notice process) := ⟨rfl, rfl⟩
  have noticed := spares_foldl each result.2 { world with network := result.1 }
  exact ⟨noticed.links, noticed.expected⟩

theorem spares_hangUp (world : World) (socket : SocketId) :
    world.Spares (world.hangUp socket) :=
  spares_withNetwork world _

theorem spares_writeFrame (world : World) (socket : SocketId) (frame : Frame) :
    world.Spares (world.writeFrame socket frame).1 := by
  unfold writeFrame
  split
  next => exact spares_withNetwork _ _
  next => exact .refl world

theorem spares_release (world : World) (id : ChannelId) : world.Spares (world.release id) := by
  unfold release
  split
  next => exact spares_wake _ _
  next => exact .refl world

theorem spares_makePlan (world : World) (key : Option ByteArray) :
    world.Spares (world.makePlan key).2 := by
  simp only [makePlan, makePlan?]
  split <;> exact ⟨rfl, rfl⟩

theorem spares_countRetryCall (world : World) (profile : String) :
    world.Spares (world.countRetryCall profile) := by
  unfold countRetryCall
  split <;> exact ⟨rfl, rfl⟩

theorem spares_addPool (world : World) (address : SocketAddress) (limits : PoolLimits)
    (authenticator : Option Authenticator) :
    world.Spares (world.addPool address limits authenticator).1 := by
  simp only [addPool, wakeProcess]
  exact ⟨(spares_wake _ _).links, (spares_wake _ _).expected⟩

theorem spares_poolOf (world : World) (id : NodeId) : world.Spares (world.poolOf id).2 := by
  unfold poolOf
  split
  next => exact .refl world
  next =>
    split
    next => exact .refl world
    next node _ _ =>
      split
      next => exact .refl world
      next =>
        have added := spares_addPool world node.address
          (.ofSettings world.setup.pool (node.distance = .near)) world.setup.authenticator
        exact ⟨added.links, added.expected⟩

/-- The connections are as their lines have left them, and handles are kept for those who wait. -/
structure Agrees (world : World) (wires : Wires) : Prop where
  links : ∀ id link, world.link? id = some link →
    (wires.line id).history.channel = link.channel
  waiting : wires.waiting = world.expected.map (·.handle)
  issued : ∀ handle ∈ wires.waiting, wires.Issued handle
  told : ∀ expected ∈ world.expected, ∀ reply, expected.reply = some reply →
    (expected.handle.request, reply) ∈ (wires.lineOf expected.handle).history.completed

theorem Agrees.spared {world later : World} {wires : Wires} (agrees : world.Agrees wires)
    (spares : world.Spares later) : later.Agrees wires where
  links id link found := by
    rw [link?, spares.links] at found
    exact agrees.links id link found
  waiting := by rw [spares.expected, agrees.waiting]
  issued := agrees.issued
  told := by
    rw [spares.expected]
    exact agrees.told

theorem Agrees.acts {world later : World} {wires : Wires} (agrees : world.Agrees wires)
    {id : ChannelId} {action : History.Action} {change : Link → Link}
    (links : later.links = world.links.modify id change)
    (same : later.expected = world.expected)
    (acts : ∀ link, world.link? id = some link →
      ((wires.line id).history.act action).channel = (change link).channel) :
    later.Agrees (wires.act id action) where
  links other link found := by
    rw [link?, links, List.getElem?_modify, Option.map_eq_map, Option.map_eq_some_iff] at found
    obtain ⟨before, known, rfl⟩ := found
    by_cases own : id = other
    · subst own
      simp only [Wires.act, Function.update_self, Line.history_act, if_true]
      exact acts before known
    · simp only [Wires.act, Function.update_of_ne (Ne.symm own), own, if_false]
      exact agrees.links other before known
  waiting := by
    rw [same]
    exact agrees.waiting
  issued handle waits := (wires.act_lines id action handle.channel).issued (agrees.issued handle waits)
  told expected member reply given := by
    rw [same] at member
    exact (wires.act_lines id action expected.handle.channel).completed
      (agrees.told expected member reply given)

theorem Agrees.commands {world : World} {wires : Wires} (agrees : world.Agrees wires)
    {id : ChannelId} {action : History.Action} {change : Channel → Channel}
    (acts : ∀ link, world.link? id = some link →
      ((wires.line id).history.act action).channel = change link.channel) :
    (world.command id change).Agrees (wires.act id action) := by
  have changed : (world.updateLink id fun link => { link with channel := change link.channel }).Agrees
      (wires.act id action) := agrees.acts rfl rfl acts
  exact changed.spared (spares_wake _ _)

theorem Agrees.gains {world : World} {wires : Wires} (agrees : world.Agrees wires)
    {handle : Handle} (issued : wires.Issued handle) (sent : List Handle) :
    Agrees { world with expected := world.expected ++ [{ handle }] }
      { wires with waiting := wires.waiting ++ [handle], sent } where
  links := agrees.links
  waiting := by simp [agrees.waiting]
  issued := List.forall_mem_append.2 ⟨agrees.issued, List.forall_mem_singleton.2 issued⟩
  told := List.forall_mem_append.2 ⟨agrees.told, List.forall_mem_singleton.2 nofun⟩

theorem Agrees.drops {world : World} {wires : Wires} (agrees : world.Agrees wires)
    (handle : Handle) :
    Agrees { world with expected := world.expected.filter fun other => other.handle ≠ handle }
      (wires.drop handle) where
  links := agrees.links
  waiting := by
    simp only [Wires.drop, agrees.waiting, List.filter_map]
    rfl
  issued other waits := agrees.issued other (List.mem_of_mem_filter waits)
  told other member := agrees.told other (List.mem_of_mem_filter member)

theorem Agrees.updates {world : World} {wires : Wires} (agrees : world.Agrees wires)
    {change : ExpectedReply → ExpectedReply} (same : ∀ other, (change other).handle = other.handle)
    (told : ∀ other ∈ world.expected, ∀ reply, (change other).reply = some reply →
      other.reply = some reply ∨
        (other.handle.request, reply) ∈ (wires.lineOf other.handle).history.completed) :
    Agrees { world with expected := world.expected.map change } wires where
  links := agrees.links
  waiting := by
    simp only [agrees.waiting, List.map_map]
    exact List.map_congr_left fun other _ => (same other).symm
  issued := agrees.issued
  told := by
    intro changed member reply given
    obtain ⟨other, known, rfl⟩ := List.mem_map.1 member
    rw [same]
    exact (told other known reply given).elim (agrees.told other known reply) id

theorem Agrees.expects {world : World} {wires : Wires} (agrees : world.Agrees wires)
    (handle : Handle) :
    (world.expected.any fun expected => expected.handle = handle) = decide (handle ∈ wires.waiting) := by
  rw [agrees.waiting, Bool.eq_iff_iff, decide_eq_true_eq, List.any_eq_true, List.mem_map]
  simp

theorem Agrees.sends {world later : World} {wires : Wires} (agrees : world.Agrees wires)
    {id : ChannelId} {opcode : Opcode} {body : ByteArray} {handle : Handle}
    (sent : world.send id opcode body = .ok (later, handle)) :
    later.Agrees (wires.afterSend opcode body (some (.ok handle))) ∧
      ∃ channel, (wires.lineOf handle).history.channel.send opcode body =
        .ok (handle.request, channel) := by
  unfold send at sent
  split at sent
  next => cases sent
  next link found =>
    split at sent
    next => cases sent
    next request channel accepted =>
      cases sent
      rw [← agrees.links id link found] at accepted
      have acts : ∀ known, world.link? id = some known →
          ((wires.line id).history.act (.send opcode body)).channel = channel := by
        intro known _
        simp [History.act, accepted, History.issue]
      have queued : (world.command id fun _ => channel).Agrees (wires.act id (.send opcode body)) :=
        agrees.commands acts
      have given : ∃ channel, (wires.lineOf ⟨id, request⟩).history.channel.send opcode body =
          .ok (request, channel) := ⟨channel, accepted⟩
      exact ⟨queued.gains (Wires.issued_afterSend given) _, given⟩

theorem Agrees.sendVia {world : World} {wires : Wires} (agrees : world.Agrees wires)
    (pool : PoolId) (opcode : Opcode) (body : ByteArray) (waiter : Waker) :
    (world.sendVia pool opcode body waiter).2.Agrees
        (wires.afterSend opcode body (world.sendVia pool opcode body waiter).1) ∧
      ∀ handle, (world.sendVia pool opcode body waiter).1 = some (.ok handle) →
        ∃ channel, (wires.lineOf handle).history.channel.send opcode body =
          .ok (handle.request, channel) := by
  unfold World.sendVia
  split
  next => exact ⟨agrees, nofun⟩
  next =>
    split
    next => exact ⟨agrees.spared (spares_await _ _ _), nofun⟩
    next => exact ⟨agrees, nofun⟩
    next =>
      split
      next => exact ⟨agrees, nofun⟩
      next sent =>
        obtain ⟨still, accepted⟩ := agrees.sends sent
        refine ⟨still, ?_⟩
        rintro _ ⟨⟩
        exact accepted

theorem Agrees.takeReply {world : World} {wires : Wires} (agrees : world.Agrees wires)
    (handle : Handle) (waiter : Waker) :
    (world.takeReply handle waiter).2.Agrees
        (wires.afterReply handle (world.takeReply handle waiter).1) ∧
      ∀ reply, (world.takeReply handle waiter).1 = some reply →
        (handle.request, reply) ∈ (wires.lineOf handle).history.completed := by
  unfold World.takeReply
  split
  next => exact ⟨agrees, nofun⟩
  next expected found =>
    split
    next reply given =>
      have own : expected.handle = handle := by simpa using List.find?_some found
      refine ⟨(agrees.drops handle).spared (spares_release _ _), ?_⟩
      rintro _ ⟨⟩
      have told := agrees.told expected (List.mem_of_find?_eq_some found) reply given
      rwa [own] at told
    next =>
      refine ⟨agrees.updates ?_ ?_, nofun⟩
      · intro other
        split <;> rfl
      · intro other _ reply given
        split at given <;> exact .inl given

theorem Agrees.abandon {world : World} {wires : Wires} (agrees : world.Agrees wires)
    (handle : Handle) : (world.abandon handle).Agrees (wires.abandon handle) := by
  unfold World.abandon Wires.abandon
  rw [agrees.expects]
  by_cases waits : handle ∈ wires.waiting
  · have issued := agrees.issued handle waits
    simp only [waits, decide_true, if_true]
    refine (agrees.drops handle).commands fun link found => ?_
    have same := agrees.links handle.channel link found
    rw [← same]
    exact History.act_abandon_channel issued
  · simp only [waits, decide_false, if_false]
    exact agrees

theorem Agrees.delivers {world : World} {wires : Wires} (agrees : world.Agrees wires)
    {id : ChannelId} {answer : RequestId × Reply}
    (told : answer ∈ (wires.line id).history.completed) :
    (world.deliver id answer).Agrees wires := by
  unfold deliver
  simp only
  split
  next => exact agrees
  next =>
    have delivered : Agrees { world with
        expected := world.expected.map fun other =>
          if other.handle = ⟨id, answer.1⟩ then { other with reply := some answer.2 }
          else other } wires := by
      refine agrees.updates ?_ ?_
      · intro other
        split <;> rfl
      · intro other _ reply given
        split at given
        next own =>
          cases given
          rw [own]
          exact .inr told
        next => exact .inl given
    split
    next => exact delivered.spared (spares_wake _ _)
    next => exact delivered

theorem Agrees.deliversAll {wires : Wires} {id : ChannelId} {answers : List (RequestId × Reply)}
    (told : ∀ answer ∈ answers, answer ∈ (wires.line id).history.completed) {world : World}
    (agrees : world.Agrees wires) :
    (answers.foldl (fun world answer => world.deliver id answer) world).Agrees wires := by
  induction answers generalizing world with
  | nil => exact agrees
  | cons answer rest ih =>
    obtain ⟨first, others⟩ := List.forall_mem_cons.1 told
    exact ih others (agrees.delivers first)

theorem Agrees.relinks {world : World} {wires : Wires} (agrees : world.Agrees wires)
    (id : ChannelId) (change : Link → Link)
    (same : ∀ link, world.link? id = some link → (change link).channel = link.channel) :
    (world.updateLink id change).Agrees wires where
  links other link found := by
    simp only [link?, updateLink, List.getElem?_modify, Option.map_eq_map,
      Option.map_eq_some_iff] at found
    obtain ⟨before, known, rfl⟩ := found
    rw [agrees.links other before known]
    split
    next own =>
      subst own
      exact (same before known).symm
    next => rfl
  waiting := agrees.waiting
  issued := agrees.issued
  told := agrees.told

theorem Agrees.applies {world : World} {wires : Wires} (agrees : world.Agrees wires)
    {id : ChannelId} {link : Link} (found : world.link? id = some link) (now : Nat)
    (fault : Option DriverError) (event : Channel.Event) (socket : SocketId) :
    (world.apply id socket (link.channel.react now fault event)).Agrees
      (wires.act id (.event now fault event)) := by
  have same := agrees.links id link found
  generalize reacts : link.channel.react now fault event = reaction
  have changed : (world.updateLink id fun link => { link with channel := reaction.channel }).Agrees
      (wires.act id (.event now fault event)) := by
    refine agrees.acts rfl rfl fun known _ => ?_
    simp only [History.act, same, reacts]
  have told : ∀ answer ∈ reaction.replies,
      answer ∈ ((wires.act id (.event now fault event)).line id).history.completed := by
    intro answer member
    simp only [Wires.act, Function.update_self, Line.history_act, History.act, same, reacts]
    exact List.mem_append_right _ member
  have each (world : World) (frame : Frame) : world.Spares (world.writeFrame socket frame).1 :=
    spares_writeFrame world socket frame
  have written := changed.spared (spares_foldl each reaction.frames _)
  simp only [apply]
  split
  next => exact written.deliversAll told
  next =>
    have delivered := (written.spared (spares_emit _ (.channelClosed id))).deliversAll told
    have stopped := delivered.relinks id
      (fun link => { link with reading := false, inbound := [] }) fun _ _ => rfl
    have hungUp := stopped.spared (spares_hangUp _ socket)
    exact hungUp.spared ⟨rfl, rfl⟩

theorem nextEvent?_channel {world : World} {id : ChannelId} {link next : Link}
    {event : Channel.Event} (happens : world.nextEvent? id link = some (event, next)) :
    next.channel = link.channel := by
  unfold nextEvent? at happens
  split at happens
  next =>
    cases happens
    rfl
  next =>
    split at happens
    next =>
      cases happens
      rfl
    next =>
      cases happens
      rfl
    next =>
      split at happens
      next =>
        cases happens
        rfl
      next =>
        split at happens
        next =>
          cases happens
          rfl
        next => cases happens

theorem Agrees.turns {world : World} {wires : Wires} (agrees : world.Agrees wires)
    (id : ChannelId) (mine : Handle → Prop) (limit : Nat) :
    ∃ later, (turnConnection limit world id).Agrees later ∧ wires.Onward mine later := by
  induction limit generalizing world wires with
  | zero =>
    unfold turnConnection
    refine ⟨wires, ?_, .refl mine wires⟩
    split
    next => exact agrees
    next => split <;> exact agrees.spared ⟨rfl, rfl⟩
  | succ limit ih =>
    unfold turnConnection
    split
    next => exact ⟨wires, agrees, .refl mine wires⟩
    next link found =>
      split
      next => exact ⟨wires, agrees, .refl mine wires⟩
      next =>
        split
        next => exact ⟨wires, agrees.spared ⟨rfl, rfl⟩, .refl mine wires⟩
        next event next happens =>
          -- Taking a message out of the inbox does not touch the state of the connection.
          have kept := nextEvent?_channel happens
          have calm : (world.clearAlarms (.connection id)).Agrees wires := agrees.spared ⟨rfl, rfl⟩
          have relinked : ((world.clearAlarms (.connection id)).updateLink id fun _ => next).Agrees
              wires := by
            refine calm.relinks id _ fun known there => ?_
            obtain rfl := Option.some.inj (found.symm.trans there)
            exact kept
          have there : ((world.clearAlarms (.connection id)).updateLink id fun _ => next).link? id =
              some next := by
            have found : world.links[id]? = some link := found
            simp [link?, updateLink, clearAlarms, found]
          obtain ⟨later, agrees, onward⟩ := ih (relinked.applies there _ _ event next.socket)
          exact ⟨later, agrees, (Wires.Onward.act mine wires id _).trans onward⟩

end World

structure Chronicle where
  world : World
  wires : Wires
  agrees : world.Agrees wires

namespace Chronicle

/-- The surroundings of a request in the world, with a record of what it does with connections. -/
def cluster (task : TaskId) : Cluster Chronicle where
  now chronicle := chronicle.world.now
  plan key chronicle :=
    let turn := (World.cluster task).plan key chronicle.world
    (turn.1, ⟨turn.2, chronicle.wires, chronicle.agrees.spared (World.spares_makePlan _ _)⟩)
  pool node chronicle :=
    let turn := (World.cluster task).pool node chronicle.world
    (turn.1, ⟨turn.2, chronicle.wires, chronicle.agrees.spared (World.spares_poolOf _ _)⟩)
  send? execution pool opcode body chronicle :=
    let turn := (World.cluster task).send? execution pool opcode body chronicle.world
    (turn.1, ⟨turn.2, chronicle.wires.afterSend opcode body turn.1,
      (chronicle.agrees.sendVia pool opcode body _).1⟩)
  reply? execution handle chronicle :=
    let turn := (World.cluster task).reply? execution handle chronicle.world
    (turn.1, ⟨turn.2, chronicle.wires.afterReply handle turn.1,
      (chronicle.agrees.takeReply handle _).1⟩)
  abandon handle chronicle :=
    ⟨(World.cluster task).abandon handle chronicle.world, chronicle.wires.abandon handle,
      chronicle.agrees.abandon handle⟩
  retryCalls profile chronicle := (World.cluster task).retryCalls profile chronicle.world
  countRetryCall profile chronicle :=
    ⟨(World.cluster task).countRetryCall profile chronicle.world, chronicle.wires,
      chronicle.agrees.spared (World.spares_countRetryCall _ _)⟩
  alarm execution due chronicle :=
    ⟨(World.cluster task).alarm execution due chronicle.world, chronicle.wires,
      chronicle.agrees.spared ⟨rfl, rfl⟩⟩
  dismissAlarms execution chronicle :=
    ⟨(World.cluster task).dismissAlarms execution chronicle.world, chronicle.wires,
      chronicle.agrees.spared ⟨rfl, rfl⟩⟩

/-- What a request does in a simulated cluster, it does with connections that behave as such. -/
theorem cluster_wired (task : TaskId) : (cluster task).Wired (·.wires) where
  plan _ _ := rfl
  pool _ _ := rfl
  countRetryCall _ _ := rfl
  alarm _ _ _ := rfl
  dismissAlarms _ _ := rfl
  send _ _ _ _ _ := rfl
  accepted execution pool opcode body chronicle handle given :=
    (chronicle.agrees.sendVia pool opcode body ⟨.request task, some execution⟩).2 handle given
  reply _ _ _ := rfl
  told execution handle chronicle reply given :=
    (chronicle.agrees.takeReply handle ⟨.request task, some execution⟩).2 reply given
  abandon _ _ := rfl

theorem connection_turns (chronicle : Chronicle) (id : ChannelId) (mine : Handle → Prop)
    (limit : Nat) :
    ∃ later : Chronicle, later.world = World.turnConnection limit chronicle.world id ∧
      chronicle.wires.Onward mine later.wires := by
  obtain ⟨wires, agrees, onward⟩ := chronicle.agrees.turns id mine limit
  exact ⟨⟨_, wires, agrees⟩, rfl, onward⟩

end Chronicle

end Simulation

end ClusterDriver
