import ClusterDriver.Proofs.Pool.Acquisition
import ClusterDriver.Proofs.Pool.Closing
import ClusterDriver.Proofs.Request.Surroundings
import ClusterDriver.Proofs.Session.Wiring

set_option autoImplicit false

namespace ClusterDriver

namespace Channel

theorem unusable_of_enqueue {channel : Channel} {command : Command}
    (unusable : channel.isUsable = false) : (channel.enqueue command).isUsable = false := by
  unfold enqueue
  split
  next => exact unusable
  next => exact unusable

theorem nextRequest_enqueue (channel : Channel) (command : Command) :
    (channel.enqueue command).nextRequest = channel.nextRequest := by
  unfold enqueue
  split <;> rfl

theorem close_refuses (channel : Channel) :
    channel.close.nextRequest = channel.nextRequest ∧ channel.close.isUsable = false := by
  unfold close
  split
  next closing => exact ⟨rfl, not_usable_of_closing closing⟩
  next => exact ⟨nextRequest_enqueue _ _, unusable_of_enqueue (not_usable_of_closing rfl)⟩

theorem forceClose_refuses (channel : Channel) :
    channel.forceClose.nextRequest = channel.nextRequest ∧ channel.forceClose.isUsable = false :=
  ⟨nextRequest_enqueue _ _, unusable_of_enqueue (not_usable_of_closing rfl)⟩

theorem react_keeps (channel : Channel) (now : Nat) (fault : Option DriverError) (event : Event) :
    (channel.react now fault event).channel.nextRequest = channel.nextRequest ∧
      (channel.isUsable = false → (channel.react now fault event).channel.isUsable = false) := by
  cases ended : channel.isClosed with
  | true =>
    rw [react, if_pos ended]
    exact ⟨rfl, fun unusable => unusable⟩
  | false =>
    refine ⟨react_nextRequest ended now fault event, fun unusable => ?_⟩
    have closing : channel.closing = true := by
      rcases isUsable_eq_false.1 unusable with closed | closing
      · cases ended.symm.trans closed
      · exact closing
    apply not_usable_of_closing
    rcases react_cases ended now fault event with same | ⟨reason, same⟩
    · rw [same, (handle_handled channel now fault event).closing]
      exact closing
    · rw [same]
      rfl

end Channel

namespace Simulation

theorem Cord.onward_change {cord : Cord} {channel : Channel}
    (sent : channel.nextRequest = cord.channel.nextRequest)
    (unusable : cord.channel.isUsable = false → channel.isUsable = false) :
    cord.Onward { cord with channel } := ⟨rfl, sent, unusable⟩

namespace Wiring

theorem Thins.connectFailed (cords : List Cord) (view : ChannelId → ChannelView)
    (pool : Pool) (reason : String) :
    Thins cords pool (pool.connectFailed view reason).1 := by
  obtain ⟨channels, _, closed⟩ := Pool.checkUsable_lists view { pool with lastError := some reason }
  refine ⟨?_, closed, ?_, ?_⟩
  · rcases Pool.checkUsable_cases view { pool with lastError := some reason } with
      ⟨_, same⟩ | ⟨_, _, _, same⟩
    · rw [Pool.connectFailed, same]
    · rw [Pool.connectFailed, same]
  · rw [Pool.connectFailed, channels]
    exact List.Subset.refl _
  · intro channel member
    rw [Pool.connectFailed, channels]
    exact .inl member

theorem Thins.removeChannel {cords : List Cord} {channel : ChannelId}
    (dead : Dead cords channel) (view : ChannelId → ChannelView) (pool : Pool) :
    Thins cords pool (pool.removeChannel view channel).1 := by
  unfold Pool.removeChannel
  split
  next => exact ⟨rfl, rfl, List.Subset.refl _, fun _ member => .inl member⟩
  next =>
    obtain ⟨channels, _, closed⟩ := Pool.checkUsable_lists view
      { pool with channels := pool.channels.filter (· ≠ channel) }
    refine ⟨?_, closed, ?_, ?_⟩
    · rcases Pool.checkUsable_cases view
        { pool with channels := pool.channels.filter (· ≠ channel) } with
        ⟨_, same⟩ | ⟨_, _, _, same⟩
      · rw [same]
      · rw [same]
    · rw [channels]
      exact List.filter_subset_self _
    · intro other member
      rw [channels]
      by_cases own : other = channel
      · exact .inr (own ▸ dead)
      · exact .inl (List.mem_filter.2 ⟨member, by simpa using own⟩)

end Wiring

namespace World

structure Rewires (before after : World) : Prop where
  moves : before.affairs.toWiring.Moves after.affairs.toWiring
  apart : after.affairs = { before.affairs with toWiring := after.affairs.toWiring }

namespace Rewires

variable {before middle after : World}

theorem refl (world : World) : world.Rewires world := ⟨.refl, rfl⟩

theorem trans (one : before.Rewires middle) (two : middle.Rewires after) :
    before.Rewires after where
  moves := Relation.ReflTransGen.trans one.moves two.moves
  apart := by
    rw [two.apart, one.apart]

theorem same (same : after.affairs = before.affairs) : before.Rewires after := by
  constructor
  · rw [same]
    exact .refl
  · rw [same]

theorem stands (rewires : before.Rewires middle) (same : after.affairs = middle.affairs) :
    before.Rewires after :=
  rewires.trans (.same same)

theorem move {wiring : Wiring} (move : before.affairs.toWiring.Move wiring)
    (same : after.affairs = { before.affairs with toWiring := wiring }) : before.Rewires after := by
  constructor
  · rw [same]
    exact .single move
  · rw [same]

theorem foldl {α : Type} {step : World → α → World}
    (each : ∀ world part, Rewires world (step world part)) (parts : List α) (world : World) :
    world.Rewires (parts.foldl step world) := by
  induction parts generalizing world with
  | nil => exact .refl world
  | cons part rest ih => exact (each world part).trans (ih (step world part))

end Rewires

theorem affairs_cord? (world : World) (id : ChannelId) :
    world.affairs.cord? id = (world.link? id).map Link.cord :=
  List.getElem?_map

theorem affairs_pool? (world : World) (id : PoolId) :
    world.affairs.pool? id = (world.pool? id).map (·.pool) :=
  List.getElem?_map

/-! ### Connections -/

theorem affairs_updateLink {change : Link → Link} (same : ∀ link, (change link).cord = link.cord)
    (world : World) (id : ChannelId) : (world.updateLink id change).affairs = world.affairs := by
  simp only [affairs, updateLink]
  rw [map_modify_of_same same]

theorem affairs_changeLink {change : Link → Link} {inner : Cord → Cord}
    (within : ∀ link, (change link).cord = inner link.cord) (world : World) (id : ChannelId) :
    (world.updateLink id change).affairs =
      { world.affairs with cords := world.affairs.cords.modify id inner } := by
  simp only [affairs, updateLink]
  rw [map_modify within]

theorem affairs_command (world : World) (id : ChannelId) (change : Channel → Channel) :
    (world.command id change).affairs = { world.affairs with
      cords := world.affairs.cords.modify id fun cord =>
        { cord with channel := change cord.channel } } := by
  simp only [command]
  rw [affairs_wakeProcess]
  exact affairs_changeLink (fun _ => rfl) world id

theorem rewires_command {change : Channel → Channel}
    (keeps : ∀ channel : Channel, (change channel).nextRequest = channel.nextRequest ∧
      (channel.isUsable = false → (change channel).isUsable = false))
    (world : World) (id : ChannelId) : world.Rewires (world.command id change) :=
  .move (.goesOn id _ fun cord _ =>
    Cord.onward_change (keeps cord.channel).1 (keeps cord.channel).2) (affairs_command world id change)

theorem rewires_abandon (world : World) (handle : Handle) :
    world.Rewires (world.abandon handle) := by
  simp only [abandon]
  split
  next =>
    have keeps (channel : Channel) :
        (channel.abandon handle.request).nextRequest = channel.nextRequest ∧
          (channel.isUsable = false → (channel.abandon handle.request).isUsable = false) :=
      ⟨Channel.nextRequest_enqueue _ _, Channel.unusable_of_enqueue⟩
    have forgotten : world.Rewires { world with
        expected := world.expected.filter fun expected => expected.handle ≠ handle } := .same rfl
    exact forgotten.trans (rewires_command keeps _ _)
  next => exact .refl world

theorem rewires_send {world later : World} {id : ChannelId} {opcode : Opcode} {body : ByteArray}
    {handle : Handle} {pool : PoolId} {service : PoolService}
    (found : world.pool? pool = some service) (listed : id ∈ service.pool.channels)
    (sent : world.send id opcode body = .ok (later, handle)) : world.Rewires later := by
  unfold send at sent
  split at sent
  next => cases sent
  next link known =>
    split at sent
    next => cases sent
    next request channel accepted =>
      cases sent
      have pooled : world.affairs.pool? pool = some service.pool := by
        rw [affairs_pool?, found]
        rfl
      have there : world.affairs.cord? id = some link.cord := by
        rw [affairs_cord?, known]
        rfl
      refine .move (.sends pooled listed there accepted) ?_
      rw [affairs_mk]
      exact affairs_command world id _

theorem rewires_apply {world : World} {id : ChannelId} {link : Link}
    (found : world.link? id = some link) (socket : SocketId) (now : Nat)
    (fault : Option DriverError) (event : Channel.Event) :
    world.Rewires (world.apply id socket (link.channel.react now fault event)) := by
  have keeps := link.channel.react_keeps now fault event
  generalize link.channel.react now fault event = reaction at keeps ⊢
  have changed : world.Rewires
      (world.updateLink id fun link => { link with channel := reaction.channel }) := by
    refine .move (.goesOn id (fun cord => { cord with channel := reaction.channel }) ?_)
      (affairs_changeLink (fun _ => rfl) world id)
    intro cord known
    rw [affairs_cord?, found] at known
    obtain rfl := Option.some.inj known
    exact Cord.onward_change keeps.1 keeps.2
  have writes (world : World) (frame : Frame) :
      (world.writeFrame socket frame).1.affairs = world.affairs := affairs_writeFrame world _ _
  have delivers (world : World) (answer : RequestId × Reply) :
      (world.deliver id answer).affairs = world.affairs := affairs_deliver world id answer
  simp only [apply]
  split
  next =>
    apply changed.stands
    rw [affairs_foldl delivers, affairs_foldl writes]
  next =>
    apply changed.stands
    rw [affairs_clearAlarms, affairs_hangUp, affairs_updateLink (fun _ => by rfl),
      affairs_foldl delivers, affairs_emit, affairs_foldl writes]

theorem nextEvent?_cord {world : World} {id : ChannelId} {link later : Link}
    {event : Channel.Event} (comes : world.nextEvent? id link = some (event, later)) :
    later.cord = link.cord := by
  unfold nextEvent? at comes
  split at comes
  next =>
    cases comes
    rfl
  next =>
    split at comes
    next =>
      cases comes
      rfl
    next =>
      cases comes
      rfl
    next =>
      split at comes
      next =>
        cases comes
        rfl
      next =>
        split at comes
        next =>
          cases comes
          rfl
        next => cases comes

theorem rewires_turnConnection (limit : Nat) (world : World) (id : ChannelId) :
    world.Rewires (turnConnection limit world id) := by
  induction limit generalizing world with
  | zero =>
    unfold turnConnection
    split
    next => exact .refl world
    next => split <;> exact .same rfl
  | succ limit ih =>
    simp only [turnConnection]
    split
    next => exact .refl world
    next link found =>
      split
      next => exact .refl world
      next =>
        split
        next => exact .same rfl
        next event later comes =>
          have own : later.cord = link.cord := nextEvent?_cord comes
          -- Taking the event out of the inbox is no change to the wiring.
          have taken : ((world.clearAlarms (.connection id)).updateLink id fun _ => later).affairs =
              world.affairs := by
            have replaced := @affairs_changeLink (fun _ => later) (fun _ => later.cord)
              (fun _ => rfl) (world.clearAlarms (.connection id)) id
            rw [replaced, affairs_clearAlarms]
            have cords : world.affairs.cords.modify id (fun _ => later.cord) =
                world.affairs.cords := by
              apply List.ext_getElem?
              intro tested
              rw [List.getElem?_modify]
              split
              next same =>
                subst same
                have there := affairs_cord? world id
                rw [found, Option.map_some, ← own] at there
                rw [show world.affairs.cords[id]? = some later.cord from there]
                rfl
              next => simp
            rw [cords]
          have held : ((world.clearAlarms (.connection id)).updateLink id fun _ => later).link? id =
              some later := by
            simp only [link?, updateLink, List.getElem?_modify, if_true]
            exact Option.map_eq_some_iff.2 ⟨link, found, rfl⟩
          exact ((Rewires.same taken).trans (rewires_apply held _ _ _ event)).trans (ih _)

@[simp]
theorem affairs_turnReader (limit : Nat) (world : World) (id : ChannelId) :
    (turnReader limit world id).affairs = world.affairs := by
  induction limit generalizing world with
  | zero => rfl
  | succ limit ih =>
    simp only [turnReader]
    split
    next => rfl
    next =>
      split
      next => rfl
      next =>
        split
        next => rw [affairs_updateLink (fun _ => by rfl), affairs_mk]
        next =>
          rw [ih, affairs_wakeProcess, affairs_updateLink (fun _ => by rfl), affairs_mk]
        next => rw [affairs_wakeProcess, affairs_updateLink (fun _ => by rfl), affairs_mk]
        next => rw [affairs_wakeProcess, affairs_updateLink (fun _ => by rfl), affairs_mk]

theorem affairs_addLink (world : World) (socket : SocketId) (limits : ChannelLimits)
    (pool : Option PoolId) :
    (world.addLink socket limits pool).1.affairs = { world.affairs with
      cords := world.affairs.cords ++ [⟨.opened limits world.now, pool⟩] } := by
  simp only [addLink]
  rw [affairs_wakeProcess, affairs_wakeProcess]
  simp [affairs, Link.cord]

theorem rewires_addLink (world : World) (socket : SocketId) (limits : ChannelLimits) :
    world.Rewires (world.addLink socket limits none).1 :=
  .move (.loose (.opened limits world.now) rfl) (affairs_addLink world socket limits none)

/-! ### Managers and watchers -/

theorem affairs_setPool {change : PoolService → PoolService} {pool : Pool}
    (becomes : ∀ service, (change service).pool = pool) (world : World) (id : PoolId) :
    (world.updatePool id change).affairs =
      { world.affairs with pools := world.affairs.pools.modify id fun _ => pool } := by
  have same : (world.pools.modify id change).map (·.pool) =
      (world.pools.map (·.pool)).modify id fun _ => pool := map_modify becomes world.pools id
  simp only [affairs, updatePool, same]

theorem affairs_changePool (world : World) (id : PoolId) (result : Pool × List PoolEvent) :
    (world.changePool id result).affairs = { world.affairs with
      pools := world.affairs.pools.modify id fun _ => result.1 } := by
  have changed : (world.updatePool id fun service => { service with pool := result.1 }).affairs =
      { world.affairs with pools := world.affairs.pools.modify id fun _ => result.1 } :=
    affairs_setPool (fun _ => by rfl) world id
  have queued : (if result.2.isEmpty then
        world.updatePool id fun service => { service with pool := result.1 }
      else { world.updatePool id fun service => { service with pool := result.1 } with
        poolEvents := world.poolEvents ++ result.2 }.wakeProcess .tracking).affairs =
      { world.affairs with pools := world.affairs.pools.modify id fun _ => result.1 } := by
    split
    next => exact changed
    next => simpa using changed
  simp only [changePool]
  split
  next => exact queued
  next =>
    rw [affairs_emit]
    exact queued

section Manager

variable {world : World} {id : PoolId} {service : PoolService}

theorem rewires_changePool {later : World} {pool : Pool} {result : Pool × List PoolEvent}
    (same : later.affairs = world.affairs) (held : world.affairs.pool? id = some pool)
    (thins : Wiring.Thins world.affairs.cords pool result.1) :
    world.Rewires (later.changePool id result) := by
  refine .move (.thins id (fun _ => result.1) ?_) ?_
  · intro known found
    obtain rfl := Option.some.inj (held.symm.trans found)
    exact thins
  · rw [affairs_changePool, same]

theorem rewires_connectFailed (held : world.affairs.pool? id = some service.pool)
    (cause : ChannelError) : world.Rewires (world.connectFailed id service cause) := by
  refine rewires_changePool ?_ held (.connectFailed _ _ _ _)
  rw [affairs_clearAlarms]
  exact affairs_updatePool (fun _ => by rfl) world id

theorem rewires_addToPool (held : world.affairs.pool? id = some service.pool)
    (socket : SocketId) : world.Rewires (world.addToPool id service socket) := by
  have opened := affairs_addLink (world.clearAlarms (.manager id)) socket
    service.pool.limits.channel (some id)
  have number : ((world.clearAlarms (.manager id)).addLink socket
      service.pool.limits.channel (some id)).2 = world.affairs.cords.length :=
    (List.length_map _).symm
  simp only [addToPool]
  generalize (world.clearAlarms (.manager id)).addLink socket
    service.pool.limits.channel (some id) = link at opened number ⊢
  have linked : (link.1.updatePool id fun service =>
      { service with schedule := service.schedule.reset, stage := .looking }).affairs =
        { world.affairs with cords := world.affairs.cords ++
          [⟨.opened service.pool.limits.channel world.now, some id⟩] } :=
    (affairs_updatePool (fun _ => by rfl) link.1 id).trans opened
  rw [number]
  rcases service.pool.addChannel_cases world.affairs.cords.length with
    ⟨_, refused⟩ | ⟨isOpen, result, added, _, same⟩
  · rw [refused]
    have useless := Channel.forceClose_refuses (.opened service.pool.limits.channel world.now)
    refine .move (.spurned _ useless.1 held useless.2) ?_
    rw [forceCloseChannel, affairs_command, linked, modify_last]
  · rw [added]
    simp only
    refine .move (.joins (.opened service.pool.limits.channel world.now) rfl held
      (by simpa [Pool.isClosed] using isOpen)) ?_
    have listed := modify_const held fun pool : Pool =>
      { pool with channels := pool.channels ++ [world.affairs.cords.length], state := .ready }
    rw [affairs_wakeProcess, affairs_changePool, linked, same, ← listed]

theorem rewires_turnManager (limit : Nat) (world : World) (id : PoolId) :
    world.Rewires (turnManager limit world id) := by
  induction limit generalizing world with
  | zero => exact .refl world
  | succ limit ih =>
    unfold turnManager
    split
    next => exact .refl world
    next service found =>
      have held : world.affairs.pool? id = some service.pool := by
        rw [affairs_pool?, found]
        rfl
      split
      next => exact .refl world
      next =>
        split
        next => exact .same (affairs_setStage world id _)
        next =>
          split
          next =>
            have asked := affairs_startConnecting world (.manager id) service.pool.address
              service.pool.limits.channel service.authenticator
            split
            next given =>
              rw [given] at asked
              rw [← asked] at held
              exact ((Rewires.same asked).trans (rewires_connectFailed held _)).trans (ih _)
            next given =>
              rw [given] at asked
              exact (Rewires.same asked).stands (affairs_setStage _ id _)
          next => exact (Rewires.same (affairs_setStage world id _)).trans (ih _)
      next =>
        split
        next =>
          refine (Rewires.same ?_).trans (ih _)
          exact affairs_updatePool (fun _ => by rfl) world id
        next => exact .refl world
      next attempt _ =>
        have tried := affairs_continueConnecting world attempt
        split
        next given =>
          rw [given] at tried
          exact (Rewires.same tried).stands (affairs_setStage _ id _)
        next given =>
          rw [given] at tried
          rw [← tried] at held
          exact ((Rewires.same tried).trans (rewires_connectFailed held _)).trans (ih _)
        next given =>
          rw [given] at tried
          rw [← tried] at held
          exact ((Rewires.same tried).trans (rewires_addToPool held _)).trans (ih _)
      next =>
        split
        next => exact (Rewires.same (affairs_setStage world id _)).trans (ih _)
        next => exact .same (affairs_setAlarm world _ _)

theorem rewires_loseChannel {channel : ChannelId} (ended : world.isClosed channel = true)
    (id : PoolId) : world.Rewires (world.loseChannel id channel) := by
  have dead : Wiring.Dead world.affairs.cords channel := by
    intro cord there
    obtain ⟨link, found, rfl⟩ :=
      Option.map_eq_some_iff.1 ((affairs_cord? world channel).symm.trans there)
    rw [isClosed, found] at ended
    exact Channel.isUsable_eq_false.2 (.inl ended)
  unfold loseChannel
  split
  next => exact .refl world
  next service found =>
    have held : world.affairs.pool? id = some service.pool := by
      rw [affairs_pool?, found]
      rfl
    split
    next => exact .refl world
    next =>
      have lost : world.Rewires
          (world.changePool id (service.pool.removeChannel world.view channel)) :=
        rewires_changePool rfl held (.removeChannel dead _ _)
      simp only
      split
      next =>
        refine (lost.stands ?_).stands (affairs_wakeProcess _ _)
        exact affairs_updatePool (fun _ => by rfl) _ id
      next => exact lost.stands (affairs_updatePool (fun _ => by rfl) _ id)

theorem rewires_turnWatcher (world : World) (channel : ChannelId) :
    world.Rewires (world.turnWatcher channel) := by
  unfold turnWatcher
  split
  next => exact .refl world
  next =>
    split
    next ended => exact rewires_loseChannel ended _
    next => exact .same (affairs_await world _ _)

end Manager

/-! ### Pools that are closed -/

theorem foldl_command {how : Channel → Channel}
    (refuses : ∀ channel : Channel, (how channel).nextRequest = channel.nextRequest ∧
      (how channel).isUsable = false) (channels : List ChannelId) (world : World) :
    ∃ cords, Cord.Runs world.affairs.cords cords ∧
      (∀ channel ∈ channels, Wiring.Dead cords channel) ∧
        (channels.foldl (fun world channel => world.command channel how) world).affairs =
          { world.affairs with cords } := by
  induction channels generalizing world with
  | nil => exact ⟨_, .refl _, nofun, rfl⟩
  | cons channel rest ih =>
    obtain ⟨cords, runs, dead, same⟩ := ih (world.command channel how)
    rw [affairs_command] at runs same
    have told : Wiring.Dead (world.affairs.cords.modify channel fun cord =>
        { cord with channel := how cord.channel }) channel := by
      intro cord there
      rw [List.getElem?_modify] at there
      obtain ⟨earlier, _, rfl⟩ := Option.map_eq_some_iff.1 there
      rw [if_pos rfl]
      exact (refuses earlier.channel).2
    refine ⟨cords, .trans (.modify fun cord _ => ?_) runs, ?_, same⟩
    · exact Cord.onward_change (refuses cord.channel).1 fun _ => (refuses cord.channel).2
    · exact List.forall_mem_cons.2 ⟨told.runs runs, dead⟩

theorem affairs_beginClosePool (world : World) (id : PoolId) :
    (world.beginClosePool id).1.affairs =
        { world.affairs with pools := Standing.stop world.affairs.pools (some id) } ∧
      ∀ pool, world.affairs.pool? id = some pool → (world.beginClosePool id).2 = pool.channels := by
  unfold beginClosePool
  split
  next missing =>
    have none : world.affairs.pool? id = none := by
      rw [affairs_pool?, missing]
      rfl
    have beyond : world.affairs.pools.length ≤ id := List.getElem?_eq_none_iff.1 none
    rw [Standing.stop, List.modify_eq_self beyond]
    refine ⟨rfl, fun pool found => ?_⟩
    cases none.symm.trans found
  next service known =>
    have held : world.affairs.pool? id = some service.pool := by
      rw [affairs_pool?, known]
      rfl
    -- Giving up an attempt to connect touches nothing but the network.
    have hungUp (socket : Option SocketId) :
        (socket.elim world world.closeSocket).affairs = world.affairs := by
      cases socket with
      | none => rfl
      | some socket => exact affairs_closeSocket world socket
    have closed {later : World} (same : later.affairs = world.affairs) :
        (((later.updatePool id fun other =>
          { other with pool := service.pool.beginClose.1, stage := .stopped }).emit
            (.poolState id)).clearAlarms (.manager id)).affairs =
          { world.affairs with pools := Standing.stop world.affairs.pools (some id) } := by
      have changed : (later.updatePool id fun other =>
          { other with pool := service.pool.beginClose.1, stage := .stopped }).affairs =
            { later.affairs with pools :=
              later.affairs.pools.modify id fun _ => service.pool.beginClose.1 } :=
        affairs_setPool (fun _ => by rfl) later id
      have stopped := modify_const held fun pool => pool.beginClose.1
      rw [affairs_clearAlarms, affairs_emit, changed, same, stopped]
      rfl
    refine ⟨?_, fun pool found => ?_⟩
    · simp only
      split
      next => exact closed (hungUp _)
      next => exact closed rfl
    · obtain rfl := Option.some.inj (held.symm.trans found)
      rfl

theorem closes_closePool (world : World) (id : PoolId) :
    ∃ cords, world.affairs.toWiring.Closes (some id) cords ∧
      (world.closePool id).1.affairs = { world.affairs with
        cords, pools := Standing.stop world.affairs.pools (some id) } := by
  obtain ⟨began, channels⟩ := affairs_beginClosePool world id
  simp only [closePool]
  generalize world.beginClosePool id = begun at began channels ⊢
  obtain ⟨cords, runs, dead, same⟩ := foldl_command Channel.close_refuses begun.2 begun.1
  rw [began] at runs same
  refine ⟨cords, ⟨runs, ?_⟩, same⟩
  rintro _ pool ⟨⟩ found
  rw [← channels pool found]
  exact dead

theorem rewires_closePool (world : World) (id : PoolId) : world.Rewires (world.closePool id).1 := by
  obtain ⟨cords, closes, same⟩ := closes_closePool world id
  exact .move (.stops closes) same

theorem rewires_forceClosePool (world : World) (id : PoolId) :
    world.Rewires (world.forceClosePool id) := by
  obtain ⟨began, _⟩ := affairs_beginClosePool world id
  simp only [forceClosePool]
  generalize world.beginClosePool id = begun at began ⊢
  split
  next missing =>
    have none : world.affairs.pool? id = none := by
      have none := affairs_pool? begun.1 id
      rw [missing, began] at none
      simpa [Wiring.pool?, Standing.stop] using none
    refine .move (.stops ⟨.refl _, ?_⟩) began
    rintro _ pool ⟨⟩ found
    cases none.symm.trans found
  next service known =>
    obtain ⟨cords, runs, dead, same⟩ :=
      foldl_command Channel.forceClose_refuses service.pool.closing begun.1
    have held : (Standing.stop world.affairs.pools (some id))[id]? = some service.pool := by
      have there := affairs_pool? begun.1 id
      rw [known, began] at there
      exact there
    rw [began] at runs same
    refine .move (.stops ⟨runs, ?_⟩) same
    rintro _ pool ⟨⟩ found channel member
    apply dead
    simp only [Standing.stop, List.getElem?_modify, if_true] at held
    obtain ⟨earlier, there, stopped⟩ := Option.map_eq_some_iff.1 held
    obtain rfl := Option.some.inj (Eq.trans (Eq.symm there) found)
    rw [← stopped]
    exact List.mem_append_right _ member

/-! ### Nodes -/

theorem affairs_retracked (world : World) (tracker : Tracker) :
    affairs { world with tracker } = { world.affairs with tracker } :=
  rfl

theorem affairs_addPool (world : World) (address : SocketAddress) (limits : PoolLimits)
    (authenticator : Option Authenticator) :
    (world.addPool address limits authenticator).1.affairs =
      { world.affairs with pools := world.affairs.pools ++ [{ address, limits }] } := by
  simp only [addPool]
  rw [affairs_wakeProcess]
  simp [affairs]

theorem rewires_poolOf (world : World) (id : NodeId) : world.Rewires (world.poolOf id).2 := by
  unfold poolOf
  split
  next => exact .refl world
  next node known =>
    split
    next => exact .refl world
    next poolable =>
      split
      next => exact .refl world
      next bare =>
        have added := affairs_addPool world node.address
          (.ofSettings world.setup.pool (node.distance = .near)) world.setup.authenticator
        have count : (world.addPool node.address
            (.ofSettings world.setup.pool (node.distance = .near))
            world.setup.authenticator).2 = world.affairs.pools.length :=
          (List.length_map _).symm
        simp only
        generalize world.addPool node.address
          (.ofSettings world.setup.pool (node.distance = .near))
          world.setup.authenticator = opened at added count ⊢
        have tracker : opened.1.tracker = world.tracker := congrArg (·.tracker) added
        refine .move (.opens (.ofSettings world.setup.pool (node.distance = .near)) known
          (by simpa using poolable) bare) ?_
        rw [count, tracker, affairs_retracked opened.1, added]
        rfl

theorem affairs_changeNodes (world : World) (tracker : Tracker) (events : List NodeEvent) :
    (world.changeNodes tracker events).affairs = { world.affairs with tracker } := by
  simp only [changeNodes]
  split
  next => rfl
  next =>
    rw [affairs_wakeAll]
    rfl

theorem rewires_changeNodes {world : World} {tracker : Tracker}
    (restated : world.tracker.Orderly → world.tracker.Restated tracker)
    (events : List NodeEvent) : world.Rewires (world.changeNodes tracker events) :=
  .move (.signals restated) (affairs_changeNodes world tracker events)

theorem rewires_turnTracking (world : World) : world.Rewires world.turnTracking := by
  unfold turnTracking
  split
  next => exact .refl world
  next =>
    have taken : Rewires world { world with poolEvents := [] } := .same rfl
    refine taken.trans (Rewires.foldl ?_ world.poolEvents _)
    intro later event
    refine Rewires.stands ?_ (affairs_emit _ _)
    exact rewires_changeNodes (fun orderly => .onPoolEvent orderly event) _

theorem rewires_openPools (world : World) (nodes : List Node) :
    world.Rewires (world.openPools nodes).1 := by
  induction nodes generalizing world with
  | nil => exact .refl world
  | cons node rest ih =>
    have opened := rewires_poolOf world node.id
    unfold openPools
    split
    next given =>
      rw [given] at opened
      exact opened.trans (ih _)
    next given =>
      rw [given] at opened
      exact opened.trans (ih _)

theorem rewires_startConnectingAll (world : World) (timeout : Nat) :
    world.Rewires (world.startConnectingAll timeout).1 :=
  rewires_openPools world _

theorem rewires_removeNode? {world later : World} {address : SocketAddress}
    {channels : List ChannelId} (removed : world.removeNode? address = some (later, channels)) :
    world.Rewires later ∧ ∃ node events,
      world.tracker.removeNode address = some (later.tracker, node, events) := by
  unfold removeNode? at removed
  split at removed
  next => cases removed
  next tracker node events gone =>
    simp only at removed
    split at removed
    next bare =>
      cases removed
      have same := affairs_changeNodes world tracker events
      have closes : world.affairs.toWiring.Closes node.pool world.affairs.cords := by
        refine ⟨.refl _, fun id pool own => ?_⟩
        rw [bare] at own
        cases own
      refine ⟨.move (.removes gone closes) ?_, node, events, ?_⟩
      · rw [same, bare]
        rfl
      · rw [gone, show (world.changeNodes tracker events).tracker = tracker from
          congrArg (·.tracker) same]
    next number own =>
      obtain ⟨cords, closes, same⟩ := closes_closePool (world.changeNodes tracker events) number
      have closed : ((world.changeNodes tracker events).closePool number).1 = later :=
        congrArg Prod.fst (Option.some.inj removed)
      rw [closed, affairs_changeNodes] at same
      rw [affairs_changeNodes] at closes
      rw [← own] at closes
      refine ⟨.move (.removes gone ⟨closes.runs, closes.dead⟩) ?_, node, events, ?_⟩
      · rw [same, own]
      · rw [gone, show later.tracker = tracker from congrArg (·.tracker) same]

/-! ### Requests -/

theorem rewires_sendVia (world : World) (pool : PoolId) (opcode : Opcode) (body : ByteArray)
    (waiter : Waker) : world.Rewires (world.sendVia pool opcode body waiter).2 := by
  unfold sendVia
  split
  next => exact .refl world
  next service found =>
    split
    next => exact .same (affairs_await world _ _)
    next => exact .refl world
    next channel acquired =>
      split
      next => exact .refl world
      next sent => exact rewires_send found (Pool.acquire?_mem acquired) sent

theorem cluster_rewires (start : World) (task : TaskId) :
    (cluster task).Keeps start.Rewires where
  plan key _ rewires := rewires.stands (affairs_makePlan _ key)
  pool node around rewires := rewires.trans (rewires_poolOf around node.id)
  send _ pool opcode body around rewires :=
    rewires.trans (rewires_sendVia around pool opcode body _)
  reply _ handle _ rewires := rewires.stands (affairs_takeReply _ handle _)
  abandon handle around rewires := rewires.trans (rewires_abandon around handle)
  count profile _ rewires := rewires.stands (affairs_countRetryCall _ profile)
  alarm _ due _ rewires := rewires.stands (affairs_setAlarm _ due _)
  dismiss _ _ rewires := rewires.stands (affairs_dismissAlarms _ _)

end World

end Simulation

end ClusterDriver
