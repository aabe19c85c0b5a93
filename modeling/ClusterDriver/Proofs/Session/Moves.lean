import ClusterDriver.Proofs.Pool.Closing
import ClusterDriver.Proofs.Request.Surroundings
import ClusterDriver.Proofs.Session.Bystanders

set_option autoImplicit false

namespace ClusterDriver

namespace Pool

theorem connectFailed_isClosed (view : ChannelId → ChannelView) (pool : Pool) (reason : String) :
    (pool.connectFailed view reason).1.isClosed = pool.isClosed :=
  (checkUsable_lists view { pool with lastError := some reason }).2.2

theorem removeChannel_isClosed (view : ChannelId → ChannelView) (pool : Pool)
    (channel : ChannelId) : (pool.removeChannel view channel).1.isClosed = pool.isClosed := by
  unfold removeChannel
  split
  next => rfl
  next => exact (checkUsable_lists view _).2.2

theorem addChannel_isClosed {pool : Pool} {channel : ChannelId} {result : Pool × List PoolEvent}
    (added : pool.addChannel channel = some result) : pool.isClosed = false := by
  rcases pool.addChannel_cases channel with ⟨_, none⟩ | ⟨isOpen, _⟩
  · cases none.symm.trans added
  · simpa [isClosed] using isOpen

end Pool

namespace Simulation.World

/-- One world may become the other, as far as pools, nodes and a shutdown are concerned. -/
def Leads (before after : World) : Prop := Standing.Moves before.standing after.standing

namespace Leads

variable {before middle after : World}

theorem refl (world : World) : world.Leads world := Relation.ReflTransGen.refl

theorem trans (one : before.Leads middle) (two : middle.Leads after) : before.Leads after :=
  Relation.ReflTransGen.trans one two

theorem same (same : after.standing = before.standing) : before.Leads after := by
  unfold Leads
  rw [same]
  exact .refl

theorem stands (leads : before.Leads middle) (same : after.standing = middle.standing) :
    before.Leads after :=
  leads.trans (.same same)

theorem move (move : Standing.Move before.standing after.standing) : before.Leads after :=
  .single move

theorem foldl {α : Type} {step : World → α → World}
    (each : ∀ world part, Leads world (step world part)) (parts : List α) (world : World) :
    world.Leads (parts.foldl step world) := by
  induction parts generalizing world with
  | nil => exact .refl world
  | cons part rest ih => exact (each world part).trans (ih (step world part))

end Leads

theorem standing_pool? (world : World) (id : PoolId) :
    world.standing.pools[id]? = (world.pool? id).map (·.pool) :=
  List.getElem?_map

theorem standing_changePool (world : World) (id : PoolId) (result : Pool × List PoolEvent) :
    (world.changePool id result).standing =
      { world.standing with pools := world.standing.pools.modify id fun _ => result.1 } := by
  have changed : (world.updatePool id fun service => { service with pool := result.1 }).standing =
      { world.standing with pools := world.standing.pools.modify id fun _ => result.1 } :=
    standing_modifyPool (fun _ => rfl) world id
  have queued : (if result.2.isEmpty then
        world.updatePool id fun service => { service with pool := result.1 }
      else { world.updatePool id fun service => { service with pool := result.1 } with
        poolEvents := world.poolEvents ++ result.2 }.wakeProcess .tracking).standing =
      { world.standing with pools := world.standing.pools.modify id fun _ => result.1 } := by
    split
    next => exact changed
    next => simpa using changed
  simp only [changePool]
  split
  next => exact queued
  next =>
    rw [standing_emit]
    exact queued

section Manager

variable {world : World} {id : PoolId} {service : PoolService}

theorem leads_changePool {later : World} {pool : Pool} {result : Pool × List PoolEvent}
    (same : later.standing = world.standing) (held : world.standing.pools[id]? = some pool)
    (stays : pool.isClosed = true → result.1.isClosed = true) :
    world.Leads (later.changePool id result) := by
  refine (Leads.same same).trans (.move ?_)
  rw [standing_changePool]
  apply Standing.Move.pool
  intro known found closed
  rw [same, held] at found
  exact stays (Option.some.inj found ▸ closed)

theorem leads_connectFailed (held : world.standing.pools[id]? = some service.pool)
    (cause : ChannelError) : world.Leads (world.connectFailed id service cause) := by
  apply leads_changePool _ held
  · rw [Pool.connectFailed_isClosed]
    exact fun closed => closed
  · rw [standing_clearAlarms]
    exact standing_updatePool (fun _ => by rfl) world id

theorem leads_addToPool (held : world.standing.pools[id]? = some service.pool)
    (socket : SocketId) : world.Leads (world.addToPool id service socket) := by
  simp only [addToPool]
  generalize opened : (world.clearAlarms (.manager id)).addLink socket
    service.pool.limits.channel (some id) = link
  have linked : link.1.standing = world.standing := by
    rw [← opened, standing_addLink, standing_clearAlarms]
  split
  next =>
    apply Leads.same
    rw [standing_forceCloseChannel, ← linked]
    exact standing_updatePool (fun _ => by rfl) link.1 id
  next added =>
    refine Leads.stands ?_ (standing_wakeProcess _ _)
    apply leads_changePool _ held
    · intro closed
      rw [Pool.addChannel_isClosed added] at closed
      cases closed
    · rw [← linked]
      exact standing_updatePool (fun _ => by rfl) link.1 id

theorem leads_turnManager (limit : Nat) (world : World) (id : PoolId) :
    world.Leads (turnManager limit world id) := by
  induction limit generalizing world with
  | zero => exact .refl world
  | succ limit ih =>
    unfold turnManager
    split
    next => exact .refl world
    next service found =>
      have held : world.standing.pools[id]? = some service.pool := by
        rw [standing_pool?, found]
        rfl
      split
      next => exact .refl world
      next =>
        split
        next => exact .same (standing_setStage world id _)
        next =>
          split
          next =>
            have asked := standing_startConnecting world (.manager id) service.pool.address
              service.pool.limits.channel service.authenticator
            split
            next given =>
              rw [given] at asked
              rw [← asked] at held
              exact ((Leads.same asked).trans (leads_connectFailed held _)).trans (ih _)
            next given =>
              rw [given] at asked
              exact (Leads.same asked).stands (standing_setStage _ id _)
          next => exact (Leads.same (standing_setStage world id _)).trans (ih _)
      next =>
        split
        next =>
          refine (Leads.same ?_).trans (ih _)
          exact standing_updatePool (fun _ => by rfl) world id
        next => exact .refl world
      next attempt _ =>
        have tried := standing_continueConnecting world attempt
        split
        next given =>
          rw [given] at tried
          exact (Leads.same tried).stands (standing_setStage _ id _)
        next given =>
          rw [given] at tried
          rw [← tried] at held
          exact ((Leads.same tried).trans (leads_connectFailed held _)).trans (ih _)
        next given =>
          rw [given] at tried
          rw [← tried] at held
          exact ((Leads.same tried).trans (leads_addToPool held _)).trans (ih _)
      next =>
        split
        next => exact (Leads.same (standing_setStage world id _)).trans (ih _)
        next => exact .same (standing_setAlarm world _ _)

theorem leads_loseChannel (world : World) (id : PoolId) (channel : ChannelId) :
    world.Leads (world.loseChannel id channel) := by
  unfold loseChannel
  split
  next => exact .refl world
  next service found =>
    have held : world.standing.pools[id]? = some service.pool := by
      rw [standing_pool?, found]
      rfl
    split
    next => exact .refl world
    next =>
      have lost : world.Leads
          (world.changePool id (service.pool.removeChannel world.view channel)) := by
        apply leads_changePool rfl held
        rw [Pool.removeChannel_isClosed]
        exact fun closed => closed
      simp only
      split
      next =>
        refine (lost.stands ?_).stands (standing_wakeProcess _ _)
        exact standing_updatePool (fun _ => by rfl) _ id
      next => exact lost.stands (standing_updatePool (fun _ => by rfl) _ id)

theorem leads_turnWatcher (world : World) (channel : ChannelId) :
    world.Leads (world.turnWatcher channel) := by
  unfold turnWatcher
  split
  next => exact .refl world
  next =>
    split
    next => exact leads_loseChannel world _ channel
    next => exact .same (standing_await world _ _)

end Manager

structure Stops (before after : World) : Prop where
  leads : before.Leads after
  closing : after.closing = before.closing
  finished : ∀ id, before.standing.Over id → after.standing.Over id

namespace Stops

variable {before middle after : World}

theorem same (same : after.standing = before.standing) : before.Stops after where
  leads := .same same
  closing := congrArg Standing.closing same
  finished id finished := by rwa [same]

theorem trans (one : before.Stops middle) (two : middle.Stops after) : before.Stops after where
  leads := one.leads.trans two.leads
  closing := two.closing.trans one.closing
  finished id finished := two.finished id (one.finished id finished)

theorem stop {id : PoolId} (same : after.standing =
    { before.standing with pools := Standing.stop before.standing.pools (some id) }) :
    before.Stops after where
  leads := by
    apply Leads.move
    rw [same]
    exact .pool id _ fun _ _ _ => rfl
  closing := congrArg Standing.closing same
  finished other finished := by
    rw [same]
    exact Standing.over_stop finished

end Stops

theorem standing_beginClosePool (world : World) (id : PoolId) :
    (world.beginClosePool id).1.standing =
      { world.standing with pools := Standing.stop world.standing.pools (some id) } := by
  unfold beginClosePool
  split
  next missing =>
    have beyond : world.standing.pools.length ≤ id := by
      rw [← List.getElem?_eq_none_iff, standing_pool?, missing]
      rfl
    rw [Standing.stop, List.modify_eq_self beyond]
  next service found =>
    have held : world.standing.pools[id]? = some service.pool := by
      rw [standing_pool?, found]
      rfl
    have hungUp (socket : Option SocketId) :
        (socket.elim world world.closeSocket).standing = world.standing := by
      cases socket with
      | none => rfl
      | some socket => exact standing_closeSocket world socket
    have changed (later : World) : (later.updatePool id fun other =>
        { other with pool := service.pool.beginClose.1, stage := .stopped }).standing =
          { later.standing with pools :=
            later.standing.pools.modify id fun _ => service.pool.beginClose.1 } :=
      standing_modifyPool (fun _ => by rfl) later id
    have closed {later : World} (same : later.standing = world.standing) :
        (((later.updatePool id fun other =>
          { other with pool := service.pool.beginClose.1, stage := .stopped }).emit
            (.poolState id)).clearAlarms (.manager id)).standing =
          { world.standing with pools := Standing.stop world.standing.pools (some id) } := by
      have stopped := modify_const held fun pool => pool.beginClose.1
      rw [standing_clearAlarms, standing_emit, changed, same, stopped]
      rfl
    simp only
    split
    next => exact closed (hungUp _)
    next => exact closed rfl

theorem standing_closePool (world : World) (id : PoolId) :
    (world.closePool id).1.standing =
      { world.standing with pools := Standing.stop world.standing.pools (some id) } := by
  simp only [closePool]
  rw [standing_foldl standing_closeChannel, standing_beginClosePool]

theorem standing_forceClosePool (world : World) (id : PoolId) :
    (world.forceClosePool id).standing =
      { world.standing with pools := Standing.stop world.standing.pools (some id) } := by
  simp only [forceClosePool]
  split
  next => exact standing_beginClosePool world id
  next => rw [standing_foldl standing_forceCloseChannel, standing_beginClosePool]

theorem over_closePool (world : World) (id : PoolId) :
    (world.closePool id).1.standing.Over id := by
  rw [standing_closePool]
  exact Standing.over_stopped _ _ id

theorem stops_forceClosePools (world : World) (ids : List PoolId) :
    world.Stops (ids.foldl forceClosePool world) ∧
      ∀ id ∈ ids, (ids.foldl forceClosePool world).standing.Over id := by
  induction ids generalizing world with
  | nil => exact ⟨.same rfl, nofun⟩
  | cons id rest ih =>
    obtain ⟨stops, finished⟩ := ih (world.forceClosePool id)
    have first : world.Stops (world.forceClosePool id) := .stop (standing_forceClosePool world id)
    refine ⟨first.trans stops, List.forall_mem_cons.2 ⟨stops.finished id ?_, finished⟩⟩
    rw [standing_forceClosePool]
    exact Standing.over_stopped _ _ id

theorem standing_retracked (world : World) (tracker : Tracker) :
    standing { world with tracker } = { world.standing with tracker } :=
  rfl

theorem standing_addPool (world : World) (address : SocketAddress) (limits : PoolLimits)
    (authenticator : Option Authenticator) :
    (world.addPool address limits authenticator).1.standing =
      { world.standing with pools := world.standing.pools ++ [{ address, limits }] } := by
  simp only [addPool]
  rw [standing_wakeProcess]
  simp [standing]

theorem leads_poolOf (world : World) (id : NodeId) : world.Leads (world.poolOf id).2 := by
  unfold poolOf
  split
  next => exact .refl world
  next node known =>
    split
    next => exact .refl world
    next poolable =>
      split
      next => exact .refl world
      next bare =>
        have present : node.state ≠ .removed := by
          rintro gone
          simp [Node.isPoolable, gone] at poolable
        have added := standing_addPool world node.address
          (.ofSettings world.setup.pool (node.distance = .near)) world.setup.authenticator
        have count : (world.addPool node.address
            (.ofSettings world.setup.pool (node.distance = .near))
            world.setup.authenticator).2 = world.standing.pools.length :=
          (List.length_map _).symm
        simp only
        generalize world.addPool node.address
          (.ofSettings world.setup.pool (node.distance = .near))
          world.setup.authenticator = opened at added count ⊢
        have tracker : opened.1.tracker = world.standing.tracker := congrArg Standing.tracker added
        apply Leads.move
        rw [standing_retracked opened.1, added, tracker, count]
        exact .opens id node _ known present bare

theorem standing_changeNodes (world : World) (tracker : Tracker) (events : List NodeEvent) :
    (world.changeNodes tracker events).standing = { world.standing with tracker } := by
  simp only [changeNodes]
  split
  next => rfl
  next =>
    rw [standing_wakeAll]
    rfl

theorem leads_changeNodes {world : World} {tracker : Tracker}
    (signalled : world.tracker.Orderly → world.tracker.Signalled tracker)
    (events : List NodeEvent) : world.Leads (world.changeNodes tracker events) := by
  apply Leads.move
  rw [standing_changeNodes]
  exact .signals tracker signalled

theorem leads_turnTracking (world : World) : world.Leads world.turnTracking := by
  unfold turnTracking
  split
  next => exact .refl world
  next =>
    have taken : Leads world { world with poolEvents := [] } := .same rfl
    refine taken.trans (Leads.foldl ?_ world.poolEvents _)
    intro later event
    refine Leads.stands ?_ (standing_emit _ _)
    exact leads_changeNodes (fun orderly => .onPoolEvent orderly event) _

theorem leads_openPools (world : World) (nodes : List Node) :
    world.Leads (world.openPools nodes).1 := by
  induction nodes generalizing world with
  | nil => exact .refl world
  | cons node rest ih =>
    have opened := leads_poolOf world node.id
    unfold openPools
    split
    next given =>
      rw [given] at opened
      exact opened.trans (ih _)
    next given =>
      rw [given] at opened
      exact opened.trans (ih _)

theorem leads_startConnectingAll (world : World) (timeout : Nat) :
    world.Leads (world.startConnectingAll timeout).1 :=
  leads_openPools world _

theorem cluster_leads (start : World) (task : TaskId) : (cluster task).Keeps start.Leads where
  plan key _ leads := leads.stands (standing_makePlan _ key)
  pool node around leads := leads.trans (leads_poolOf around node.id)
  send _ pool opcode body _ leads := leads.stands (standing_sendVia _ pool opcode body _)
  reply _ handle _ leads := leads.stands (standing_takeReply _ handle _)
  abandon handle _ leads := leads.stands (standing_abandon _ handle)
  count profile _ leads := leads.stands (standing_countRetryCall _ profile)
  alarm _ due _ leads := leads.stands (standing_setAlarm _ due _)
  dismiss _ _ leads := leads.stands (standing_dismissAlarms _ _)

theorem leads_runTask (world : World) (id : TaskId) (task : RequestTask) :
    world.Leads (world.runTask id task) := by
  -- Of all that a request does, only that it opens pools matters.
  have keeps := cluster_leads world id
  unfold runTask
  split
  next => exact .refl world
  next context _ =>
    have waits : world.Leads
        (world.await (.cancelled task.context) { process := .request id }) :=
      .same (standing_await _ _ _)
    simp only
    refine Leads.stands ?_ (standing_keep _ _ _ _)
    split
    next => exact Submission.poll_holds keeps _ waits
    next =>
      split
      next => exact keeps.plan _ _ waits
      next => exact Submission.start_holds keeps _ _ _ waits

theorem leads_turnRequest (world : World) (id : TaskId) : world.Leads (world.turnRequest id) := by
  unfold turnRequest
  split
  next => exact .refl world
  next =>
    split
    next => exact .refl world
    next =>
      split
      next => exact .same (standing_holdTask _ _ _)
      next => exact leads_runTask world id _

end Simulation.World

end ClusterDriver
