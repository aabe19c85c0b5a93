import ClusterDriver.Proofs.Cluster.Plans
import ClusterDriver.Proofs.Request.Tally
import ClusterDriver.Proofs.Session.Removal
import ClusterDriver.Proofs.Session.Tasks

set_option autoImplicit false

namespace ClusterDriver

namespace RoundRobin

theorem mem_arrange {robin : RoundRobin} {nodes : List Node} {addresses : List SocketAddress}
    {node : Node} (member : node ∈ (robin.arrange nodes addresses).remaining) : node ∈ nodes := by
  have live {placed : List Node} {distance : Distance}
      (other : node ∈ robin.othersAt (nodes.filter Node.isQueryable) placed distance) :
      node ∈ nodes := by
    rw [othersAt, rotated_eq, List.mem_rotate] at other
    exact (List.mem_filter.1 (List.mem_filter.1 other).1).1
  have placed {replicas : List SocketAddress} {distance : Distance}
      (replica : node ∈ replicasAt (nodes.filter Node.isQueryable) replicas distance) :
      node ∈ nodes := by
    obtain ⟨_, _, found⟩ := List.mem_filterMap.1 replica
    exact (List.mem_filter.1 (List.mem_of_find?_eq_some found)).1
  simp only [arrange, List.mem_append] at member
  rcases member with ((near | remote) | near) | remote
  · exact placed near
  · exact placed remote
  · exact live near
  · exact live remote

end RoundRobin

namespace Simulation

namespace Wiring

def Renews (gone : Wiring) (key : String) (wiring : Wiring) : Prop :=
  ∃ id node, wiring.node? id = some node ∧ node.address.text = key ∧
    ∀ old, gone.node? id = some old → old.state ≠ .removed

def Knows (wiring : Wiring) (node : Node) : Prop :=
  ∃ keeper, wiring.node? node.id = some keeper ∧ keeper.address = node.address

def Pools (wiring : Wiring) (node : Node) (pool : PoolId) : Prop :=
  ∃ keeper, wiring.node? node.id = some keeper ∧ keeper.address = node.address ∧
    keeper.pool = some pool

def outlook (gone : Wiring) : Outlook Wiring where
  sound wiring := gone.Sound ∧ gone.Endures wiring
  known node wiring := (gone.Sound ∧ gone.Endures wiring) ∧ wiring.Knows node
  owns node pool wiring := (gone.Sound ∧ gone.Endures wiring) ∧ wiring.Pools node pool
  tried key wiring := (gone.Sound ∧ gone.Endures wiring) ∧ gone.Renews key wiring

variable {gone before after : Wiring} {key : String}

theorem Renews.endures (renews : gone.Renews key before) (sound : before.Sound)
    (endures : before.Endures after) : gone.Renews key after := by
  obtain ⟨id, node, known, address, new⟩ := renews
  obtain ⟨later, there, remains⟩ := endures.kept sound id node known
  exact ⟨id, later, there, by rw [remains.address, address], new⟩

theorem Renews.absurd (renews : gone.Renews key after)
    (none : after.tracker.nodes.length ≤ gone.tracker.nodes.length)
    (left : ∀ old ∈ gone.tracker.nodes, old.state = .removed) : False := by
  obtain ⟨id, node, known, _, new⟩ := renews
  have first : id < after.tracker.nodes.length := (List.getElem?_eq_some_iff.1 known).1
  have there := List.getElem?_eq_getElem (Nat.lt_of_lt_of_le first none)
  exact new _ there (left _ (List.mem_of_getElem? there))

theorem outlook_grows (endures : before.Endures after) :
    (outlook gone).Grows before after where
  known node := by
    rintro ⟨⟨sound, earlier⟩, keeper, known, address⟩
    obtain ⟨later, there, remains⟩ := endures.kept (earlier.sound sound) _ keeper known
    exact ⟨⟨sound, earlier.trans endures⟩, later, there, remains.address.trans address⟩
  owns node pool := by
    rintro ⟨⟨sound, earlier⟩, keeper, known, address, own⟩
    obtain ⟨later, there, remains⟩ := endures.kept (earlier.sound sound) _ keeper known
    exact ⟨⟨sound, earlier.trans endures⟩, later, there, remains.address.trans address,
      remains.pool pool own⟩
  tried key := by
    rintro ⟨⟨sound, earlier⟩, renews⟩
    exact ⟨⟨sound, earlier.trans endures⟩, renews.endures (earlier.sound sound) endures⟩

end Wiring

namespace World

variable {world later : World}

def wiring (world : World) : Wiring := world.affairs.toWiring

def outlook (gone : Wiring) : Outlook World where
  sound world := (Wiring.outlook gone).sound world.wiring
  known node world := (Wiring.outlook gone).known node world.wiring
  owns node pool world := (Wiring.outlook gone).owns node pool world.wiring
  tried key world := (Wiring.outlook gone).tried key world.wiring

theorem keeps_of_endures {holds : Wiring → Prop}
    (stays : ∀ {before after : Wiring}, before.Endures after → holds before → holds after)
    (task : TaskId) : (cluster task).Keeps fun world => holds world.wiring := by
  have rewired (world later : World) (rewires : world.Rewires later) (held : holds world.wiring) :
      holds later.wiring := stays (.moves rewires.moves) held
  have keeps (world : World) := cluster_rewires world task
  exact {
    plan := fun key world => rewired world _ ((keeps world).plan key world (.refl world))
    pool := fun node world => rewired world _ ((keeps world).pool node world (.refl world))
    send := fun execution pool opcode body world =>
      rewired world _ ((keeps world).send execution pool opcode body world (.refl world))
    reply := fun execution handle world =>
      rewired world _ ((keeps world).reply execution handle world (.refl world))
    abandon := fun handle world =>
      rewired world _ ((keeps world).abandon handle world (.refl world))
    count := fun profile world =>
      rewired world _ ((keeps world).count profile world (.refl world))
    alarm := fun execution due world =>
      rewired world _ ((keeps world).alarm execution due world (.refl world))
    dismiss := fun execution world =>
      rewired world _ ((keeps world).dismiss execution world (.refl world)) }

theorem makePlan_known (world : World) (key : Option ByteArray) {node : Node}
    (member : node ∈ (world.makePlan key).1.remaining) :
    ∃ id, world.tracker.node? id = some node := by
  have there (present : node ∈ world.tracker.present) : ∃ id, world.tracker.node? id = some node := by
    obtain ⟨id, _, known⟩ := Tracker.mem_present.1 present
    exact ⟨id, known⟩
  simp only [makePlan, makePlan?] at member
  split at member
  next =>
    cases made : world.robin.plan? key world.tracker.present world.tracker.ring with
    | none => simp [made] at member
    | some plan =>
      obtain ⟨replicas, _, rfl⟩ := Option.map_eq_some_iff.1 made
      rw [made] at member
      exact there (RoundRobin.mem_arrange member)
  next => cases member
  next => exact there (List.mem_reverse.1 member)
  next =>
    obtain ⟨id, _, known⟩ := List.mem_filterMap.1 member
    exact ⟨id, known⟩

theorem makePlan?_eq_none_iff (world : World) (key : Option ByteArray) :
    (world.makePlan? key).1 = none ↔
      world.setup.balancing = .standard ∧ key ≠ none ∧ world.tracker.ring.entries ≠ [] ∧
        TokenRing.maxReserved < world.tracker.ring.replicationFactor := by
  unfold makePlan?
  split
  next standard =>
    rw [and_iff_right standard]
    exact Option.map_eq_none_iff.trans RoundRobin.replicasFor?_eq_none_iff
  next other => simp [other]
  next other => simp [other]
  next other => simp [other]

/-- Only an immense replication factor makes a request break off. -/
theorem breaksOff_iff (world : World) (submission : Submission) :
    world.breaksOff submission = true ↔
      (∃ build, Run.prepare world.setup.registry world.setup.codec submission.context
        submission.request submission.options = .ok build) ∧
      world.setup.balancing = .standard ∧ submission.options.routingKey ≠ none ∧
        world.tracker.ring.entries ≠ [] ∧
        TokenRing.maxReserved < world.tracker.ring.replicationFactor := by
  have prepared : (Run.prepare world.setup.registry world.setup.codec submission.context
      submission.request submission.options).isOk = true ↔
        ∃ build, Run.prepare world.setup.registry world.setup.codec submission.context
          submission.request submission.options = .ok build := by
    cases Run.prepare world.setup.registry world.setup.codec submission.context submission.request
      submission.options <;> simp [Except.isOk, Except.toBool]
  rw [breaksOff, Bool.and_eq_true, Option.isNone_iff_eq_none, prepared, and_comm,
    makePlan?_eq_none_iff]

theorem poolOf_pools {id : NodeId} {pool : PoolId} {node : Node} (orderly : world.tracker.Orderly)
    (known : world.tracker.node? id = some node) (found : world.poolOf id = (.ok pool, later)) :
    ∃ keeper, later.tracker.node? id = some keeper ∧ keeper.address = node.address ∧
      keeper.pool = some pool := by
  obtain rfl := orderly.numbered id node known
  simp only [poolOf, known] at found
  split at found
  next => cases found
  next =>
    split at found
    next own =>
      cases found
      exact ⟨node, known, rfl, own⟩
    next =>
      have added := congrArg (·.tracker) (affairs_addPool world node.address
        (.ofSettings world.setup.pool (node.distance = .near)) world.setup.authenticator)
      generalize world.addPool node.address (.ofSettings world.setup.pool (node.distance = .near))
        world.setup.authenticator = opened at added found
      have tracker : opened.1.tracker = world.tracker := added
      cases found
      rw [← tracker] at known
      have updated := @Tracker.node?_update opened.1.tracker node
        { node with pool := some opened.2 } known node.id
      exact ⟨_, updated.trans (if_pos rfl), rfl, rfl⟩

theorem sendVia_open {pool : PoolId} {opcode : Opcode} {body : ByteArray} {waiter : Waker}
    {handle : Handle} (sent : world.sendVia pool opcode body waiter = (some (.ok handle), later)) :
    ∃ service, world.pool? pool = some service ∧ service.pool.isClosed = false := by
  unfold sendVia at sent
  split at sent
  next => cases sent
  next service found =>
    refine ⟨service, found, ?_⟩
    split at sent
    next => cases sent
    next => cases sent
    next acquired =>
      by_contra closed
      have closed : service.pool.isClosed = true := by simpa using closed
      simp [Pool.acquire?, Pool.tryAcquire, closed] at acquired

theorem cluster_guides (gone : Wiring) (task : TaskId) : (cluster task).Guides (outlook gone) where
  keepsSound := @keeps_of_endures (Wiring.outlook gone).sound
    (fun endures sound => ⟨sound.1, sound.2.trans endures⟩) task
  keepsKnown node := @keeps_of_endures ((Wiring.outlook gone).known node)
    (fun endures => (Wiring.outlook_grows endures).known node) task
  keepsOwns node pool := @keeps_of_endures ((Wiring.outlook gone).owns node pool)
    (fun endures => (Wiring.outlook_grows endures).owns node pool) task
  keepsTried key := @keeps_of_endures ((Wiring.outlook gone).tried key)
    (fun endures => (Wiring.outlook_grows endures).tried key) task
  planned key around sound node member := by
    have nodes := (sound.2.sound sound.1).owned.nodes
    obtain ⟨id, known⟩ := makePlan_known around key member
    obtain rfl := nodes.numbered id node known
    have same : ((cluster task).plan key around).2.wiring = around.wiring :=
      congrArg (·.toWiring) (affairs_makePlan around key)
    refine ⟨?_, node, ?_, rfl⟩
    · rw [same]
      exact sound
    · rw [same]
      exact known
  pooled node pool around later known found := by
    obtain ⟨sound, keeper, there, address⟩ := known
    obtain ⟨last, held, same, own⟩ :=
      poolOf_pools (sound.2.sound sound.1).owned.nodes there found
    have rewires := rewires_poolOf around node.id
    have found : around.poolOf node.id = (.ok pool, later) := found
    rw [found] at rewires
    exact ⟨⟨sound.1, sound.2.trans (.moves rewires.moves)⟩, last, held, same.trans address, own⟩
  sent execution node pool opcode body handle around later own sent := by
    obtain ⟨sound, keeper, there, address, keeps⟩ := own
    have rewires := rewires_sendVia around pool opcode body ⟨.request task, some execution⟩
    have sent : around.sendVia pool opcode body ⟨.request task, some execution⟩ =
      (some (.ok handle), later) := sent
    rw [sent] at rewires
    have stays := sound.2.sound sound.1
    obtain ⟨service, found, isOpen⟩ := sendVia_open sent
    -- The pool is open, so its node has not been removed by now, let alone before.
    have present : keeper.state ≠ .removed := by
      intro gone
      have closed := stays.owned.left node.id keeper pool there gone keeps service.pool
        ((affairs_pool? around pool).trans (by rw [found]; rfl))
      cases isOpen.symm.trans closed
    have renews : gone.Renews node.address.text around.wiring := by
      refine ⟨node.id, keeper, there, by rw [address], fun old known left => ?_⟩
      obtain ⟨last, found, remains⟩ := sound.2.kept sound.1 node.id old known
      obtain rfl := Option.some.inj (Eq.trans (Eq.symm found) there)
      exact present (remains.removed left).1
    exact ⟨⟨sound.1, sound.2.trans (.moves rewires.moves)⟩,
      renews.endures stays (.moves rewires.moves)⟩

end World

namespace Affairs

variable {gone : Wiring} {actor : Option ErrandId} {before after : Affairs}

def Grounded (gone : Wiring) (affairs : Affairs) : Prop :=
  ∀ task ∈ affairs.tasks, ∀ run, task.run = some run →
    run.Founded (Wiring.outlook gone) affairs.toWiring

theorem Grounded.endures (grounded : before.Grounded gone)
    (endures : before.toWiring.Endures after.toWiring)
    (runs : ∀ task ∈ after.tasks, ∀ run, task.run = some run →
      ∃ earlier ∈ before.tasks, earlier.run = some run) : after.Grounded gone := by
  intro task member run born
  obtain ⟨earlier, there, same⟩ := runs task member run born
  exact (grounded earlier there run same).grows (Wiring.outlook_grows endures)

theorem mem_dropped {jobs : List Process} {left : List JobId} {tasks : List RequestTask}
    {task : RequestTask} (member : task ∈ dropped jobs left tasks) :
    ∃ earlier ∈ tasks, task = earlier ∨ task = earlier.abort := by
  obtain ⟨id, there⟩ := List.getElem?_of_mem member
  rw [getElem?_dropped] at there
  obtain ⟨earlier, found, same⟩ := Option.map_eq_some_iff.1 there
  refine ⟨earlier, List.mem_of_getElem? found, ?_⟩
  split at same
  next => exact .inr same.symm
  next => exact .inl same.symm

theorem Move.grounded (move : Move actor before after) (grounded : before.Grounded gone) :
    after.Grounded gone := by
  refine grounded.endures move.endures ?_
  have same (task : RequestTask) (member : task ∈ before.tasks) (run : Run)
      (born : task.run = some run) : ∃ earlier ∈ before.tasks, earlier.run = some run :=
    ⟨task, member, born⟩
  cases move with
  | accepts started timeout request options unclosed offered =>
    refine List.forall_mem_append.2 ⟨same, List.forall_mem_singleton.2 fun run born => ?_⟩
    cases born
  | drops scheduler idle =>
    intro task member run born
    obtain ⟨earlier, there, rfl | rfl⟩ := mem_dropped member
    · exact ⟨task, there, born⟩
    · cases born
  | _ => exact same

theorem Moves.grounded (moves : Moves actor before after) (grounded : before.Grounded gone) :
    after.Grounded gone := by
  induction moves with
  | refl => exact grounded
  | tail _ move ih => exact move.grounded ih

theorem Grounded.keep {affairs : Affairs} (grounded : affairs.Grounded gone) (id : TaskId)
    (task : RequestTask) {submission : Submission}
    (founded : ∀ run, submission.run = some run →
      run.Founded (Wiring.outlook gone) affairs.toWiring) :
    (affairs.keep id task submission).Grounded gone := by
  intro own member run born
  obtain ⟨other, there⟩ := List.getElem?_of_mem member
  simp only [Affairs.keep, List.getElem?_modify, Option.map_eq_map] at there
  obtain ⟨earlier, found, same⟩ := Option.map_eq_some_iff.1 there
  split at same
  next =>
    subst same
    obtain ⟨kept, known, rfl⟩ := Option.map_eq_some_iff.1 born
    exact ⟨(founded kept known).plan, (founded kept known).stages⟩
  next =>
    subst same
    exact grounded earlier (List.mem_of_getElem? found) run born

end Affairs

namespace World

variable {gone : Wiring} {world middle : World} {id : TaskId} {task : RequestTask}
  {context : RequestContext} {submission : Submission}

theorem Attends.tallies (attends : world.Attends id task context submission middle)
    (found : world.tasks[id]? = some task) (tends : context.Tends task.run)
    (sound : gone.Sound ∧ gone.Endures world.wiring) (grounded : world.affairs.Grounded gone)
    (key : String) : submission.Tallies (outlook gone) key middle task.run := by
  have same : (world.attending id task).wiring = world.wiring :=
    congrArg (·.toWiring) (affairs_await world _ _)
  have still : (outlook gone).sound (world.attending id task) := by
    rw [← same] at sound
    exact sound
  cases attends with
  | held => exact Submission.hold_tallies rfl rfl _ _
  | starts _ unborn started =>
    rw [unborn] at tends ⊢
    have tallies := @Submission.start_tallies _ (outlook gone) (world.attending id task) (cluster id)
      { request := task.request, options := task.options, context } key (cluster_guides gone id)
      (world.attending id task).setup.registry (world.attending id task).setup.codec rfl rfl rfl
      ⟨tends.pending, tends.untried rfl⟩ still
    rwa [started] at tallies
  | breaksOff => exact .apart rfl (by simp [Submission.breakOff, Submission.count, Metrics.Event.node?])
  | @polls _ _ run _ born polled =>
    rw [born] at tends ⊢
    have plain : task.plain ∈ world.affairs.tasks :=
      List.mem_map_of_mem (List.mem_of_getElem? found)
    have founded := grounded task.plain plain { run with woken := [] }
      (by simp [RequestTask.plain, born])
    have known : run.Founded (outlook gone) (world.attending id task) := by
      have there : run.Founded (Wiring.outlook gone) (world.attending id task).wiring := by
        rw [same]
        exact ⟨founded.plan, founded.stages⟩
      exact ⟨there.plan, there.stages⟩
    have tallies := @Submission.poll_tallies _ (outlook gone) (world.attending id task) (cluster id)
      { request := task.request, options := task.options, context, run := some run } run key
      (cluster_guides gone id) rfl (fun _ member => (List.not_mem_nil member).elim) tends.pending
      (tends.numbered run rfl) known
    rwa [polled] at tallies

theorem grounded_turnRequest (tended : world.affairs.Tended)
    (sound : gone.Sound ∧ gone.Endures world.wiring) (grounded : world.affairs.Grounded gone)
    (id : TaskId) : (world.turnRequest id).affairs.Grounded gone := by
  rcases turnRequest_cases world id with
    same | ⟨task, context, submission, middle, found, goesOn, known, attends, same⟩
  · rwa [same]
  · have plain : world.affairs.tasks[id]? = some task.plain := by simp [affairs, found]
    obtain ⟨_, ⟨own, held, tends⟩, _⟩ := tended.goesOn id task.plain plain goesOn
    obtain rfl := Option.some.inj (held.symm.trans known)
    have tallies := attends.tallies found (RequestContext.tends_plain.1 tends) sound grounded ""
    have rewires := attends.rewires
    have around : middle.affairs.Grounded gone := by
      refine grounded.endures (.moves rewires.moves) fun task member run born => ⟨task, ?_, born⟩
      rwa [rewires.apart] at member
    rw [same]
    exact around.keep id task fun run born =>
      ⟨(tallies.founded run born).plan, (tallies.founded run born).stages⟩

theorem grounded_act (tended : world.affairs.Tended)
    (sound : gone.Sound ∧ gone.Endures world.wiring) (grounded : world.affairs.Grounded gone)
    (happening : Happening) : (world.act happening).affairs.Grounded gone := by
  by_cases request : ∃ id, happening = .turn (.request id)
  · obtain ⟨id, rfl⟩ := request
    exact grounded_turnRequest tended sound grounded id
  · exact Affairs.Moves.grounded (shifts_act fun id same => request ⟨id, same⟩) grounded

end World

end Simulation

end ClusterDriver
