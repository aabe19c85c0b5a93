import ClusterDriver.Proofs.Session.Living

set_option autoImplicit false

namespace ClusterDriver.Simulation

namespace Wiring

structure Endures (before after : Wiring) : Prop where
  sound : before.Sound → after.Sound
  kept : before.Sound → ∀ id node, before.node? id = some node →
    ∃ later, after.node? id = some later ∧ Remains node later

namespace Endures

variable {before middle after : Wiring}

theorem refl (wiring : Wiring) : wiring.Endures wiring where
  sound sound := sound
  kept _ _ node known := ⟨node, known, .refl node⟩

theorem trans (one : before.Endures middle) (two : middle.Endures after) :
    before.Endures after where
  sound sound := two.sound (one.sound sound)
  kept sound id node known := by
    obtain ⟨later, there, remains⟩ := one.kept sound id node known
    obtain ⟨last, found, stays⟩ := two.kept (one.sound sound) id later there
    exact ⟨last, found, remains.trans stays⟩

theorem moves (moves : before.Moves after) : before.Endures after where
  sound := moves.sound
  kept sound _ _ known := moves.keeps_node sound known

end Endures

theorem Owned.empty {tracker : Tracker} (nodes : tracker.nodes = [])
    (registered : tracker.registered = []) : Owned [] tracker where
  nodes := .empty nodes registered
  absent id node known := by simp [Tracker.node?, nodes] at known
  owned number pool known := by simp at known
  owns id node number known := by simp [Tracker.node?, nodes] at known
  left id node number known := by simp [Tracker.node?, nodes] at known

theorem Owned.configured (config : DriverConfig) : Owned [] (Tracker.ofConfig config) :=
  List.foldlRecOn (motive := Owned []) config.contactPoints _ (.empty rfl rfl)
    fun _ owned contact _ => owned.adds contact

end Wiring

theorem Affairs.Move.endures {actor : Option ErrandId} {before after : Affairs}
    (move : Affairs.Move actor before after) : before.toWiring.Endures after.toWiring := by
  cases move with
  | wires moves => exact .moves moves
  | opens config blank =>
    refine ⟨fun sound => ⟨?_, sound.served⟩, ?_⟩
    · rw [blank.pools]
      exact .configured config
    · intro _ id node known
      have none : before.toWiring.node? id = none := by
        rw [Wiring.node?, Tracker.node?, blank.nodes]
        rfl
      cases none.symm.trans known
  | _ => exact .refl _

theorem Affairs.Moves.endures {actor : Option ErrandId} {before after : Affairs}
    (moves : Affairs.Moves actor before after) : before.toWiring.Endures after.toWiring := by
  induction moves with
  | refl => exact .refl _
  | tail _ move ih => exact ih.trans move.endures

namespace Affairs

variable {actor : Option ErrandId} {before after : Affairs}

structure Leaves (actor : Option ErrandId) (before after : Affairs) : Prop where
  longer : before.errands.length ≤ after.errands.length
  errand : ∀ id errand, actor ≠ some id → before.errands[id]? = some errand →
    after.errands[id]? = some errand
  told : ∀ id result, (id, result) ∈ after.results →
    (id, result) ∈ before.results ∨ actor = some id

theorem Leaves.same (errands : after.errands = before.errands)
    (results : after.results = before.results) : before.Leaves actor after where
  longer := by rw [errands]
  errand id errand _ known := by rwa [errands]
  told id result told := by
    rw [results] at told
    exact .inl told

theorem Leaves.trans {middle : Affairs} (one : before.Leaves actor middle)
    (two : middle.Leaves actor after) : before.Leaves actor after where
  longer := Nat.le_trans one.longer two.longer
  errand id errand other known := two.errand id errand other (one.errand id errand other known)
  told id result told :=
    (two.told id result told).elim (one.told id result) .inr

theorem Leaves.sets {id : ErrandId} (own : actor = some id) (errand : Errand)
    {results : List (ErrandId × Errand.Result)}
    (told : ∀ entry ∈ results, entry ∈ before.results ∨ entry.1 = id) (metrics : Metrics) :
    before.Leaves actor { before with
      metrics, errands := before.errands.set id errand, results } where
  longer := by rw [List.length_set]
  errand other earlier different known := by
    rw [List.getElem?_set_ne]
    · exact known
    · rintro rfl
      exact different own
  told other result member := by
    refine (told _ member).imp_right fun same => ?_
    rw [own]
    exact congrArg some (Eq.symm same)

theorem Move.leaves (move : Move actor before after) : before.Leaves actor after := by
  have more (id : ErrandId) (result : Errand.Result) :
      ∀ entry ∈ before.results ++ [(id, result)], entry ∈ before.results ∨ entry.1 = id := by
    intro entry member
    refine (List.mem_append.1 member).imp_right fun new => ?_
    rw [List.mem_singleton.1 new]
  cases move with
  | asks errand nobody =>
    refine ⟨?_, fun id other _ known => ?_, fun _ _ told => .inl told⟩
    · rw [List.length_append]
      exact Nat.le_add_right _ _
    · rw [List.getElem?_append_left (List.getElem?_eq_some_iff.1 known).1]
      exact known
  | strides errand own => exact .sets own errand (fun _ member => .inl member) before.metrics
  | @answers id result own => exact .sets own .ended (more id result) before.metrics
  | @forgets id key own => exact .sets own .ended (more id (.flag true)) _
  | clears nobody => exact ⟨Nat.le_refl _, fun _ _ _ known => known, nofun⟩
  | _ => exact .same rfl rfl

theorem Moves.leaves (moves : Moves actor before after) : before.Leaves actor after := by
  induction moves with
  | refl => exact .same rfl rfl
  | tail _ move ih => exact ih.trans move.leaves

end Affairs

namespace World

theorem endures_turnRequest (world : World) (id : TaskId) :
    world.affairs.toWiring.Endures (world.turnRequest id).affairs.toWiring := by
  rcases turnRequest_cases world id with same | ⟨_, _, _, middle, _, _, _, attends, same⟩
  · rw [same]
    exact .refl _
  · rw [same]
    exact .moves attends.rewires.moves

theorem endures_act (world : World) (happening : Happening) :
    world.affairs.toWiring.Endures (world.act happening).affairs.toWiring := by
  by_cases request : ∃ id, happening = .turn (.request id)
  · obtain ⟨id, rfl⟩ := request
    exact endures_turnRequest world id
  · exact (shifts_act fun id same => request ⟨id, same⟩).endures

theorem endures_live (world : World) (happenings : List Happening) :
    world.affairs.toWiring.Endures (world.live happenings).affairs.toWiring := by
  induction happenings generalizing world with
  | nil => exact .refl _
  | cons happening rest ih => exact (endures_act world happening).trans (ih (world.act happening))

theorem unopened_sound (network : Network) (setup : Setup) :
    (unopened network setup).affairs.toWiring.Sound where
  owned := .empty rfl rfl
  served := ⟨nofun, nofun, nofun, nofun⟩

theorem sound_live (network : Network) (setup : Setup) (happenings : List Happening) :
    ((unopened network setup).live happenings).affairs.toWiring.Sound :=
  (endures_live _ happenings).sound (unopened_sound network setup)

theorem leaves_act (world : World) (happening : Happening) :
    world.affairs.Leaves happening.actor (world.act happening).affairs := by
  by_cases request : ∃ id, happening = .turn (.request id)
  · obtain ⟨id, rfl⟩ := request
    rcases turnRequest_cases world id with same | ⟨_, _, _, middle, _, _, _, attends, same⟩
    · rw [act_request, same]
      exact .same rfl rfl
    · rw [act_request, same]
      have apart := attends.rewires.apart
      exact .same (congrArg (·.errands) apart) (congrArg (·.results) apart)
  · exact (shifts_act fun id same => request ⟨id, same⟩).leaves

theorem Happening.of_actor {happening : Happening} {id : ErrandId}
    (own : happening.actor = some id) : happening = .turn (.errand id) := by
  unfold actor at own
  split at own
  next => rw [Option.some.inj own]
  next => cases own

theorem act_errand {world : World} {id : ErrandId}
    (allowed : world.forbids (.turn (.errand id)) = false) :
    world.act (.turn (.errand id)) = world.turnErrand id := by
  have fits : world.reopens id = false := by
    unfold reopens
    split
    next opening =>
      have blank := blank_of_isBlank (by simpa [forbids, opening] using allowed)
      have pools : world.pools = [] := List.map_eq_nil_iff.1 blank.pools
      have closing : world.closing = none := blank.closing
      simp [pools, closing]
    next => rfl
  rw [act, if_neg (by simp [allowed]), occur, if_neg (by simp [fits])]

theorem act_ended {world : World} {id : ErrandId}
    (ceased : world.errands[id]? = none ∨ world.errands[id]? = some .ended) :
    world.act (.turn (.errand id)) = world := by
  have allowed : world.forbids (.turn (.errand id)) = false := by
    rcases ceased with none | ended
    · simp [forbids, none]
    · simp [forbids, ended]
  rw [act_errand allowed]
  rcases ceased with none | ended
  · simp [turnErrand, none]
  · simp [turnErrand, ended]

/-- Only of what was asked for somebody is told. -/
def Answered (world : World) : Prop :=
  ∀ id result, (id, result) ∈ world.results → id < world.errands.length

theorem answered_live (network : Network) (setup : Setup) (happenings : List Happening) :
    ((unopened network setup).live happenings).Answered := by
  have kept (world : World) (happenings : List Happening) (answered : world.Answered) :
      (world.live happenings).Answered := by
    induction happenings generalizing world with
    | nil => exact answered
    | cons happening rest ih =>
      apply ih
      have leaves := leaves_act world happening
      intro id result told
      rcases leaves.told id result told with earlier | own
      · exact Nat.lt_of_lt_of_le (answered id result earlier) leaves.longer
      · by_cases inside : id < world.errands.length
        · exact Nat.lt_of_lt_of_le inside leaves.longer
        · obtain rfl := Happening.of_actor own
          rw [act_ended (.inl (List.getElem?_eq_none_iff.2 (Nat.not_lt.1 inside)))] at told ⊢
          exact answered id result told
  exact kept _ happenings nofun

structure Asked (address : SocketAddress) (forgets : Bool) (id : ErrandId) (world : World) : Prop
    where
  errand : world.errands[id]? = some (.removeNode address forgets none)
  silent : ∀ result, (id, result) ∉ world.results

structure Vain (id : ErrandId) (world : World) : Prop where
  errand : world.errands[id]? = some .ended
  silent : (id, .flag true) ∉ world.results

section Removal

variable {address : SocketAddress} {forgets : Bool} {id : ErrandId} {world : World}

theorem asked_begin (answered : world.Answered) :
    (world.act (.begin (.removeNode address forgets none))).Asked address forgets
      world.errands.length := by
  have begun : (world.act (.begin (.removeNode address forgets none))).affairs =
      { world.affairs with
        errands := world.affairs.errands ++ [.removeNode address forgets none] } :=
    affairs_wakeProcess _ _
  constructor
  · rw [show World.errands _ = _ from congrArg (·.errands) begun]
    exact List.getElem?_concat_length
  · intro result told
    rw [show World.results _ = _ from congrArg (·.results) begun] at told
    exact Nat.lt_irrefl _ (answered _ result told)

theorem Asked.other (asked : world.Asked address forgets id) {happening : Happening}
    (other : happening.actor ≠ some id) : (world.act happening).Asked address forgets id := by
  have leaves := leaves_act world happening
  refine ⟨leaves.errand id _ other asked.errand, fun result told => ?_⟩
  exact (leaves.told id result told).elim (asked.silent result) other

theorem Vain.act (vain : world.Vain id) (happening : Happening) :
    (world.act happening).Vain id := by
  by_cases own : happening.actor = some id
  · obtain rfl := Happening.of_actor own
    rwa [act_ended (.inr vain.errand)]
  · have leaves := leaves_act world happening
    refine ⟨leaves.errand id _ own vain.errand, fun told => ?_⟩
    exact (leaves.told id _ told).elim vain.silent own

theorem Vain.live (vain : world.Vain id) (happenings : List Happening) :
    (world.live happenings).Vain id := by
  induction happenings generalizing world with
  | nil => exact vain
  | cons happening rest ih => exact ih (vain.act happening)

theorem Asked.turn (asked : world.Asked address forgets id) :
    (∃ later channels, world.removeNode? address = some (later, channels) ∧
      world.act (.turn (.errand id)) = later.pursueRemoval id address forgets channels) ∨
    (world.act (.turn (.errand id))).Vain id := by
  have allowed : world.forbids (.turn (.errand id)) = false := by simp [forbids, asked.errand]
  rw [act_errand allowed]
  simp only [turnErrand, asked.errand]
  split
  next =>
    right
    constructor
    · simp only [finishErrand, setErrand]
      rw [List.getElem?_set_self (List.getElem?_eq_some_iff.1 asked.errand).1]
    · intro told
      rcases List.mem_append.1 told with earlier | new
      · exact asked.silent _ earlier
      · cases List.mem_singleton.1 new
  next later channels removed => exact .inl ⟨later, channels, removed, rfl⟩

theorem Asked.removed (asked : world.Asked address forgets id) {happenings : List Happening}
    (told : (id, .flag true) ∈ (world.live happenings).results) :
    ∃ before after later channels, happenings = before ++ .turn (.errand id) :: after ∧
      (world.live before).removeNode? address = some (later, channels) ∧
      (world.live before).act (.turn (.errand id)) =
        later.pursueRemoval id address forgets channels := by
  induction happenings generalizing world with
  | nil => exact absurd told (asked.silent _)
  | cons happening rest ih =>
    -- Its first turn decides. Before that nobody can tell what comes of it.
    by_cases own : happening.actor = some id
    · obtain rfl := Happening.of_actor own
      rcases asked.turn with ⟨later, channels, removed, same⟩ | vain
      · exact ⟨[], rest, later, channels, rfl, removed, same⟩
      · exact absurd told (vain.live rest).silent
    · obtain ⟨before, after, later, channels, same, removed, turned⟩ :=
        ih (asked.other own) told
      exact ⟨happening :: before, after, later, channels, by rw [same]; rfl, removed, turned⟩

end Removal

/-- An ignored node has no pool, and requests are sent over the pools of other nodes only. -/
structure Shuns (world : World) : Prop where
  unpooled : ∀ id node, world.tracker.node? id = some node → node.distance = .ignored →
    node.pool = none
  pooled : ∀ pool service, world.pool? pool = some service →
    ∃ id node, world.tracker.node? id = some node ∧ node.pool = some pool ∧
      node.address = service.pool.address ∧ node.distance ≠ .ignored
  sent : ∀ channel link, world.link? channel = some link → link.channel.nextRequest ≠ 0 →
    ∃ pool id node, link.pool = some pool ∧ world.tracker.node? id = some node ∧
      node.pool = some pool ∧ node.distance ≠ .ignored

/-- This node was removed, and had this pool or none. It does not get another one, and neither who
asks for its pool nor who has one of its connections can send anything to it. -/
structure LeftAlone (id : NodeId) (pool : Option PoolId) (world : World) : Prop where
  removed : ∃ node, world.tracker.node? id = some node ∧ node.state = .removed ∧ node.pool = pool
  denied : ∃ reason, world.poolOf id = (.error reason, world)
  closed : ∀ own, pool = some own → world.poolState own = .closed
  refused : ∀ channel link own, world.link? channel = some link → link.pool = some own →
    pool = some own → ∀ opcode body, ∃ cause, world.send channel opcode body = .error cause

theorem shuns_of_sound {world : World} (sound : world.affairs.toWiring.Sound) :
    world.Shuns where
  unpooled id node known ignored := by
    cases own : node.pool with
    | none => rfl
    | some pool => exact absurd ignored (sound.owned.owns id node pool known own).2
  pooled pool service found := by
    have held : world.affairs.pool? pool = some service.pool := by
      rw [affairs_pool?, found]
      rfl
    obtain ⟨id, node, known, own, address⟩ := sound.owned.owned pool service.pool held
    exact ⟨id, node, known, own, address, (sound.owned.owns id node pool known own).2⟩
  sent channel link found sent := by
    have there : world.affairs.cord? channel = some link.cord := by
      rw [affairs_cord?, found]
      rfl
    obtain ⟨pool, own⟩ := Option.ne_none_iff_exists'.1
      (sound.served.sent channel link.cord there sent)
    obtain ⟨service, held, _⟩ := sound.served.served channel link.cord pool there own
    obtain ⟨id, node, known, keeps, _⟩ := sound.owned.owned pool service held
    exact ⟨pool, id, node, own, known, keeps, (sound.owned.owns id node pool known keeps).2⟩

theorem leftAlone_of_sound {world : World} (sound : world.affairs.toWiring.Sound) {id : NodeId}
    {node : Node} (known : world.tracker.node? id = some node) (gone : node.state = .removed) :
    world.LeftAlone id node.pool where
  removed := ⟨node, known, gone, rfl⟩
  denied := ⟨_, by simp [poolOf, known, Node.isPoolable, gone]; rfl⟩
  closed own keeps := by
    have ceased := sound.owned.left id node own known gone keeps
    unfold poolState
    split
    next => rfl
    next service found =>
      apply Pool.isClosed_iff.1
      apply ceased
      exact (affairs_pool? world own).trans (by rw [found]; rfl)
  refused channel link own found belongs keeps opcode body := by
    have there : world.affairs.cord? channel = some link.cord := by
      rw [affairs_cord?, found]
      rfl
    obtain ⟨pool, held, serves⟩ := sound.served.served channel link.cord own there belongs
    have unusable : link.channel.isUsable = false := by
      refine serves.resolve_left fun member => ?_
      have closed := sound.owned.left id node own known gone keeps pool held
      rw [sound.served.empty own pool held closed] at member
      cases member
    obtain ⟨cause, refused⟩ := Channel.send_refused unusable opcode body
    exact ⟨cause, by simp only [send, found, refused]⟩

theorem leftAlone_live {world : World} (sound : world.affairs.toWiring.Sound) {id : NodeId}
    {node : Node} (known : world.tracker.node? id = some node) (gone : node.state = .removed)
    (happenings : List Happening) : (world.live happenings).LeftAlone id node.pool := by
  have endures := endures_live world happenings
  obtain ⟨later, there, remains⟩ := endures.kept sound id node known
  obtain ⟨left, pool⟩ := remains.removed gone
  rw [← pool]
  exact leftAlone_of_sound (endures.sound sound) there left

theorem leftAlone_of_removal {world later : World} (sound : world.affairs.toWiring.Sound)
    {address : SocketAddress} {channels : List ChannelId}
    (removed : world.removeNode? address = some (later, channels)) :
    ∃ node, world.tracker.find? address = some node ∧ ∀ id forgets more,
      ((later.pursueRemoval id address forgets channels).live more).LeftAlone node.id node.pool := by
  obtain ⟨rewires, node, events, left⟩ := rewires_removeNode? removed
  refine ⟨node, ?_, fun id forgets more => ?_⟩
  · unfold Tracker.removeNode at left
    split at left
    next => cases left
    next present known =>
      simp only [Option.some.injEq, Prod.mk.injEq] at left
      rw [known, left.2.1]
  · have found := (Tracker.removeNode_spec sound.owned.nodes left).2.2.2.2.2 node.id
    rw [if_pos rfl] at found
    have kept := (Wiring.Endures.moves rewires.moves).sound sound
    have finished := (shifts_pursueRemoval later id address forgets channels).endures
    obtain ⟨last, there, remains⟩ := finished.kept kept node.id _ found
    obtain ⟨gone, pool⟩ := remains.removed node.state_removed
    have alone := leftAlone_live (finished.sound kept) there gone more
    rwa [pool, Tracker.transition_eq] at alone

/-- Whatever happens to a session, it leaves alone the nodes that it ignores, and once a call has
told that it removed a node, also that one: ever since the turn in which it did so. -/
theorem unwanted_nodes_are_left_alone (network : Network) (setup : Setup)
    (happenings : List Happening) {world : World}
    (reached : world = (unopened network setup).live happenings) :
    world.Shuns ∧ ∀ address forgets later,
      (world.errands.length, .flag true) ∈
          ((world.act (.begin (.removeNode address forgets none))).live later).results →
        ∃ before after node, later = before ++ .turn (.errand world.errands.length) :: after ∧
          ((world.act (.begin (.removeNode address forgets none))).live before).tracker.find?
            address = some node ∧
          ∀ more, ((((world.act (.begin (.removeNode address forgets none))).live before).act
            (.turn (.errand world.errands.length))).live more).LeftAlone node.id node.pool := by
  have sound : world.affairs.toWiring.Sound := reached ▸ sound_live network setup happenings
  refine ⟨shuns_of_sound sound, fun address forgets later told => ?_⟩
  have answered : world.Answered := reached ▸ answered_live network setup happenings
  obtain ⟨before, after, removal, channels, same, removed, turned⟩ :=
    (asked_begin answered).removed told
  have stays := ((endures_act world (.begin (.removeNode address forgets none))).trans
    (endures_live _ before)).sound sound
  obtain ⟨node, found, alone⟩ := leftAlone_of_removal stays removed
  refine ⟨before, after, node, same, found, fun more => ?_⟩
  rw [turned]
  exact alone _ forgets more

def removals (world : World) : List ErrandId :=
  world.results.filterMap fun
    | (id, .flag true) => some id
    | _ => none

theorem mem_removals {world : World} {id : ErrandId} :
    id ∈ world.removals ↔ (id, .flag true) ∈ world.results := by
  simp only [removals, List.mem_filterMap]
  constructor
  · rintro ⟨⟨other, result⟩, member, given⟩
    split at given
    next same =>
      cases same
      rwa [← Option.some.inj given]
    next => cases given
  · intro member
    exact ⟨_, member, rfl⟩

end World

namespace LatePool

def called : World :=
  (fresh.live (opening ++ asking)).act (.begin (.removeNode (.v4 1 9042) true none))

def leaving : List World.Happening :=
  let turns := called.settling []
  turns ++ (called.run turns).moment

theorem leaving_removals :
    (fresh.live (opening ++ asking)).errands.length = 1 ∧ (called.live leaving).removals = [1] := by
  decide +kernel

theorem busy_node_is_left_alone :
    ∃ before after, ∃ node : Node, leaving = before ++ .turn (.errand 1) :: after ∧
      node.address = .v4 1 9042 ∧ ∀ more, (((called.live before).act
        (.turn (.errand 1))).live more).LeftAlone node.id node.pool := by
  obtain ⟨number, told⟩ := leaving_removals
  have member := List.mem_singleton_self 1
  rw [← told, World.mem_removals, ← number] at member
  obtain ⟨before, after, node, same, found, alone⟩ :=
    (@World.unwanted_nodes_are_left_alone { isUp := true } { registry := .ofConfig hasty }
      (opening ++ asking) (fresh.live (opening ++ asking)) rfl).2 (.v4 1 9042) true leaving member
  rw [number] at same
  refine ⟨before, after, node, same, (Tracker.find?_some found).1, fun more => ?_⟩
  rw [← number]
  exact alone more

end LatePool

end ClusterDriver.Simulation
