import ClusterDriver.Proofs.Cluster.History

set_option autoImplicit false

namespace ClusterDriver

def PoolState.image? : PoolState → Option NodeState
  | .initializing => some .unknown
  | .ready => some .up
  | .unavailable => some .down
  | .closed => none

def stateAfter (events : List PoolEvent) : NodeState :=
  match events.getLast? with
  | none => .unknown
  | some event => event.health

theorem stateAfter_concat (events : List PoolEvent) (event : PoolEvent) :
    stateAfter (events ++ [event]) = event.health := by
  simp [stateAfter]

theorem stateAfter_ne_removed (events : List PoolEvent) : stateAfter events ≠ .removed := by
  unfold stateAfter
  split
  next => nofun
  next event _ => cases event <;> nofun

namespace Node

def applyAll (node : Node) (events : List PoolEvent) : Node :=
  events.foldl (fun node event => (node.transition event.health).1) node

theorem transition_state {node : Node} (present : node.state ≠ .removed) (next : NodeState) :
    (node.transition next).1.state = next := by
  unfold transition
  split
  next unchanged => exact unchanged.resolve_right present
  next => rfl

theorem applyAll_state {node : Node} {applied : List PoolEvent}
    (follows : node.state = stateAfter applied) (events : List PoolEvent) :
    (node.applyAll events).state = stateAfter (applied ++ events) := by
  induction events generalizing node applied with
  | nil => rwa [List.append_nil]
  | cons event rest ih =>
    have present : node.state ≠ .removed := by
      rw [follows]
      exact stateAfter_ne_removed applied
    have moved : (node.transition event.health).1.state = stateAfter (applied ++ [event]) := by
      rw [transition_state present, stateAfter_concat]
    have remaining := ih moved
    rwa [List.append_assoc] at remaining

end Node

theorem PoolHistory.Sound.image {pool : PoolHistory} (sound : pool.Sound) {state : NodeState}
    (image : pool.pool.state.image? = some state) : stateAfter pool.events = state := by
  cases known : pool.pool.state with
  | closed => simp [known, PoolState.image?] at image
  | _ =>
    have last := sound.told.last (by simp [Pool.isClosed, known])
    simp only [Pool.lastEvent?, known] at last
    rw [known] at image
    rw [stateAfter, last]
    exact Option.some.inj image

namespace ClusterHistory

/-- Neither a removal of a node nor a signal from outside. -/
def Action.isUndisturbed : Action → Bool
  | .removeNode _ | .markUp _ | .markDown _ => false
  | _ => true

def queuedOf (history : ClusterHistory) (pool : PoolId) : List PoolEvent :=
  (history.queue.filter fun entry => entry.1 = pool).map (·.2)

/-- No node was removed, and each is in the state that the applied events of its pool have led to.
-/
structure Abreast (history : ClusterHistory) : Prop where
  orderly : history.Orderly
  whole : ∀ id node, history.tracker.node? id = some node → id ∈ history.tracker.registered
  fresh : ∀ id node, history.tracker.node? id = some node → node.pool = none →
    node.state = .unknown
  follows : ∀ id node pool service, history.tracker.node? id = some node →
    node.pool = some pool → history.pools[pool]? = some service →
      ∃ applied, service.events = applied ++ history.queuedOf pool ∧
        node.state = stateAfter applied

section Steps

variable {history : ClusterHistory}

theorem queuedOf_unopened (orderly : history.Orderly) :
    history.queuedOf history.pools.length = [] := by
  unfold queuedOf
  rw [List.filter_eq_nil_iff.2, List.map_nil]
  intro entry member
  have earlier := orderly.queued entry member
  simpa using Nat.ne_of_lt earlier

theorem queuedOf_actPool {id : PoolId} {before : PoolHistory} {action : PoolHistory.Action}
    (pool : PoolId) : (history.actPool id before action).queuedOf pool =
      history.queuedOf pool ++
        if id = pool then (before.act action).events.drop before.events.length else [] := by
  simp only [queuedOf, actPool, List.filter_append, List.map_append]
  generalize (before.act action).events.drop before.events.length = emitted
  split
  next same => simp [List.filter_map, Function.comp_def, same]
  next other => simp [List.filter_map, Function.comp_def, other]

theorem holding?_of_node? {id : NodeId} {node : Node} {pool : PoolId}
    (known : history.tracker.node? id = some node) (owns : node.pool = some pool) :
    history.tracker.holding? id = some (node.address, some pool) := by
  rw [Tracker.holding?, known, Option.map_some, owns]

theorem Abreast.addNode (abreast : history.Abreast) (contact : ContactPoint) :
    Abreast { history with tracker := (history.tracker.addNode contact).1 } := by
  have orderly := abreast.orderly.addNode contact
  rcases history.tracker.addNode_cases contact with
    same | ⟨_, node, _, _, state, pool, added, registered⟩
  · rw [same]
    exact abreast
  have known := Tracker.node?_added added
  refine ⟨orderly, ?_, ?_, ?_⟩
  · intro id other found
    rw [known] at found
    rw [registered, List.mem_append]
    split at found
    next last => exact .inr (by simp [last])
    next => exact .inl (abreast.whole id other found)
  · intro id other found without
    rw [known] at found
    split at found
    next =>
      cases found
      exact state
    next => exact abreast.fresh id other found without
  · intro id other owned service found owns
    rw [known] at found
    split at found
    next =>
      cases found
      cases pool.symm.trans owns
    next => exact abreast.follows id other owned service found owns

theorem Abreast.openPool (abreast : history.Abreast) {id : NodeId} {node : Node}
    (known : history.tracker.node? id = some node) (without : node.pool = none) :
    (history.openPool node).Abreast := by
  have own := abreast.orderly.nodes.numbered id node known
  have updated := node?_openPool own known
  refine ⟨abreast.orderly.openPool known without, ?_, ?_, ?_⟩
  · intro other found same
    rw [updated] at same
    split at same
    next this => exact this ▸ abreast.whole id node known
    next => exact abreast.whole other found same
  · intro other found same none
    rw [updated] at same
    split at same
    next =>
      cases same
      cases none
    next => exact abreast.fresh other found same none
  · intro other found pool service same owns opened
    rw [updated] at same
    split at same
    next =>
      cases same
      cases owns
      -- The new pool has emitted nothing.
      obtain rfl := Option.some.inj (List.getElem?_concat_length.symm.trans opened)
      refine ⟨[], ?_, abreast.fresh id node known without⟩
      exact (queuedOf_unopened abreast.orderly).symm
    next =>
      obtain ⟨older, before, _⟩ :=
        abreast.orderly.owned other found.address pool (holding?_of_node? same owns)
      have earlier := (List.getElem?_eq_some_iff.1 before).1
      rw [ClusterHistory.openPool, List.getElem?_append_left earlier] at opened
      exact abreast.follows other found pool service same owns opened

theorem Abreast.actPool (abreast : history.Abreast) {id : PoolId} {before : PoolHistory}
    (known : history.pools[id]? = some before) (action : PoolHistory.Action) :
    (history.actPool id before action).Abreast := by
  refine ⟨abreast.orderly.actPool known action, abreast.whole, abreast.fresh, ?_⟩
  intro other node pool service found owns running
  rw [queuedOf_actPool]
  simp only [ClusterHistory.actPool, List.getElem?_set] at running
  split at running
  next same =>
    obtain rfl := same
    rw [if_pos (List.getElem?_eq_some_iff.1 known).1] at running
    cases running
    obtain ⟨applied, events, state⟩ := abreast.follows other node id before found owns known
    obtain ⟨later, emitted⟩ := before.act_events action
    refine ⟨applied, ?_, state⟩
    rw [if_pos rfl, ← List.append_assoc, ← events, ← emitted, List.drop_left]
  next different =>
    rw [if_neg different, List.append_nil]
    exact abreast.follows other node pool service found owns running

theorem queuedOf_rest {pool : PoolId} {event : PoolEvent} {rest : List (PoolId × PoolEvent)}
    (waiting : history.queue = (pool, event) :: rest) (other : PoolId) :
    history.queuedOf other =
      (if pool = other then [event] else []) ++ queuedOf { history with queue := rest } other := by
  by_cases same : pool = other
  · simp [queuedOf, waiting, same]
  · simp [queuedOf, waiting, same]

theorem Abreast.finds (abreast : history.Abreast) {pool : PoolId} {event : PoolEvent}
    {rest : List (PoolId × PoolEvent)} (waiting : history.queue = (pool, event) :: rest) :
    ∃ id node service, history.tracker.node? id = some node ∧ node.pool = some pool ∧
      history.pools[pool]? = some service ∧
      history.tracker.find? event.address = some node := by
  have inside : pool < history.pools.length :=
    abreast.orderly.queued (pool, event) (by simp [waiting])
  obtain ⟨id, address, held⟩ := abreast.orderly.owner pool inside
  obtain ⟨service, running, sameAddress⟩ := abreast.orderly.owned id address pool held
  obtain ⟨node, known, holds⟩ := Option.map_eq_some_iff.1 held
  obtain ⟨rfl, owns⟩ := Prod.mk.inj holds
  obtain ⟨applied, events, _⟩ := abreast.follows id node pool service known owns running
  rw [queuedOf_rest waiting] at events
  have sound := abreast.orderly.sound service (List.mem_of_getElem? running)
  have addressed := (sound.told.addressed event (by simp [events])).trans sameAddress
  refine ⟨id, node, service, known, owns, running, ?_⟩
  rw [addressed]
  exact abreast.orderly.nodes.find?_eq (abreast.whole id node known) known

theorem Abreast.delivered (abreast : history.Abreast) {pool : PoolId} {event : PoolEvent}
    {rest : List (PoolId × PoolEvent)} (waiting : history.queue = (pool, event) :: rest) :
    Abreast { history with queue := rest, tracker := (history.tracker.onPoolEvent event).1 } := by
  have orderly : Orderly { history with
      queue := rest, tracker := (history.tracker.onPoolEvent event).1 } := by
    have acted := act_orderly history .deliver abreast.orderly
    simpa only [act, waiting] using acted
  -- As nobody was removed, the event reaches the node of the pool that emitted it.
  obtain ⟨id, node, service, known, owns, running, found⟩ := abreast.finds waiting
  rcases history.tracker.onPoolEvent_cases event with ⟨missing, _⟩ | ⟨finder, finds, same⟩
  · cases missing.symm.trans found
  obtain rfl := Option.some.inj (finds.symm.trans found)
  obtain ⟨_, registered, _, nodes⟩ :=
    Tracker.transition_spec abreast.orderly.nodes known event.health
  have updated : ∀ other, (history.tracker.onPoolEvent event).1.node? other =
      if id = other then some (finder.transition event.health).1
      else history.tracker.node? other := by
    rw [same]
    exact nodes
  have changed := Tracker.transition_eq finder event.health
  refine ⟨orderly, ?_, ?_, ?_⟩
  · intro other found filed
    rw [updated] at filed
    rw [same]
    refine registered.symm ▸ ?_
    split at filed
    next this => exact this ▸ abreast.whole id finder known
    next => exact abreast.whole other found filed
  · intro other found filed without
    rw [updated] at filed
    split at filed
    next =>
      cases filed
      rw [changed] at without
      cases without.symm.trans owns
    next => exact abreast.fresh other found filed without
  · intro other found second another filed has runs
    rw [updated] at filed
    split at filed
    next =>
      cases filed
      rw [changed] at has
      obtain rfl := Option.some.inj (owns.symm.trans has)
      obtain rfl := Option.some.inj (running.symm.trans runs)
      obtain ⟨applied, events, state⟩ := abreast.follows id finder pool service known owns running
      have present : finder.state ≠ .removed := by
        rw [state]
        exact stateAfter_ne_removed applied
      refine ⟨applied ++ [event], ?_, ?_⟩
      · rw [events, queuedOf_rest waiting, if_pos rfl, List.append_assoc]
        rfl
      · rw [Node.transition_state present, stateAfter_concat]
    next different =>
      obtain ⟨before, emitted, led⟩ := abreast.follows other found second another filed has runs
      -- No other node has this pool, so what is queued for the other one is as it was.
      have foreign : pool ≠ second := by
        rintro rfl
        exact different (abreast.orderly.alone id other pool _ _
          (holding?_of_node? known owns) (holding?_of_node? filed has))
      rw [queuedOf_rest waiting, if_neg foreign, List.nil_append] at emitted
      exact ⟨before, emitted, led⟩

end Steps

theorem act_abreast {history : ClusterHistory} {action : Action}
    (undisturbed : action.isUndisturbed = true) (abreast : history.Abreast) :
    (history.act action).Abreast := by
  cases action with
  | addNode contact => exact abreast.addNode contact
  | removeNode => cases undisturbed
  | markUp => cases undisturbed
  | markDown => cases undisturbed
  | openPool id =>
    simp only [act]
    split
    next => exact abreast
    next node known =>
      split
      next allowed => exact abreast.openPool known allowed.2
      next => exact abreast
  | pool id action =>
    simp only [act]
    split
    next => exact abreast
    next before known => exact abreast.actPool known action
  | deliver =>
    simp only [act]
    split
    next => exact abreast
    next waiting => exact abreast.delivered waiting

theorem run_abreast {history : ClusterHistory} {actions : List Action}
    (undisturbed : ∀ action ∈ actions, action.isUndisturbed = true)
    (abreast : history.Abreast) : (history.run actions).Abreast := by
  induction actions generalizing history with
  | nil => exact abreast
  | cons action rest ih =>
    have now : action.isUndisturbed = true := undisturbed action (by simp)
    exact ih (fun later member => undisturbed later (by simp [member])) (act_abreast now abreast)

theorem blank_abreast (config : DriverConfig) : (blank config).Abreast where
  orderly := blank_orderly config
  whole id node known := by simp [blank, Tracker.node?] at known
  fresh id node known := by simp [blank, Tracker.node?] at known
  follows id node pool service known := by simp [blank, Tracker.node?] at known

theorem started_abreast (config : DriverConfig) : (started config).Abreast := by
  rw [started_eq]
  refine run_abreast ?_ (blank_abreast config)
  intro action member
  obtain ⟨_, _, rfl⟩ := List.mem_map.1 member
  rfl

/-- A node with a pool lags behind it by the queued events of the pool: once they are applied to it,
it is up if the pool is ready, down if it is unavailable and unknown if it is initializing. So when
nothing is queued, the state of the node is that of its pool. -/
theorem follows_pools {config : DriverConfig} {actions : List Action} {history : ClusterHistory}
    (reached : history = (started config).run actions)
    (undisturbed : ∀ action ∈ actions, action.isUndisturbed = true) {node : Node} {pool : PoolId}
    (member : node ∈ history.tracker.nodes) (owns : node.pool = some pool) :
    node ∈ history.tracker.present ∧ ∃ service, history.pools[pool]? = some service ∧
      service.pool.address = node.address ∧
      ∀ state, service.pool.state.image? = some state →
        (node.applyAll (history.queuedOf pool)).state = state ∧
          (history.queue = [] → node.state = state) := by
  subst reached
  have abreast := run_abreast undisturbed (started_abreast config)
  generalize (started config).run actions = history at abreast member ⊢
  obtain ⟨id, inside, known⟩ := List.getElem_of_mem member
  have filed : history.tracker.node? id = some node :=
    List.getElem?_eq_some_iff.2 ⟨inside, known⟩
  obtain ⟨service, running, address⟩ :=
    abreast.orderly.owned id node.address pool (holding?_of_node? filed owns)
  obtain ⟨applied, events, state⟩ := abreast.follows id node pool service filed owns running
  have sound := abreast.orderly.sound service (List.mem_of_getElem? running)
  refine ⟨Tracker.mem_present.2 ⟨id, abreast.whole id node filed, filed⟩, service, running, address,
    fun wanted image => ⟨?_, fun idle => ?_⟩⟩
  · rw [Node.applyAll_state state, ← events]
    exact sound.image image
  · have nothing : history.queuedOf pool = [] := by simp [queuedOf, idle]
    rw [nothing, List.append_nil] at events
    rw [state, ← events]
    exact sound.image image

def lossy : List Action :=
  [.openPool 0, .pool 0 .look, .pool 0 (.connected 0), .addNode ⟨.v4 2 9042, none, []⟩,
    .pool 0 .add, .deliver, .pool 0 (.line 0 (.event 1 none (.lost "reset"))), .pool 0 (.notice 0),
    .openPool 1, .pool 0 .look, .pool 0 (.connected 2), .pool 0 .add]

def unaware : ClusterHistory :=
  (started { contactPoints := [⟨.v4 1 9042, none, []⟩] }).run lossy

theorem unaware_follows_pools :
    (∀ action ∈ lossy, action.isUndisturbed = true) ∧
      unaware.queue = [(0, .down (.v4 1 9042)), (0, .up (.v4 1 9042))] ∧
      unaware.tracker.nodes.map (·.state) = [.up, .unknown] ∧
      ∃ first ∈ unaware.tracker.nodes, ∃ second ∈ unaware.tracker.nodes,
        (first.applyAll (unaware.queuedOf 0)).state = .up ∧
        (second.applyAll (unaware.queuedOf 1)).state = .unknown := by
  have undisturbed : ∀ action ∈ lossy, action.isUndisturbed = true := by
    simp [lossy, Action.isUndisturbed]
  obtain ⟨first, filed, owns⟩ : ∃ node ∈ unaware.tracker.nodes, node.pool = some 0 := by decide
  obtain ⟨second, alsoFiled, alsoOwns⟩ : ∃ node ∈ unaware.tracker.nodes, node.pool = some 1 := by
    decide
  have reached : unaware = (started { contactPoints := [⟨.v4 1 9042, none, []⟩] }).run lossy := rfl
  obtain ⟨_, service, running, _, follows⟩ := follows_pools reached undisturbed filed owns
  obtain ⟨_, other, alsoRunning, _, alsoFollows⟩ :=
    follows_pools reached undisturbed alsoFiled alsoOwns
  have ready : service.pool.state = .ready := by
    have known : (unaware.pools[0]?).map (·.pool.state) = some .ready := by decide
    rw [running] at known
    exact Option.some.inj known
  have starting : other.pool.state = .initializing := by
    have known : (unaware.pools[1]?).map (·.pool.state) = some .initializing := by decide
    rw [alsoRunning] at known
    exact Option.some.inj known
  refine ⟨undisturbed, by decide, by decide, first, filed, second, alsoFiled, ?_, ?_⟩
  · exact (follows .up (by rw [ready]; rfl)).1
  · exact (alsoFollows .unknown (by rw [starting]; rfl)).1

end ClusterHistory

end ClusterDriver
