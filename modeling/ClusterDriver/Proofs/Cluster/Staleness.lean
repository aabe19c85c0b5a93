import ClusterDriver.Proofs.Cluster.Agreement

set_option autoImplicit false

namespace ClusterDriver

theorem Node.transition_removed {node : Node} (removed : node.state = .removed)
    (next : NodeState) : (node.transition next).1 = node := by
  rw [transition, if_pos (.inr removed)]

namespace Tracker

/-- The present node of an address is the one that was added last, and the others were removed. -/
structure Succession (tracker : Tracker) : Prop where
  latest : ∀ id ∈ tracker.registered, ∀ other,
    (tracker.holding? other).map (·.1) = (tracker.holding? id).map (·.1) → other ≤ id
  gone : ∀ id node, tracker.node? id = some node → id ∉ tracker.registered →
    node.state = .removed

section Steps

variable {tracker later : Tracker}

theorem Succession.restated (succession : tracker.Succession)
    (registered : later.registered = tracker.registered)
    (addresses : ∀ id, (later.holding? id).map (·.1) = (tracker.holding? id).map (·.1))
    (states : ∀ id after, later.node? id = some after → ∃ before, tracker.node? id = some before ∧
      (before.state = .removed → after.state = .removed)) : later.Succession where
  latest id member other same := by
    rw [addresses, addresses] at same
    rw [registered] at member
    exact succession.latest id member other same
  gone id after known absent := by
    obtain ⟨before, earlier, stays⟩ := states id after known
    rw [registered] at absent
    exact stays (succession.gone id before earlier absent)

theorem Succession.transition (succession : tracker.Succession) (orderly : tracker.Orderly)
    {id : NodeId} {node : Node} (known : tracker.node? id = some node) (next : NodeState) :
    (tracker.transition node next).1.Succession := by
  obtain ⟨_, registered, holding, nodes⟩ := transition_spec orderly known next
  refine succession.restated registered (fun other => by rw [holding]) fun other after found => ?_
  rw [nodes] at found
  split at found
  next same =>
    cases found
    refine ⟨node, same ▸ known, fun removed => ?_⟩
    rwa [Node.transition_removed removed]
  next => exact ⟨after, found, fun removed => removed⟩

theorem Succession.addNode (succession : tracker.Succession) (orderly : tracker.Orderly)
    (contact : ContactPoint) : (tracker.addNode contact).1.Succession := by
  rcases tracker.addNode_cases contact with
    same | ⟨missing, node, _, address, _, _, added, registered⟩
  · rwa [same]
  have known := node?_added added
  generalize (tracker.addNode contact).1 = later at added registered known ⊢
  refine ⟨fun id member other same => ?_, fun id other found absent => ?_⟩
  · rw [registered] at member
    rcases List.mem_append.1 member with old | new
    · rw [orderly.holding?_older added old] at same
      by_cases newest : other = tracker.nodes.length
      · rw [newest, holding?_newest added, Option.map_some, address] at same
        exact absurd same.symm (vacant missing old)
      · rw [holding?, known, if_neg newest] at same
        exact succession.latest id old other same
    · rw [List.mem_singleton.1 new, holding?_newest added] at same
      obtain ⟨found, filed, _⟩ := Option.map_eq_some_iff.1 same
      obtain ⟨node, filed, _⟩ := Option.map_eq_some_iff.1 filed
      have inside := node?_lt filed
      rw [added, List.length_append, List.length_singleton] at inside
      rw [List.mem_singleton.1 new]
      exact Nat.le_of_lt_succ inside
  · rw [registered, List.mem_append, List.mem_singleton, not_or] at absent
    rw [known, if_neg absent.2] at found
    exact succession.gone id other found absent.1

theorem Succession.erased (succession : tracker.Succession) (orderly : tracker.Orderly)
    {id : NodeId} {node : Node} (known : tracker.node? id = some node) :
    (Tracker.transition { tracker with
      registered := tracker.registered.erase node.id }.rebuildRing node .removed).1.Succession := by
  have own := orderly.numbered id node known
  obtain ⟨_, registered, holding, nodes⟩ :=
    transition_spec (orderly.erased node.id) known .removed
  refine ⟨fun first member other same => ?_, fun other found filed absent => ?_⟩
  · rw [holding, holding] at same
    rw [registered] at member
    exact succession.latest first (List.mem_of_mem_erase member) other same
  · rw [nodes] at filed
    split at filed
    next =>
      cases filed
      by_cases before : node.state = .removed
      · rw [Node.transition_removed before, before]
      · exact Node.transition_state before .removed
    next different =>
      refine succession.gone other found filed fun member => absent ?_
      rw [registered]
      refine (orderly.distinct.mem_erase_iff).2 ⟨?_, member⟩
      rw [own]
      exact Ne.symm different

theorem onPoolEvent_changes (orderly : tracker.Orderly) {event : PoolEvent} {id : NodeId}
    {before after : Node} (known : tracker.node? id = some before)
    (changed : (tracker.onPoolEvent event).1.node? id = some after) (differs : after ≠ before) :
    after = { before with state := event.health } ∧ tracker.find? event.address = some before := by
  rcases tracker.onPoolEvent_cases event with ⟨_, same⟩ | ⟨node, found, same⟩
  · rw [same] at changed
    exact absurd (Option.some.inj (changed.symm.trans known)) differs
  obtain ⟨_, target, _, filed⟩ := find?_some found
  obtain ⟨_, _, _, nodes⟩ := transition_spec orderly filed event.health
  rw [same] at changed
  have updated := (nodes id).symm.trans changed
  split at updated
  next this =>
    obtain rfl := this
    obtain rfl := Option.some.inj (filed.symm.trans known)
    refine ⟨?_, found⟩
    rw [← Option.some.inj updated] at differs ⊢
    unfold Node.transition at differs ⊢
    split at differs
    next => exact absurd rfl differs
    next moves => rw [if_neg moves]
  next => exact absurd (Option.some.inj (updated.symm.trans known)) differs

end Steps

end Tracker

namespace ClusterHistory

/-- Each queued event was emitted by the pool it stands with. -/
structure Traced (history : ClusterHistory) : Prop where
  orderly : history.Orderly
  succession : history.tracker.Succession
  emitted : ∀ entry ∈ history.queue, ∃ service, history.pools[entry.1]? = some service ∧
    entry.2 ∈ service.events

section Steps

variable {history : ClusterHistory}

theorem Traced.openPool (traced : history.Traced) {id : NodeId} {node : Node}
    (known : history.tracker.node? id = some node) (without : node.pool = none) :
    (history.openPool node).Traced where
  orderly := traced.orderly.openPool known without
  succession := by
    have updated := node?_openPool (traced.orderly.nodes.numbered id node known) known
    refine traced.succession.restated rfl (fun other => ?_) fun other after found => ?_
    · rw [holding?_openPool traced.orderly known]
      split
      next same =>
        rw [← same, Tracker.holding?, known]
        rfl
      next => rfl
    · rw [updated] at found
      split at found
      next same =>
        cases found
        exact ⟨node, same ▸ known, fun removed => removed⟩
      next => exact ⟨after, found, fun removed => removed⟩
  emitted entry member := by
    obtain ⟨service, running, told⟩ := traced.emitted entry member
    have earlier := (List.getElem?_eq_some_iff.1 running).1
    exact ⟨service, (List.getElem?_append_left earlier).trans running, told⟩

theorem Traced.actPool (traced : history.Traced) {id : PoolId} {before : PoolHistory}
    (known : history.pools[id]? = some before) (action : PoolHistory.Action) :
    (history.actPool id before action).Traced where
  orderly := traced.orderly.actPool known action
  succession := traced.succession
  emitted entry member := by
    have replaced : (history.actPool id before action).pools[id]? = some (before.act action) := by
      simp [ClusterHistory.actPool, (List.getElem?_eq_some_iff.1 known).1]
    rcases List.mem_append.1 member with old | new
    · obtain ⟨service, running, told⟩ := traced.emitted entry old
      by_cases same : id = entry.1
      · rw [← same, known] at running
        cases running
        obtain ⟨later, emitted⟩ := before.act_events action
        refine ⟨before.act action, same ▸ replaced, ?_⟩
        rw [← emitted]
        exact List.mem_append_left later told
      · refine ⟨service, ?_, told⟩
        rwa [ClusterHistory.actPool, List.getElem?_set_ne same]
    · obtain ⟨event, told, rfl⟩ := List.mem_map.1 new
      exact ⟨before.act action, replaced, List.mem_of_mem_drop told⟩

theorem Traced.delivered (traced : history.Traced) {pool : PoolId} {event : PoolEvent}
    {rest : List (PoolId × PoolEvent)} (waiting : history.queue = (pool, event) :: rest) :
    (history.act .deliver).Traced := by
  have orderly := act_orderly history .deliver traced.orderly
  simp only [act, waiting] at orderly ⊢
  refine ⟨orderly, ?_, fun entry member => traced.emitted entry (by simp [waiting, member])⟩
  rcases history.tracker.onPoolEvent_cases event with ⟨_, same⟩ | ⟨node, found, same⟩
  · rw [same]
    exact { traced.succession with }
  · obtain ⟨_, id, _, known⟩ := Tracker.find?_some found
    rw [same]
    exact { traced.succession.transition traced.orderly.nodes known event.health with }

end Steps

theorem act_traced (history : ClusterHistory) (action : Action) (traced : history.Traced) :
    (history.act action).Traced := by
  have orderly := act_orderly history action traced.orderly
  have nodes := traced.orderly.nodes
  cases action with
  | addNode contact => exact ⟨orderly, traced.succession.addNode nodes contact, traced.emitted⟩
  | removeNode address =>
    simp only [act] at orderly ⊢
    rcases history.tracker.removeNode_cases address with none | ⟨id, node, known, _, some⟩
    · simpa only [none] using traced
    · rw [some] at orderly ⊢
      exact ⟨orderly, traced.succession.erased nodes known, traced.emitted⟩
  | markUp address =>
    refine ⟨orderly, ?_, traced.emitted⟩
    simp only [act]
    rcases history.tracker.markUp_cases history.poolState address with same | ⟨_, _, known, same⟩
    · rw [same]
      exact traced.succession
    · rw [same]
      exact traced.succession.transition nodes known .up
  | markDown address =>
    refine ⟨orderly, ?_, traced.emitted⟩
    simp only [act]
    rcases history.tracker.markDown_cases address with same | ⟨_, _, known, same⟩
    · rw [same]
      exact traced.succession
    · rw [same]
      exact traced.succession.transition nodes known .down
  | openPool id =>
    simp only [act]
    split
    next => exact traced
    next node known =>
      split
      next allowed => exact traced.openPool known allowed.2
      next => exact traced
  | pool id action =>
    simp only [act]
    split
    next => exact traced
    next before known => exact traced.actPool known action
  | deliver =>
    cases waiting : history.queue with
    | nil => simpa only [act, waiting] using traced
    | cons entry rest => exact traced.delivered waiting

theorem started_traced (config : DriverConfig) : (started config).Traced := by
  rw [started_eq]
  refine run_induction Traced act_traced ⟨blank_orderly config, ⟨nofun, nofun⟩, nofun⟩ _

theorem Traced.owner {history : ClusterHistory} (traced : history.Traced) {pool : PoolId}
    {event : PoolEvent} (queued : (pool, event) ∈ history.queue) :
    ∃ id node, history.tracker.node? id = some node ∧ node.pool = some pool ∧
      node.address = event.address := by
  obtain ⟨service, running, told⟩ := traced.emitted (pool, event) queued
  have inside := (List.getElem?_eq_some_iff.1 running).1
  obtain ⟨id, address, held⟩ := traced.orderly.owner pool inside
  obtain ⟨_, found, sameAddress⟩ := traced.orderly.owned id address pool held
  obtain rfl := Option.some.inj (running.symm.trans found)
  obtain ⟨node, known, holds⟩ := Option.map_eq_some_iff.1 held
  obtain ⟨rfl, owns⟩ := Prod.mk.inj holds
  have sound := traced.orderly.sound service (List.mem_of_getElem? running)
  exact ⟨id, node, known, owns, sameAddress.symm.trans (sound.told.addressed event told).symm⟩

/-- An event that is applied changes one node at most: the one whose pool emitted it or, once that
one has been removed, a node that was added later under its address. -/
theorem delivery_reaches_latest {config : DriverConfig} {actions : List Action}
    {history : ClusterHistory} (reached : history = (started config).run actions)
    {pool : PoolId} {event : PoolEvent} {rest : List (PoolId × PoolEvent)}
    (waiting : history.queue = (pool, event) :: rest) :
    ∃ owner ∈ history.tracker.nodes, owner.pool = some pool ∧ owner.address = event.address ∧
      ∀ id before after, history.tracker.node? id = some before →
        (history.act .deliver).tracker.node? id = some after → after ≠ before →
          after = { before with state := event.health } ∧ before.address = owner.address ∧
            before ∈ history.tracker.present ∧
            (before = owner ∨ owner.state = .removed ∧ owner.id < id) := by
  have traced : history.Traced := by
    rw [reached]
    exact run_induction Traced act_traced (started_traced config) actions
  have nodes := traced.orderly.nodes
  have queued : (pool, event) ∈ history.queue := by simp [waiting]
  obtain ⟨home, owner, filed, owns, address⟩ := traced.owner queued
  refine ⟨owner, List.mem_of_getElem? filed, owns, address, ?_⟩
  intro id before after known changed differs
  simp only [act, waiting] at changed
  obtain ⟨moved, found⟩ := Tracker.onPoolEvent_changes nodes known changed differs
  obtain ⟨sameAddress, target, registered, present⟩ := Tracker.find?_some found
  obtain rfl : target = id :=
    (nodes.numbered target before present).symm.trans (nodes.numbered id before known)
  have shared : before.address = owner.address := sameAddress.trans address.symm
  have alike : (history.tracker.holding? home).map (·.1) =
      (history.tracker.holding? target).map (·.1) := by
    simp [Tracker.holding?, filed, known, shared]
  refine ⟨moved, shared, Tracker.mem_present.2 ⟨target, registered, present⟩, ?_⟩
  rw [nodes.numbered home owner filed]
  -- The present node of an address is the latest one there; an earlier owner has been removed.
  rcases Nat.eq_or_lt_of_le (traced.succession.latest target registered home alike) with same | less
  · obtain rfl := same
    exact .inl (Option.some.inj (known.symm.trans filed))
  · refine .inr ⟨traced.succession.gone home owner filed fun stays => ?_, less⟩
    exact absurd (nodes.apart home stays target registered alike) (Nat.ne_of_lt less)

def replaced : List Action :=
  [.openPool 0, .pool 0 .look, .pool 0 (.connectFailed "refused"), .removeNode (.v4 1 9042),
    .pool 0 .beginClose, .addNode ⟨.v4 1 9042, none, []⟩]

theorem failure_outlives_node :
    let history := (started { contactPoints := [⟨.v4 1 9042, none, []⟩] }).run replaced
    history.tracker.nodes.map (·.state) = [.removed, .unknown] ∧
      (history.act .deliver).tracker.nodes.map (·.state) = [.removed, .down] ∧
      (history.act .deliver).tracker.nodes.map (·.pool) = [some 0, none] := by
  decide

theorem statesMatchPools_spec {history : ClusterHistory}
    (matching : history.tracker.statesMatchPools history.poolState = true) {node : Node}
    {pool : PoolId} {service : PoolHistory} (present : node ∈ history.tracker.present)
    (owns : node.pool = some pool) (running : history.pools[pool]? = some service) :
    (service.pool.state = .ready → node.state ≠ .unknown) ∧
      (service.pool.state = .unavailable → node.state = .down ∨ node.state = .removed) := by
  have seen := List.all_eq_true.1 matching node present
  have state : history.poolState pool = service.pool.state := by simp [poolState, running]
  rw [owns, Option.map_some, state] at seen
  constructor
  · intro ready
    simpa [ready] using seen
  · intro unavailable
    simpa [unavailable] using seen

theorem stateAfter_ne_unknown {events : List PoolEvent} (heard : stateAfter events ≠ .unknown) :
    ∃ earlier last, events = earlier ++ [last] ∧ stateAfter events = last.health := by
  rcases List.eq_nil_or_concat events with none | ⟨earlier, last, same⟩
  · rw [none] at heard
    exact absurd rfl heard
  · rw [List.concat_eq_append] at same
    exact ⟨earlier, last, same, by rw [same, stateAfter_concat]⟩

/-- States that match tell that every pool has been heard of, but not that nothing waits: a node may
be down because the return of its pool is still queued. A pool that has changed only once has
nothing queued. -/
theorem match_overlooks_returns {config : DriverConfig} {actions : List Action}
    {history : ClusterHistory} (reached : history = (started config).run actions)
    (undisturbed : ∀ action ∈ actions, action.isUndisturbed = true)
    (matching : history.tracker.statesMatchPools history.poolState = true) {node : Node}
    {pool : PoolId} (member : node ∈ history.tracker.nodes) (owns : node.pool = some pool) :
    ∃ service, history.pools[pool]? = some service ∧
      (service.pool.state = .unavailable → node.state = .down) ∧
      (service.pool.state = .ready → node.state = .up ∨
        node.state = .down ∧ .up node.address ∈ history.queuedOf pool) ∧
      (service.pool.isClosed = false → service.events.length ≤ 1 →
        history.queuedOf pool = []) := by
  subst reached
  have abreast := run_abreast undisturbed (started_abreast config)
  generalize (started config).run actions = history at abreast member matching ⊢
  obtain ⟨id, filed⟩ := List.mem_iff_getElem?.1 member
  obtain ⟨service, running, address⟩ :=
    abreast.orderly.owned id node.address pool (holding?_of_node? filed owns)
  obtain ⟨applied, events, state⟩ := abreast.follows id node pool service filed owns running
  have told := (abreast.orderly.sound service (List.mem_of_getElem? running)).told
  have present : node ∈ history.tracker.present :=
    Tracker.mem_present.2 ⟨id, abreast.whole id node filed, filed⟩
  obtain ⟨ready, unavailable⟩ := statesMatchPools_spec matching present owns running
  have down : service.pool.state = .unavailable → node.state = .down := by
    intro lost
    refine (unavailable lost).resolve_right ?_
    rw [state]
    exact stateAfter_ne_removed applied
  refine ⟨service, running, down, fun usable => ?_, fun isOpen once => ?_⟩
  · have heard := ready usable
    rw [state] at heard
    obtain ⟨earlier, last, split, health⟩ := stateAfter_ne_unknown heard
    -- A pool that is ready has said last that it is up.
    have latest : service.events.getLast? = some (.up node.address) := by
      rw [told.last (by simp [Pool.isClosed, usable]), Pool.lastEvent?, usable, ← address]
    cases last with
    | up => exact .inl (state.trans health)
    | down lost =>
      refine .inr ⟨state.trans health, List.mem_of_getLast? ?_⟩
      rw [events, List.getLast?_append] at latest
      cases queued : (history.queuedOf pool).getLast? with
      | none => simp [queued, split] at latest
      | some event => simpa [queued] using latest
  · have heard_all (heard : stateAfter applied ≠ .unknown) : history.queuedOf pool = [] := by
      obtain ⟨earlier, last, split, _⟩ := stateAfter_ne_unknown heard
      rw [events, split] at once
      simp only [List.length_append, List.length_singleton] at once
      exact List.eq_nil_of_length_eq_zero (by omega)
    cases current : service.pool.state with
    | initializing =>
      have nothing := told.last isOpen
      rw [Pool.lastEvent?, current, List.getLast?_eq_none_iff, events] at nothing
      exact (List.append_eq_nil_iff.1 nothing).2
    | ready => exact heard_all (state ▸ ready current)
    | unavailable =>
      refine heard_all ?_
      rw [← state, down current]
      decide
    | closed => simp [Pool.isClosed, current] at isOpen

def returned : List Action :=
  [.openPool 0, .pool 0 .look, .pool 0 (.connectFailed "refused"), .deliver, .pool 0 .look,
    .pool 0 (.connected 0), .pool 0 .add]

theorem return_goes_unnoticed :
    let history := (started { contactPoints := [⟨.v4 1 9042, none, []⟩] }).run returned
    (∀ action ∈ returned, action.isUndisturbed = true) ∧
      history.pools.map (·.pool.state) = [.ready] ∧
      history.queue = [(0, .up (.v4 1 9042))] ∧
      history.tracker.statesMatchPools history.poolState = true ∧
      history.tracker.upCount = 0 := by
  refine ⟨by simp [returned, Action.isUndisturbed], ?_⟩
  decide

end ClusterHistory

end ClusterDriver
