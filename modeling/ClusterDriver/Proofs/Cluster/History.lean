import ClusterDriver.Cluster.Tracker
import ClusterDriver.Proofs.Pool.History

/-!
Everything that can happen to the nodes of a cluster, in any order: nodes come and go, pools are
opened for them and live on their own, the events of the pools wait in one queue to be applied, and
there are signals from outside. Present nodes have different addresses, and each pool belongs to one
node.
-/

set_option autoImplicit false

namespace ClusterDriver

def PoolEvent.health : PoolEvent → NodeState
  | .up _ => .up
  | .down _ => .down

namespace Tracker

/-! ### Nodes by number -/

theorem mem_present {tracker : Tracker} {node : Node} :
    node ∈ tracker.present ↔ ∃ id ∈ tracker.registered, tracker.node? id = some node :=
  List.mem_filterMap

theorem find?_some {tracker : Tracker} {address : SocketAddress} {node : Node}
    (found : tracker.find? address = some node) :
    node.address = address ∧ ∃ id ∈ tracker.registered, tracker.node? id = some node := by
  have same := List.find?_some found
  exact ⟨by simpa using same, mem_present.1 (List.mem_of_find?_eq_some found)⟩

theorem find?_none {tracker : Tracker} {address : SocketAddress} {node : Node}
    (missing : tracker.find? address = none) {id : NodeId} (registered : id ∈ tracker.registered)
    (known : tracker.node? id = some node) : node.address ≠ address := by
  have other := List.find?_eq_none.1 missing node (mem_present.2 ⟨id, registered, known⟩)
  simpa using other

def holding? (tracker : Tracker) (id : NodeId) : Option (SocketAddress × Option PoolId) :=
  (tracker.node? id).map fun node => (node.address, node.pool)

theorem node?_lt {tracker : Tracker} {id : NodeId} {node : Node}
    (known : tracker.node? id = some node) : id < tracker.nodes.length :=
  (List.getElem?_eq_some_iff.1 known).1

theorem node?_update {tracker : Tracker} {node changed : Node}
    (known : tracker.node? changed.id = some node) (id : NodeId) :
    (tracker.update changed).node? id =
      if changed.id = id then some changed else tracker.node? id := by
  simp only [node?, update, List.getElem?_set]
  split
  next => rw [if_pos (node?_lt known)]
  next => rfl

theorem holding?_update {tracker : Tracker} {node changed : Node}
    (known : tracker.node? changed.id = some node) (address : changed.address = node.address)
    (pool : changed.pool = node.pool) (id : NodeId) :
    (tracker.update changed).holding? id = tracker.holding? id := by
  rw [holding?, node?_update known, holding?]
  split
  next same =>
    rw [← same, known]
    simp only [Option.map_some, address, pool]
  next => rfl

structure Orderly (tracker : Tracker) : Prop where
  numbered : ∀ id node, tracker.node? id = some node → node.id = id
  registered : ∀ id ∈ tracker.registered, id < tracker.nodes.length
  distinct : tracker.registered.Nodup
  apart : ∀ first ∈ tracker.registered, ∀ second ∈ tracker.registered,
    (tracker.holding? first).map (·.1) = (tracker.holding? second).map (·.1) → first = second

theorem Orderly.empty {tracker : Tracker} (nodes : tracker.nodes = [])
    (registered : tracker.registered = []) : tracker.Orderly where
  numbered id node known := by simp [node?, nodes] at known
  registered id member := by simp [registered] at member
  distinct := by simp [registered]
  apart first member := by simp [registered] at member

theorem Orderly.find?_eq {tracker : Tracker} (orderly : tracker.Orderly) {id : NodeId} {node : Node}
    (registered : id ∈ tracker.registered) (known : tracker.node? id = some node) :
    tracker.find? node.address = some node := by
  cases found : tracker.find? node.address with
  | none => exact absurd rfl (find?_none found registered known)
  | some other =>
    obtain ⟨address, second, member, filed⟩ := find?_some found
    have same : id = second := by
      refine orderly.apart id registered second member ?_
      simp [holding?, known, filed, address]
    rw [← same, known] at filed
    exact filed.symm

theorem transition_eq (node : Node) (next : NodeState) :
    (node.transition next).1 = { node with state := (node.transition next).1.state } := by
  unfold Node.transition
  split <;> rfl

theorem Orderly.update {tracker : Tracker} (orderly : tracker.Orderly) {node changed : Node}
    (known : tracker.node? changed.id = some node) (address : changed.address = node.address) :
    (tracker.update changed).Orderly where
  numbered id other found := by
    rw [node?_update known] at found
    split at found
    next same =>
      cases found
      exact same
    next => exact orderly.numbered id other found
  registered id member := by
    have inside := orderly.registered id member
    simpa [Tracker.update] using inside
  distinct := orderly.distinct
  apart first member second other same := by
    have kept : ∀ id, ((tracker.update changed).holding? id).map (·.1) =
        (tracker.holding? id).map (·.1) := by
      intro id
      rw [holding?, node?_update known, holding?]
      split
      next same =>
        rw [← same, known]
        simp only [Option.map_some, address]
      next => rfl
    rw [kept, kept] at same
    exact orderly.apart first member second other same

theorem transition_spec {tracker : Tracker} (orderly : tracker.Orderly) {id : NodeId} {node : Node}
    (known : tracker.node? id = some node) (next : NodeState) :
    (tracker.transition node next).1.Orderly ∧
      (tracker.transition node next).1.registered = tracker.registered ∧
      (∀ other, (tracker.transition node next).1.holding? other = tracker.holding? other) ∧
      ∀ other, (tracker.transition node next).1.node? other =
        if id = other then some (node.transition next).1 else tracker.node? other := by
  have own := orderly.numbered id node known
  have changed := transition_eq node next
  have sameId : (node.transition next).1.id = id := by
    rw [changed]
    exact own
  have sameAddress : (node.transition next).1.address = node.address := by
    rw [changed]
  have samePool : (node.transition next).1.pool = node.pool := by
    rw [changed]
  have found : tracker.node? (node.transition next).1.id = some node := by
    rwa [sameId]
  refine ⟨orderly.update found sameAddress, rfl, holding?_update found sameAddress samePool,
    fun other => ?_⟩
  have updated := node?_update found other
  rwa [sameId] at updated

/-! ### Nodes that come and go -/

theorem addNode_cases (tracker : Tracker) (contact : ContactPoint) :
    (tracker.addNode contact).1 = tracker ∨
      tracker.find? contact.address = none ∧ ∃ node : Node,
        node.id = tracker.nodes.length ∧ node.address = contact.address ∧ node.state = .unknown ∧
        node.pool = none ∧
        (tracker.addNode contact).1.nodes = tracker.nodes ++ [node] ∧
        (tracker.addNode contact).1.registered = tracker.registered ++ [tracker.nodes.length] := by
  unfold addNode
  cases found : tracker.find? contact.address with
  | some node => exact .inl rfl
  | none => exact .inr ⟨rfl, _, rfl, rfl, rfl, rfl, rfl, rfl⟩

theorem node?_added {tracker later : Tracker} {node : Node}
    (added : later.nodes = tracker.nodes ++ [node]) (id : Nat) :
    later.node? id = if id = tracker.nodes.length then some node else tracker.node? id := by
  simp only [node?, added]
  split
  next last =>
    rw [last]
    exact List.getElem?_concat_length
  next other =>
    rw [List.getElem?_append]
    split
    next => rfl
    next beyond =>
      have far : tracker.nodes.length < id := by omega
      rw [List.getElem?_eq_none (by simp; omega), List.getElem?_eq_none (by omega)]

theorem vacant {tracker : Tracker} {address : SocketAddress}
    (missing : tracker.find? address = none) {id : NodeId} (member : id ∈ tracker.registered) :
    (tracker.holding? id).map (·.1) ≠ some address := by
  intro same
  cases found : tracker.node? id with
  | none => simp [holding?, found] at same
  | some other =>
    refine find?_none missing member found ?_
    simpa [holding?, found] using same

section Added

variable {tracker later : Tracker} {node : Node}

theorem Orderly.holding?_older (orderly : tracker.Orderly)
    (added : later.nodes = tracker.nodes ++ [node]) {id : NodeId} (member : id ∈ tracker.registered) :
    later.holding? id = tracker.holding? id := by
  have inside := orderly.registered id member
  rw [holding?, node?_added added, if_neg (Nat.ne_of_lt inside), holding?]

theorem holding?_newest (added : later.nodes = tracker.nodes ++ [node]) :
    later.holding? tracker.nodes.length = some (node.address, node.pool) := by
  rw [holding?, node?_added added, if_pos rfl]
  rfl

theorem Orderly.added (orderly : tracker.Orderly) (own : node.id = tracker.nodes.length)
    (missing : tracker.find? node.address = none)
    (added : later.nodes = tracker.nodes ++ [node])
    (ids : later.registered = tracker.registered ++ [tracker.nodes.length]) :
    later.Orderly where
  numbered id other found := by
    rw [node?_added added] at found
    split at found
    next last =>
      cases found
      rw [own, last]
    next => exact orderly.numbered id other found
  registered id member := by
    rw [ids] at member
    rw [added, List.length_append, List.length_singleton]
    rcases List.mem_append.1 member with old | new
    · exact Nat.lt_succ_of_lt (orderly.registered id old)
    · rw [List.mem_singleton.1 new]
      exact Nat.lt_succ_self _
  distinct := by
    rw [ids, List.nodup_append]
    refine ⟨orderly.distinct, List.nodup_singleton _, ?_⟩
    rintro id member _ new rfl
    have inside := orderly.registered id member
    rw [List.mem_singleton.1 new] at inside
    exact Nat.lt_irrefl _ inside
  apart first firstMember second secondMember same := by
    rw [ids] at firstMember secondMember
    rcases List.mem_append.1 firstMember with oldFirst | newFirst
    · rw [orderly.holding?_older added oldFirst] at same
      rcases List.mem_append.1 secondMember with oldSecond | newSecond
      · rw [orderly.holding?_older added oldSecond] at same
        exact orderly.apart first oldFirst second oldSecond same
      · rw [List.mem_singleton.1 newSecond, holding?_newest added] at same
        -- Nobody was found under the address of the new node.
        exact absurd same (vacant missing oldFirst)
    · rcases List.mem_append.1 secondMember with oldSecond | newSecond
      · rw [orderly.holding?_older added oldSecond, List.mem_singleton.1 newFirst,
          holding?_newest added] at same
        exact absurd same.symm (vacant missing oldSecond)
      · rw [List.mem_singleton.1 newFirst, List.mem_singleton.1 newSecond]

end Added

theorem Orderly.addNode {tracker : Tracker} (orderly : tracker.Orderly) (contact : ContactPoint) :
    (tracker.addNode contact).1.Orderly := by
  rcases tracker.addNode_cases contact with same | ⟨missing, node, own, address, _, _, added, ids⟩
  · rwa [same]
  rw [← address] at missing
  exact orderly.added own missing added ids

theorem Orderly.erased {tracker : Tracker} (orderly : tracker.Orderly) (id : NodeId) :
    { tracker with registered := tracker.registered.erase id }.rebuildRing.Orderly where
  numbered := orderly.numbered
  registered other member := orderly.registered other (List.mem_of_mem_erase member)
  distinct := orderly.distinct.erase id
  apart first firstMember second secondMember :=
    orderly.apart first (List.mem_of_mem_erase firstMember) second
      (List.mem_of_mem_erase secondMember)

theorem removeNode_cases (tracker : Tracker) (address : SocketAddress) :
    tracker.removeNode address = none ∨
      ∃ id node, tracker.node? id = some node ∧
        ∃ events, tracker.removeNode address = some
          ((transition { tracker with
            registered := tracker.registered.erase node.id }.rebuildRing node .removed).1,
            node, events) := by
  unfold removeNode
  cases found : tracker.find? address with
  | none => exact .inl rfl
  | some node =>
    obtain ⟨_, id, _, known⟩ := find?_some found
    exact .inr ⟨id, node, known, _, rfl⟩

theorem markUp_cases (tracker : Tracker) (poolState : PoolId → PoolState)
    (address : SocketAddress) :
    (tracker.markUp poolState address).1 = tracker ∨
      ∃ id node, tracker.node? id = some node ∧
        (tracker.markUp poolState address).1 = (tracker.transition node .up).1 := by
  unfold markUp
  cases found : tracker.find? address with
  | none => exact .inl rfl
  | some node =>
    obtain ⟨_, id, _, known⟩ := find?_some found
    simp only
    split
    next => exact .inl rfl
    next => exact .inr ⟨id, node, known, rfl⟩

theorem markDown_cases (tracker : Tracker) (address : SocketAddress) :
    (tracker.markDown address).1 = tracker ∨
      ∃ id node, tracker.node? id = some node ∧
        (tracker.markDown address).1 = (tracker.transition node .down).1 := by
  unfold markDown
  cases found : tracker.find? address with
  | none => exact .inl rfl
  | some node =>
    obtain ⟨_, id, _, known⟩ := find?_some found
    exact .inr ⟨id, node, known, rfl⟩

theorem onPoolEvent_cases (tracker : Tracker) (event : PoolEvent) :
    tracker.find? event.address = none ∧
        (tracker.onPoolEvent event).1 = { tracker with applied := tracker.applied + 1 } ∨
      ∃ node, tracker.find? event.address = some node ∧
        (tracker.onPoolEvent event).1 =
          { (tracker.transition node event.health).1 with applied := tracker.applied + 1 } := by
  cases event with
  | up address =>
    cases found : tracker.find? address with
    | none => exact .inl ⟨found, by simp [onPoolEvent, found]⟩
    | some node =>
      exact .inr ⟨node, found, by simp [onPoolEvent, found, transition, update, PoolEvent.health]⟩
  | down address =>
    cases found : tracker.find? address with
    | none => exact .inl ⟨found, by simp [onPoolEvent, found]⟩
    | some node =>
      exact .inr ⟨node, found, by simp [onPoolEvent, found, transition, update, PoolEvent.health]⟩

end Tracker

/-! ### Nodes and pools together -/

/-- The nodes of a cluster with all pools that were ever opened for them. Each event that is queued
stands together with the pool that it comes from, of which the tracker does not know. -/
structure ClusterHistory where
  tracker : Tracker
  settings : PoolSettings
  pools : List PoolHistory := []
  queue : List (PoolId × PoolEvent) := []

namespace ClusterHistory

inductive Action where
  | addNode (contact : ContactPoint)
  | removeNode (address : SocketAddress)
  | markUp (address : SocketAddress)
  | markDown (address : SocketAddress)
  | openPool (node : NodeId)
  | pool (id : PoolId) (action : PoolHistory.Action)
  | deliver

def started (config : DriverConfig) : ClusterHistory where
  tracker := .ofConfig config
  settings := config.pool

def poolState (history : ClusterHistory) (id : PoolId) : PoolState :=
  match history.pools[id]? with
  | none => .closed
  | some pool => pool.pool.state

def openPool (history : ClusterHistory) (node : Node) : ClusterHistory :=
  let limits := PoolLimits.ofSettings history.settings (node.distance = .near)
  { history with
    pools := history.pools ++ [.opened node.address limits]
    tracker := history.tracker.update { node with pool := some history.pools.length } }

def actPool (history : ClusterHistory) (id : PoolId) (before : PoolHistory)
    (action : PoolHistory.Action) : ClusterHistory :=
  let after := before.act action
  { history with
    pools := history.pools.set id after
    queue := history.queue ++ (after.events.drop before.events.length).map fun event => (id, event) }

def act (history : ClusterHistory) : Action → ClusterHistory
  | .addNode contact => { history with tracker := (history.tracker.addNode contact).1 }
  | .removeNode address =>
      match history.tracker.removeNode address with
      | none => history
      | some (tracker, _, _) => { history with tracker }
  | .markUp address =>
      { history with tracker := (history.tracker.markUp history.poolState address).1 }
  | .markDown address => { history with tracker := (history.tracker.markDown address).1 }
  | .openPool id =>
      match history.tracker.node? id with
      | none => history
      | some node => if node.isPoolable ∧ node.pool = none then history.openPool node else history
  | .pool id action =>
      match history.pools[id]? with
      | none => history
      | some before => history.actPool id before action
  | .deliver =>
      match history.queue with
      | [] => history
      | (_, event) :: rest =>
          { history with queue := rest, tracker := (history.tracker.onPoolEvent event).1 }

def run (history : ClusterHistory) (actions : List Action) : ClusterHistory :=
  actions.foldl act history

theorem run_induction (holds : ClusterHistory → Prop)
    (step : ∀ history action, holds history → holds (history.act action))
    {history : ClusterHistory} (start : holds history) (actions : List Action) :
    holds (history.run actions) := by
  induction actions generalizing history with
  | nil => exact start
  | cons action rest ih => exact ih (step history action start)

def blank (config : DriverConfig) : ClusterHistory where
  tracker := {
    localDatacenter := config.localDatacenter
    allowRemote := config.allowRemoteDatacenters
    replicationFactor := config.replicationFactor }
  settings := config.pool

theorem run_addNode (history : ClusterHistory) (contacts : List ContactPoint) :
    history.run (contacts.map .addNode) = { history with
      tracker := contacts.foldl (fun tracker contact => (tracker.addNode contact).1)
        history.tracker } := by
  induction contacts generalizing history with
  | nil => rfl
  | cons contact rest ih => exact ih (history.act (.addNode contact))

theorem started_eq (config : DriverConfig) :
    started config = (blank config).run (config.contactPoints.map .addNode) := by
  rw [run_addNode]
  rfl

/-- Every pool belongs to exactly one node, from which it has its address. -/
structure Orderly (history : ClusterHistory) : Prop where
  nodes : history.tracker.Orderly
  sound : ∀ pool ∈ history.pools, pool.Sound
  owned : ∀ id address pool, history.tracker.holding? id = some (address, some pool) →
    ∃ service, history.pools[pool]? = some service ∧ service.pool.address = address
  owner : ∀ pool < history.pools.length, ∃ id address,
    history.tracker.holding? id = some (address, some pool)
  alone : ∀ first second pool address other,
    history.tracker.holding? first = some (address, some pool) →
      history.tracker.holding? second = some (other, some pool) → first = second
  queued : ∀ entry ∈ history.queue, entry.1 < history.pools.length

section Steps

variable {history : ClusterHistory}

theorem Orderly.retracked (orderly : history.Orderly) {tracker : Tracker}
    (nodes : tracker.Orderly)
    (holding : ∀ id, tracker.holding? id = history.tracker.holding? id) :
    Orderly { history with tracker } where
  nodes := nodes
  sound := orderly.sound
  owned id address pool held := orderly.owned id address pool ((holding id).symm.trans held)
  owner pool inside := by
    obtain ⟨id, address, held⟩ := orderly.owner pool inside
    exact ⟨id, address, (holding id).trans held⟩
  alone first second pool address other one two := by
    rw [holding] at one two
    exact orderly.alone first second pool address other one two
  queued := orderly.queued

theorem Orderly.transition (orderly : history.Orderly) {id : NodeId} {node : Node}
    (known : history.tracker.node? id = some node) (next : NodeState) :
    Orderly { history with tracker := (history.tracker.transition node next).1 } := by
  obtain ⟨nodes, _, holding, _⟩ := Tracker.transition_spec orderly.nodes known next
  exact orderly.retracked nodes holding

theorem Orderly.addNode (orderly : history.Orderly) (contact : ContactPoint) :
    Orderly { history with tracker := (history.tracker.addNode contact).1 } := by
  have nodes := orderly.nodes.addNode contact
  rcases history.tracker.addNode_cases contact with same | ⟨_, node, _, _, _, pool, added, _⟩
  · rw [same]
    exact orderly
  have known := Tracker.node?_added added
  generalize (history.tracker.addNode contact).1 = later at nodes known ⊢
  -- The new node has no pool yet.
  have held : ∀ id address pool, later.holding? id = some (address, some pool) ↔
      history.tracker.holding? id = some (address, some pool) := by
    intro id address other
    rw [Tracker.holding?, known]
    split
    next last =>
      have unknown : history.tracker.holding? id = none := by
        rw [last]
        simp [Tracker.holding?, Tracker.node?]
      rw [unknown, Option.map_some, pool]
      simp
    next => rfl
  refine ⟨nodes, orderly.sound, ?_, ?_, ?_, orderly.queued⟩
  · intro id address pool holds
    exact orderly.owned id address pool ((held id address pool).1 holds)
  · intro pool inside
    obtain ⟨id, address, holds⟩ := orderly.owner pool inside
    exact ⟨id, address, (held id address pool).2 holds⟩
  · intro first second pool address other one two
    exact orderly.alone first second pool address other ((held first address pool).1 one)
      ((held second other pool).1 two)

theorem node?_openPool {id : NodeId} {node : Node} (own : node.id = id)
    (known : history.tracker.node? id = some node) (other : NodeId) :
    (history.openPool node).tracker.node? other =
      if id = other then some { node with pool := some history.pools.length }
      else history.tracker.node? other := by
  subst own
  have filed : history.tracker.node?
      { node with pool := some history.pools.length : Node }.id = some node := known
  exact Tracker.node?_update filed other

theorem holding?_openPool (orderly : history.Orderly) {id : NodeId} {node : Node}
    (known : history.tracker.node? id = some node) (other : NodeId) :
    (history.openPool node).tracker.holding? other =
      if id = other then some (node.address, some history.pools.length)
      else history.tracker.holding? other := by
  rw [Tracker.holding?, node?_openPool (orderly.nodes.numbered id node known) known,
    Tracker.holding?]
  split <;> rfl

theorem holding?_openPool_cases (orderly : history.Orderly) {id : NodeId} {node : Node}
    (known : history.tracker.node? id = some node) {other : NodeId} {address : SocketAddress}
    {pool : PoolId}
    (held : (history.openPool node).tracker.holding? other = some (address, some pool)) :
    other = id ∧ pool = history.pools.length ∧ address = node.address ∨
      other ≠ id ∧ history.tracker.holding? other = some (address, some pool) := by
  rw [holding?_openPool orderly known] at held
  split at held
  next same =>
    cases held
    exact .inl ⟨same.symm, rfl, rfl⟩
  next different => exact .inr ⟨Ne.symm different, held⟩

theorem Orderly.pool_lt (orderly : history.Orderly) {id : NodeId} {address : SocketAddress}
    {pool : PoolId} (held : history.tracker.holding? id = some (address, some pool)) :
    pool < history.pools.length := by
  obtain ⟨_, found, _⟩ := orderly.owned id address pool held
  exact (List.getElem?_eq_some_iff.1 found).1

theorem Orderly.openPool (orderly : history.Orderly) {id : NodeId} {node : Node}
    (known : history.tracker.node? id = some node) (without : node.pool = none) :
    (history.openPool node).Orderly where
  nodes := by
    have filed : history.tracker.node? node.id = some node := by
      rwa [orderly.nodes.numbered id node known]
    exact orderly.nodes.update filed rfl
  sound pool member := by
    rcases List.mem_append.1 member with old | new
    · exact orderly.sound pool old
    · rw [List.mem_singleton.1 new]
      exact PoolHistory.opened_sound _ _
  owned other address pool held := by
    rcases holding?_openPool_cases orderly known held with ⟨_, rfl, rfl⟩ | ⟨_, held⟩
    · exact ⟨_, List.getElem?_concat_length, rfl⟩
    · obtain ⟨service, found, same⟩ := orderly.owned other address pool held
      exact ⟨service, (List.getElem?_append_left (orderly.pool_lt held)).trans found, same⟩
  owner pool within := by
    -- The new pool is the last one and belongs to the node it was opened for.
    by_cases last : pool = history.pools.length
    · refine ⟨id, node.address, ?_⟩
      rw [holding?_openPool orderly known, if_pos rfl, last]
    · have earlier : pool < history.pools.length := by
        simp only [ClusterHistory.openPool, List.length_append, List.length_singleton] at within
        exact Nat.lt_of_le_of_ne (Nat.le_of_lt_succ within) last
      obtain ⟨other, address, held⟩ := orderly.owner pool earlier
      refine ⟨other, address, ?_⟩
      rw [holding?_openPool orderly known, if_neg, held]
      rintro rfl
      simp [Tracker.holding?, known, without] at held
  alone first second pool address other one two := by
    rcases holding?_openPool_cases orderly known one with ⟨rfl, rfl, _⟩ | ⟨_, one⟩
    · rcases holding?_openPool_cases orderly known two with ⟨rfl, _⟩ | ⟨_, two⟩
      · rfl
      · exact absurd (orderly.pool_lt two) (Nat.lt_irrefl _)
    · rcases holding?_openPool_cases orderly known two with ⟨_, rfl, _⟩ | ⟨_, two⟩
      · exact absurd (orderly.pool_lt one) (Nat.lt_irrefl _)
      · exact orderly.alone first second pool address other one two
  queued entry member :=
    Nat.lt_of_lt_of_le (orderly.queued entry member) (by simp [ClusterHistory.openPool])

theorem Orderly.actPool (orderly : history.Orderly) {id : PoolId} {before : PoolHistory}
    (known : history.pools[id]? = some before) (action : PoolHistory.Action) :
    (history.actPool id before action).Orderly where
  nodes := orderly.nodes
  sound pool member := by
    rcases List.mem_or_eq_of_mem_set member with old | rfl
    · exact orderly.sound pool old
    · exact before.act_sound action (orderly.sound before (List.mem_of_getElem? known))
  owned other address pool held := by
    obtain ⟨service, found, same⟩ := orderly.owned other address pool held
    simp only [ClusterHistory.actPool, List.getElem?_set]
    split
    next this =>
      obtain rfl := this
      rw [known] at found
      cases found
      refine ⟨before.act action, ?_, (before.act_configured action).1.trans same⟩
      rw [if_pos (List.getElem?_eq_some_iff.1 known).1]
    next => exact ⟨service, found, same⟩
  owner pool within := by
    refine orderly.owner pool ?_
    simpa [ClusterHistory.actPool] using within
  alone := orderly.alone
  queued entry member := by
    simp only [ClusterHistory.actPool, List.length_set]
    rcases List.mem_append.1 member with old | new
    · exact orderly.queued entry old
    · obtain ⟨_, _, rfl⟩ := List.mem_map.1 new
      exact (List.getElem?_eq_some_iff.1 known).1

theorem Orderly.delivered (orderly : history.Orderly) {pool : PoolId} {event : PoolEvent}
    {rest : List (PoolId × PoolEvent)} (waiting : history.queue = (pool, event) :: rest) :
    Orderly { history with queue := rest, tracker := (history.tracker.onPoolEvent event).1 } := by
  have shorter : Orderly { history with queue := rest } :=
    { orderly with
      queued := fun entry member => orderly.queued entry (by simp [waiting, member]) }
  rcases history.tracker.onPoolEvent_cases event with ⟨_, same⟩ | ⟨node, found, same⟩
  · rw [same]
    exact shorter.retracked { orderly.nodes with } fun _ => rfl
  · rw [same]
    obtain ⟨_, id, _, known⟩ := Tracker.find?_some found
    have moved := shorter.transition known event.health
    exact moved.retracked { moved.nodes with } fun _ => rfl

end Steps

theorem act_orderly (history : ClusterHistory) (action : Action) (orderly : history.Orderly) :
    (history.act action).Orderly := by
  cases action with
  | addNode contact => exact orderly.addNode contact
  | removeNode address =>
    simp only [act]
    rcases history.tracker.removeNode_cases address with none | ⟨id, node, known, _, some⟩
    · rw [none]
      exact orderly
    · rw [some]
      have erased := orderly.retracked (orderly.nodes.erased node.id) fun _ => rfl
      exact erased.transition known .removed
  | markUp address =>
    simp only [act]
    rcases history.tracker.markUp_cases history.poolState address with same | ⟨_, _, known, same⟩
    · rw [same]
      exact orderly
    · rw [same]
      exact orderly.transition known .up
  | markDown address =>
    simp only [act]
    rcases history.tracker.markDown_cases address with same | ⟨_, _, known, same⟩
    · rw [same]
      exact orderly
    · rw [same]
      exact orderly.transition known .down
  | openPool id =>
    simp only [act]
    split
    next => exact orderly
    next node known =>
      split
      next allowed => exact orderly.openPool known allowed.2
      next => exact orderly
  | pool id action =>
    simp only [act]
    split
    next => exact orderly
    next before known => exact orderly.actPool known action
  | deliver =>
    simp only [act]
    split
    next => exact orderly
    next event rest waiting => exact orderly.delivered waiting

theorem blank_orderly (config : DriverConfig) : (blank config).Orderly where
  nodes := .empty rfl rfl
  sound := nofun
  owned := nofun
  owner := nofun
  alone := nofun
  queued := nofun

theorem started_orderly (config : DriverConfig) : (started config).Orderly := by
  rw [started_eq]
  exact run_induction Orderly act_orderly (blank_orderly config) _

end ClusterHistory

end ClusterDriver
