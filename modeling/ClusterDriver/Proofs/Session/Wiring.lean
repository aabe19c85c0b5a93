import ClusterDriver.Proofs.Session.Affairs
import ClusterDriver.Proofs.Session.Standing

/-!
The connections of a session with the pools and the nodes that they belong to, and whatever can
become of them. A node that is ignored has no pool, so that no connection leads to it. A node is
removed together with its pool: the pool is closed, nothing can be sent over its connections any
more, and the node gets no other.
-/

set_option autoImplicit false

namespace ClusterDriver

theorem Channel.not_usable_of_closing {channel : Channel} (closing : channel.closing = true) :
    channel.isUsable = false :=
  isUsable_eq_false.2 (.inr closing)

theorem Channel.send_refused {channel : Channel} (unusable : channel.isUsable = false)
    (opcode : Opcode) (body : ByteArray) : ∃ cause, channel.send opcode body = .error cause := by
  unfold send checkIn
  cases ended : channel.closeReason with
  | some reason => exact ⟨_, rfl⟩
  | none =>
    have closing : channel.closing = true := by
      simpa [isUsable, isClosed, ended] using unusable
    simp only [closing, if_true]
    exact ⟨_, rfl⟩

namespace Node

structure Restated (before after : Node) : Prop where
  same : after = { before with state := after.state }
  removed : after.state = .removed ↔ before.state = .removed

theorem Restated.refl (node : Node) : node.Restated node := ⟨rfl, Iff.rfl⟩

theorem restated_transition (node : Node) {next : NodeState} (stays : next ≠ .removed) :
    node.Restated (node.transition next).1 where
  same := Tracker.transition_eq node next
  removed := by
    unfold transition
    split
    next => exact Iff.rfl
    next changes => exact iff_of_false stays fun gone => changes (.inr gone)

end Node

theorem PoolEvent.health_stays (event : PoolEvent) : event.health ≠ .removed := by
  cases event <;> exact nofun

namespace Tracker

structure Restated (before after : Tracker) : Prop where
  orderly : after.Orderly
  registered : after.registered = before.registered
  kept : ∀ id node, before.node? id = some node →
    ∃ later, after.node? id = some later ∧ node.Restated later
  known : ∀ id later, after.node? id = some later →
    ∃ node, before.node? id = some node ∧ node.Restated later

theorem Restated.refl {tracker : Tracker} (orderly : tracker.Orderly) :
    tracker.Restated tracker where
  orderly := orderly
  registered := rfl
  kept _ node known := ⟨node, known, .refl node⟩
  known _ node known := ⟨node, known, .refl node⟩

theorem Restated.transition {tracker : Tracker} (orderly : tracker.Orderly) {id : NodeId}
    {node : Node} (known : tracker.node? id = some node) {next : NodeState}
    (stays : next ≠ .removed) : tracker.Restated (tracker.transition node next).1 := by
  obtain ⟨remains, registered, _, nodes⟩ := transition_spec orderly known next
  refine ⟨remains, registered, ?_, ?_⟩
  · intro other earlier found
    rw [nodes]
    split
    next same =>
      subst same
      obtain rfl := Option.some.inj (known.symm.trans found)
      exact ⟨_, rfl, node.restated_transition stays⟩
    next => exact ⟨earlier, found, .refl earlier⟩
  · intro other later found
    rw [nodes] at found
    split at found
    next same =>
      cases found
      exact ⟨node, same ▸ known, node.restated_transition stays⟩
    next => exact ⟨later, found, .refl later⟩

theorem Restated.markDown {tracker : Tracker} (orderly : tracker.Orderly)
    (address : SocketAddress) : tracker.Restated (tracker.markDown address).1 := by
  rcases tracker.markDown_cases address with same | ⟨id, node, known, same⟩
  · rw [same]
    exact .refl orderly
  · rw [same]
    exact .transition orderly known nofun

theorem Restated.markUp {tracker : Tracker} (orderly : tracker.Orderly)
    (poolState : PoolId → PoolState) (address : SocketAddress) :
    tracker.Restated (tracker.markUp poolState address).1 := by
  rcases tracker.markUp_cases poolState address with same | ⟨id, node, known, same⟩
  · rw [same]
    exact .refl orderly
  · rw [same]
    exact .transition orderly known nofun

theorem Restated.onPoolEvent {tracker : Tracker} (orderly : tracker.Orderly) (event : PoolEvent) :
    tracker.Restated (tracker.onPoolEvent event).1 := by
  have counted {after : Tracker} (restated : tracker.Restated after) :
      tracker.Restated { after with applied := tracker.applied + 1 } :=
    ⟨⟨restated.orderly.numbered, restated.orderly.registered, restated.orderly.distinct,
      restated.orderly.apart⟩, restated.registered, restated.kept, restated.known⟩
  rcases tracker.onPoolEvent_cases event with ⟨_, same⟩ | ⟨node, found, same⟩
  · rw [same]
    exact counted (.refl orderly)
  · obtain ⟨_, id, _, known⟩ := find?_some found
    rw [same]
    exact counted (.transition orderly known event.health_stays)

theorem removeNode_spec {tracker later : Tracker} (orderly : tracker.Orderly)
    {address : SocketAddress} {node : Node} {events : List NodeEvent}
    (removed : tracker.removeNode address = some (later, node, events)) :
    later.Orderly ∧ tracker.node? node.id = some node ∧ node.address = address ∧
      node.id ∈ tracker.registered ∧ later.registered = tracker.registered.erase node.id ∧
      ∀ id, later.node? id =
        if node.id = id then some (node.transition .removed).1 else tracker.node? id := by
  unfold removeNode at removed
  cases found : tracker.find? address with
  | none => simp [found] at removed
  | some present =>
    obtain ⟨same, id, registered, known⟩ := find?_some found
    obtain rfl := orderly.numbered id present known
    simp only [found, Option.some.injEq, Prod.mk.injEq] at removed
    obtain ⟨rfl, rfl, _⟩ := removed
    have filed : Tracker.node? { tracker with
        registered := tracker.registered.erase present.id }.rebuildRing present.id =
          some present := known
    obtain ⟨stays, kept, _, nodes⟩ :=
      transition_spec (orderly.erased present.id) filed .removed
    exact ⟨stays, known, same, registered, kept, nodes⟩

end Tracker

theorem Node.state_removed (node : Node) : (node.transition .removed).1.state = .removed := by
  unfold transition
  split
  next settled => rcases settled with gone | gone <;> exact gone
  next => rfl

namespace Simulation

/-! ### Lists that go on member by member -/

section Forall₂

variable {α : Type} {related : α → α → Prop} {before middle after : List α}

theorem forall₂_trans (composes : ∀ {one two three}, related one two → related two three →
    related one three) (one : List.Forall₂ related before middle)
    (two : List.Forall₂ related middle after) : List.Forall₂ related before after := by
  induction one generalizing after with
  | nil =>
    cases two
    exact .nil
  | cons first _ ih =>
    cases two with
    | cons second rest => exact .cons (composes first second) (ih rest)

theorem forall₂_earlier (goOn : List.Forall₂ related before after) {index : Nat} {later : α}
    (there : after[index]? = some later) :
    ∃ earlier, before[index]? = some earlier ∧ related earlier later := by
  induction goOn generalizing index with
  | nil => cases there
  | @cons first second _ _ one _ ih =>
    cases index with
    | zero =>
      obtain rfl := Option.some.inj there
      exact ⟨first, rfl, one⟩
    | succ index => exact ih there

theorem forall₂_later (goOn : List.Forall₂ related before after) {index : Nat} {earlier : α}
    (there : before[index]? = some earlier) :
    ∃ later, after[index]? = some later ∧ related earlier later := by
  induction goOn generalizing index with
  | nil => cases there
  | @cons first second _ _ one _ ih =>
    cases index with
    | zero =>
      obtain rfl := Option.some.inj there
      exact ⟨second, rfl, one⟩
    | succ index => exact ih there

theorem forall₂_modify (stays : ∀ part, related part part) {parts : List α} {index : Nat}
    {change : α → α} (changes : ∀ part, parts[index]? = some part → related part (change part)) :
    List.Forall₂ related parts (parts.modify index change) := by
  induction parts generalizing index with
  | nil =>
    cases index with
    | zero => exact .nil
    | succ index => exact .nil
  | cons first rest ih =>
    cases index with
    | zero => exact .cons (changes first rfl) (List.forall₂_same.2 fun part _ => stays part)
    | succ index => exact .cons (stays first) (ih changes)

end Forall₂

namespace Cord

structure Onward (before after : Cord) : Prop where
  pool : after.pool = before.pool
  sent : after.channel.nextRequest = before.channel.nextRequest
  unusable : before.channel.isUsable = false → after.channel.isUsable = false

theorem Onward.refl (cord : Cord) : cord.Onward cord := ⟨rfl, rfl, fun unusable => unusable⟩

theorem Onward.trans {before middle after : Cord} (one : before.Onward middle)
    (two : middle.Onward after) : before.Onward after where
  pool := two.pool.trans one.pool
  sent := two.sent.trans one.sent
  unusable unusable := two.unusable (one.unusable unusable)

abbrev Runs : List Cord → List Cord → Prop := List.Forall₂ Onward

theorem Runs.refl (cords : List Cord) : Runs cords cords :=
  List.forall₂_same.2 fun cord _ => .refl cord

theorem Runs.trans {before middle after : List Cord} (one : Runs before middle)
    (two : Runs middle after) : Runs before after :=
  forall₂_trans Onward.trans one two

theorem Runs.modify {cords : List Cord} {channel : ChannelId} {change : Cord → Cord}
    (onward : ∀ cord, cords[channel]? = some cord → cord.Onward (change cord)) :
    Runs cords (cords.modify channel change) :=
  forall₂_modify Onward.refl onward

end Cord

namespace Wiring

def cord? (wiring : Wiring) (channel : ChannelId) : Option Cord := wiring.cords[channel]?

def pool? (wiring : Wiring) (number : PoolId) : Option Pool := wiring.pools[number]?

def node? (wiring : Wiring) (id : NodeId) : Option Node := wiring.tracker.node? id

def Over (pools : List Pool) (number : PoolId) : Prop :=
  ∀ pool, pools[number]? = some pool → pool.isClosed = true

/-- Nothing can be sent over this connection any more. -/
def Dead (cords : List Cord) (channel : ChannelId) : Prop :=
  ∀ cord, cords[channel]? = some cord → cord.channel.isUsable = false

theorem Dead.runs {before after : List Cord} {channel : ChannelId} (dead : Dead before channel)
    (runs : Cord.Runs before after) : Dead after channel := by
  intro cord there
  obtain ⟨earlier, known, onward⟩ := forall₂_earlier runs there
  exact onward.unusable (dead earlier known)

structure Thins (cords : List Cord) (before after : Pool) : Prop where
  address : after.address = before.address
  isClosed : after.isClosed = before.isClosed
  fewer : after.channels ⊆ before.channels
  lost : ∀ channel ∈ before.channels, channel ∈ after.channels ∨ Dead cords channel

/-- All connections go on, but those of one pool are closed. -/
structure Closes (before : Wiring) (number : Option PoolId) (cords : List Cord) : Prop where
  runs : Cord.Runs before.cords cords
  dead : ∀ id pool, number = some id → before.pool? id = some pool →
    ∀ channel ∈ pool.channels, Dead cords channel

/-- Whatever can become of connections, pools and nodes at a time. What is sent goes over a
connection that a pool has in service, and a new connection belongs to a pool that is there or to
nobody. -/
inductive Move (before : Wiring) : Wiring → Prop where
  | goesOn (channel : ChannelId) (change : Cord → Cord)
      (onward : ∀ cord, before.cord? channel = some cord → cord.Onward (change cord)) :
      Move before { before with cords := before.cords.modify channel change }
  | sends {channel : ChannelId} {cord : Cord} {number : PoolId} {pool : Pool} {opcode : Opcode}
      {body : ByteArray} {request : RequestId} {sent : Channel}
      (found : before.pool? number = some pool) (listed : channel ∈ pool.channels)
      (there : before.cord? channel = some cord)
      (accepted : cord.channel.send opcode body = .ok (request, sent)) :
      Move before { before with
        cords := before.cords.modify channel fun cord => { cord with channel := sent } }
  | loose (channel : Channel) (unused : channel.nextRequest = 0) :
      Move before { before with cords := before.cords ++ [⟨channel, none⟩] }
  | joins {number : PoolId} {pool : Pool} (channel : Channel) (unused : channel.nextRequest = 0)
      (found : before.pool? number = some pool) (isOpen : pool.isClosed = false) :
      Move before { before with
        cords := before.cords ++ [⟨channel, some number⟩]
        pools := before.pools.modify number fun pool =>
          { pool with channels := pool.channels ++ [before.cords.length], state := .ready } }
  | spurned {number : PoolId} {pool : Pool} (channel : Channel) (unused : channel.nextRequest = 0)
      (found : before.pool? number = some pool) (unusable : channel.isUsable = false) :
      Move before { before with cords := before.cords ++ [⟨channel, some number⟩] }
  | thins (number : PoolId) (change : Pool → Pool)
      (thins : ∀ pool, before.pool? number = some pool → Thins before.cords pool (change pool)) :
      Move before { before with pools := before.pools.modify number change }
  | stops {number : PoolId} {cords : List Cord} (closes : before.Closes (some number) cords) :
      Move before { before with cords, pools := Standing.stop before.pools (some number) }
  | opens {id : NodeId} {node : Node} (limits : PoolLimits)
      (known : before.node? id = some node) (poolable : node.isPoolable = true)
      (bare : node.pool = none) :
      Move before { before with
        pools := before.pools ++ [{ address := node.address, limits }]
        tracker := before.tracker.update { node with pool := some before.pools.length } }
  | signals {tracker : Tracker}
      (restated : before.tracker.Orderly → before.tracker.Restated tracker) :
      Move before { before with tracker }
  | adds (contact : ContactPoint) :
      Move before { before with tracker := (before.tracker.addNode contact).1 }
  | removes {address : SocketAddress} {tracker : Tracker} {node : Node} {events : List NodeEvent}
      {cords : List Cord}
      (removed : before.tracker.removeNode address = some (tracker, node, events))
      (closes : before.Closes node.pool cords) :
      Move before { before with cords, pools := Standing.stop before.pools node.pool, tracker }

def Moves : Wiring → Wiring → Prop := Relation.ReflTransGen Move

/-! ### What holds of every session -/

/-- Every pool belongs to a node that is not ignored, and of a node that was removed there is no
open pool. -/
structure Owned (pools : List Pool) (tracker : Tracker) : Prop where
  nodes : tracker.Orderly
  absent : ∀ id node, tracker.node? id = some node →
    id ∈ tracker.registered ∨ node.state = .removed
  owned : ∀ (number : PoolId) (pool : Pool), pools[number]? = some pool →
    ∃ id node, tracker.node? id = some node ∧ node.pool = some number ∧
      node.address = pool.address
  owns : ∀ id node number, tracker.node? id = some node → node.pool = some number →
    number < pools.length ∧ node.distance ≠ .ignored
  left : ∀ id node number, tracker.node? id = some node → node.state = .removed →
    node.pool = some number → Over pools number

/-- A connection that its pool does not have in service any more is of no use. -/
structure Served (cords : List Cord) (pools : List Pool) : Prop where
  empty : ∀ (number : PoolId) (pool : Pool), pools[number]? = some pool →
    pool.isClosed = true → pool.channels = []
  listed : ∀ (number : PoolId) (pool : Pool), pools[number]? = some pool →
    ∀ channel ∈ pool.channels, ∃ cord, cords[channel]? = some cord ∧ cord.pool = some number
  served : ∀ (channel : ChannelId) (cord : Cord) (number : PoolId),
    cords[channel]? = some cord → cord.pool = some number → ∃ pool, pools[number]? = some pool ∧
      (channel ∈ pool.channels ∨ cord.channel.isUsable = false)
  sent : ∀ (channel : ChannelId) (cord : Cord), cords[channel]? = some cord →
    cord.channel.nextRequest ≠ 0 → cord.pool ≠ none

structure Sound (wiring : Wiring) : Prop where
  owned : Owned wiring.pools wiring.tracker
  served : Served wiring.cords wiring.pools

/-! ### Pools and their nodes -/

structure Persists (before after : Pool) : Prop where
  address : after.address = before.address
  closed : before.isClosed = true → after.isClosed = true

theorem Persists.refl (pool : Pool) : Persists pool pool := ⟨rfl, fun closed => closed⟩

theorem Over.persists {before after : List Pool} {number : PoolId} (ceased : Over before number)
    (persist : List.Forall₂ Persists before after) : Over after number := by
  intro pool there
  obtain ⟨earlier, known, persists⟩ := forall₂_earlier persist there
  exact persists.closed (ceased earlier known)

theorem Owned.pools {before after : List Pool} {tracker : Tracker} (owned : Owned before tracker)
    (persist : List.Forall₂ Persists before after) : Owned after tracker where
  nodes := owned.nodes
  absent := owned.absent
  owned number pool there := by
    obtain ⟨earlier, known, persists⟩ := forall₂_earlier persist there
    rw [persists.address]
    exact owned.owned number earlier known
  owns id node number known own := by
    rw [← persist.length_eq]
    exact owned.owns id node number known own
  left id node number known gone own := (owned.left id node number known gone own).persists persist

theorem persists_beginClose (pool : Pool) : Persists pool pool.beginClose.1 :=
  ⟨rfl, fun _ => rfl⟩

theorem persist_stop (pools : List Pool) (number : Option PoolId) :
    List.Forall₂ Persists pools (Standing.stop pools number) := by
  cases number with
  | none => exact List.forall₂_same.2 fun pool _ => .refl pool
  | some id => exact forall₂_modify Persists.refl fun pool _ => persists_beginClose pool

theorem over_stop (pools : List Pool) (number : PoolId) :
    Over (Standing.stop pools (some number)) number := by
  intro pool there
  simp only [Standing.stop, List.getElem?_modify, if_true] at there
  obtain ⟨earlier, _, rfl⟩ := Option.map_eq_some_iff.1 there
  rfl

theorem Owned.signals {pools : List Pool} {tracker later : Tracker} (owned : Owned pools tracker)
    (restated : tracker.Restated later) : Owned pools later where
  nodes := restated.orderly
  absent id node there := by
    obtain ⟨earlier, known, same⟩ := restated.known id node there
    rw [restated.registered]
    exact (owned.absent id earlier known).imp_right same.removed.2
  owned number pool there := by
    obtain ⟨id, node, known, own, address⟩ := owned.owned number pool there
    obtain ⟨after, found, same⟩ := restated.kept id node known
    refine ⟨id, after, found, ?_, ?_⟩
    · rw [same.same]
      exact own
    · rw [same.same]
      exact address
  owns id node number there own := by
    obtain ⟨earlier, known, same⟩ := restated.known id node there
    rw [same.same] at own ⊢
    exact owned.owns id earlier number known own
  left id node number there gone own := by
    obtain ⟨earlier, known, same⟩ := restated.known id node there
    rw [same.same] at own
    exact owned.left id earlier number known (same.removed.1 gone) own

theorem Owned.opens {pools : List Pool} {tracker : Tracker} (owned : Owned pools tracker)
    {id : NodeId} {node : Node} (limits : PoolLimits) (known : tracker.node? id = some node)
    (poolable : node.isPoolable = true) (bare : node.pool = none) :
    Owned (pools ++ [{ address := node.address, limits }])
      (tracker.update { node with pool := some pools.length }) := by
  obtain rfl := owned.nodes.numbered id node known
  obtain ⟨wanted, present⟩ : node.distance ≠ .ignored ∧ node.state ≠ .removed := by
    simpa [Node.isPoolable] using poolable
  have nodes : ∀ other,
      (tracker.update { node with pool := some pools.length }).node? other =
        if node.id = other then some { node with pool := some pools.length }
        else tracker.node? other := Tracker.node?_update known
  have longer : (pools ++ [({ address := node.address, limits } : Pool)]).length =
      pools.length + 1 := List.length_append
  refine ⟨owned.nodes.update known rfl, ?_, ?_, ?_, ?_⟩
  · intro other later there
    rw [nodes] at there
    split at there
    next same => exact .inl (same ▸ (owned.absent node.id node known).resolve_right present)
    next => exact owned.absent other later there
  · intro number pool there
    rcases Nat.lt_trichotomy number pools.length with old | new | beyond
    · rw [List.getElem?_append_left old] at there
      obtain ⟨holder, keeper, found, own, address⟩ := owned.owned number pool there
      refine ⟨holder, keeper, ?_, own, address⟩
      rw [nodes, if_neg, found]
      -- The node had no pool until now.
      rintro rfl
      obtain rfl := Option.some.inj (known.symm.trans found)
      rw [bare] at own
      cases own
    · subst new
      rw [List.getElem?_append_right (Nat.le_refl _), Nat.sub_self] at there
      obtain rfl := Option.some.inj there
      exact ⟨node.id, _, (nodes node.id).trans (if_pos rfl), rfl, rfl⟩
    · have inside := (List.getElem?_eq_some_iff.1 there).1
      omega
  · intro other later number there own
    rw [nodes] at there
    rw [longer]
    split at there
    next =>
      cases there
      cases own
      exact ⟨Nat.lt_succ_self _, wanted⟩
    next =>
      obtain ⟨inside, wanted⟩ := owned.owns other later number there own
      exact ⟨Nat.lt_succ_of_lt inside, wanted⟩
  · intro other later number there gone own pool found
    rw [nodes] at there
    split at there
    next =>
      cases there
      exact absurd gone present
    next =>
      rw [List.getElem?_append_left (owned.owns other later number there own).1] at found
      exact owned.left other later number there gone own pool found

theorem Owned.adds {pools : List Pool} {tracker : Tracker} (owned : Owned pools tracker)
    (contact : ContactPoint) : Owned pools (tracker.addNode contact).1 := by
  have nodes := owned.nodes.addNode contact
  rcases tracker.addNode_cases contact with same | ⟨_, node, _, _, _, bare, added, ids⟩
  · rwa [same]
  have found := Tracker.node?_added added
  generalize (tracker.addNode contact).1 = later at nodes found ids ⊢
  have older {id : NodeId} {known : Node} {number : PoolId} (there : later.node? id = some known)
      (own : known.pool = some number) : tracker.node? id = some known := by
    rw [found] at there
    split at there
    next =>
      cases there
      rw [bare] at own
      cases own
    next => exact there
  refine ⟨nodes, ?_, ?_, ?_, ?_⟩
  · intro id known there
    rw [found] at there
    rw [ids]
    split at there
    next last => exact .inl (last ▸ List.mem_append_right _ (List.mem_singleton_self _))
    next => exact (owned.absent id known there).imp_left (List.mem_append_left _)
  · intro number pool there
    obtain ⟨id, known, filed, own, address⟩ := owned.owned number pool there
    refine ⟨id, known, ?_, own, address⟩
    rw [found, if_neg (Nat.ne_of_lt (Tracker.node?_lt filed)), filed]
  · intro id known number there own
    exact owned.owns id known number (older there own) own
  · intro id known number there gone own
    exact owned.left id known number (older there own) gone own

theorem Owned.removes {pools : List Pool} {tracker later : Tracker} (owned : Owned pools tracker)
    {address : SocketAddress} {node : Node} {events : List NodeEvent}
    (removed : tracker.removeNode address = some (later, node, events)) :
    Owned (Standing.stop pools node.pool) later := by
  obtain ⟨stays, known, _, _, registered, nodes⟩ := Tracker.removeNode_spec owned.nodes removed
  have closed := owned.pools (persist_stop pools node.pool)
  have kept := Tracker.transition_eq node .removed
  refine ⟨stays, ?_, ?_, ?_, ?_⟩
  · intro id keeper there
    rw [nodes] at there
    rw [registered]
    split at there
    next =>
      cases there
      exact .inr node.state_removed
    next different =>
      refine (owned.absent id keeper there).imp_left fun member => ?_
      exact (List.mem_erase_of_ne (Ne.symm different)).2 member
  · intro number pool there
    obtain ⟨id, keeper, found, own, same⟩ := closed.owned number pool there
    by_cases leaves : node.id = id
    · subst leaves
      obtain rfl := Option.some.inj (known.symm.trans found)
      refine ⟨node.id, _, (nodes node.id).trans (if_pos rfl), ?_, ?_⟩
      · rw [kept]
        exact own
      · rw [kept]
        exact same
    · exact ⟨id, keeper, (nodes id).trans ((if_neg leaves).trans found), own, same⟩
  · intro id keeper number there own
    rw [nodes] at there
    split at there
    next same =>
      cases there
      rw [kept] at own ⊢
      exact closed.owns node.id node number known own
    next => exact closed.owns id keeper number there own
  · intro id keeper number there gone own
    rw [nodes] at there
    split at there
    next same =>
      cases there
      rw [kept] at own
      rw [show node.pool = some number from own]
      exact over_stop pools number
    next => exact closed.left id keeper number there gone own

/-! ### Connections and their pools -/

structure Lasts (before after : Cord) : Prop where
  pool : after.pool = before.pool
  unusable : before.channel.isUsable = false → after.channel.isUsable = false
  sent : after.channel.nextRequest ≠ 0 → before.channel.nextRequest ≠ 0 ∨ before.pool ≠ none

theorem Lasts.refl (cord : Cord) : Lasts cord cord := ⟨rfl, fun unusable => unusable, .inl⟩

theorem lasts_runs {before after : List Cord} (runs : Cord.Runs before after) :
    List.Forall₂ Lasts before after := by
  refine runs.imp fun earlier later onward => ⟨onward.pool, onward.unusable, fun sent => ?_⟩
  rw [onward.sent] at sent
  exact .inl sent

theorem Served.cords {before after : List Cord} {pools : List Pool} (served : Served before pools)
    (last : List.Forall₂ Lasts before after) : Served after pools where
  empty := served.empty
  listed number pool there channel member := by
    obtain ⟨cord, known, own⟩ := served.listed number pool there channel member
    obtain ⟨later, found, lasts⟩ := forall₂_later last known
    exact ⟨later, found, lasts.pool.trans own⟩
  served channel cord number there own := by
    obtain ⟨earlier, known, lasts⟩ := forall₂_earlier last there
    rw [lasts.pool] at own
    obtain ⟨pool, found, serves⟩ := served.served channel earlier number known own
    exact ⟨pool, found, serves.imp_right lasts.unusable⟩
  sent channel cord there sent := by
    obtain ⟨earlier, known, lasts⟩ := forall₂_earlier last there
    rw [lasts.pool]
    exact (lasts.sent sent).elim (served.sent channel earlier known) fun pooled => pooled

theorem Served.joins {cords : List Cord} {before after : List Pool} (served : Served cords before)
    (channel : Channel) (unused : channel.nextRequest = 0) (number : Option PoolId)
    (pools : ∀ (other : PoolId) (later : Pool), after[other]? = some later → ∃ pool : Pool,
      before[other]? = some pool ∧ (later.isClosed = true → later = pool) ∧
        pool.channels ⊆ later.channels ∧ ∀ tested ∈ later.channels,
          tested ∈ pool.channels ∨ tested = cords.length ∧ number = some other)
    (longer : before.length = after.length)
    (lists : ∀ own, number = some own → ∃ pool, after[own]? = some pool ∧
      (cords.length ∈ pool.channels ∨ channel.isUsable = false)) :
    Served (cords ++ [⟨channel, number⟩]) after := by
  have old {tested : ChannelId} {cord : Cord} (known : cords[tested]? = some cord) :
      (cords ++ [⟨channel, number⟩])[tested]? = some cord := by
    rw [List.getElem?_append_left (List.getElem?_eq_some_iff.1 known).1, known]
  have new : (cords ++ [⟨channel, number⟩])[cords.length]? = some ⟨channel, number⟩ :=
    List.getElem?_concat_length
  -- A connection is an old one or the one that joins.
  have cases {tested : ChannelId} {cord : Cord}
      (there : (cords ++ [⟨channel, number⟩])[tested]? = some cord) :
      cords[tested]? = some cord ∨ tested = cords.length ∧ cord = ⟨channel, number⟩ := by
    rcases Nat.lt_trichotomy tested cords.length with inside | rfl | beyond
    · rw [List.getElem?_append_left inside] at there
      exact .inl there
    · rw [new] at there
      exact .inr ⟨rfl, (Option.some.inj there).symm⟩
    · have inside := (List.getElem?_eq_some_iff.1 there).1
      rw [List.length_append, List.length_singleton] at inside
      omega
  refine ⟨?_, ?_, ?_, ?_⟩
  · intro other later there closed
    obtain ⟨pool, found, same, _⟩ := pools other later there
    obtain rfl := same closed
    exact served.empty other later found closed
  · intro other later there tested member
    obtain ⟨pool, found, _, _, fewer⟩ := pools other later there
    rcases fewer tested member with earlier | ⟨rfl, own⟩
    · obtain ⟨cord, known, own⟩ := served.listed other pool found tested earlier
      exact ⟨cord, old known, own⟩
    · exact ⟨_, new, own⟩
  · intro tested cord own there belongs
    rcases cases there with known | ⟨rfl, rfl⟩
    · obtain ⟨pool, found, serves⟩ := served.served tested cord own known belongs
      have inside := (List.getElem?_eq_some_iff.1 found).1
      rw [longer] at inside
      have later := List.getElem?_eq_getElem inside
      obtain ⟨earlier, found', _, more, _⟩ := pools own _ later
      obtain rfl := Option.some.inj (found.symm.trans found')
      exact ⟨_, later, serves.imp_left fun member => more member⟩
    · exact lists own belongs
  · intro tested cord there sent
    rcases cases there with known | ⟨rfl, rfl⟩
    · exact served.sent tested cord known sent
    · exact absurd unused sent

theorem Served.thins {cords : List Cord} {pools : List Pool} (served : Served cords pools)
    {number : PoolId} {change : Pool → Pool}
    (thins : ∀ pool, pools[number]? = some pool → Thins cords pool (change pool)) :
    Served cords (pools.modify number change) := by
  have cases {other : PoolId} {later : Pool}
      (there : (pools.modify number change)[other]? = some later) :
      ∃ pool, pools[other]? = some pool ∧ (later = pool ∨ Thins cords pool later) := by
    rw [List.getElem?_modify] at there
    obtain ⟨pool, found, same⟩ := Option.map_eq_some_iff.1 there
    refine ⟨pool, found, ?_⟩
    rw [← same]
    split
    next own =>
      subst own
      exact .inr (thins pool found)
    next => exact .inl rfl
  refine ⟨?_, ?_, ?_, served.sent⟩
  · intro other later there closed
    obtain ⟨pool, found, rfl | thins⟩ := cases there
    · exact served.empty other later found closed
    · rw [thins.isClosed] at closed
      exact List.subset_nil.1 (served.empty other pool found closed ▸ thins.fewer)
  · intro other later there channel member
    obtain ⟨pool, found, rfl | thins⟩ := cases there
    · exact served.listed other later found channel member
    · exact served.listed other pool found channel (thins.fewer member)
  · intro channel cord other there own
    obtain ⟨pool, found, serves⟩ := served.served channel cord other there own
    have inside := (List.getElem?_eq_some_iff.1 found).1
    rw [← List.length_modify change pools number] at inside
    have later := List.getElem?_eq_getElem inside
    refine ⟨_, later, ?_⟩
    obtain ⟨earlier, known, same⟩ := cases later
    obtain rfl := Option.some.inj (found.symm.trans known)
    rcases same with same | thins
    · rwa [same]
    · rcases serves with member | unusable
      · exact (thins.lost channel member).imp_right fun dead => dead cord there
      · exact .inr unusable

theorem Served.stops {before : Wiring} (served : Served before.cords before.pools)
    {number : Option PoolId} {cords : List Cord} (closes : before.Closes number cords) :
    Served cords (Standing.stop before.pools number) := by
  have went := served.cords (lasts_runs closes.runs)
  cases number with
  | none => exact went
  | some id =>
    have cases {other : PoolId} {later : Pool}
        (there : (Standing.stop before.pools (some id))[other]? = some later) :
        ∃ pool, before.pools[other]? = some pool ∧
          (id = other ∧ later = pool.beginClose.1 ∨ later = pool) := by
      rw [Standing.stop, List.getElem?_modify] at there
      obtain ⟨pool, found, same⟩ := Option.map_eq_some_iff.1 there
      refine ⟨pool, found, ?_⟩
      rw [← same]
      split
      next own => exact .inl ⟨own, rfl⟩
      next => exact .inr rfl
    refine ⟨?_, ?_, ?_, went.sent⟩
    · intro other later there closed
      obtain ⟨pool, found, ⟨_, rfl⟩ | rfl⟩ := cases there
      · rfl
      · exact served.empty other later found closed
    · intro other later there channel member
      obtain ⟨pool, found, ⟨_, rfl⟩ | rfl⟩ := cases there
      · cases member
      · exact went.listed other later found channel member
    · intro channel cord other there own
      obtain ⟨pool, found, serves⟩ := went.served channel cord other there own
      have inside := (List.getElem?_eq_some_iff.1 found).1
      rw [← Standing.length_stop before.pools (some id)] at inside
      have later := List.getElem?_eq_getElem inside
      refine ⟨_, later, ?_⟩
      obtain ⟨earlier, known, same⟩ := cases later
      obtain rfl := Option.some.inj (found.symm.trans known)
      rcases same with ⟨rfl, _⟩ | same
      -- The pool has nothing in service any more, so all its connections must be of no use.
      · exact .inr (serves.elim (fun member => closes.dead _ pool rfl found channel member cord there)
          fun unusable => unusable)
      · rwa [same]

/-! ### What moves keep -/

section Steps

variable {before after : Wiring}

theorem Sound.opens (sound : before.Sound) {id : NodeId} {node : Node} (limits : PoolLimits)
    (known : before.node? id = some node) (poolable : node.isPoolable = true)
    (bare : node.pool = none) :
    Sound { before with
      pools := before.pools ++ [{ address := node.address, limits }]
      tracker := before.tracker.update { node with pool := some before.pools.length } } where
  owned := sound.owned.opens limits known poolable bare
  served := by
    obtain ⟨empty, listed, served, sent⟩ := sound.served
    have cases {other : PoolId} {later : Pool}
        (there : (before.pools ++ [({ address := node.address, limits } : Pool)])[other]? =
          some later) : before.pools[other]? = some later ∨
            later = { address := node.address, limits } := by
      rcases Nat.lt_or_ge other before.pools.length with old | new
      · rw [List.getElem?_append_left old] at there
        exact .inl there
      · rw [List.getElem?_append_right new] at there
        exact .inr (List.mem_singleton.1 (List.mem_of_getElem? there))
    refine ⟨?_, ?_, ?_, sent⟩
    · intro other later there closed
      rcases cases there with known | rfl
      · exact empty other later known closed
      · rfl
    · intro other later there channel member
      rcases cases there with known | rfl
      · exact listed other later known channel member
      · cases member
    · intro channel cord other there own
      obtain ⟨pool, found, serves⟩ := served channel cord other there own
      refine ⟨pool, ?_, serves⟩
      rw [List.getElem?_append_left (List.getElem?_eq_some_iff.1 found).1]
      exact found

theorem Sound.sends (sound : before.Sound) {channel : ChannelId} {cord : Cord} {number : PoolId}
    {pool : Pool} {opcode : Opcode} {body : ByteArray} {request : RequestId} {sent : Channel}
    (found : before.pool? number = some pool) (listed : channel ∈ pool.channels)
    (there : before.cord? channel = some cord)
    (accepted : cord.channel.send opcode body = .ok (request, sent)) :
    Sound { before with
      cords := before.cords.modify channel fun cord => { cord with channel := sent } } where
  owned := sound.owned
  served := by
    apply sound.served.cords
    apply forall₂_modify Lasts.refl
    intro other known
    obtain rfl := Option.some.inj (there.symm.trans known)
    -- What is sent counts as a request, and so the connection must have a pool.
    obtain ⟨_, same, own⟩ := sound.served.listed number pool found channel listed
    obtain rfl := Option.some.inj (known.symm.trans same)
    refine ⟨rfl, fun unusable => ?_, fun _ => .inr ?_⟩
    · obtain ⟨cause, refused⟩ := Channel.send_refused unusable opcode body
      cases refused.symm.trans accepted
    · rw [own]
      nofun

theorem Sound.joins (sound : before.Sound) {number : PoolId} {pool : Pool} {channel : Channel}
    (unused : channel.nextRequest = 0) (found : before.pool? number = some pool)
    (isOpen : pool.isClosed = false) :
    Sound { before with
      cords := before.cords ++ [⟨channel, some number⟩]
      pools := before.pools.modify number fun pool =>
        { pool with channels := pool.channels ++ [before.cords.length], state := .ready } } where
  owned := by
    apply sound.owned.pools
    apply forall₂_modify Persists.refl
    intro other known
    obtain rfl := Option.some.inj (Eq.symm (found.symm.trans known))
    refine ⟨rfl, fun closed => ?_⟩
    rw [isOpen] at closed
    cases closed
  served := by
    refine sound.served.joins channel unused (some number) ?_ (List.length_modify _ _ _).symm ?_
    · intro other later there
      rw [List.getElem?_modify] at there
      obtain ⟨earlier, known, same⟩ := Option.map_eq_some_iff.1 there
      refine ⟨earlier, known, ?_⟩
      rw [← same]
      split
      next own =>
        subst own
        refine ⟨nofun, List.subset_append_left _ _, fun tested member => ?_⟩
        exact (List.mem_append.1 member).imp_right fun new => ⟨List.mem_singleton.1 new, rfl⟩
      next => exact ⟨fun _ => rfl, List.Subset.refl _, fun _ member => .inl member⟩
    · rintro _ ⟨⟩
      refine ⟨{ pool with channels := pool.channels ++ [before.cords.length], state := .ready },
        ?_, .inl (List.mem_append_right _ (List.mem_singleton_self _))⟩
      rw [List.getElem?_modify]
      refine Option.map_eq_some_iff.2 ⟨pool, found, ?_⟩
      rw [if_pos rfl]

theorem Sound.connects (sound : before.Sound) {channel : Channel} (unused : channel.nextRequest = 0)
    (number : Option PoolId) (useless : ∀ own, number = some own →
      (∃ pool, before.pool? own = some pool) ∧ channel.isUsable = false) :
    Sound { before with cords := before.cords ++ [⟨channel, number⟩] } where
  owned := sound.owned
  served := by
    refine sound.served.joins channel unused number ?_ rfl ?_
    · intro other later there
      exact ⟨later, there, fun _ => rfl, List.Subset.refl _, fun _ member => .inl member⟩
    · intro own same
      obtain ⟨⟨pool, found⟩, unusable⟩ := useless own same
      exact ⟨pool, found, .inr unusable⟩

theorem Move.sound (move : before.Move after) (sound : before.Sound) : after.Sound := by
  cases move with
  | goesOn channel change onward =>
    exact ⟨sound.owned, sound.served.cords (lasts_runs (.modify onward))⟩
  | sends found listed there accepted => exact sound.sends found listed there accepted
  | loose channel unused => exact sound.connects unused none nofun
  | joins channel unused found isOpen => exact sound.joins unused found isOpen
  | spurned channel unused found unusable =>
    refine sound.connects unused _ ?_
    rintro _ ⟨⟩
    exact ⟨⟨_, found⟩, unusable⟩
  | thins number change thins =>
    refine ⟨sound.owned.pools (forall₂_modify Persists.refl fun pool found => ?_),
      sound.served.thins thins⟩
    exact ⟨(thins pool found).address, fun closed => (thins pool found).isClosed.trans closed⟩
  | @stops number _ closes =>
    have persists := persist_stop before.pools (some number)
    exact ⟨sound.owned.pools persists, sound.served.stops closes⟩
  | opens limits known poolable bare => exact sound.opens limits known poolable bare
  | signals restated => exact ⟨sound.owned.signals (restated sound.owned.nodes), sound.served⟩
  | adds contact => exact ⟨sound.owned.adds contact, sound.served⟩
  | removes removed closes => exact ⟨sound.owned.removes removed, sound.served.stops closes⟩

theorem Moves.sound (moves : before.Moves after) (sound : before.Sound) : after.Sound := by
  induction moves with
  | refl => exact sound
  | tail _ move ih => exact move.sound ih

/-- A node stays where it is with its pool, and a node that was removed stays so and gets no pool.
-/
structure Remains (before after : Node) : Prop where
  address : after.address = before.address
  pool : ∀ number, before.pool = some number → after.pool = some number
  removed : before.state = .removed → after.state = .removed ∧ after.pool = before.pool

theorem Remains.refl (node : Node) : Remains node node :=
  ⟨rfl, fun _ own => own, fun gone => ⟨gone, rfl⟩⟩

theorem Remains.trans {one two three : Node} (first : Remains one two) (second : Remains two three) :
    Remains one three where
  address := second.address.trans first.address
  pool number own := second.pool number (first.pool number own)
  removed gone := by
    obtain ⟨left, pool⟩ := first.removed gone
    exact ⟨(second.removed left).1, (second.removed left).2.trans pool⟩

theorem Remains.restated {one two : Node} (restated : one.Restated two) : Remains one two where
  address := by rw [restated.same]
  pool number own := by rwa [restated.same]
  removed gone := ⟨restated.removed.2 gone, by rw [restated.same]⟩

theorem Move.keeps_node (move : before.Move after) (sound : before.Sound) {id : NodeId}
    {node : Node} (known : before.node? id = some node) :
    ∃ later, after.node? id = some later ∧ Remains node later := by
  have stays : ∃ later, before.node? id = some later ∧ Remains node later :=
    ⟨node, known, .refl node⟩
  cases move with
  | @opens own keeper limits there poolable bare =>
    obtain rfl := sound.owned.nodes.numbered own keeper there
    have nodes := @Tracker.node?_update before.tracker keeper
      { keeper with pool := some before.pools.length } there id
    by_cases same : keeper.id = id
    · subst same
      obtain rfl := Option.some.inj (Eq.trans (Eq.symm there) known)
      refine ⟨_, nodes.trans (if_pos rfl), rfl, fun number own => ?_, fun gone => ?_⟩
      · cases bare.symm.trans own
      · simp [Node.isPoolable, gone] at poolable
    · exact ⟨node, nodes.trans ((if_neg same).trans known), .refl node⟩
  | signals restated =>
    obtain ⟨later, found, same⟩ := (restated sound.owned.nodes).kept id node known
    exact ⟨later, found, .restated same⟩
  | adds contact =>
    rcases before.tracker.addNode_cases contact with same | ⟨_, _, _, _, _, _, added, _⟩
    · exact ⟨node, by rwa [node?, same], .refl node⟩
    · refine ⟨node, ?_, .refl node⟩
      rw [node?, Tracker.node?_added added, if_neg (Nat.ne_of_lt (Tracker.node?_lt known))]
      exact known
  | removes removed closes =>
    obtain ⟨_, there, _, _, _, nodes⟩ := Tracker.removeNode_spec sound.owned.nodes removed
    have found := nodes id
    split at found
    next same =>
      subst same
      obtain rfl := Option.some.inj (Eq.trans (Eq.symm there) known)
      refine ⟨_, found, ?_, fun number own => ?_, fun _ => ⟨Node.state_removed _, ?_⟩⟩
      · rw [Tracker.transition_eq]
      · rwa [Tracker.transition_eq]
      · rw [Tracker.transition_eq]
    next => exact ⟨node, found.trans known, .refl node⟩
  | _ => exact stays

theorem Moves.keeps_node (moves : before.Moves after) (sound : before.Sound) {id : NodeId}
    {node : Node} (known : before.node? id = some node) :
    ∃ later, after.node? id = some later ∧ Remains node later := by
  induction moves with
  | refl => exact ⟨node, known, .refl node⟩
  | tail earlier move ih =>
    obtain ⟨later, there, remains⟩ := ih
    obtain ⟨last, found, stays⟩ := move.keeps_node (Moves.sound earlier sound) there
    exact ⟨last, found, remains.trans stays⟩

end Steps

end Wiring

end Simulation

end ClusterDriver
