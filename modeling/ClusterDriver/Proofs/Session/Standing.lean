import ClusterDriver.Proofs.Cluster.History
import ClusterDriver.Simulation.Sessions
import Mathlib.Logic.Relation

/-!
The pools of a session, the nodes that they belong to, and the shutdown under way, apart from all
else in a simulated world; and whatever can become of them. A pool that is not closed belongs to a
node that is present, so that a shutdown, which lists the pools of the present nodes as it begins,
misses none of those that there are then. It knows nothing of pools that come later.
-/

set_option autoImplicit false

namespace ClusterDriver

namespace Tracker

structure Signalled (before after : Tracker) : Prop where
  orderly : after.Orderly
  registered : after.registered = before.registered
  holding : ∀ id, after.holding? id = before.holding? id
  removed : ∀ id node, before.node? id = some node → node.state = .removed →
    ∀ later, after.node? id = some later → later.state = .removed

theorem Signalled.refl {tracker : Tracker} (orderly : tracker.Orderly) :
    tracker.Signalled tracker where
  orderly := orderly
  registered := rfl
  holding _ := rfl
  removed id node known gone later found := by
    rw [known] at found
    rwa [← Option.some.inj found]

theorem Signalled.transition {tracker : Tracker} (orderly : tracker.Orderly) {id : NodeId}
    {node : Node} (known : tracker.node? id = some node) (next : NodeState) :
    tracker.Signalled (tracker.transition node next).1 := by
  obtain ⟨stays, registered, holding, nodes⟩ := transition_spec orderly known next
  refine ⟨stays, registered, holding, ?_⟩
  intro other earlier before gone later after
  rw [nodes] at after
  split at after
  next same =>
    subst same
    obtain rfl := Option.some.inj (known.symm.trans before)
    rw [← Option.some.inj after]
    simp [Node.transition, gone]
  next =>
    rw [before] at after
    rwa [← Option.some.inj after]

theorem Signalled.markDown {tracker : Tracker} (orderly : tracker.Orderly)
    (address : SocketAddress) : tracker.Signalled (tracker.markDown address).1 := by
  rcases tracker.markDown_cases address with same | ⟨id, node, known, same⟩
  · rw [same]
    exact .refl orderly
  · rw [same]
    exact .transition orderly known .down

theorem Signalled.markUp {tracker : Tracker} (orderly : tracker.Orderly)
    (poolState : PoolId → PoolState) (address : SocketAddress) :
    tracker.Signalled (tracker.markUp poolState address).1 := by
  rcases tracker.markUp_cases poolState address with same | ⟨id, node, known, same⟩
  · rw [same]
    exact .refl orderly
  · rw [same]
    exact .transition orderly known .up

theorem Signalled.onPoolEvent {tracker : Tracker} (orderly : tracker.Orderly) (event : PoolEvent) :
    tracker.Signalled (tracker.onPoolEvent event).1 := by
  have counted {after : Tracker} (signalled : tracker.Signalled after) :
      tracker.Signalled { after with applied := tracker.applied + 1 } :=
    ⟨⟨signalled.orderly.numbered, signalled.orderly.registered, signalled.orderly.distinct,
      signalled.orderly.apart⟩, signalled.registered, signalled.holding, signalled.removed⟩
  rcases tracker.onPoolEvent_cases event with ⟨_, same⟩ | ⟨node, found, same⟩
  · rw [same]
    exact counted (.refl orderly)
  · obtain ⟨_, id, _, known⟩ := find?_some found
    rw [same]
    exact counted (.transition orderly known _)

theorem mem_pools {tracker : Tracker} {pool : PoolId} :
    pool ∈ tracker.pools ↔
      ∃ id ∈ tracker.registered, ∃ node, tracker.node? id = some node ∧ node.pool = some pool := by
  simp only [pools, List.mem_filterMap, mem_present]
  constructor
  · rintro ⟨node, ⟨id, registered, known⟩, own⟩
    exact ⟨id, registered, node, known, own⟩
  · rintro ⟨id, registered, node, known, own⟩
    exact ⟨node, ⟨id, registered, known⟩, own⟩

theorem pools_held {tracker : Tracker} {pool : PoolId} :
    pool ∈ tracker.pools ↔
      ∃ id ∈ tracker.registered, (tracker.holding? id).bind (·.2) = some pool := by
  simp only [mem_pools, holding?, Option.bind_map, Option.bind_eq_some_iff, Function.comp]

end Tracker

namespace Simulation

theorem modify_const {α : Type} {parts : List α} {index : Nat} {part : α}
    (known : parts[index]? = some part) (change : α → α) :
    (parts.modify index fun _ => change part) = parts.modify index change := by
  apply List.ext_getElem?
  intro tested
  rw [List.getElem?_modify, List.getElem?_modify]
  split
  next own =>
    subst own
    rw [known]
    rfl
  next => rfl

def ClosingPool.begun (entry : ClosingPool) : Bool :=
  entry.closing.isSome || entry.member.finished.isSome

/-- `told` are the reports that have been handed to those who asked for the shutdown. -/
structure Standing where
  pools : List Pool
  tracker : Tracker
  closing : Option ClosingSession
  told : List ShutdownReport

namespace Standing

def Over (standing : Standing) (id : PoolId) : Prop :=
  ∀ pool, standing.pools[id]? = some pool → pool.isClosed = true

def stop (pools : List Pool) : Option PoolId → List Pool
  | none => pools
  | some id => pools.modify id fun pool => pool.beginClose.1

/-- A shutdown that goes on keeps its list, and what it begins with is closed at once. -/
structure Furthers (standing : Standing) (before after : ClosingSession) : Prop where
  unreported : before.report = none
  pools : after.pools.map (·.pool) = before.pools.map (·.pool)
  begun : ∀ entry ∈ after.pools, entry.begun = true →
    (∃ earlier ∈ before.pools, earlier.pool = entry.pool ∧ earlier.begun = true) ∨
      standing.Over entry.pool
  report : after.report.isSome = true → ∀ entry ∈ after.pools,
    entry.begun = true ∨ standing.Over entry.pool

/-- Whatever can become of pools, nodes and a shutdown at a time. Pools do not reopen, only a node
that was not removed gets one, and a node is removed together with its pool. -/
inductive Move (before : Standing) : Standing → Prop where
  | pool (id : PoolId) (change : Pool → Pool)
      (stays : ∀ pool, before.pools[id]? = some pool → pool.isClosed = true →
        (change pool).isClosed = true) :
      Move before { before with pools := before.pools.modify id change }
  | opens (id : NodeId) (node : Node) (pool : Pool) (known : before.tracker.node? id = some node)
      (present : node.state ≠ .removed) (bare : node.pool = none) :
      Move before { before with
        pools := before.pools ++ [pool]
        tracker := before.tracker.update { node with pool := some before.pools.length } }
  | signals (tracker : Tracker)
      (signalled : before.tracker.Orderly → before.tracker.Signalled tracker) :
      Move before { before with tracker }
  | adds (contact : ContactPoint) :
      Move before { before with tracker := (before.tracker.addNode contact).1 }
  | removes (address : SocketAddress) (tracker : Tracker) (node : Node) (events : List NodeEvent)
      (removed : before.tracker.removeNode address = some (tracker, node, events)) :
      Move before { before with pools := stop before.pools node.pool, tracker }
  | configures (config : DriverConfig) (none : before.pools = [])
      (unclosed : before.closing = .none) :
      Move before { before with tracker := .ofConfig config }
  | begins (closing : ClosingSession) (unclosed : before.closing = none)
      (pools : closing.pools.map (·.pool) = before.tracker.pools)
      (fresh : ∀ entry ∈ closing.pools, entry.begun = false)
      (unreported : closing.report = none) :
      Move before { before with closing := some closing }
  | goesOn (closing after : ClosingSession) (underWay : before.closing = some closing)
      (furthers : before.Furthers closing after) :
      Move before { before with closing := some after }
  | tells (closing : ClosingSession) (report : ShutdownReport)
      (finished : before.closing = some closing) (reported : closing.report = some report) :
      Move before { before with told := before.told ++ [report] }
  | forgets : Move before { before with told := [] }

def Moves : Standing → Standing → Prop := Relation.ReflTransGen Move

/-! ### Pools that are closed for good -/

section Steps

variable {before after : Standing}

theorem over_modify {id other : PoolId} {change : Pool → Pool} {tracker : Tracker}
    (stays : ∀ pool, before.pools[id]? = some pool → pool.isClosed = true →
      (change pool).isClosed = true) (finished : before.Over other) :
    Over { before with pools := before.pools.modify id change, tracker } other := by
  intro pool found
  simp only [List.getElem?_modify, Option.map_eq_map, Option.map_eq_some_iff] at found
  obtain ⟨earlier, known, rfl⟩ := found
  have closed := finished earlier known
  split
  next own =>
    subst own
    exact stays earlier known closed
  next => exact closed

theorem over_stop {pool : Option PoolId} {tracker : Tracker} {id : PoolId}
    (finished : before.Over id) :
    Over { before with pools := stop before.pools pool, tracker } id := by
  cases pool with
  | none => exact finished
  | some own => exact over_modify (fun _ _ _ => rfl) finished

theorem over_stopped (before : Standing) (tracker : Tracker) (id : PoolId) :
    Over { before with pools := stop before.pools (some id), tracker } id := by
  intro pool found
  simp only [stop, List.getElem?_modify, if_true, Option.map_eq_map, Option.map_eq_some_iff] at found
  obtain ⟨earlier, _, rfl⟩ := found
  rfl

theorem length_stop (pools : List Pool) (pool : Option PoolId) :
    (stop pools pool).length = pools.length := by
  cases pool with
  | none => rfl
  | some id => exact List.length_modify _ _ _

theorem Move.grows (move : Move before after) : before.pools.length ≤ after.pools.length := by
  cases move with
  | pool => simp
  | opens => simp
  | removes => simp [length_stop]
  | _ => exact Nat.le_refl _

theorem Move.keeps_over (move : Move before after) {id : PoolId} (known : id < before.pools.length)
    (finished : before.Over id) : after.Over id := by
  cases move with
  | pool other change stays => exact over_modify stays finished
  | opens other node pool =>
    intro found there
    rw [List.getElem?_append_left known] at there
    exact finished found there
  | removes => exact over_stop finished
  | _ => exact finished

/-! ### What holds of every session -/

structure Sound (standing : Standing) : Prop where
  nodes : standing.tracker.Orderly
  absent : ∀ id node, standing.tracker.node? id = some node →
    id ∈ standing.tracker.registered ∨ node.state = .removed
  owned : ∀ id < standing.pools.length, standing.Over id ∨ id ∈ standing.tracker.pools
  known : ∀ id node pool, standing.tracker.node? id = some node → node.pool = some pool →
    pool < standing.pools.length
  listed : ∀ closing, standing.closing = some closing → ∀ entry ∈ closing.pools,
    entry.pool < standing.pools.length
  begun : ∀ closing, standing.closing = some closing → ∀ entry ∈ closing.pools,
    entry.begun = true → standing.Over entry.pool
  reported : ∀ closing, standing.closing = some closing → closing.report.isSome = true →
    ∀ entry ∈ closing.pools, standing.Over entry.pool
  told : ∀ report ∈ standing.told, ∃ closing, standing.closing = some closing ∧
    closing.report = some report

theorem Sound.apart (sound : before.Sound) (move : Move before after)
    (same : after.closing = before.closing) (silent : after.told = before.told)
    (nodes : after.tracker.Orderly)
    (absent : ∀ id node, after.tracker.node? id = some node →
      id ∈ after.tracker.registered ∨ node.state = .removed)
    (owned : ∀ id < after.pools.length, after.Over id ∨ id ∈ after.tracker.pools)
    (known : ∀ id node pool, after.tracker.node? id = some node → node.pool = some pool →
      pool < after.pools.length) : after.Sound where
  nodes := nodes
  absent := absent
  owned := owned
  known := known
  listed closing underWay entry member := by
    rw [same] at underWay
    exact Nat.lt_of_lt_of_le (sound.listed closing underWay entry member) move.grows
  begun closing underWay entry member begun := by
    rw [same] at underWay
    exact move.keeps_over (sound.listed closing underWay entry member)
      (sound.begun closing underWay entry member begun)
  reported closing underWay report entry member := by
    rw [same] at underWay
    exact move.keeps_over (sound.listed closing underWay entry member)
      (sound.reported closing underWay report entry member)
  told report told := by
    rw [same]
    rw [silent] at told
    exact sound.told report told

theorem Sound.pool (sound : before.Sound) {id : PoolId} {change : Pool → Pool}
    (stays : ∀ pool, before.pools[id]? = some pool → pool.isClosed = true →
      (change pool).isClosed = true) :
    Sound { before with pools := before.pools.modify id change } := by
  refine sound.apart (.pool id change stays) rfl rfl sound.nodes sound.absent ?_ ?_
  · intro other inside
    rw [List.length_modify] at inside
    exact (sound.owned other inside).imp_left (over_modify stays)
  · intro other node pool known own
    rw [List.length_modify]
    exact sound.known other node pool known own

theorem Sound.opens (sound : before.Sound) {id : NodeId} {node : Node} (pool : Pool)
    (known : before.tracker.node? id = some node) (present : node.state ≠ .removed)
    (bare : node.pool = none) :
    Sound { before with
      pools := before.pools ++ [pool]
      tracker := before.tracker.update { node with pool := some before.pools.length } } := by
  obtain rfl := sound.nodes.numbered id node known
  have nodes : ∀ other,
      (before.tracker.update { node with pool := some before.pools.length }).node? other =
        if node.id = other then some { node with pool := some before.pools.length }
        else before.tracker.node? other := Tracker.node?_update known
  have registered : node.id ∈ before.tracker.registered :=
    (sound.absent node.id node known).resolve_right present
  refine sound.apart (.opens node.id node pool known present bare) rfl rfl ?_ ?_ ?_ ?_
  · exact sound.nodes.update known rfl
  · intro other later found
    rw [nodes] at found
    split at found
    next same => exact .inl (same ▸ registered)
    next => exact sound.absent other later found
  · intro other inside
    rw [Tracker.mem_pools]
    by_cases new : other = before.pools.length
    · subst new
      exact .inr ⟨node.id, registered, _, (nodes node.id).trans (if_pos rfl), rfl⟩
    · have old : other < before.pools.length := by
        rw [List.length_append, List.length_singleton] at inside
        omega
      rcases sound.owned other old with finished | held
      · exact .inl ((Move.opens node.id node pool known present bare).keeps_over old finished)
      · obtain ⟨holder, there, keeper, found, keeps⟩ := Tracker.mem_pools.1 held
        refine .inr ⟨holder, there, keeper, ?_, keeps⟩
        rw [nodes, if_neg, found]
        -- The node had no pool until now.
        rintro rfl
        obtain rfl := Option.some.inj (known.symm.trans found)
        rw [bare] at keeps
        cases keeps
  · intro other later tested found keeps
    rw [List.length_append, List.length_singleton]
    rw [nodes] at found
    split at found
    next =>
      cases found
      cases keeps
      exact Nat.lt_succ_self _
    next => exact Nat.lt_succ_of_lt (sound.known other later tested found keeps)

theorem Sound.signals (sound : before.Sound) {tracker : Tracker}
    (signalled : before.tracker.Orderly → before.tracker.Signalled tracker) :
    Sound { before with tracker } := by
  have same := signalled sound.nodes
  refine sound.apart (.signals tracker signalled) rfl rfl same.orderly ?_ ?_ ?_
  · intro id later found
    have there : (before.tracker.node? id).isSome = true := by
      have held := congrArg Option.isSome (same.holding id)
      simpa [Tracker.holding?, found] using held
    obtain ⟨node, known⟩ := Option.isSome_iff_exists.1 there
    rw [same.registered]
    exact (sound.absent id node known).imp_right fun gone =>
      same.removed id node known gone later found
  · intro id inside
    rw [Tracker.pools_held, same.registered]
    simp only [same.holding]
    rw [← Tracker.pools_held]
    exact sound.owned id inside
  · intro id later pool found keeps
    have held := same.holding id
    simp only [Tracker.holding?, found, Option.map_some] at held
    obtain ⟨node, known, alike⟩ := Option.map_eq_some_iff.1 held.symm
    refine sound.known id node pool known ?_
    rw [← keeps]
    exact (Prod.mk.inj alike).2

theorem Sound.adds (sound : before.Sound) (contact : ContactPoint) :
    Sound { before with tracker := (before.tracker.addNode contact).1 } := by
  have nodes := sound.nodes.addNode contact
  have move : Move before { before with tracker := (before.tracker.addNode contact).1 } :=
    .adds contact
  rcases before.tracker.addNode_cases contact with same | ⟨_, node, own, _, _, bare, added, ids⟩
  · rwa [same]
  have found := Tracker.node?_added added
  generalize (before.tracker.addNode contact).1 = later at nodes found ids move ⊢
  have older {id : NodeId} {known : Node} (there : before.tracker.node? id = some known) :
      later.node? id = some known := by
    rw [found, if_neg (Nat.ne_of_lt (Tracker.node?_lt there)), there]
  refine sound.apart move rfl rfl nodes ?_ ?_ ?_
  · intro id known there
    rw [ids]
    rw [found] at there
    split at there
    next last => exact .inl (last ▸ List.mem_append_right _ (List.mem_singleton_self _))
    next => exact (sound.absent id known there).imp_left (List.mem_append_left _)
  · intro id inside
    refine (sound.owned id inside).imp_right fun held => ?_
    obtain ⟨holder, there, keeper, known, keeps⟩ := Tracker.mem_pools.1 held
    exact Tracker.mem_pools.2 ⟨holder, ids ▸ List.mem_append_left _ there, keeper, older known, keeps⟩
  · intro id known pool there keeps
    rw [found] at there
    split at there
    next =>
      cases there
      rw [bare] at keeps
      cases keeps
    next => exact sound.known id known pool there keeps

theorem Sound.removes (sound : before.Sound) {address : SocketAddress} {tracker : Tracker}
    {node : Node} {events : List NodeEvent}
    (removed : before.tracker.removeNode address = some (tracker, node, events)) :
    Sound { before with pools := stop before.pools node.pool, tracker } := by
  have move := Move.removes address tracker node events removed
  rcases before.tracker.removeNode_cases address with none | ⟨id, gone, known, told, same⟩
  · cases none.symm.trans removed
  obtain ⟨rfl, rfl, rfl⟩ : _ ∧ gone = node ∧ told = events := by
    simpa using same.symm.trans removed
  have own := sound.nodes.numbered id gone known
  have erased := sound.nodes.erased gone.id
  have filed : Tracker.node? { before.tracker with
      registered := before.tracker.registered.erase gone.id }.rebuildRing id = some gone := known
  obtain ⟨nodes, registered, holding, found⟩ := Tracker.transition_spec erased filed .removed
  refine sound.apart move rfl rfl nodes ?_ ?_ ?_
  · intro other later there
    rw [found] at there
    rw [registered]
    split at there
    next =>
      right
      rw [← Option.some.inj there]
      unfold Node.transition
      split
      next settled => rcases settled with gone | gone <;> exact gone
      next => rfl
    next different =>
      refine (sound.absent other later there).imp_left fun member => ?_
      exact (List.mem_erase_of_ne (own ▸ Ne.symm different)).2 member
  · intro pool inside
    rw [length_stop] at inside
    rcases sound.owned pool inside with finished | held
    · exact .inl (over_stop finished)
    · obtain ⟨holder, there, keeper, kept, keeps⟩ := Tracker.mem_pools.1 held
      -- The pool of the node that leaves is stopped; the others keep their nodes.
      by_cases leaves : holder = id
      · subst leaves
        obtain rfl := Option.some.inj (known.symm.trans kept)
        rw [keeps]
        exact .inl (over_stopped before _ pool)
      · refine .inr (Tracker.mem_pools.2 ⟨holder, ?_, keeper, ?_, keeps⟩)
        · rw [registered]
          exact (List.mem_erase_of_ne (own ▸ leaves)).2 there
        · rw [found, if_neg (Ne.symm leaves)]
          exact kept
  · intro other later pool there keeps
    rw [length_stop]
    have held := holding other
    simp only [Tracker.holding?, there, Option.map_some] at held
    obtain ⟨keeper, kept, alike⟩ := Option.map_eq_some_iff.1 held.symm
    refine sound.known other keeper pool kept ?_
    rw [← keeps]
    exact (Prod.mk.inj alike).2

theorem Sound.begins (sound : before.Sound) {closing : ClosingSession}
    (unclosed : before.closing = none) (pools : closing.pools.map (·.pool) = before.tracker.pools)
    (fresh : ∀ entry ∈ closing.pools, entry.begun = false)
    (unreported : closing.report = none) : Sound { before with closing := some closing } where
  nodes := sound.nodes
  absent := sound.absent
  owned := sound.owned
  known := sound.known
  listed := by
    rintro _ ⟨⟩ entry member
    have held : entry.pool ∈ before.tracker.pools := by
      rw [← pools]
      exact List.mem_map_of_mem member
    obtain ⟨id, _, node, known, own⟩ := Tracker.mem_pools.1 held
    exact sound.known id node entry.pool known own
  begun := by
    rintro _ ⟨⟩ entry member begun
    rw [fresh entry member] at begun
    cases begun
  reported := by
    rintro _ ⟨⟩ report
    rw [unreported] at report
    cases report
  told report told := by
    obtain ⟨closing, underWay, _⟩ := sound.told report told
    rw [unclosed] at underWay
    cases underWay

theorem Sound.goesOn (sound : before.Sound) {closing later : ClosingSession}
    (underWay : before.closing = some closing) (furthers : before.Furthers closing later) :
    Sound { before with closing := some later } := by
  have finished : ∀ entry ∈ later.pools, entry.begun = true → before.Over entry.pool := by
    intro entry member begun
    rcases furthers.begun entry member begun with ⟨earlier, there, same, begun⟩ | finished
    · rw [← same]
      exact sound.begun closing underWay earlier there begun
    · exact finished
  refine ⟨sound.nodes, sound.absent, sound.owned, sound.known, ?_, ?_, ?_, ?_⟩
  · rintro _ ⟨⟩ entry member
    have listed : entry.pool ∈ closing.pools.map (·.pool) := by
      rw [← furthers.pools]
      exact List.mem_map_of_mem member
    obtain ⟨old, there, same⟩ := List.mem_map.1 listed
    rw [← same]
    exact sound.listed closing underWay old there
  · rintro _ ⟨⟩ entry member begun
    exact finished entry member begun
  · rintro _ ⟨⟩ report entry member
    exact (furthers.report report entry member).elim (finished entry member) fun finished => finished
  · intro report told
    obtain ⟨earlier, known, reported⟩ := sound.told report told
    obtain rfl := Option.some.inj (underWay.symm.trans known)
    rw [furthers.unreported] at reported
    cases reported

theorem Sound.tells (sound : before.Sound) {closing : ClosingSession} {report : ShutdownReport}
    (finished : before.closing = some closing) (reported : closing.report = some report) :
    Sound { before with told := before.told ++ [report] } :=
  { sound with
    told := List.forall_mem_append.2
      ⟨sound.told, List.forall_mem_singleton.2 ⟨closing, finished, reported⟩⟩ }

end Steps

def blank (localDatacenter : Option String) (allowRemote : Bool) (replicationFactor : Nat) :
    Standing where
  pools := []
  tracker := { localDatacenter, allowRemote, replicationFactor }
  closing := none
  told := []

theorem blank_sound (localDatacenter : Option String) (allowRemote : Bool)
    (replicationFactor : Nat) : (blank localDatacenter allowRemote replicationFactor).Sound where
  nodes := .empty rfl rfl
  absent := nofun
  owned := nofun
  known := nofun
  listed := nofun
  begun := nofun
  reported := nofun
  told := nofun

theorem configured_sound (config : DriverConfig) :
    Sound { pools := [], tracker := .ofConfig config, closing := none, told := [] } :=
  List.foldlRecOn
    (motive := fun tracker => Sound { pools := [], tracker, closing := none, told := [] })
    config.contactPoints _ (blank_sound _ _ _) fun _ sound contact _ => sound.adds contact

theorem Move.sound {before after : Standing} (move : Move before after) (sound : before.Sound) :
    after.Sound := by
  cases move with
  | pool id change stays => exact sound.pool stays
  | opens id node pool known present bare => exact sound.opens pool known present bare
  | signals tracker signalled => exact sound.signals signalled
  | adds contact => exact sound.adds contact
  | removes address tracker node events removed => exact sound.removes removed
  | configures config none unclosed =>
    have silent : before.told = [] := by
      refine List.eq_nil_iff_forall_not_mem.2 fun report told => ?_
      obtain ⟨closing, underWay, _⟩ := sound.told report told
      rw [unclosed] at underWay
      cases underWay
    have configured := configured_sound config
    rwa [← none, ← unclosed, ← silent] at configured
  | begins closing unclosed pools fresh unreported =>
    exact sound.begins unclosed pools fresh unreported
  | goesOn closing later underWay furthers => exact sound.goesOn underWay furthers
  | tells closing report finished reported => exact sound.tells finished reported
  | forgets => exact { sound with told := nofun }

/-! ### What a shutdown has on its list -/

/-- The first `count` pools are closed, or a shutdown that is under way has them on its list. -/
structure Covers (count : Nat) (standing : Standing) : Prop where
  within : count ≤ standing.pools.length
  covered : ∀ closing, standing.closing = some closing → ∀ id < count,
    standing.Over id ∨ id ∈ closing.pools.map (·.pool)

theorem Move.covers {before after : Standing} (move : Move before after) (sound : before.Sound)
    {count : Nat} (covers : Covers count before) : Covers count after := by
  refine ⟨Nat.le_trans covers.within move.grows, ?_⟩
  have stays (id : PoolId) (old : id < count) (finished : before.Over id) : after.Over id :=
    move.keeps_over (Nat.lt_of_lt_of_le old covers.within) finished
  have apart (same : after.closing = before.closing) : ∀ closing, after.closing = some closing →
      ∀ id < count, after.Over id ∨ id ∈ closing.pools.map (·.pool) := by
    intro closing underWay id old
    rw [same] at underWay
    exact (covers.covered closing underWay id old).imp_left (stays id old)
  cases move with
  | begins closing unclosed pools fresh unreported =>
    rintro _ ⟨⟩ id old
    rw [pools]
    exact sound.owned id (Nat.lt_of_lt_of_le old covers.within)
  | goesOn closing later underWay furthers =>
    rintro _ ⟨⟩ id old
    rw [furthers.pools]
    exact covers.covered closing underWay id old
  | _ => exact apart rfl

theorem Moves.sound {before after : Standing} (moves : Moves before after) (sound : before.Sound) :
    after.Sound := by
  induction moves with
  | refl => exact sound
  | tail _ move ih => exact move.sound ih

theorem Moves.keeps_over {before after : Standing} (moves : Moves before after) {id : PoolId}
    (known : id < before.pools.length) (finished : before.Over id) :
    id < after.pools.length ∧ after.Over id := by
  induction moves with
  | refl => exact ⟨known, finished⟩
  | tail _ move ih => exact ⟨Nat.lt_of_lt_of_le ih.1 move.grows, move.keeps_over ih.1 ih.2⟩

theorem Moves.covers {before after : Standing} (moves : Moves before after) (sound : before.Sound)
    {count : Nat} (covers : Covers count before) : Covers count after := by
  induction moves with
  | refl => exact covers
  | tail earlier move ih => exact move.covers (Moves.sound earlier sound) ih

theorem Moves.over_of_told {before after : Standing} (moves : Moves before after)
    (sound : before.Sound) (unclosed : before.closing = none) {report : ShutdownReport}
    (told : report ∈ after.told) {id : PoolId} (known : id < before.pools.length) :
    id < after.pools.length ∧ after.Over id := by
  have started : Covers before.pools.length before := by
    refine ⟨Nat.le_refl _, ?_⟩
    rw [unclosed]
    nofun
  have covers := moves.covers sound started
  refine ⟨Nat.lt_of_lt_of_le known covers.within, ?_⟩
  obtain ⟨closing, closed, reported⟩ := (moves.sound sound).told report told
  rcases covers.covered closing closed id known with finished | listed
  · exact finished
  · obtain ⟨entry, member, rfl⟩ := List.mem_map.1 listed
    refine (moves.sound sound).reported closing closed ?_ entry member
    rw [reported]
    rfl

end Standing

end Simulation

end ClusterDriver
