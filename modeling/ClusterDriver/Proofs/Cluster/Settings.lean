import ClusterDriver.Proofs.Channel.Waking
import ClusterDriver.Proofs.Cluster.History

set_option autoImplicit false

namespace ClusterDriver

namespace PoolHistory

def Lined (history : PoolHistory) : Prop :=
  ∀ line ∈ history.lines, ∃ start actions,
    line = (History.opened history.pool.limits.channel start).run actions

variable {history : PoolHistory}

theorem Lined.same (lined : history.Lined) {later : PoolHistory}
    (lines : later.lines = history.lines) (limits : later.pool.limits = history.pool.limits) :
    later.Lined := by
  rw [Lined, lines, limits]
  exact lined

theorem Lined.actLine (lined : history.Lined) (channel : ChannelId) (action : History.Action) :
    (history.actLine channel action).Lined := by
  intro line member
  obtain ⟨place, found⟩ := List.mem_iff_getElem?.1 member
  rw [PoolHistory.actLine, List.getElem?_modify, Option.map_eq_map, Option.map_eq_some_iff] at found
  obtain ⟨before, known, rfl⟩ := found
  obtain ⟨start, actions, rfl⟩ := lined before (List.mem_of_getElem? known)
  split
  next => exact ⟨start, actions ++ [action], (History.run_concat actions action).symm⟩
  next => exact ⟨start, actions, rfl⟩

theorem act_lined (history : PoolHistory) (action : Action) (lined : history.Lined) :
    (history.act action).Lined := by
  have limits := (history.act_configured action).2
  cases action with
  | look =>
    refine lined.same ?_ limits
    simp only [act]
    split <;> rfl
  | connected now =>
    simp only [act]
    split
    next =>
      intro line member
      rcases List.mem_append.1 member with old | new
      · exact lined line old
      · exact ⟨now, [], List.mem_singleton.1 new⟩
    next => exact lined
  | connectFailed reason =>
    refine lined.same ?_ limits
    simp only [act]
    split <;> rfl
  | add =>
    cases task : history.task with
    | add channel =>
      cases added : history.pool.addChannel channel with
      | none =>
        have idle : Lined { history with task := .look } := lined
        simp only [act, task, added]
        exact idle.actLine channel .forceClose
      | some result =>
        refine lined.same ?_ limits
        simp only [act, task, added, change]
    | _ =>
      simp only [act, task]
      exact lined
  | notice channel =>
    refine lined.same ?_ limits
    simp only [act]
    split <;> rfl
  | beginClose => exact lined
  | line channel action => exact lined.actLine channel action

end PoolHistory

namespace Tracker

variable {tracker later : Tracker} {factor : Nat}

def Replicates (tracker : Tracker) (factor : Nat) : Prop :=
  tracker.replicationFactor = factor ∧ tracker.ring.replicationFactor = max factor 1

theorem replicates_rebuildRing (same : tracker.replicationFactor = factor) :
    tracker.rebuildRing.Replicates factor :=
  ⟨same, congrArg (max · 1) same⟩

theorem replicates_addNode (same : tracker.replicationFactor = factor)
    (replicates : tracker.registered ≠ [] → tracker.Replicates factor) (contact : ContactPoint) :
    (tracker.addNode contact).1.Replicates factor := by
  unfold Tracker.addNode
  split
  next node found =>
    obtain ⟨_, id, registered, _⟩ := find?_some found
    exact replicates (List.ne_nil_of_mem registered)
  next => exact replicates_rebuildRing same

theorem Replicates.addNode (replicates : tracker.Replicates factor) (contact : ContactPoint) :
    (tracker.addNode contact).1.Replicates factor :=
  replicates_addNode replicates.1 (fun _ => replicates) contact

theorem replicates_ofConfig {config : DriverConfig} (contacts : config.contactPoints ≠ []) :
    (ofConfig config).Replicates config.replicationFactor := by
  rw [ofConfig]
  cases listed : config.contactPoints with
  | nil => exact absurd listed contacts
  | cons first rest =>
    exact List.foldlRecOn (motive := fun tracker => Replicates tracker config.replicationFactor)
      rest _ (replicates_addNode rfl (fun some => absurd rfl some) first)
      fun _ replicates contact _ => replicates.addNode contact

def Retains (tracker later : Tracker) : Prop :=
  ∀ id node pool, later.node? id = some node → node.pool = some pool →
    ∃ id before, tracker.node? id = some before ∧ before.pool = some pool ∧
      before.distance = node.distance

theorem Retains.refl (tracker : Tracker) : tracker.Retains tracker :=
  fun id node _ known held => ⟨id, node, known, held, rfl⟩

theorem retains_addNode (tracker : Tracker) (contact : ContactPoint) :
    tracker.Retains (tracker.addNode contact).1 := by
  rcases tracker.addNode_cases contact with same | ⟨_, node, _, _, _, pool, added, _⟩
  · rw [same]
    exact .refl tracker
  · intro id other held known has
    rw [node?_added added] at known
    split at known
    next =>
      cases known
      rw [pool] at has
      cases has
    next => exact ⟨id, other, known, has, rfl⟩

theorem Orderly.retains_transition (orderly : tracker.Orderly) {id : NodeId} {node : Node}
    (known : tracker.node? id = some node) (next : NodeState) :
    tracker.Retains (tracker.transition node next).1 := by
  obtain ⟨_, _, _, changed⟩ := transition_spec orderly known next
  intro place other pool found held
  rw [changed] at found
  split at found
  next =>
    cases found
    rw [transition_eq] at held ⊢
    exact ⟨id, node, known, held, rfl⟩
  next => exact ⟨place, other, found, held, rfl⟩

end Tracker

namespace ClusterHistory

structure Fitted (config : DriverConfig) (history : ClusterHistory) : Prop where
  orderly : history.Orderly
  settings : history.settings = config.pool
  replicates : history.tracker.Replicates config.replicationFactor
  lined : ∀ service ∈ history.pools, service.Lined
  limits : ∀ id node pool, history.tracker.node? id = some node → node.pool = some pool →
    ∃ service, history.pools[pool]? = some service ∧
      service.pool.limits = .ofSettings config.pool (node.distance = .near)

variable {config : DriverConfig} {history : ClusterHistory}

theorem Fitted.retracked (fitted : history.Fitted config) {later : ClusterHistory}
    (orderly : later.Orderly) (settings : later.settings = history.settings)
    (pools : later.pools = history.pools)
    (replicates : later.tracker.Replicates config.replicationFactor)
    (retains : history.tracker.Retains later.tracker) : later.Fitted config where
  orderly := orderly
  settings := settings.trans fitted.settings
  replicates := replicates
  lined := pools ▸ fitted.lined
  limits id node pool known held := by
    obtain ⟨id, before, known, held, distance⟩ := retains id node pool known held
    rw [pools, ← distance]
    exact fitted.limits id before pool known held

theorem Fitted.openPool (fitted : history.Fitted config) {id : NodeId} {node : Node}
    (known : history.tracker.node? id = some node) (without : node.pool = none) :
    (history.openPool node).Fitted config where
  orderly := fitted.orderly.openPool known without
  settings := fitted.settings
  replicates := fitted.replicates
  lined service member := by
    rcases List.mem_append.1 member with old | new
    · exact fitted.lined service old
    · rw [List.mem_singleton.1 new]
      exact nofun
  limits place other pool found held := by
    rw [node?_openPool (fitted.orderly.nodes.numbered id node known) known] at found
    split at found
    next =>
      cases found
      cases held
      refine ⟨_, List.getElem?_concat_length, ?_⟩
      rw [← fitted.settings]
      rfl
    next =>
      obtain ⟨service, filed, limits⟩ := fitted.limits place other pool found held
      have old := (List.getElem?_eq_some_iff.1 filed).1
      exact ⟨service, (List.getElem?_append_left old).trans filed, limits⟩

theorem Fitted.actPool (fitted : history.Fitted config) {id : PoolId} {before : PoolHistory}
    (known : history.pools[id]? = some before) (action : PoolHistory.Action) :
    (history.actPool id before action).Fitted config where
  orderly := fitted.orderly.actPool known action
  settings := fitted.settings
  replicates := fitted.replicates
  lined service member := by
    rcases List.mem_or_eq_of_mem_set member with old | rfl
    · exact fitted.lined service old
    · exact before.act_lined action (fitted.lined before (List.mem_of_getElem? known))
  limits place node pool found held := by
    obtain ⟨service, filed, limits⟩ := fitted.limits place node pool found held
    simp only [ClusterHistory.actPool, List.getElem?_set]
    split
    next same =>
      subst same
      rw [known] at filed
      cases filed
      rw [if_pos (List.getElem?_eq_some_iff.1 known).1]
      exact ⟨_, rfl, (before.act_configured action).2.trans limits⟩
    next => exact ⟨service, filed, limits⟩

theorem act_fitted (history : ClusterHistory) (action : Action) (fitted : history.Fitted config) :
    (history.act action).Fitted config := by
  have orderly := act_orderly history action fitted.orderly
  have nodes := fitted.orderly.nodes
  cases action with
  | addNode contact =>
    exact fitted.retracked orderly rfl rfl (fitted.replicates.addNode contact)
      (Tracker.retains_addNode _ contact)
  | removeNode address =>
    simp only [act] at orderly ⊢
    rcases history.tracker.removeNode_cases address with none | ⟨id, node, known, _, some⟩
    · rw [none]
      exact fitted
    · rw [some] at orderly ⊢
      exact fitted.retracked orderly rfl rfl (Tracker.replicates_rebuildRing fitted.replicates.1)
        ((nodes.erased node.id).retains_transition known .removed)
  | markUp address =>
    simp only [act] at orderly ⊢
    rcases history.tracker.markUp_cases history.poolState address with same | ⟨_, _, known, same⟩
    · rw [same]
      exact fitted
    · rw [same] at orderly ⊢
      exact fitted.retracked orderly rfl rfl fitted.replicates (nodes.retains_transition known .up)
  | markDown address =>
    simp only [act] at orderly ⊢
    rcases history.tracker.markDown_cases address with same | ⟨_, _, known, same⟩
    · rw [same]
      exact fitted
    · rw [same] at orderly ⊢
      exact fitted.retracked orderly rfl rfl fitted.replicates
        (nodes.retains_transition known .down)
  | openPool id =>
    simp only [act]
    split
    next => exact fitted
    next node known =>
      split
      next allowed => exact fitted.openPool known allowed.2
      next => exact fitted
  | pool id action =>
    simp only [act]
    split
    next => exact fitted
    next before known => exact fitted.actPool known action
  | deliver =>
    simp only [act]
    split
    next => exact fitted
    next event rest waiting =>
      have orderly := fitted.orderly.delivered waiting
      rcases history.tracker.onPoolEvent_cases event with ⟨_, same⟩ | ⟨node, found, same⟩
      · rw [same] at orderly ⊢
        exact fitted.retracked orderly rfl rfl fitted.replicates (.refl _)
      · rw [same] at orderly ⊢
        obtain ⟨_, id, _, known⟩ := Tracker.find?_some found
        exact fitted.retracked orderly rfl rfl fitted.replicates
          (nodes.retains_transition known event.health)

theorem started_fitted (contacts : config.contactPoints ≠ []) : (started config).Fitted config where
  orderly := started_orderly config
  settings := rfl
  replicates := Tracker.replicates_ofConfig contacts
  lined := nofun
  limits id node pool known held := by
    -- Nobody has a pool yet.
    have holding : (started config).tracker.holding? id = some (node.address, some pool) := by
      rw [Tracker.holding?, known, Option.map_some, held]
    obtain ⟨_, found, _⟩ := (started_orderly config).owned id node.address pool holding
    cases found

theorem run_fitted (contacts : config.contactPoints ≠ []) (actions : List Action) :
    ((started config).run actions).Fitted config :=
  run_induction (Fitted config) act_fitted (started_fitted contacts) actions

end ClusterHistory

end ClusterDriver
