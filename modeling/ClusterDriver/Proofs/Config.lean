import ClusterDriver.Document.Config
import ClusterDriver.Proofs.Cluster.Settings
import ClusterDriver.Proofs.Scheduler.Lives
import ClusterDriver.Proofs.Token.Ring
import ClusterDriver.Request.Run

set_option autoImplicit false

namespace ClusterDriver

namespace DriverConfig

variable {config : DriverConfig}

structure Valid (config : DriverConfig) : Prop where
  contacts : config.contactPoints ≠ []
  localSize : 1 ≤ config.pool.localSize
  remoteSize : 1 ≤ config.pool.remoteSize
  streams : 1 ≤ config.pool.maxStreams
  streams_le : config.pool.maxStreams ≤ maxStreamsLimit
  orphans : config.pool.maxOrphans < config.pool.maxStreams
  reconnect : config.pool.reconnectBase ≤ config.pool.reconnectMax
  heartbeatInterval : 1 ≤ config.pool.heartbeatInterval
  heartbeatTimeout : 1 ≤ config.pool.heartbeatTimeout
  workers : 1 ≤ config.scheduler.workers
  factor : 1 ≤ config.replicationFactor
  requestTimeout : ∀ profile ∈ config.profiles, 1 ≤ profile.2.requestTimeout
  maxExecutions : ∀ profile ∈ config.profiles, 1 ≤ profile.2.maxExecutions

theorem ite_some_eq_none {α : Type} {broken : Prop} [Decidable broken] {fault : α}
    {rest : Option α} :
    (if broken then some fault else rest) = none ↔ ¬broken ∧ rest = none := by
  split <;> simp [*]

theorem profileFault?_eq_none {name : String} {settings : ProfileSettings} :
    profileFault? name settings = none ↔
      1 ≤ settings.requestTimeout ∧ 1 ≤ settings.maxExecutions := by
  simp only [profileFault?, ite_some_eq_none, Nat.one_le_iff_ne_zero, and_true, ne_eq]

theorem fault?_eq_none : config.fault? = none ↔ config.Valid := by
  simp only [fault?, ite_some_eq_none, List.findSome?_eq_none_iff, profileFault?_eq_none,
    not_or, Nat.not_lt, Nat.not_le, List.isEmpty_iff, ← ne_eq, ← Nat.one_le_iff_ne_zero]
  constructor
  · rintro ⟨contacts, ⟨localSize, remoteSize⟩, ⟨streams, streams_le⟩, orphans, reconnect,
      ⟨interval, timeout⟩, workers, factor, profiles⟩
    exact ⟨contacts, localSize, remoteSize, streams, streams_le, orphans, reconnect, interval,
      timeout, workers, factor, fun profile listed => (profiles profile listed).1,
      fun profile listed => (profiles profile listed).2⟩
  · intro valid
    exact ⟨valid.contacts, ⟨valid.localSize, valid.remoteSize⟩, ⟨valid.streams, valid.streams_le⟩,
      valid.orphans, valid.reconnect, ⟨valid.heartbeatInterval, valid.heartbeatTimeout⟩,
      valid.workers, valid.factor, fun profile listed =>
        ⟨valid.requestTimeout profile listed, valid.maxExecutions profile listed⟩⟩

theorem validate_eq_ok : config.validate = .ok () ↔ config.Valid := by
  rw [← fault?_eq_none, validate]
  cases config.fault? <;> simp

def Distinct (config : DriverConfig) : Prop := (config.profiles.map (·.1)).Nodup

end DriverConfig

namespace Document.Config

theorem nodup_foldl_kept (profiles kept : List (String × ProfileSettings))
    (distinct : (kept.map (·.1)).Nodup) :
    ((profiles.foldl (fun kept profile =>
      kept.filter (fun other => other.1 ≠ profile.1) ++ [profile]) kept).map (·.1)).Nodup := by
  induction profiles generalizing kept with
  | nil => exact distinct
  | cons profile rest ih =>
    refine ih _ ?_
    rw [List.map_append, List.map_singleton, List.nodup_append_comm, List.singleton_append,
      List.nodup_cons]
    refine ⟨fun again => ?_, distinct.sublist (List.filter_sublist.map _)⟩
    obtain ⟨other, kept, same⟩ := List.mem_map.1 again
    simp [same] at kept

theorem distinct_of_profiles? {value : Json} {profiles : List (String × ProfileSettings)}
    (read : profiles? value = some profiles) : (profiles.map (·.1)).Nodup := by
  cases value with
  | object members =>
    simp only [profiles?] at read
    obtain ⟨entries, _, same⟩ := Option.bind_eq_some_iff.1 read
    cases same
    -- Of several members of one name only the last is kept.
    exact nodup_foldl_kept entries [] List.nodup_nil
  | _ => cases read

theorem distinct_of_config? {value : Json} {config : DriverConfig}
    (read : config? value = some config) : config.Distinct := by
  obtain ⟨fields, _, read⟩ := Option.bind_eq_some_iff.1 read
  split at read
  next contacts datacenter remote pool scheduler factor profiles auth _ =>
    simp only [Option.bind_eq_bind, Option.bind_eq_some_iff, Option.pure_def,
      Option.some.injEq] at read
    obtain ⟨_, _, _, _, _, _, _, _, _, _, _, _, found, named, _, _, rfl⟩ := read
    cases profiles with
    | none =>
      cases named
      exact List.nodup_nil
    | some profiles => exact distinct_of_profiles? named
  next => cases read

theorem ofText_ok {text : String} {config : DriverConfig} (read : ofText text = .ok config) :
    config.validate = .ok () ∧ config.Distinct := by
  simp only [ofText] at read
  split at read
  next => cases read
  next parsed found =>
    obtain ⟨value, _, named⟩ := Option.bind_eq_some_iff.1 found
    split at read
    next => cases read
    next accepted =>
      cases read
      exact ⟨accepted, distinct_of_config? named⟩

end Document.Config

namespace ProfileRegistry

theorem find?_insert (registry : ProfileRegistry) (profile : Profile) (name : String) :
    (registry.insert profile).find? name =
      if profile.name = name then some profile else registry.find? name := by
  simp only [find?, insert, List.find?_append]
  by_cases same : profile.name = name
  · subst same
    have none : (registry.profiles.filter (·.name ≠ profile.name)).find?
        (·.name = profile.name) = none := by
      simp [List.find?_eq_none]
    rw [none, if_pos rfl]
    simp
  · have kept : (registry.profiles.filter (·.name ≠ profile.name)).find? (·.name = name) =
        registry.profiles.find? (·.name = name) := by
      rw [List.find?_filter]
      congr 1
      funext other
      by_cases found : other.name = name
      · simp [found, Ne.symm same]
      · simp [found]
    rw [kept, if_neg same]
    simp [same]

theorem find?_initial (name : String) : initial.find? name =
    if name = defaultProfileName then some (.ofSettings name {}) else none := by
  by_cases same : name = defaultProfileName
  · subst same
    rfl
  · simp [find?, initial, Profile.standard, Profile.ofSettings, same, Ne.symm same]

theorem find?_foldl {profiles : List (String × ProfileSettings)}
    (distinct : (profiles.map (·.1)).Nodup) (registry : ProfileRegistry) (name : String) :
    (profiles.foldl (fun registry (name, settings) =>
      registry.insert (.ofSettings name settings)) registry).find? name =
        ((profiles.lookup name).map (Profile.ofSettings name)).or (registry.find? name) := by
  induction profiles generalizing registry with
  | nil => simp
  | cons first rest ih =>
    obtain ⟨own, settings⟩ := first
    obtain ⟨apart, distinct⟩ := List.nodup_cons.1 distinct
    rw [List.foldl_cons, ih distinct, find?_insert, List.lookup_cons]
    by_cases same : own = name
    · subst same
      have none : rest.lookup own = none := by
        rw [List.lookup_eq_none_iff]
        intro other listed
        have : own ≠ other.1 := fun same => apart (List.mem_map.2 ⟨other, listed, same.symm⟩)
        simpa using this
      simp [none, Profile.ofSettings]
    · have other : (name == own) = false := by simpa using Ne.symm same
      simp [same, other, Profile.ofSettings]

theorem find?_ofConfig {config : DriverConfig} (distinct : config.Distinct) (name : String) :
    (ofConfig config).find? name = (config.profile? name).map (Profile.ofSettings name) := by
  rw [ofConfig, find?_foldl distinct, find?_initial, DriverConfig.profile?]
  cases config.profiles.lookup name with
  | some settings => rfl
  | none => split <;> simp [*]

end ProfileRegistry

/-- Nothing is lost of the settings of a profile, except that a single execution needs no policy:
one that allows no more never starts another. -/
structure Profile.AsConfigured (name : String) (settings : ProfileSettings) (profile : Profile) :
    Prop where
  name : profile.name = name
  requestTimeout : profile.requestTimeout = settings.requestTimeout
  attemptTimeout : profile.attemptTimeout = settings.attemptTimeout.getD settings.requestTimeout
  pageSize : profile.pageSize = settings.pageSize
  idempotent : profile.idempotent = settings.idempotent
  maxSameNodeRetries : profile.maxSameNodeRetries = settings.maxSameNodeRetries
  retry : profile.retry = .standard ⟨settings.maxRetries, settings.ignoreWriteTimeouts⟩
  never : settings.speculativeDelay = none → profile.speculation = .never
  constant : ∀ delay, settings.speculativeDelay = some delay → settings.maxExecutions ≠ 1 →
    profile.speculation = .constant ⟨delay, settings.maxExecutions⟩
  single : ∀ delay, settings.speculativeDelay = some delay → settings.maxExecutions = 1 →
    profile.speculation = .never ∧
      ∀ (run : Run) now, run.profile = { profile with
        speculation := .constant ⟨delay, settings.maxExecutions⟩ } →
        (run.startExecution now).speculation = none

theorem Run.startExecution_single {run : Run} {delay : Nat}
    (single : run.profile.speculation = .constant ⟨delay, 1⟩) (now : Nat) :
    (run.startExecution now).speculation = none := by
  simp [startExecution, nextSpeculation, SpeculationPolicy.delayAfter, single]

theorem Profile.asConfigured_ofSettings (name : String) {settings : ProfileSettings}
    (some : 1 ≤ settings.maxExecutions) :
    (ofSettings name settings).AsConfigured name settings where
  name := rfl
  requestTimeout := rfl
  attemptTimeout := rfl
  pageSize := rfl
  idempotent := rfl
  maxSameNodeRetries := rfl
  retry := rfl
  never none := by simp [ofSettings, speculationOf, none]
  constant delay set more := by
    have : 1 < settings.maxExecutions := Nat.lt_of_le_of_ne some (Ne.symm more)
    simp [ofSettings, speculationOf, set, this]
  single delay set one := by
    refine ⟨by simp [ofSettings, speculationOf, set, one], fun run now same => ?_⟩
    have policy : run.profile.speculation = .constant ⟨delay, 1⟩ := by rw [same, one]
    exact Run.startExecution_single policy now

theorem DriverConfig.Valid.maxExecutions_of_profile? {config : DriverConfig} (valid : config.Valid)
    {name : String} {settings : ProfileSettings} (found : config.profile? name = some settings) :
    1 ≤ settings.maxExecutions := by
  simp only [profile?] at found
  split at found
  next other listed =>
    cases found
    obtain ⟨before, after, split, _⟩ := List.lookup_eq_some_iff.1 listed
    exact valid.maxExecutions (name, settings) (by simp [split])
  next =>
    split at found
    next =>
      cases found
      exact Nat.le_refl 1
    next => cases found

structure PoolLimits.AsConfigured (settings : PoolSettings) (isLocal : Bool) (limits : PoolLimits) :
    Prop where
  size : limits.size = if isLocal then settings.localSize else settings.remoteSize
  capacity : limits.channel.capacity = settings.maxStreams
  ids : (StreamIds.ofCapacity limits.channel.capacity).capacity = settings.maxStreams
  orphans : limits.channel.orphanLimit = settings.maxOrphans
  connectTimeout : limits.channel.connectTimeout = settings.connectTimeout
  heartbeatInterval : limits.channel.heartbeatInterval = settings.heartbeatInterval
  heartbeatTimeout : limits.channel.heartbeatTimeout = settings.heartbeatTimeout
  closeDrainTimeout : limits.channel.closeDrainTimeout = settings.closeDrainTimeout
  reconnects : ReconnectSchedule.ofLimits limits.reconnectBase limits.reconnectMax =
    { base := .ofMillis settings.reconnectBase, most := .ofMillis settings.reconnectMax }

namespace DriverConfig.Valid

variable {config : DriverConfig}

theorem capacity_eq (valid : config.Valid) :
    (ChannelLimits.ofSettings config.pool).capacity = config.pool.maxStreams := by
  have := valid.streams
  have := valid.streams_le
  simp only [ChannelLimits.capacity, ChannelLimits.ofSettings]
  omega

theorem orphanLimit_eq (valid : config.Valid) :
    (ChannelLimits.ofSettings config.pool).orphanLimit = config.pool.maxOrphans := by
  have := valid.orphans
  rw [ChannelLimits.orphanLimit, valid.capacity_eq]
  simp only [ChannelLimits.ofSettings]
  omega

theorem ofLimits_eq (valid : config.Valid) :
    ReconnectSchedule.ofLimits config.pool.reconnectBase config.pool.reconnectMax =
      { base := .ofMillis config.pool.reconnectBase
        most := .ofMillis config.pool.reconnectMax } := by
  have : config.pool.reconnectBase * 1000000 ≤ config.pool.reconnectMax * 1000000 :=
    Nat.mul_le_mul_right _ valid.reconnect
  simp only [ReconnectSchedule.ofLimits, ReconnectSchedule.ofDurations, Duration.ofMillis,
    Nat.max_eq_right this]

theorem limits_asConfigured (valid : config.Valid) (isLocal : Bool) :
    (PoolLimits.ofSettings config.pool isLocal).AsConfigured config.pool isLocal where
  size := by
    have := valid.localSize
    have := valid.remoteSize
    cases isLocal <;> simp [PoolLimits.ofSettings, *]
  capacity := valid.capacity_eq
  ids := by
    have capacity : (PoolLimits.ofSettings config.pool isLocal).channel.capacity =
      config.pool.maxStreams := valid.capacity_eq
    rw [capacity]
    exact Nat.min_eq_left valid.streams_le
  orphans := valid.orphanLimit_eq
  connectTimeout := rfl
  heartbeatInterval := rfl
  heartbeatTimeout := rfl
  closeDrainTimeout := rfl
  reconnects := valid.ofLimits_eq

end DriverConfig.Valid

namespace DriverConfig

variable {config : DriverConfig}

/-- Everything that is built from a valid configuration runs with the values that are written there,
at any time: pools, by where their nodes are, and their connections, the ring, the scheduler and the
profiles. Whoever is found by name in the configuration is found in the registry, and the other way
round. -/
theorem runs_as_configured (accepted : config.validate = .ok ()) (distinct : config.Distinct) :
    (∀ isLocal, (PoolLimits.ofSettings config.pool isLocal).AsConfigured config.pool isLocal) ∧
    (∀ actions, let history := (ClusterHistory.started config).run actions
      history.tracker.ring.replicationFactor = config.replicationFactor ∧
      ∀ id node pool, history.tracker.node? id = some node → node.pool = some pool →
        ∃ service, history.pools[pool]? = some service ∧
          service.pool.limits.AsConfigured config.pool (node.distance = .near) ∧
          ∀ line ∈ service.lines, line.channel.isClosed = false →
            line.channel.limits = service.pool.limits.channel ∧
            line.channel.ids.capacity = config.pool.maxStreams) ∧
    (∀ nodes, (TokenRing.ofNodes nodes config.replicationFactor).replicationFactor =
      config.replicationFactor) ∧
    (∀ actions, let history := (SchedulerHistory.started config.scheduler.workers).run actions
      history.scheduler.workers = config.scheduler.workers) ∧
    ∀ name, ((config.profile? name).isSome = true ↔
        ((ProfileRegistry.ofConfig config).find? name).isSome = true) ∧
      ∀ settings, config.profile? name = some settings → ∃ profile,
        (ProfileRegistry.ofConfig config).find? name = some profile ∧
          profile.AsConfigured name settings := by
  have valid := validate_eq_ok.1 accepted
  refine ⟨valid.limits_asConfigured, fun actions => ?_, fun nodes => ?_, fun actions => ?_,
    fun name => ⟨?_, fun settings found => ?_⟩⟩
  · have fitted := ClusterHistory.run_fitted valid.contacts actions
    refine ⟨fitted.replicates.2.trans (Nat.max_eq_left valid.factor),
      fun id node pool known held => ?_⟩
    obtain ⟨service, filed, limits⟩ := fitted.limits id node pool known held
    refine ⟨service, filed, limits ▸ valid.limits_asConfigured _, fun line member isOpen => ?_⟩
    obtain ⟨start, course, rfl⟩ := fitted.lined service (List.mem_of_getElem? filed) line member
    have same := History.run_limits isOpen
    refine ⟨same, ?_⟩
    rw [(History.run_inOrder _ start course isOpen).capacity, Channel.capacity, same, limits]
    exact valid.capacity_eq
  · exact Nat.max_eq_left valid.factor
  · have staffed := (SchedulerHistory.run_sound (SchedulerHistory.started_sound
      config.scheduler.workers) actions).staffed
    exact staffed.staff.trans (Nat.max_eq_right valid.workers)
  · rw [ProfileRegistry.find?_ofConfig distinct, Option.isSome_map]
  · exact ⟨_, by rw [ProfileRegistry.find?_ofConfig distinct, found, Option.map_some],
      Profile.asConfigured_ofSettings name (valid.maxExecutions_of_profile? found)⟩

def tight : DriverConfig where
  contactPoints := [{ address := .v4 0x7F000001 9042 }]
  pool := {
    localSize := 3, maxStreams := 32768, maxOrphans := 32767, reconnectBase := 70
    reconnectMax := 70 }
  scheduler := { workers := 1 }
  profiles := [("eager", { requestTimeout := 1, speculativeDelay := some 5 })]

theorem tight_runs_as_configured :
    tight.validate = .ok () ∧ tight.Distinct ∧
      (PoolLimits.ofSettings tight.pool true).AsConfigured tight.pool true ∧
      (PoolLimits.ofSettings tight.pool false).channel.orphanLimit = 32767 ∧
      ((ProfileRegistry.ofConfig tight).find? "default").isSome = true ∧
      ∃ profile, (ProfileRegistry.ofConfig tight).find? "eager" = some profile ∧
        profile.speculation = .never ∧ profile.attemptTimeout = 1 := by
  have accepted : tight.validate = .ok () := rfl
  have distinct : tight.Distinct := List.nodup_singleton _
  obtain ⟨pools, _, _, _, profiles⟩ := runs_as_configured accepted distinct
  obtain ⟨profile, found, same⟩ := (profiles "eager").2 _ rfl
  exact ⟨accepted, distinct, pools true, (pools false).orphans, (profiles "default").1.1 rfl,
    profile, found, (same.single 5 rfl rfl).1, same.attemptTimeout⟩

variable {nodes : List (SocketAddress × List Int64)}

/-- Whatever else a valid configuration holds, there can be a scheduler as long as its workers can
be counted, and replicas can be found in a ring as long as there can be room for as many as are
wanted. Validation sets no limit to either number. -/
theorem starts_within_limits (accepted : config.validate = .ok ())
    (owned : ∃ owner token, TokenRing.Owns nodes owner token) :
    (∀ token, Scheduler.create? config.scheduler.workers ≠ none ∧
        (TokenRing.ofNodes nodes config.replicationFactor).replicas? token ≠ none ↔
      config.scheduler.workers ≤ Scheduler.maxWorkers ∧
        config.replicationFactor ≤ TokenRing.maxReserved) ∧
    ∀ workers factor, 1 ≤ workers → 1 ≤ factor →
      validate { config with
        scheduler := { config.scheduler with workers }, replicationFactor := factor } = .ok () := by
  have valid := validate_eq_ok.1 accepted
  refine ⟨fun token => ?_, fun workers factor some wanted => ?_⟩
  · have created : Scheduler.create? config.scheduler.workers ≠ none ↔
        config.scheduler.workers ≤ Scheduler.maxWorkers := by
      simp [Scheduler.create?, Scheduler.ofWorkers, Nat.max_eq_left valid.workers]
    have found : (TokenRing.ofNodes nodes config.replicationFactor).replicas? token ≠ none ↔
        config.replicationFactor ≤ TokenRing.maxReserved := by
      rw [ne_eq, TokenRing.replicas?_ofNodes_eq_none_iff, not_and, Nat.not_lt]
      exact ⟨fun within => within owned, fun within _ => within⟩
    exact and_congr created found
  · exact validate_eq_ok.2 { valid with workers := some, factor := wanted }

def vast : DriverConfig where
  contactPoints := [{ address := .v4 0x7F000001 9042, tokens := [0] }]
  scheduler := { workers := 0x1FFFFFFFFFFFFFFF }
  replicationFactor := 0x3FFFFFFFFFFFFFF

theorem vast_starts_within_limits :
    let nodes := [(SocketAddress.v4 0x7F000001 9042, [(0 : Int64)])]
    vast.validate = .ok () ∧ (∃ owner token, TokenRing.Owns nodes owner token) ∧
      (Scheduler.create? vast.scheduler.workers ≠ none ∧
        (TokenRing.ofNodes nodes vast.replicationFactor).replicas? 0 ≠ none) ∧
      validate { vast with
        scheduler := { vast.scheduler with workers := 0x2000000000000000 }
        replicationFactor := 0x1000000000000000 } = .ok () := by
  intro nodes
  have accepted : vast.validate = .ok () := rfl
  have owned : ∃ owner token, TokenRing.Owns nodes owner token :=
    ⟨.v4 0x7F000001 9042, 0, [0], List.mem_singleton.2 rfl, List.mem_singleton.2 rfl⟩
  obtain ⟨starts, unlimited⟩ := starts_within_limits accepted owned
  exact ⟨accepted, owned, (starts 0).2 (by decide), unlimited _ _ (by decide) (by decide)⟩

def immense : DriverConfig where
  contactPoints := [{ address := .v4 0x7F000001 9042, tokens := [0] }]
  scheduler := { workers := 0x2000000000000000 }
  replicationFactor := 0x1000000000000000

theorem immense_never_starts :
    immense.validate = .ok () ∧ Scheduler.create? immense.scheduler.workers = none ∧
      (TokenRing.ofNodes [(.v4 0x7F000001 9042, [0])] immense.replicationFactor).replicas? 0 =
        none := by
  refine ⟨rfl, by decide, TokenRing.replicas?_ofNodes_eq_none_iff.2 ⟨?_, by decide⟩⟩
  exact ⟨.v4 0x7F000001 9042, 0, [0], List.mem_singleton.2 rfl, List.mem_singleton.2 rfl⟩

end DriverConfig

end ClusterDriver
