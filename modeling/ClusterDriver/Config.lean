import ClusterDriver.Credentials
import ClusterDriver.SocketAddress

set_option autoImplicit false

namespace ClusterDriver

def defaultProfileName : String := "default"

def maxStreamsLimit : Nat := 32768

structure ContactPoint where
  -- Without tokens, no request is routed to the node by key.
  address : SocketAddress
  datacenter : Option String := none
  tokens : List Int64 := []
deriving DecidableEq, Repr

structure PoolSettings where
  -- All times in a configuration are in milliseconds.
  localSize : Nat := 1
  remoteSize : Nat := 1
  maxStreams : Nat := 1024
  connectTimeout : Nat := 5000
  heartbeatInterval : Nat := 30000
  heartbeatTimeout : Nat := 5000
  maxOrphans : Nat := 256
  reconnectBase : Nat := 1000
  reconnectMax : Nat := 60000
  closeDrainTimeout : Nat := 2000
deriving DecidableEq, Repr, Inhabited

structure SchedulerSettings where
  workers : Nat := 1024
  quietPeriod : Nat := 2000
  shutdownTimeout : Nat := 15000
deriving DecidableEq, Repr, Inhabited

structure ProfileSettings where
  requestTimeout : Nat := 12000
  attemptTimeout : Option Nat := none
  pageSize : Option Nat := none
  idempotent : Bool := false
  maxSameNodeRetries : Nat := 1
  maxRetries : Nat := 1
  ignoreWriteTimeouts : Bool := false
  speculativeDelay : Option Nat := none
  maxExecutions : Nat := 1
deriving DecidableEq, Repr, Inhabited

def ProfileSettings.effectiveAttemptTimeout (settings : ProfileSettings) : Nat :=
  settings.attemptTimeout.getD settings.requestTimeout

structure DriverConfig where
  -- Profiles have distinct names.
  contactPoints : List ContactPoint := []
  localDatacenter : Option String := none
  allowRemoteDatacenters : Bool := true
  pool : PoolSettings := {}
  scheduler : SchedulerSettings := {}
  replicationFactor : Nat := 1
  profiles : List (String × ProfileSettings) := []
  auth : AuthConfig := {}
deriving DecidableEq, Repr, Inhabited

namespace DriverConfig

def profile? (config : DriverConfig) (name : String) : Option ProfileSettings :=
  -- The default profile always exists.
  match config.profiles.lookup name with
  | some settings => some settings
  | none => if name = defaultProfileName then some {} else none

def profileFault? (name : String) (settings : ProfileSettings) : Option ConfigError :=
  if settings.requestTimeout = 0 then
    some ⟨s!"profile '{name}': request_timeout_ms must be non-zero"⟩
  else if settings.maxExecutions = 0 then
    some ⟨s!"profile '{name}': speculative_max_executions must be at least 1"⟩
  else none

def fault? (config : DriverConfig) : Option ConfigError :=
  let pool := config.pool
  if config.contactPoints.isEmpty then
    some ⟨"at least one contact point is required"⟩
  else if pool.localSize = 0 ∨ pool.remoteSize = 0 then
    some ⟨"pool sizes must be at least 1"⟩
  else if pool.maxStreams = 0 ∨ maxStreamsLimit < pool.maxStreams then
    some ⟨s!"max_streams_per_connection must be in 1..={maxStreamsLimit}"⟩
  else if pool.maxStreams ≤ pool.maxOrphans then
    some ⟨s!"max_orphan_requests ({pool.maxOrphans}) must be below "
      ++ s!"max_streams_per_connection ({pool.maxStreams})"⟩
  else if pool.reconnectMax < pool.reconnectBase then
    some ⟨"reconnect_base_delay_ms exceeds reconnect_max_delay_ms"⟩
  else if pool.heartbeatInterval = 0 ∨ pool.heartbeatTimeout = 0 then
    some ⟨"heartbeat interval and timeout must be non-zero"⟩
  else if config.scheduler.workers = 0 then
    some ⟨"worker_pool_size must be at least 1"⟩
  else if config.replicationFactor = 0 then
    some ⟨"replication_factor must be at least 1"⟩
  else
    config.profiles.findSome? fun (name, settings) => profileFault? name settings

def validate (config : DriverConfig) : Except ConfigError Unit :=
  match config.fault? with
  | some e => .error e
  | none => .ok ()

end DriverConfig

end ClusterDriver
