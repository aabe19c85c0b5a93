import ClusterDriver.Config
import ClusterDriver.Json

/-!
Configurations as JSON documents. A record is an object with its known members at most once, or
an array of its members in their order; members left out have their default. Unknown members are
skipped. A whole number must lie in the range of its member.
-/

set_option autoImplicit false

namespace ClusterDriver.Document.Config

def fields? (names : List String) : Json → Option (List (Option Json))
  | .array items =>
      if items.length ≤ names.length then
        some (items.map some ++ List.replicate (names.length - items.length) none)
      else none
  | .object members =>
      if members.any (fun member => member.1.isNone) then none
      else
        names.mapM fun name =>
          match members.filter (fun member => member.1 = some name) with
          | [] => some none
          | [(_, value)] => some (some value)
          | _ => none
  | _ => none

def field {α : Type} (read : Json → Option α) (fallback : α) : Option Json → Option α
  | none => some fallback
  | some value => read value

def required {α : Type} (read : Json → Option α) : Option Json → Option α
  | none => none
  | some value => read value

def optional {α : Type} (read : Json → Option α) : Json → Option (Option α)
  | .null => some none
  | value => (read value).map some

def bool? : Json → Option Bool
  | .bool value => some value
  | _ => none

def string? : Json → Option String
  | .string text => text
  | _ => none

def natBelow? (limit : Nat) : Json → Option Nat
  | .number (some (.ofNat value)) => if value < limit then some value else none
  | _ => none

def size? : Json → Option Nat := natBelow? UInt64.size

def count? : Json → Option Nat := natBelow? UInt32.size

def token? : Json → Option Int64
  | .number (some value) =>
      if Int64.minValue.toInt ≤ value ∧ value ≤ Int64.maxValue.toInt then
        some (Int64.ofInt value)
      else none
  | _ => none

def list? {α : Type} (read : Json → Option α) : Json → Option (List α)
  | .array items => items.mapM read
  | _ => none

def address? (value : Json) : Option SocketAddress :=
  (string? value).bind SocketAddress.ofText?

def contactPoint? (value : Json) : Option ContactPoint := do
  match ← fields? ["address", "datacenter", "tokens"] value with
  | [address, datacenter, tokens] =>
      return {
        address := ← required address? address
        datacenter := ← field (optional string?) none datacenter
        tokens := ← field (list? token?) [] tokens
      }
  | _ => none

def poolSettings? (value : Json) : Option PoolSettings := do
  let names := ["local_size", "remote_size", "max_streams_per_connection", "connect_timeout_ms",
    "heartbeat_interval_ms", "heartbeat_timeout_ms", "max_orphan_requests",
    "reconnect_base_delay_ms", "reconnect_max_delay_ms", "close_drain_timeout_ms"]
  let unset : PoolSettings := {}
  match ← fields? names value with
  | [localSize, remoteSize, maxStreams, connectTimeout, heartbeatInterval, heartbeatTimeout,
      maxOrphans, reconnectBase, reconnectMax, closeDrainTimeout] =>
      return {
        localSize := ← field size? unset.localSize localSize
        remoteSize := ← field size? unset.remoteSize remoteSize
        maxStreams := ← field size? unset.maxStreams maxStreams
        connectTimeout := ← field size? unset.connectTimeout connectTimeout
        heartbeatInterval := ← field size? unset.heartbeatInterval heartbeatInterval
        heartbeatTimeout := ← field size? unset.heartbeatTimeout heartbeatTimeout
        maxOrphans := ← field size? unset.maxOrphans maxOrphans
        reconnectBase := ← field size? unset.reconnectBase reconnectBase
        reconnectMax := ← field size? unset.reconnectMax reconnectMax
        closeDrainTimeout := ← field size? unset.closeDrainTimeout closeDrainTimeout
      }
  | _ => none

def schedulerSettings? (value : Json) : Option SchedulerSettings := do
  let unset : SchedulerSettings := {}
  match ← fields? ["worker_pool_size", "shutdown_quiet_period_ms", "shutdown_timeout_ms"] value with
  | [workers, quietPeriod, shutdownTimeout] =>
      return {
        workers := ← field size? unset.workers workers
        quietPeriod := ← field size? unset.quietPeriod quietPeriod
        shutdownTimeout := ← field size? unset.shutdownTimeout shutdownTimeout
      }
  | _ => none

def profileSettings? (value : Json) : Option ProfileSettings := do
  let names := ["request_timeout_ms", "attempt_timeout_ms", "page_size", "idempotent",
    "max_same_node_retries", "retry_max_retries", "ignore_write_timeout_for_non_idempotent",
    "speculative_delay_ms", "speculative_max_executions"]
  let unset : ProfileSettings := {}
  match ← fields? names value with
  | [requestTimeout, attemptTimeout, pageSize, idempotent, maxSameNodeRetries, maxRetries,
      ignoreWriteTimeouts, speculativeDelay, maxExecutions] =>
      return {
        requestTimeout := ← field size? unset.requestTimeout requestTimeout
        attemptTimeout := ← field (optional size?) none attemptTimeout
        pageSize := ← field (optional count?) none pageSize
        idempotent := ← field bool? unset.idempotent idempotent
        maxSameNodeRetries := ← field count? unset.maxSameNodeRetries maxSameNodeRetries
        maxRetries := ← field count? unset.maxRetries maxRetries
        ignoreWriteTimeouts := ← field bool? unset.ignoreWriteTimeouts ignoreWriteTimeouts
        speculativeDelay := ← field (optional size?) none speculativeDelay
        maxExecutions := ← field size? unset.maxExecutions maxExecutions
      }
  | _ => none

def profiles? : Json → Option (List (String × ProfileSettings))
  -- The last of several members of one name counts.
  | .object members => do
      let profiles ← members.mapM fun (name, value) => do
        return ((← name), (← profileSettings? value))
      return profiles.foldl
        (fun kept profile => kept.filter (fun other => other.1 ≠ profile.1) ++ [profile]) []
  | _ => none

def credentials? (value : Json) : Option Credentials := do
  match ← fields? ["username", "password"] value with
  | [username, password] =>
      return ⟨← required string? username, ← required string? password⟩
  | _ => none

def authConfig? (value : Json) : Option AuthConfig :=
  (optional credentials? value).map AuthConfig.mk

def config? (value : Json) : Option DriverConfig := do
  let names := ["contact_points", "local_datacenter", "allow_remote_datacenters", "pool",
    "scheduler", "replication_factor", "profiles", "auth"]
  let unset : DriverConfig := {}
  match ← fields? names value with
  | [contactPoints, localDatacenter, allowRemoteDatacenters, pool, scheduler, replicationFactor,
      profiles, auth] =>
      return {
        contactPoints := ← field (list? contactPoint?) [] contactPoints
        localDatacenter := ← field (optional string?) none localDatacenter
        allowRemoteDatacenters := ←
          field bool? unset.allowRemoteDatacenters allowRemoteDatacenters
        pool := ← field poolSettings? {} pool
        scheduler := ← field schedulerSettings? {} scheduler
        replicationFactor := ← field size? unset.replicationFactor replicationFactor
        profiles := ← field profiles? [] profiles
        auth := ← field authConfig? {} auth
      }
  | _ => none

inductive Failure where
  | unreadable
  | invalid (cause : ConfigError)

def ofText (text : String) : Except Failure DriverConfig :=
  match (Json.ofText? text).bind config? with
  | none => .error .unreadable
  | some config =>
      match config.validate with
      | .error e => .error (.invalid e)
      | .ok () => .ok config

end ClusterDriver.Document.Config
