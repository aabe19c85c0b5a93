import ClusterDriver.Channel.Limits
import ClusterDriver.Document.Values
import ClusterDriver.Request.Profile

set_option autoImplicit false

namespace ClusterDriver.Document

def credentials (value : Credentials) : Json :=
  .record [("username", .text value.username), ("password", .text value.password)]

def contactPoint (value : ContactPoint) : Json :=
  .record [("address", address value.address), ("datacenter", .optional .text value.datacenter),
    ("tokens", .list (fun token => .int token.toInt) value.tokens)]

def profileSettings (value : ProfileSettings) : Json :=
  .record [("request_timeout_ms", .nat value.requestTimeout),
    ("attempt_timeout_ms", .optional .nat value.attemptTimeout),
    ("page_size", .optional .nat value.pageSize), ("idempotent", .bool value.idempotent),
    ("max_same_node_retries", .nat value.maxSameNodeRetries),
    ("retry_max_retries", .nat value.maxRetries),
    ("ignore_write_timeout_for_non_idempotent", .bool value.ignoreWriteTimeouts),
    ("speculative_delay_ms", .optional .nat value.speculativeDelay),
    ("speculative_max_executions", .nat value.maxExecutions)]

def poolSettings (value : PoolSettings) : Json :=
  .record [("local_size", .nat value.localSize), ("remote_size", .nat value.remoteSize),
    ("max_streams_per_connection", .nat value.maxStreams),
    ("connect_timeout_ms", .nat value.connectTimeout),
    ("heartbeat_interval_ms", .nat value.heartbeatInterval),
    ("heartbeat_timeout_ms", .nat value.heartbeatTimeout),
    ("max_orphan_requests", .nat value.maxOrphans),
    ("reconnect_base_delay_ms", .nat value.reconnectBase),
    ("reconnect_max_delay_ms", .nat value.reconnectMax),
    ("close_drain_timeout_ms", .nat value.closeDrainTimeout)]

def schedulerSettings (value : SchedulerSettings) : Json :=
  .record [("worker_pool_size", .nat value.workers),
    ("shutdown_quiet_period_ms", .nat value.quietPeriod),
    ("shutdown_timeout_ms", .nat value.shutdownTimeout)]

def config (value : DriverConfig) : Json :=
  .record [("contact_points", .list contactPoint value.contactPoints),
    ("local_datacenter", .optional .text value.localDatacenter),
    ("allow_remote_datacenters", .bool value.allowRemoteDatacenters),
    ("pool", poolSettings value.pool), ("scheduler", schedulerSettings value.scheduler),
    ("replication_factor", .nat value.replicationFactor),
    ("profiles", .record (value.profiles.map fun (name, settings) =>
      (name, profileSettings settings))),
    ("auth", .optional credentials value.auth.credentials)]

def profile (value : Profile) : Json :=
  let decision (failure : FailureKind) (retries : Nat) (idempotent : Bool) : Json :=
    .text (value.retry.decide 0 failure retries idempotent).text
  .record [("name", .text value.name), ("request_timeout_ms", .nat value.requestTimeout),
    ("attempt_timeout_ms", .nat value.attemptTimeout),
    ("page_size", .optional .nat value.pageSize), ("idempotent", .bool value.idempotent),
    ("max_same_node_retries", .nat value.maxSameNodeRetries),
    ("speculative", .list (fun running => .optional .nat (value.speculation.nextDelay running))
      [0, 1, 2, 3]),
    ("retry", .list (fun retries => decision .clientTimeout retries true) [0, 1, 2]),
    ("write_timeout", decision (.server .writeTimeout) 0 false)]

def profiles (registry : ProfileRegistry) : Json :=
  .list profile registry.sorted

def poolLimits (value : PoolLimits) : Json :=
  .record [("size", .nat value.size), ("max_streams", .nat value.channel.maxStreams),
    ("connect_timeout_ms", .nat value.channel.connectTimeout),
    ("heartbeat_interval_ms", .nat value.channel.heartbeatInterval),
    ("heartbeat_timeout_ms", .nat value.channel.heartbeatTimeout),
    ("max_orphan_requests", .nat value.channel.maxOrphans),
    ("close_drain_timeout_ms", .nat value.channel.closeDrainTimeout),
    ("reconnect_base_ms", .nat value.reconnectBase), ("reconnect_max_ms", .nat value.reconnectMax)]

end ClusterDriver.Document
