import ClusterDriver.Config

set_option autoImplicit false

namespace ClusterDriver

/-- Times are in milliseconds, in 64 bits as in the settings that they come from, so that none of
them leads beyond what the clock can show. -/
structure ChannelLimits where
  maxStreams : Nat
  connectTimeout : Nat
  heartbeatInterval : Nat
  heartbeatTimeout : Nat
  maxOrphans : Nat
  closeDrainTimeout : Nat
deriving DecidableEq, Repr, Inhabited

namespace ChannelLimits

def ofSettings (settings : PoolSettings) : ChannelLimits where
  maxStreams := settings.maxStreams
  connectTimeout := settings.connectTimeout
  heartbeatInterval := settings.heartbeatInterval
  heartbeatTimeout := settings.heartbeatTimeout
  maxOrphans := settings.maxOrphans
  closeDrainTimeout := settings.closeDrainTimeout

def capacity (limits : ChannelLimits) : Nat := min (max limits.maxStreams 1) maxStreamsLimit

def orphanLimit (limits : ChannelLimits) : Nat := min limits.maxOrphans (limits.capacity - 1)

end ChannelLimits

structure PoolLimits where
  size : Nat
  channel : ChannelLimits
  reconnectBase : Nat
  reconnectMax : Nat
deriving DecidableEq, Repr, Inhabited

namespace PoolLimits

def ofSettings (settings : PoolSettings) (isLocal : Bool) : PoolLimits where
  -- A pool has at least one connection; how many depends on where its node is.
  size := max (if isLocal then settings.localSize else settings.remoteSize) 1
  channel := .ofSettings settings
  reconnectBase := settings.reconnectBase
  reconnectMax := settings.reconnectMax

def standard : PoolLimits := ofSettings {} true

end PoolLimits

end ClusterDriver
