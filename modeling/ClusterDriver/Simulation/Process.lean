import ClusterDriver.Cluster.Node
import ClusterDriver.Pool
import ClusterDriver.Scheduler

set_option autoImplicit false

namespace ClusterDriver.Simulation

abbrev SocketId := Nat

abbrev ServerId := Nat

abbrev DelayedReplyId := Nat

abbrev TaskId := Nat

abbrev ErrandId := Nat

abbrev ListenerId := Nat

/-- On the client's side: a `connection` with its `reader`, the `watcher` of its end, the
`manager` of a pool, the `tracking` of nodes with its listeners, requests, timers and callbacks;
`errand` is something that a user of the client waits for. On the servers' side: an `acceptor`
for each server, a `service` for each of its connections, and delayed replies. -/
inductive Process where
  | connection (channel : ChannelId)
  | reader (channel : ChannelId)
  | watcher (channel : ChannelId)
  | manager (pool : PoolId)
  | tracking
  | listener (id : ListenerId)
  | request (task : TaskId)
  | timer (id : TimerId)
  | callback (job : JobId)
  | errand (id : ErrandId)
  | acceptor (server : ServerId)
  | service (socket : SocketId)
  | delayedReply (id : DelayedReplyId)
deriving DecidableEq, Repr

structure Waker where
  process : Process
  execution : Option Nat := none
deriving DecidableEq, Repr

inductive Signal where
  | poolState (pool : PoolId)
  | channelClosed (channel : ChannelId)
  | eventsApplied
  | jobOver
  | cancelled (context : Nat)
  | shutdownOver
deriving DecidableEq, Repr

end ClusterDriver.Simulation
