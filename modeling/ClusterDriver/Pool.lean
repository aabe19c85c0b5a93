import ClusterDriver.Channel.Limits
import ClusterDriver.Reconnect
import ClusterDriver.SocketAddress

/-!
A pool of connections to one node. It keeps up a number of connections, hands out the one with
the most free streams, and tells when its node becomes usable and when it stops being so.
Connections are named by number here; what is known of each is asked from outside.
-/

set_option autoImplicit false

namespace ClusterDriver

abbrev ChannelId := Nat

inductive PoolState where
  | initializing
  | ready
  | unavailable
  | closed
deriving DecidableEq, Repr, Inhabited

def PoolState.name : PoolState → String
  | .initializing => "Initializing"
  | .ready => "Ready"
  | .unavailable => "Unavailable"
  | .closed => "Closed"

inductive PoolEvent where
  | up (node : SocketAddress)
  | down (node : SocketAddress)
deriving DecidableEq, Repr

inductive PoolError where
  | unavailable (node : SocketAddress) (reason : String)
  | busy (node : SocketAddress)
  | closed (node : SocketAddress)
deriving DecidableEq, Repr

def PoolError.message : PoolError → String
  | .unavailable node reason => "No usable connection to " ++ node.text ++ ": " ++ reason
  | .busy node => "All connections to " ++ node.text ++ " are saturated"
  | .closed node => "Pool for " ++ node.text ++ " is closed"

structure ChannelView where
  usable : Bool
  available : Nat
deriving DecidableEq, Repr, Inhabited

/-- `channels` are in service; `closing` holds those taken out of service by a close. -/
structure Pool where
  address : SocketAddress
  limits : PoolLimits
  channels : List ChannelId := []
  closing : List ChannelId := []
  state : PoolState := .initializing
  lastError : Option String := none
deriving DecidableEq, Repr, Inhabited

namespace Pool

def isClosed (pool : Pool) : Bool := pool.state = .closed

def usable (view : ChannelId → ChannelView) (channels : List ChannelId) : List ChannelId :=
  channels.filter fun channel => (view channel).usable

def freest? (view : ChannelId → ChannelView) : List ChannelId → Option ChannelId
  -- Among equally free connections the last one is taken.
  | [] => none
  | channel :: rest =>
      match freest? view rest with
      | none => some channel
      | some other =>
          if (view other).available < (view channel).available then some channel else some other

def tryAcquire (view : ChannelId → ChannelView) (pool : Pool) : Except PoolError ChannelId :=
  if pool.isClosed then .error (.closed pool.address)
  else
    match freest? view (usable view pool.channels) with
    | none =>
        .error (.unavailable pool.address (pool.lastError.getD "no live connections"))
    | some channel =>
        if (view channel).available = 0 then .error (.busy pool.address) else .ok channel

def acquire? (view : ChannelId → ChannelView) (pool : Pool) :
    Option (Except PoolError ChannelId) :=
  -- Before the first attempt to connect has ended, there is no answer.
  if pool.state = .initializing then none else some (pool.tryAcquire view)

def size (view : ChannelId → ChannelView) (pool : Pool) : Nat :=
  (usable view pool.channels).length

def transition (pool : Pool) (next : PoolState) : Pool × List PoolEvent :=
  -- A closed pool does not change any more.
  if pool.state = next ∨ pool.isClosed then (pool, [])
  else
    let events := match next with
      | .ready => [PoolEvent.up pool.address]
      | .unavailable => [PoolEvent.down pool.address]
      | _ => []
    ({ pool with state := next }, events)

def addChannel (pool : Pool) (channel : ChannelId) : Option (Pool × List PoolEvent) :=
  if pool.isClosed then none
  else some ({ pool with channels := pool.channels ++ [channel] }.transition .ready)

def checkUsable (view : ChannelId → ChannelView) (pool : Pool) : Pool × List PoolEvent :=
  if pool.size view = 0 then pool.transition .unavailable else (pool, [])

def removeChannel (view : ChannelId → ChannelView) (pool : Pool) (channel : ChannelId) :
    Pool × List PoolEvent :=
  if pool.isClosed then (pool, [])
  else { pool with channels := pool.channels.filter (· ≠ channel) }.checkUsable view

def connectFailed (view : ChannelId → ChannelView) (pool : Pool) (reason : String) :
    Pool × List PoolEvent :=
  { pool with lastError := some reason }.checkUsable view

def beginClose (pool : Pool) : Pool × List ChannelId :=
  ({ pool with channels := [], closing := pool.closing ++ pool.channels, state := .closed },
    pool.channels)

def wantsChannel (pool : Pool) : Bool := pool.channels.length < pool.limits.size

def describe (view : ChannelId → ChannelView) (pool : Pool) : String :=
  "ConnectionPool \x7b addr: " ++ pool.address.text ++ ", state: " ++ pool.state.name
    ++ s!", size: {pool.size view} \x7d"

end Pool

end ClusterDriver
