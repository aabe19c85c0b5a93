import ClusterDriver.ServerError

set_option autoImplicit false

namespace ClusterDriver

inductive RetryDecision where
  | retrySameNode
  | retryNextNode
  | rethrow
  | ignore
deriving DecidableEq, Repr, Inhabited

def RetryDecision.text : RetryDecision → String
  | .retrySameNode => "RETRY_SAME_NODE"
  | .retryNextNode => "RETRY_NEXT_NODE"
  | .rethrow => "RETHROW"
  | .ignore => "IGNORE"

inductive FailureKind where
  | clientTimeout
  | transport
  | server (kind : ServerErrorKind)
deriving DecidableEq, Repr

def FailureKind.isFatal : FailureKind → Bool
  | .server kind => kind.errorClass = .validation
  | _ => false

structure StandardRetry where
  maxRetries : Nat := 1
  ignoreWriteTimeouts : Bool := false
deriving DecidableEq, Repr, Inhabited

namespace StandardRetry

def preference (failure : FailureKind) (idempotent : Bool) : RetryDecision :=
  -- A bootstrapping node never ran the statement, so the next one is always tried. All else is
  -- retried on the next node if running it twice does no harm.
  match failure with
  | .server .readTimeout => .retrySameNode
  | .server .bootstrapping => .retryNextNode
  | _ => if idempotent then .retryNextNode else .rethrow

def decide (policy : StandardRetry) (failure : FailureKind) (retries : Nat)
    (idempotent : Bool) : RetryDecision :=
  if failure.isFatal then .rethrow
  else if failure = .server .writeTimeout ∧ !idempotent ∧ policy.ignoreWriteTimeouts then .ignore
  else if policy.maxRetries ≤ retries then .rethrow
  else preference failure idempotent

end StandardRetry

/-- How a profile decides on retries. A sequence gives its decisions one after the other, and
its last one from then on. A policy of the user's own may depend on all that it is told, and on
how often it was asked. -/
inductive RetryPolicy where
  | standard (policy : StandardRetry)
  | fallthrough
  | sequence (decisions : List RetryDecision)
  | custom (decide : (calls : Nat) → FailureKind → (retries : Nat) → (idempotent : Bool) →
      RetryDecision)

namespace RetryPolicy

def countsCalls : RetryPolicy → Bool
  | .sequence _ | .custom _ => true
  | _ => false

def decide (policy : RetryPolicy) (calls : Nat) (failure : FailureKind) (retries : Nat)
    (idempotent : Bool) : RetryDecision :=
  match policy with
  | .standard policy => policy.decide failure retries idempotent
  | .fallthrough => .rethrow
  | .sequence decisions => decisions.getD (min calls (decisions.length - 1)) .rethrow
  | .custom decide => decide calls failure retries idempotent

end RetryPolicy

end ClusterDriver
