set_option autoImplicit false

namespace ClusterDriver

/-- Another execution starts after each delay, in milliseconds, until `maxExecutions` are
running. -/
structure ConstantSpeculation where
  delay : Nat
  maxExecutions : Nat
deriving DecidableEq, Repr

inductive SpeculationPolicy where
  | never
  | constant (policy : ConstantSpeculation)
  | custom (delay : (asked running : Nat) → Option Nat)

namespace SpeculationPolicy

def delayAfter (policy : SpeculationPolicy) (asked running : Nat) : Option Nat :=
  match policy with
  | .never => none
  | .constant policy => if running < policy.maxExecutions then some policy.delay else none
  | .custom delay => delay asked running

def nextDelay (policy : SpeculationPolicy) (running : Nat) : Option Nat :=
  policy.delayAfter 0 running

end SpeculationPolicy

end ClusterDriver
