import ClusterDriver.Clock

set_option autoImplicit false

namespace ClusterDriver

/-- Something being shut down: when it finished, if it has, in milliseconds from the beginning, and
the failure it finished with. -/
structure ShutdownMember where
  name : String
  finished : Option Nat := none
  failure : Option String := none
deriving DecidableEq, Repr, Inhabited

inductive MemberOutcome where
  | completed
  | failed (message : String)
  | timedOut
deriving DecidableEq, Repr, Inhabited

namespace ShutdownMember

def inTime (timeout : Nat) (member : ShutdownMember) : Bool :=
  -- A member that finishes in the very moment of the limit is in time.
  member.finished.any fun finished => finished ≤ timeout

def outcome (timeout : Nat) (member : ShutdownMember) : MemberOutcome :=
  if member.inTime timeout then
    match member.failure with
    | none => .completed
    | some message => .failed message
  else .timedOut

end ShutdownMember

structure ShutdownReport where
  completed : List String := []
  failed : List (String × String) := []
  timedOut : List String := []
  elapsed : Nat := 0
deriving DecidableEq, Repr, Inhabited

namespace ShutdownReport

def isClean (report : ShutdownReport) : Bool := report.failed.isEmpty && report.timedOut.isEmpty

def elapsedOf (timeout : Nat) (members : List ShutdownMember) : Nat :=
  if members.all (·.inTime timeout) then
    (members.filterMap (·.finished)).foldl max 0
  else timeout

def add (report : ShutdownReport) (name : String) : MemberOutcome → ShutdownReport
  | .completed => { report with completed := report.completed ++ [name] }
  | .failed message => { report with failed := report.failed ++ [(name, message)] }
  | .timedOut => { report with timedOut := report.timedOut ++ [name] }

def ofOutcomes (elapsed : Nat) (outcomes : List (String × MemberOutcome)) : ShutdownReport :=
  outcomes.foldl (fun report (name, outcome) => report.add name outcome) { elapsed }

def ofMembers (timeout : Nat) (members : List ShutdownMember) : ShutdownReport :=
  ofOutcomes (elapsedOf timeout members)
    (members.map fun member => (member.name, member.outcome timeout))

def ofGroup? (now timeout : Nat) (members : List ShutdownMember) : Option ShutdownReport :=
  (Clock.after? now timeout).map fun _ => ofMembers timeout members

end ShutdownReport

end ClusterDriver
