import ClusterDriver.Request.Run

/-!
A request from its submission to its end. It waits for a worker first; should it be cancelled or run
out of time while it waits, it is given up and never runs. Otherwise it is prepared and runs.
Whatever comes of it is counted once.
-/

set_option autoImplicit false

namespace ClusterDriver

namespace RequestContext

def conclude (context : RequestContext) (now : Nat) (cause : RequestError) :
    RequestContext × List Metrics.Event :=
  (context.resolve now (.error cause), closingEvents (context.latency now) (.error cause))

def giveUp (context : RequestContext) (now : Nat) : Option (RequestContext × List Metrics.Event) :=
  match context.giveUp? now with
  | none => none
  | some cause =>
      let (context, events) := context.conclude now cause
      some (context, .submitted :: events)

end RequestContext

structure Submission where
  request : Request
  options : RequestOptions
  context : RequestContext
  run : Option Run := none
  isOver : Bool := false
  events : List Metrics.Event := []

namespace Submission

variable {σ : Type}

def count (submission : Submission) (events : List Metrics.Event) : Submission :=
  { submission with events := submission.events ++ events }

def hold (submission : Submission) (now : Nat) : Submission :=
  match submission.context.giveUp now with
  | none => submission
  | some (context, events) => { submission.count events with context, isOver := true }

def adopt (submission : Submission) (before after : Run) : Submission :=
  -- Only what the run has recorded since is new.
  { submission.count (after.events.drop before.events.length) with
    context := after.context
    run := some after
    isOver := after.finished }

def begin (cluster : Cluster σ) (registry : ProfileRegistry) (codec : Codec)
    (submission : Submission) (around : σ) : Submission × σ :=
  -- A request is counted even if it cannot be prepared.
  let submission := submission.count [.submitted]
  match Run.prepare registry codec submission.context submission.request submission.options with
  | .error cause =>
      let (context, events) := submission.context.conclude (cluster.now around) cause
      ({ submission.count events with context, isOver := true }, around)
  | .ok build =>
      let (plan, around) := cluster.plan submission.options.routingKey around
      ({ submission with run := some ((build plan).startExecution (cluster.now around)) }, around)

def poll (cluster : Cluster σ) (submission : Submission) (around : σ) : Submission × σ :=
  match submission.run with
  | none => (submission, around)
  | some run =>
      let run := { run with context := submission.context }
      let (after, around) := run.poll cluster around
      (submission.adopt run after, around)

/-- It is over, and nobody is told what came of it. -/
def isDropped (submission : Submission) : Bool :=
  submission.isOver && !submission.context.isResolved

/-- Should its plan fail, a request is over at once and has no outcome. -/
def breakOff (submission : Submission) : Submission :=
  { submission.count [.submitted] with isOver := true }

def start (cluster : Cluster σ) (registry : ProfileRegistry) (codec : Codec)
    (submission : Submission) (around : σ) : Submission × σ :=
  let (submission, around) := submission.begin cluster registry codec around
  if submission.isOver then (submission, around) else submission.poll cluster around

end Submission

end ClusterDriver
