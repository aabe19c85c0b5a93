import ClusterDriver.Document.Shutdown
import ClusterDriver.Scheduler
import ClusterDriver.Simulation.Agenda

set_option autoImplicit false

namespace ClusterDriver.Scenario.Scheduling

open Json (Read)

inductive Process where
  | job (id : JobId)
  | timer (id : TimerId)
  | shutdown (id : Nat)
  | watch (id : Nat)
deriving DecidableEq

inductive Work where
  | lasting (millis : Nat) (giveUpAfter : Option Nat)
  | callback

structure Job where
  name : String
  work : Work
  ends : Option Nat := none
  givesUp : Option Nat := none

structure Timer where
  name : String
  delay : Nat
  due : Option Nat := none

structure ShutdownCall where
  name : String
  quietPeriod : Nat
  begun : Bool := false
  finished : Bool := false

structure State where
  agenda : Simulation.Agenda Process Process := {}
  scheduler : Scheduler
  jobs : List Job := []
  timers : List Timer := []
  jobNames : List (String × JobId) := []
  timerNames : List (String × TimerId) := []
  shutdowns : List ShutdownCall := []
  watches : List (String × Bool) := []
  log : List (Nat × String) := []

inductive Step where
  | spawn (name : String) (work : Work)
  | schedule (name : String) (delay : Nat)
  | cancel (name : String)
  | timer (name : String)
  | abort (name : String)
  | advance (millis : Nat)
  | shutdown (name : String) (quietPeriod : Nat)
  | watch (name : String)
  | describe

def asStep (value : Json) : Read Step := do
  let name := value.getString "id"
  match ← value.getString "do" with
  | "spawn" => return .spawn (← name) (.lasting (← value.getD "work_ms" 0 Json.asNat) none)
  | "spawn_or_give_up" =>
      return .spawn (← name)
        (.lasting (← value.getD "work_ms" 0 Json.asNat) (some (← value.getNat "give_up_ms")))
  | "schedule" => return .schedule (← name) (← value.getNat "delay_ms")
  | "cancel" => return .cancel (← name)
  | "timer" => return .timer (← name)
  | "abort" => return .abort (← name)
  | "advance" => return .advance (← value.getNat "ms")
  | "shutdown" => return .shutdown (← name) (← value.getNat "quiet_ms")
  | "watch" => return .watch (← name)
  | "debug" => return .describe
  | other => .error ("unknown step " ++ other)

namespace State

def now (state : State) : Nat := state.agenda.now

def wake (state : State) (process : Process) : State :=
  { state with agenda := state.agenda.wake process }

def setAlarm (state : State) (due : Nat) (process : Process) : State :=
  { state with agenda := state.agenda.setAlarm due process }

def write (state : State) (line : String) : State :=
  { state with log := state.log ++ [(state.now, line)] }

def started (state : State) (result : Scheduler × List JobId) : State :=
  result.2.foldl (fun state job => state.wake (.job job)) { state with scheduler := result.1 }

def wakeShutdowns (state : State) : State :=
  -- Shutdowns look again when a job is over, and whoever waits for the end of one when it ends.
  let calls := (List.range state.shutdowns.length).map Process.shutdown
  let watches := (List.range state.watches.length).map Process.watch
  (calls ++ watches).foldl wake state

def removeJob (state : State) (job : JobId) : State :=
  (state.started (state.scheduler.remove job)).wakeShutdowns

def runJob (state : State) (id : JobId) (job : Job) : State :=
  match job.work with
  | .callback => (state.write ("fired " ++ job.name)).removeJob id
  | .lasting millis _ =>
      let (state, ends) := match job.ends with
        | some ends => (state, ends)
        | none =>
            let ends := state.now + millis
            let jobs := state.jobs.set id { job with ends := some ends }
            (({ state with jobs }).write ("start " ++ job.name), ends)
      if ends ≤ state.now then (state.write ("end " ++ job.name)).removeJob id
      else state.setAlarm ends (.job id)

def holdJob (state : State) (id : JobId) (job : Job) : State :=
  match job.work with
  | .lasting _ (some after) =>
      let givesUp := job.givesUp.getD (state.now + after)
      let state := { state with jobs := state.jobs.set id { job with givesUp := some givesUp } }
      if givesUp ≤ state.now then
        match state.scheduler.giveUp? id with
        | some scheduler =>
            (({ state with scheduler }).write ("gave_up " ++ job.name)).wakeShutdowns
        | none => state
      else state.setAlarm givesUp (.job id)
  | _ => state

def addJob (state : State) (job : Job) : Option (State × JobId) :=
  let id := state.jobs.length
  match state.scheduler.offer? id with
  | none => none
  | some (scheduler, _) =>
      some (({ state with scheduler, jobs := state.jobs ++ [job] }).wake (.job id), id)

def runTimer (state : State) (id : TimerId) (timer : Timer) : State :=
  let due := timer.due.getD (state.now + timer.delay)
  let state := { state with timers := state.timers.set id { timer with due := some due } }
  if due ≤ state.now then
    match state.scheduler.fire? id with
    | none => state
    | some scheduler =>
        let state := { state with scheduler }
        match state.addJob { name := timer.name, work := .callback } with
        | some (state, _) => state
        | none => state
  else state.setAlarm due (.timer id)

def finishShutdown (state : State) (id : Nat) (call : ShutdownCall) (report : SchedulerReport) :
    State :=
  let line := "shutdown " ++ call.name ++ s!" cancelled_timers={report.cancelledTimers}"
    ++ s!" aborted_tasks={report.abortedTasks} clean={report.isClean}"
  ({ state with
      shutdowns := state.shutdowns.set id { call with finished := true } }).write line

def runShutdown (state : State) (id : Nat) (call : ShutdownCall) : State :=
  -- The first shutdown does the work; later ones wait for it and have nothing to report.
  if call.finished then state
  else
    let (state, call) :=
      if call.begun then (state, call)
      else
        match state.scheduler.beginShutdown? state.now call.quietPeriod with
        | none => (state, call)
        | some scheduler =>
            let call := { call with begun := true }
            let shutdowns := state.shutdowns.set id call
            (({ state with scheduler, shutdowns }).setAlarm (state.now + call.quietPeriod)
              (.shutdown id), call)
    if call.begun then
      match state.scheduler.endShutdown? state.now with
      | none => state
      | some (scheduler, report, _) =>
          (({ state with scheduler }).finishShutdown id call report).wakeShutdowns
    else if state.scheduler.isTerminated then state.finishShutdown id call {}
    else state

def runWatch (state : State) (id : Nat) : State :=
  match state.watches[id]? with
  | some (name, false) =>
      if state.scheduler.isTerminated then
        ({ state with watches := state.watches.set id (name, true) }).write ("terminated " ++ name)
      else state
  | _ => state

def turn (state : State) : Process → State
  | .job id =>
      match state.jobs[id]? with
      | none => state
      | some job =>
          if id ∈ state.scheduler.running then state.runJob id job
          else if id ∈ state.scheduler.waiting then state.holdJob id job
          else state
  | .timer id =>
      match state.timers[id]? with
      | none => state
      | some timer => if id ∈ state.scheduler.armed then state.runTimer id timer else state
  | .shutdown id =>
      match state.shutdowns[id]? with
      | none => state
      | some call => state.runShutdown id call
  | .watch id => state.runWatch id

def settle : Nat → State → State
  | 0, state => state
  | limit + 1, state =>
      match state.agenda.next? with
      | none => state
      | some (process, agenda) => settle limit ({ state with agenda }.turn process)

def turnLimit : Nat := 100000

def pass : Nat → State → State
  | 0, state => state
  | millis + 1, state =>
      let (agenda, woken) := state.agenda.tick
      pass millis (settle turnLimit (woken.foldl wake { state with agenda }))

def shuttingDown : Json := Document.error "ShuttingDown" "Scheduler is shutting down"

def unknown : Json := .text "no such id"

def run (state : State) : Step → State × Json
  | .spawn name work =>
      match state.addJob { name, work } with
      | none => (state, shuttingDown)
      | some (state, id) => ({ state with jobNames := (name, id) :: state.jobNames }, .text "ok")
  | .schedule name delay =>
      let id := state.timers.length
      match state.scheduler.addTimer? id with
      | none => (state, shuttingDown)
      | some scheduler =>
          let timers := state.timers ++ [⟨name, delay, none⟩]
          let timerNames := (name, id) :: state.timerNames
          (({ state with scheduler, timers, timerNames }).wake (.timer id), .text "ok")
  | .cancel name =>
      match state.timerNames.lookup name with
      | none => (state, unknown)
      | some id =>
          match state.scheduler.cancelTimer? id with
          | some scheduler => ({ state with scheduler }, .bool true)
          | none => (state, .bool false)
  | .timer name =>
      match state.timerNames.lookup name with
      | none => (state, unknown)
      | some id =>
          let timer := state.scheduler.timerState? id
          (state, .record [("fired", .bool (timer = some .fired)),
            ("cancelled", .bool (timer = some .cancelled))])
  | .abort name =>
      match state.jobNames.lookup name with
      | none => (state, unknown)
      | some id => (state.removeJob id, .null)
  | .advance millis => (state.pass millis, .null)
  | .shutdown name quietPeriod =>
      let id := state.shutdowns.length
      let call := ShutdownCall.mk name quietPeriod false false
      ({ state with shutdowns := state.shutdowns ++ [call] }.wake (.shutdown id), .null)
  | .watch name =>
      let id := state.watches.length
      ({ state with watches := state.watches ++ [(name, false)] }.wake (.watch id), .null)
  | .describe => (state, .text state.scheduler.describe)

def sortedLog (log : List (Nat × String)) : List (Nat × String) :=
  log.mergeSort fun first second =>
    first.1 < second.1 || (first.1 = second.1 && first.2 ≤ second.2)

def shown (state : State) (result : Json) : Json :=
  .record [("result", result), ("t", .nat state.now),
    ("log", .list (fun (time, line) => .array [.nat time, .text line]) (sortedLog state.log)),
    ("shutdown", .bool state.scheduler.isShutdown), ("timers", .nat state.scheduler.pendingTimers),
    ("tasks", .nat state.scheduler.activeTasks)]

def runAll (state : State) : List Step → List Json
  | [] => []
  | step :: rest =>
      let (state, result) := state.run step
      let state := settle turnLimit state
      state.shown result :: runAll { state with log := [] } rest

end State

def answer (input : Json) : Read Json := do
  if ← input.getFlag "no_runtime" then
    return .record [("error", .text "NoRuntime")]
  let workers ← input.getNat "workers"
  let steps ← input.getList "steps" asStep
  match Scheduler.create? workers with
  | some scheduler => return .record [("steps", .array (State.runAll { scheduler } steps))]
  | none => return .record [("error", .text "Panic")]

def answerGroup (input : Json) : Read Json := do
  let timeout ← input.getNat "timeout_ms"
  let members ← input.getList "members" Document.asShutdownMember
  match ShutdownReport.ofGroup? 0 timeout members with
  | some report =>
      return .record [("empty", .bool true), ("len", .nat members.length),
        ("report", Document.shutdownReport report)]
  | none => return .record [("error", .text "Panic")]

end ClusterDriver.Scenario.Scheduling
