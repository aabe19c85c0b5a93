/-!
A scheduler of jobs and timers. At most as many jobs run at a time as there are workers; the
others wait and are served first come, first served, and one that waits may give up. A timer
fires once, unless it is cancelled before. A shutdown takes no more work, cancels the timers and
grants the remaining jobs a quiet period; whatever is left then is aborted. Times are in
milliseconds.
-/

set_option autoImplicit false

namespace ClusterDriver

abbrev JobId := Nat

abbrev TimerId := Nat

inductive TimerState where
  | pending
  | fired
  | cancelled
deriving DecidableEq, Repr, Inhabited

structure SchedulerReport where
  cancelledTimers : Nat := 0
  abortedTasks : Nat := 0
deriving DecidableEq, Repr, Inhabited

def SchedulerReport.isClean (report : SchedulerReport) : Bool := report.abortedTasks = 0

inductive ShutdownPhase where
  | accepting
  | draining (deadline cancelledTimers : Nat)
  | terminated
deriving DecidableEq, Repr, Inhabited

/-- `waiting` and `running` are disjoint; `armed` names the timers that may still fire. -/
structure Scheduler where
  workers : Nat
  phase : ShutdownPhase := .accepting
  waiting : List JobId := []
  running : List JobId := []
  timers : List (TimerId × TimerState) := []
  armed : List TimerId := []
deriving DecidableEq, Repr, Inhabited

namespace Scheduler

def ofWorkers (workers : Nat) : Scheduler where workers := max workers 1

/-- How many workers can be counted: the count leaves three bits of a machine word to other use. -/
def maxWorkers : Nat := 0xFFFFFFFFFFFFFFFF >>> 3

def create? (workers : Nat) : Option Scheduler :=
  let scheduler := ofWorkers workers
  if scheduler.workers ≤ maxWorkers then some scheduler else none

def isShutdown (scheduler : Scheduler) : Bool := scheduler.phase ≠ .accepting

def isTerminated (scheduler : Scheduler) : Bool := scheduler.phase = .terminated

def freeWorkers (scheduler : Scheduler) : Nat := scheduler.workers - scheduler.running.length

def activeTasks (scheduler : Scheduler) : Nat :=
  if scheduler.isShutdown then 0 else scheduler.waiting.length + scheduler.running.length

def pendingTimers (scheduler : Scheduler) : Nat :=
  if scheduler.isShutdown then 0 else scheduler.armed.length

def promote (scheduler : Scheduler) : Scheduler × List JobId :=
  -- Workers go to the jobs that have waited longest.
  let started := scheduler.waiting.take scheduler.freeWorkers
  ({ scheduler with
      waiting := scheduler.waiting.drop scheduler.freeWorkers
      running := scheduler.running ++ started }, started)

def offer? (scheduler : Scheduler) (job : JobId) : Option (Scheduler × List JobId) :=
  if scheduler.isShutdown then none
  else some { scheduler with waiting := scheduler.waiting ++ [job] }.promote

def remove (scheduler : Scheduler) (job : JobId) : Scheduler × List JobId :=
  { scheduler with
    waiting := scheduler.waiting.erase job
    running := scheduler.running.erase job }.promote

def giveUp? (scheduler : Scheduler) (job : JobId) : Option Scheduler :=
  if job ∈ scheduler.waiting then
    some { scheduler with waiting := scheduler.waiting.erase job }
  else none

def timerState? (scheduler : Scheduler) (timer : TimerId) : Option TimerState :=
  scheduler.timers.lookup timer

def setTimer (scheduler : Scheduler) (timer : TimerId) (state : TimerState) : Scheduler :=
  { scheduler with
    timers := scheduler.timers.map fun (id, old) => (id, if id = timer then state else old)
    armed := scheduler.armed.erase timer }

def addTimer? (scheduler : Scheduler) (timer : TimerId) : Option Scheduler :=
  if scheduler.isShutdown then none
  else some { scheduler with
    timers := scheduler.timers ++ [(timer, .pending)]
    armed := scheduler.armed ++ [timer] }

def fire? (scheduler : Scheduler) (timer : TimerId) : Option Scheduler :=
  if timer ∈ scheduler.armed ∧ scheduler.timerState? timer = some .pending then
    some (scheduler.setTimer timer .fired)
  else none

def cancelTimer? (scheduler : Scheduler) (timer : TimerId) : Option Scheduler :=
  if scheduler.timerState? timer = some .pending then
    some (scheduler.setTimer timer .cancelled)
  else none

def beginShutdown? (scheduler : Scheduler) (now quietPeriod : Nat) : Option Scheduler :=
  if scheduler.isShutdown then none
  else some { scheduler with
    phase := .draining (now + quietPeriod) scheduler.armed.length
    armed := [] }

/-- Ends a shutdown when all jobs are over or the quiet period is; the jobs that are left are
answered, to be aborted. -/
def endShutdown? (scheduler : Scheduler) (now : Nat) :
    Option (Scheduler × SchedulerReport × List JobId) :=
  match scheduler.phase with
  | .draining deadline cancelledTimers =>
      let left := scheduler.running ++ scheduler.waiting
      if left.isEmpty ∨ deadline ≤ now then
        some ({ scheduler with phase := .terminated, waiting := [], running := [] },
          { cancelledTimers, abortedTasks := left.length }, left)
      else none
  | _ => none

/-- Drops all jobs without ever ending a shutdown, which happens when nobody waits for it any
more; the jobs are answered, to be aborted. -/
def dropJobs (scheduler : Scheduler) : Scheduler × List JobId :=
  ({ scheduler with waiting := [], running := [] }, scheduler.running ++ scheduler.waiting)

def describe (scheduler : Scheduler) : String :=
  s!"Scheduler \x7b shutdown: {scheduler.isShutdown}"
    ++ s!", available_workers: {scheduler.freeWorkers} \x7d"

end Scheduler

end ClusterDriver
