import ClusterDriver.Scheduler
import Mathlib.Data.List.Perm.Basic

set_option autoImplicit false

namespace ClusterDriver

inductive JobEnding where
  | completed
  | gaveUp
  | aborted
deriving DecidableEq, Repr

inductive JobEvent where
  | accepted
  | refused
  | started
  | ended (ending : JobEnding)
deriving DecidableEq, Repr

def JobEvent.isOver : JobEvent → Bool
  | .ended _ => true
  | _ => false

def JobEvent.lives : List (List JobEvent) :=
  [[], [.refused], [.accepted], [.accepted, .ended .gaveUp], [.accepted, .ended .aborted],
    [.accepted, .started], [.accepted, .started, .ended .completed],
    [.accepted, .started, .ended .aborted]]

/-- A shutdown is `closed` to further jobs, then `judged` when the quiet period or all jobs are
over, and it returns; later calls `rejoined` it. -/
inductive SchedulerNote where
  | job (id : JobId) (event : JobEvent)
  | closed (now quietPeriod : Nat)
  | judged (now : Nat)
  | returned (report : SchedulerReport)
  | rejoined
deriving DecidableEq, Repr

namespace SchedulerNote

def eventOf? (id : JobId) : SchedulerNote → Option JobEvent
  | .job other event => if other = id then some event else none
  | _ => none

def accepted? : SchedulerNote → Option JobId
  | .job id .accepted => some id
  | _ => none

end SchedulerNote

abbrev JobLog := List SchedulerNote

namespace JobLog

def lifeOf (log : JobLog) (id : JobId) : List JobEvent := log.filterMap (SchedulerNote.eventOf? id)

def accepted (log : JobLog) : List JobId := log.filterMap SchedulerNote.accepted?

def isOver (log : JobLog) (id : JobId) : Bool := (lifeOf log id).any JobEvent.isOver

def unfinished (log : JobLog) : List JobId := (accepted log).filter fun id => !isOver log id

def running (log : JobLog) : List JobId :=
  (unfinished log).filter fun id => .started ∈ lifeOf log id

variable {log : JobLog} {id : JobId}

theorem lifeOf_append (first second : JobLog) :
    lifeOf (first ++ second) id = lifeOf first id ++ lifeOf second id :=
  List.filterMap_append

theorem lifeOf_job (log : JobLog) (own other : JobId) (event : JobEvent) :
    lifeOf (log ++ [.job own event]) other =
      if own = other then lifeOf log other ++ [event] else lifeOf log other := by
  rw [lifeOf_append]
  split
  next same => simp [lifeOf, SchedulerNote.eventOf?, same]
  next different => simp [lifeOf, SchedulerNote.eventOf?, different]

theorem lifeOf_other {note : SchedulerNote} (other : note.eventOf? id = none) :
    lifeOf (log ++ [note]) id = lifeOf log id := by
  simp [lifeOf, other]

theorem count_accepted (log : JobLog) (id : JobId) :
    (accepted log).count id = (lifeOf log id).count .accepted := by
  simp only [accepted, lifeOf, List.count_filterMap]
  refine List.countP_congr fun note _ => ?_
  cases note with
  | job other event => cases event <;> simp [SchedulerNote.accepted?, SchedulerNote.eventOf?]
  | _ => rfl

end JobLog

/-- Jobs are numbered as they are offered. The `verdict` is what the shutdown will report. -/
structure SchedulerHistory where
  scheduler : Scheduler
  now : Nat := 0
  offered : Nat := 0
  verdict : Option SchedulerReport := none
  log : JobLog := []

namespace Scheduler

def allows (scheduler : Scheduler) (job : JobId) : JobEnding → Bool
  | .completed => job ∈ scheduler.running
  | .gaveUp => job ∈ scheduler.waiting
  | .aborted => job ∈ scheduler.running || job ∈ scheduler.waiting

def enlist (scheduler : Scheduler) (job : JobId) : Scheduler :=
  { scheduler with waiting := scheduler.waiting ++ [job] }

def start (scheduler : Scheduler) (job : JobId) : Scheduler :=
  { scheduler with
    waiting := scheduler.waiting.erase job
    running := scheduler.running ++ [job] }

def leave (scheduler : Scheduler) (job : JobId) : Scheduler :=
  { scheduler with
    waiting := scheduler.waiting.erase job
    running := scheduler.running.erase job }

end Scheduler

namespace SchedulerHistory

/-- A shutdown finishes when nothing is left, which may be some time after its verdict. -/
inductive Step where
  | enlist
  | start (job : JobId)
  | leave (job : JobId) (ending : JobEnding)
  | wait (millis : Nat)
  | beginShutdown (quietPeriod : Nat)
  | judge
  | finish
  | rejoin
deriving DecidableEq, Repr

inductive Action where
  | single (step : Step)
  | offer
  | giveUp (job : JobId)
  | release (job : JobId) (ending : JobEnding)
  | endShutdown
deriving DecidableEq, Repr

def Action.offers : Action → Bool
  | .offer | .single .enlist => true
  | _ => false

def started (workers : Nat) : SchedulerHistory where
  scheduler := .ofWorkers workers

variable (history : SchedulerHistory)

def record (scheduler : Scheduler) (notes : JobLog) : SchedulerHistory :=
  { history with scheduler, log := history.log ++ notes }

def receive (scheduler : Scheduler) (notes : JobLog) : SchedulerHistory :=
  { history.record scheduler notes with offered := history.offered + 1 }

def refuse : SchedulerHistory := history.receive history.scheduler [.job history.offered .refused]

def begun (jobs : List JobId) : JobLog := jobs.map fun job => .job job .started

def step : Step → SchedulerHistory
  | .enlist =>
      if history.scheduler.isShutdown then history.refuse
      else history.receive (history.scheduler.enlist history.offered)
        [.job history.offered .accepted]
  | .start job =>
      if job ∈ history.scheduler.waiting ∧ 0 < history.scheduler.freeWorkers then
        history.record (history.scheduler.start job) [.job job .started]
      else history
  | .leave job ending =>
      if history.scheduler.allows job ending then
        history.record (history.scheduler.leave job) [.job job (.ended ending)]
      else history
  | .wait millis => { history with now := history.now + millis }
  | .beginShutdown quietPeriod =>
      match history.scheduler.beginShutdown? history.now quietPeriod with
      | none => history
      | some scheduler => history.record scheduler [.closed history.now quietPeriod]
  | .judge =>
      match history.verdict, history.scheduler.endShutdown? history.now with
      | none, some (_, report, _) =>
          { history.record history.scheduler [.judged history.now] with verdict := some report }
      | _, _ => history
  | .finish =>
      match history.verdict with
      | some report =>
          if history.scheduler.isTerminated = false ∧
              history.scheduler.running ++ history.scheduler.waiting = [] then
            history.record { history.scheduler with phase := .terminated } [.returned report]
          else history
      | none => history
  | .rejoin =>
      if history.scheduler.isTerminated then history.record history.scheduler [.rejoined]
      else history

def walk (steps : List Step) : SchedulerHistory := steps.foldl step history

def act : Action → SchedulerHistory
  | .single step => history.step step
  | .offer =>
      match history.scheduler.offer? history.offered with
      | none => history.refuse
      | some (scheduler, jobs) =>
          history.receive scheduler (.job history.offered .accepted :: begun jobs)
  | .giveUp job =>
      match history.scheduler.giveUp? job with
      | none => history
      | some scheduler => history.record scheduler [.job job (.ended .gaveUp)]
  | .release job ending =>
      if history.scheduler.allows job ending then
        let (scheduler, jobs) := history.scheduler.remove job
        history.record scheduler (.job job (.ended ending) :: begun jobs)
      else history
  | .endShutdown =>
      match history.verdict, history.scheduler.endShutdown? history.now with
      | none, some (scheduler, report, left) =>
          let aborted := left.map fun job => SchedulerNote.job job (.ended .aborted)
          { history.record scheduler (.judged history.now :: aborted ++ [.returned report]) with
            verdict := some report }
      | _, _ => history

def run (actions : List Action) : SchedulerHistory := actions.foldl act history

end SchedulerHistory

namespace SchedulerHistory

variable {history next : SchedulerHistory}

inductive Takes (history : SchedulerHistory) : SchedulerNote → SchedulerHistory → Prop
  | refused (shut : history.scheduler.phase ≠ .accepting) :
      history.Takes (.job history.offered .refused) history.refuse
  | accepted (accepting : history.scheduler.phase = .accepting) :
      history.Takes (.job history.offered .accepted)
        (history.receive (history.scheduler.enlist history.offered)
          [.job history.offered .accepted])
  | started {job : JobId} (waits : job ∈ history.scheduler.waiting)
      (free : 0 < history.scheduler.freeWorkers) :
      history.Takes (.job job .started)
        (history.record (history.scheduler.start job) [.job job .started])
  | ended {job : JobId} {ending : JobEnding}
      (allowed : history.scheduler.allows job ending = true) :
      history.Takes (.job job (.ended ending))
        (history.record (history.scheduler.leave job) [.job job (.ended ending)])
  | closed {quietPeriod : Nat} (accepting : history.scheduler.phase = .accepting) :
      history.Takes (.closed history.now quietPeriod) (history.record
        { history.scheduler with
          phase := .draining (history.now + quietPeriod) history.scheduler.armed.length
          armed := [] } [.closed history.now quietPeriod])
  | judged {report : SchedulerReport} {deadline cancelled : Nat}
      (undecided : history.verdict = none)
      (phase : history.scheduler.phase = .draining deadline cancelled)
      (counted : report.abortedTasks =
        (history.scheduler.running ++ history.scheduler.waiting).length)
      (due : history.scheduler.running ++ history.scheduler.waiting = [] ∨
        deadline ≤ history.now) :
      history.Takes (.judged history.now)
        { history.record history.scheduler [.judged history.now] with verdict := some report }
  | returned {report : SchedulerReport} (verdict : history.verdict = some report)
      (none : history.scheduler.running ++ history.scheduler.waiting = []) :
      history.Takes (.returned report)
        (history.record { history.scheduler with phase := .terminated } [.returned report])
  | rejoined (phase : history.scheduler.phase = .terminated) :
      history.Takes .rejoined (history.record history.scheduler [.rejoined])

theorem Takes.log {note : SchedulerNote} (takes : history.Takes note next) :
    next.log = history.log ++ [note] := by
  cases takes <;> rfl

theorem endShutdown?_spec {scheduler later : Scheduler} {now : Nat} {report : SchedulerReport}
    {left : List JobId} (ended : scheduler.endShutdown? now = some (later, report, left)) :
    scheduler.running ++ scheduler.waiting = left ∧ report.abortedTasks = left.length ∧
      later = { scheduler with phase := .terminated, waiting := [], running := [] } ∧
      ∃ deadline cancelled, scheduler.phase = .draining deadline cancelled ∧
        (left = [] ∨ deadline ≤ now) := by
  unfold Scheduler.endShutdown? at ended
  split at ended
  next deadline cancelled phase =>
    simp only [Option.ite_none_right_eq_some, Option.some.injEq, Prod.mk.injEq,
      List.isEmpty_iff] at ended
    obtain ⟨due, rfl, rfl, rfl⟩ := ended
    exact ⟨rfl, rfl, rfl, deadline, cancelled, phase, due⟩
  next => cases ended

theorem step_cases (history : SchedulerHistory) (step : Step) :
    (∃ now, history.step step = { history with now }) ∨
      ∃ note, history.Takes note (history.step step) := by
  have same : ∃ now, history = { history with now } := ⟨history.now, rfl⟩
  cases step with
  | enlist =>
    simp only [SchedulerHistory.step]
    split
    next shut => exact .inr ⟨_, .refused (by simpa [Scheduler.isShutdown] using shut)⟩
    next accepting => exact .inr ⟨_, .accepted (by simpa [Scheduler.isShutdown] using accepting)⟩
  | start job =>
    simp only [SchedulerHistory.step]
    split
    next free => exact .inr ⟨_, .started free.1 free.2⟩
    next => exact .inl same
  | leave job ending =>
    simp only [SchedulerHistory.step]
    split
    next allowed => exact .inr ⟨_, .ended allowed⟩
    next => exact .inl same
  | wait millis => exact .inl ⟨history.now + millis, rfl⟩
  | beginShutdown quietPeriod =>
    simp only [SchedulerHistory.step, Scheduler.beginShutdown?]
    cases shut : history.scheduler.isShutdown with
    | true => exact .inl same
    | false => exact .inr ⟨_, .closed (by simpa [Scheduler.isShutdown] using shut)⟩
  | judge =>
    simp only [SchedulerHistory.step]
    split
    next undecided ended =>
      obtain ⟨rfl, counted, _, _, _, phase, due⟩ := endShutdown?_spec ended
      exact .inr ⟨_, .judged undecided phase counted due⟩
    next => exact .inl same
  | finish =>
    simp only [SchedulerHistory.step]
    split
    next verdict =>
      split
      next finished => exact .inr ⟨_, .returned verdict finished.2⟩
      next => exact .inl same
    next => exact .inl same
  | rejoin =>
    simp only [SchedulerHistory.step]
    split
    next terminated =>
      exact .inr ⟨_, .rejoined (by simpa [Scheduler.isTerminated] using terminated)⟩
    next => exact .inl same

theorem walk_append (first second : List Step) :
    history.walk (first ++ second) = (history.walk first).walk second :=
  List.foldl_append

theorem walk_begun (count : Nat) (free : count ≤ history.scheduler.freeWorkers) :
    history.walk ((history.scheduler.waiting.take count).map .start) = history.record
      { history.scheduler with
        waiting := history.scheduler.waiting.drop count
        running := history.scheduler.running ++ history.scheduler.waiting.take count }
      (begun (history.scheduler.waiting.take count)) := by
  obtain ⟨⟨workers, phase, waiting, running, timers, armed⟩, now, offered, verdict, log⟩ := history
  -- For each job that starts, the queue loses its head and one worker less is free.
  induction count generalizing waiting running log with
  | zero => simp [walk, record, begun]
  | succ count ih =>
    cases waiting with
    | nil => simp [walk, record, begun]
    | cons job rest =>
      have busier : count ≤ workers - (running ++ [job]).length := by
        simp only [Scheduler.freeWorkers, List.length_append, List.length_singleton] at free ⊢
        omega
      have later := ih (log ++ [.job job .started]) rest (running ++ [job]) busier
      have positive : 0 < workers - running.length := Nat.lt_of_lt_of_le (Nat.succ_pos _) free
      simpa [walk, step, positive, Scheduler.freeWorkers, record, begun, Scheduler.start] using later

theorem walk_promote (history : SchedulerHistory) : ∃ steps, history.walk steps =
    history.record history.scheduler.promote.1 (begun history.scheduler.promote.2) :=
  ⟨_, walk_begun history.scheduler.freeWorkers (Nat.le_refl _)⟩

theorem walk_aborted {left : List JobId} (distinct : left.Nodup)
    (all : history.scheduler.running ++ history.scheduler.waiting = left) :
    history.walk (left.map fun job => .leave job .aborted) = history.record
      { history.scheduler with running := [], waiting := [] }
      (left.map fun job => .job job (.ended .aborted)) := by
  obtain ⟨⟨workers, phase, waiting, running, timers, armed⟩, now, offered, verdict, log⟩ := history
  induction left generalizing waiting running log with
  | nil =>
    obtain ⟨rfl, rfl⟩ := List.append_eq_nil_iff.1 all
    simp [walk, record]
  | cons job rest ih =>
    obtain ⟨fresh, distinctRest⟩ := List.nodup_cons.1 distinct
    cases running with
    | nil =>
      obtain rfl : waiting = job :: rest := all
      have later := ih distinctRest (log ++ [.job job (.ended .aborted)]) rest [] rfl
      simpa [walk, step, Scheduler.allows, Scheduler.leave, record] using later
    | cons first others =>
      obtain ⟨rfl, rfl⟩ := List.cons.inj all
      have kept : waiting.erase first = waiting :=
        List.erase_of_not_mem fun member => fresh (List.mem_append_right _ member)
      have later := ih distinctRest (log ++ [.job first (.ended .aborted)]) waiting others rfl
      simpa [walk, step, Scheduler.allows, Scheduler.leave, record, kept] using later

theorem offer_walks (history : SchedulerHistory) :
    ∃ steps, history.act .offer = (history.step .enlist).walk steps := by
  -- What is offered is enlisted before any worker is taken.
  cases shut : history.scheduler.isShutdown with
  | true => exact ⟨[], by simp [act, walk, step, Scheduler.offer?, shut]⟩
  | false =>
    obtain ⟨steps, started⟩ := walk_promote (history.step .enlist)
    refine ⟨steps, ?_⟩
    calc history.act .offer
        = (history.step .enlist).record (history.step .enlist).scheduler.promote.1
            (begun (history.step .enlist).scheduler.promote.2) := by
          simp [act, step, Scheduler.offer?, shut, receive, record, Scheduler.enlist]
      _ = (history.step .enlist).walk steps := started.symm

theorem release_walks (job : JobId) (ending : JobEnding) :
    ∃ steps, history.act (.release job ending) = history.walk steps := by
  cases allowed : history.scheduler.allows job ending with
  | false => exact ⟨[], by simp [act, walk, allowed]⟩
  | true =>
    obtain ⟨steps, started⟩ := walk_promote (history.step (.leave job ending))
    refine ⟨.leave job ending :: steps, ?_⟩
    calc history.act (.release job ending)
        = (history.step (.leave job ending)).record
            (history.step (.leave job ending)).scheduler.promote.1
            (begun (history.step (.leave job ending)).scheduler.promote.2) := by
          simp [act, step, allowed, record, Scheduler.leave, Scheduler.remove]
      _ = history.walk (.leave job ending :: steps) := started.symm

variable (distinct : (history.scheduler.running ++ history.scheduler.waiting).Nodup)
include distinct

theorem giveUp_walks (job : JobId) : ∃ steps, history.act (.giveUp job) = history.walk steps := by
  by_cases waits : job ∈ history.scheduler.waiting
  · -- A job that waits has no worker to hand on.
    have idle : job ∉ history.scheduler.running := fun runs =>
      (List.nodup_append.1 distinct).2.2 job runs job waits rfl
    refine ⟨[.leave job .gaveUp], ?_⟩
    simp [act, walk, step, Scheduler.giveUp?, Scheduler.allows, Scheduler.leave, waits,
      List.erase_of_not_mem idle]
  · exact ⟨[], by simp [act, walk, Scheduler.giveUp?, waits]⟩

theorem endShutdown_walks : ∃ steps, history.act .endShutdown = history.walk steps := by
  cases verdict : history.verdict with
  | some report => exact ⟨[], by simp [act, walk, verdict]⟩
  | none =>
    cases ended : history.scheduler.endShutdown? history.now with
    | none => exact ⟨[], by simp [act, walk, verdict, ended]⟩
    | some answer =>
      obtain ⟨scheduler, report, left⟩ := answer
      obtain ⟨all, _, later, _, _, phase, _⟩ := endShutdown?_spec ended
      let judged := history.step .judge
      have judges : judged = { history.record history.scheduler [.judged history.now] with
          verdict := some report } := by
        simp [judged, step, verdict, ended]
      have remaining : judged.scheduler.running ++ judged.scheduler.waiting = left := by
        rw [judges]
        exact all
      have aborts := walk_aborted (all ▸ distinct) remaining
      refine ⟨.judge :: (left.map fun job => .leave job .aborted) ++ [.finish], ?_⟩
      calc history.act .endShutdown
          = (judged.walk (left.map fun job => .leave job .aborted)).step .finish := by
            rw [aborts, judges]
            simp [act, step, verdict, ended, record, later, Scheduler.isTerminated, phase]
        _ = history.walk (.judge :: (left.map fun job => .leave job .aborted) ++ [.finish]) := by
            rw [walk_append]
            rfl

theorem act_walks (action : Action) : ∃ steps, history.act action = history.walk steps := by
  cases action with
  | single step => exact ⟨[step], rfl⟩
  | offer =>
    obtain ⟨steps, same⟩ := offer_walks history
    exact ⟨.enlist :: steps, same⟩
  | giveUp job => exact giveUp_walks distinct job
  | release job ending => exact release_walks job ending
  | endShutdown => exact endShutdown_walks distinct

end SchedulerHistory

end ClusterDriver
