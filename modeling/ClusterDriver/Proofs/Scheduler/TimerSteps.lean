import ClusterDriver.Proofs.Scheduler.Lives

set_option autoImplicit false

namespace ClusterDriver

/-- A timer is `fired` when its delay is over and it was not cancelled before; its callback `ran`
when the job for it starts. Whoever wants to cancel it `asked`. -/
inductive TimerEvent where
  | scheduled
  | refused
  | fired
  | asked (granted : Bool)
  | ran
deriving DecidableEq, Repr

namespace TimerEvent

def courses : List (List TimerEvent) :=
  [[], [.refused], [.scheduled], [.scheduled, .asked true], [.scheduled, .fired],
    [.scheduled, .fired, .ran]]

def stateAfter (course : List TimerEvent) : Option TimerState :=
  if .fired ∈ course then some .fired
  else if .asked true ∈ course then some .cancelled
  else if .scheduled ∈ course then some .pending
  else none

end TimerEvent

abbrev TimerLog := List (TimerId × TimerEvent)

namespace TimerLog

def lifeOf (log : TimerLog) (timer : TimerId) : List TimerEvent :=
  log.filterMap fun (id, event) => if id = timer then some event else none

def courseOf (log : TimerLog) (timer : TimerId) : List TimerEvent :=
  (lifeOf log timer).filter fun event => event ≠ .asked false

variable {log : TimerLog} {timer : TimerId}

theorem lifeOf_append (first second : TimerLog) :
    lifeOf (first ++ second) timer = lifeOf first timer ++ lifeOf second timer :=
  List.filterMap_append

theorem courseOf_append (first second : TimerLog) :
    courseOf (first ++ second) timer = courseOf first timer ++ courseOf second timer := by
  rw [courseOf, lifeOf_append, List.filter_append]
  rfl

theorem courseOf_note (log : TimerLog) (own other : TimerId) {event : TimerEvent}
    (counts : event ≠ .asked false) :
    courseOf (log ++ [(own, event)]) other =
      if own = other then courseOf log other ++ [event] else courseOf log other := by
  rw [courseOf_append]
  split
  next same => simp [courseOf, lifeOf, same, counts]
  next different => simp [courseOf, lifeOf, different]

theorem courseOf_vain (log : TimerLog) (own other : TimerId) :
    courseOf (log ++ [(own, .asked false)]) other = courseOf log other := by
  rw [courseOf_append]
  by_cases same : own = other <;> simp [courseOf, lifeOf, same]

theorem mem_course {event : TimerEvent} (counts : event ≠ .asked false) :
    event ∈ courseOf log timer ↔ event ∈ lifeOf log timer := by
  simp [courseOf, counts]

theorem count_course {event : TimerEvent} (counts : event ≠ .asked false) :
    (courseOf log timer).count event = (lifeOf log timer).count event :=
  List.count_filter (by simpa using counts)

theorem eq_of_mem_single {own : TimerId} {event other : TimerEvent}
    (member : event ∈ courseOf [(own, other)] timer) : event = other := by
  by_cases same : own = timer
  · simp only [courseOf, lifeOf, same, List.filterMap_cons, List.filterMap_nil, if_true] at member
    exact List.mem_singleton.1 (List.mem_of_mem_filter member)
  · simp [courseOf, lifeOf, same] at member

end TimerLog

def SchedulerNote.ran? (callbackOf : JobId → Option TimerId) :
    SchedulerNote → Option (TimerId × TimerEvent)
  | .job id .started => (callbackOf id).map (·, .ran)
  | _ => none

/-- A scheduler whose timers are numbered as they are scheduled. While a timer is `firing` its
callback has not been handed over yet; `callbackOf` leads from the jobs to the timers they are
for. -/
structure TimerHistory where
  jobs : SchedulerHistory
  scheduled : Nat := 0
  firing : List TimerId := []
  callbackOf : JobId → Option TimerId := fun _ => none
  log : TimerLog := []

namespace TimerHistory

/-- The delay of a timer may be over at any time. Its callback is handed over later, or is lost
with the scheduler. Anybody may ask to cancel a timer, as often as they like. -/
inductive Step where
  | job (step : SchedulerHistory.Step)
  | schedule
  | expire (timer : TimerId)
  | handOver (timer : TimerId)
  | lose (timer : TimerId)
  | cancel (timer : TimerId)
deriving DecidableEq, Repr

inductive Action where
  | single (step : Step)
  | jobs (action : SchedulerHistory.Action)
  | fire (timer : TimerId)
deriving DecidableEq, Repr

def started (workers : Nat) : TimerHistory where
  jobs := .started workers

variable (history : TimerHistory)

def state? (timer : TimerId) : Option TimerState := history.jobs.scheduler.timerState? timer

def record (scheduler : Scheduler) (timer : TimerId) (event : TimerEvent) : TimerHistory :=
  { history with
    jobs := { history.jobs with scheduler }
    log := history.log ++ [(timer, event)] }

def follow (jobs : SchedulerHistory) : TimerHistory :=
  let notes := jobs.log.drop history.jobs.log.length
  { history with
    jobs
    log := history.log ++ notes.filterMap (SchedulerNote.ran? history.callbackOf) }

def fires (scheduler : Scheduler) (timer : TimerId) : TimerHistory :=
  { history.record scheduler timer .fired with firing := history.firing ++ [timer] }

def assign (timer : TimerId) : TimerHistory :=
  { history with
    firing := history.firing.filter fun other => other ≠ timer
    callbackOf := fun job =>
      if job = history.jobs.offered then some timer else history.callbackOf job }

def step : Step → TimerHistory
  | .job step => history.follow (history.jobs.step step)
  | .schedule =>
      let timer := history.scheduled
      match history.jobs.scheduler.addTimer? timer with
      | none =>
          { history.record history.jobs.scheduler timer .refused with scheduled := timer + 1 }
      | some scheduler =>
          { history.record scheduler timer .scheduled with scheduled := timer + 1 }
  | .expire timer =>
      if history.state? timer = some .pending then
        history.fires (history.jobs.scheduler.setTimer timer .fired) timer
      else history
  | .handOver timer =>
      if timer ∈ history.firing then (history.assign timer).follow (history.jobs.step .enlist)
      else history
  | .lose timer =>
      { history with firing := history.firing.filter fun other => other ≠ timer }
  | .cancel timer =>
      match history.jobs.scheduler.cancelTimer? timer with
      | none => history.record history.jobs.scheduler timer (.asked false)
      | some scheduler => history.record scheduler timer (.asked true)

def walk (steps : List Step) : TimerHistory := steps.foldl step history

def act : Action → TimerHistory
  | .single step => history.step step
  | .jobs action => history.follow (history.jobs.act action)
  | .fire timer =>
      match history.jobs.scheduler.fire? timer with
      | none => history
      | some scheduler =>
          let fired := history.fires scheduler timer
          (fired.assign timer).follow (fired.jobs.act .offer)

def run (actions : List Action) : TimerHistory := actions.foldl act history

end TimerHistory

namespace Scheduler

variable {scheduler later : Scheduler} {timer : TimerId}

theorem timerState?_setTimer (scheduler : Scheduler) (timer : TimerId) (state : TimerState)
    (other : TimerId) :
    (scheduler.setTimer timer state).timerState? other =
      if timer = other then (scheduler.timerState? other).map fun _ => state
      else scheduler.timerState? other := by
  simp only [timerState?, setTimer]
  induction scheduler.timers with
  | nil => simp
  | cons entry rest ih =>
    obtain ⟨id, old⟩ := entry
    by_cases found : other = id
    · subst found
      by_cases same : other = timer
      · simp [same]
      · simp [same, Ne.symm same]
    · simp [List.lookup_cons, ih, beq_false_of_ne found]

theorem timerState?_addTimer? (added : scheduler.addTimer? timer = some later)
    (fresh : scheduler.timerState? timer = none) (other : TimerId) :
    later.timerState? other =
      if timer = other then some .pending else scheduler.timerState? other := by
  unfold timerState? at fresh
  simp only [addTimer?, Option.ite_none_left_eq_some, Option.some.injEq] at added
  obtain ⟨-, rfl⟩ := added
  simp only [timerState?, List.lookup_append]
  by_cases same : other = timer
  · simp [same, fresh]
  · simp [List.lookup_cons, beq_false_of_ne same, Ne.symm same]

end Scheduler

namespace SchedulerNote

variable {note : SchedulerNote} {callbackOf : JobId → Option TimerId}

theorem ran?_eq_some {entry : TimerId × TimerEvent} (ran : note.ran? callbackOf = some entry) :
    ∃ job timer, note = .job job .started ∧ callbackOf job = some timer ∧
      entry = (timer, .ran) := by
  unfold ran? at ran
  split at ran
  next job =>
    obtain ⟨timer, calls, rfl⟩ := Option.map_eq_some_iff.1 ran
    exact ⟨job, timer, rfl, calls, rfl⟩
  next => cases ran

theorem started_mem (silent : note.ran? callbackOf = none) {id : JobId} {timer : TimerId}
    (calls : callbackOf id = some timer) (log : JobLog) :
    .started ∈ JobLog.lifeOf (log ++ [note]) id ↔ .started ∈ JobLog.lifeOf log id := by
  -- The last note would have to be that this job starts, which is no silent one.
  rw [JobLog.lifeOf_append, List.mem_append, or_iff_left]
  intro began
  obtain ⟨last, member, tells⟩ := List.mem_filterMap.1 began
  rw [List.mem_singleton.1 member] at tells
  cases note with
  | job own event =>
    obtain ⟨rfl, rfl⟩ : own = id ∧ event = .started := by simpa [eventOf?] using tells
    simp [ran?, calls] at silent
  | _ => cases tells

theorem ran?_unstarted {event : JobEvent} (other : event ≠ .started) (id : JobId)
    (callbackOf : JobId → Option TimerId) :
    (SchedulerNote.job id event).ran? callbackOf = none := by
  cases event with
  | started => exact absurd rfl other
  | _ => rfl

end SchedulerNote

namespace SchedulerHistory

theorem enlist_takes (history : SchedulerHistory) : ∃ event, event ≠ .started ∧
    history.Takes (.job history.offered event) (history.step .enlist) ∧
    (history.step .enlist).offered = history.offered + 1 := by
  rw [step]
  split
  next shut =>
    exact ⟨.refused, by decide, .refused (by simpa [Scheduler.isShutdown] using shut), rfl⟩
  next accepting =>
    exact ⟨.accepted, by decide, .accepted (by simpa [Scheduler.isShutdown] using accepting), rfl⟩

theorem Takes.timers {history next : SchedulerHistory} {note : SchedulerNote}
    (takes : history.Takes note next) : next.scheduler.timers = history.scheduler.timers := by
  cases takes <;> rfl

theorem Takes.offered_le {history next : SchedulerHistory} {note : SchedulerNote}
    (takes : history.Takes note next) : history.offered ≤ next.offered := by
  cases takes with
  | refused | accepted => exact Nat.le_succ _
  | _ => exact Nat.le_refl _

theorem Sound.withTimers {history : SchedulerHistory} {workers : Nat}
    (sound : history.Sound workers) (timers : List (TimerId × TimerState)) (armed : List TimerId) :
    Sound { history with scheduler := { history.scheduler with timers, armed } } workers where
  staffed := { sound.staffed with filed := { sound.staffed.filed with } }
  closing := { sound.closing with }

end SchedulerHistory

namespace TimerHistory

open TimerLog

variable {history : TimerHistory}

theorem follow_noted {jobs : SchedulerHistory} {note : SchedulerNote}
    (log : jobs.log = history.jobs.log ++ [note]) :
    history.follow jobs =
      { history with jobs, log := history.log ++ (note.ran? history.callbackOf).toList } := by
  rw [follow, log, List.drop_left]
  cases ran : note.ran? history.callbackOf <;> simp [ran]

theorem follow_silent {jobs : SchedulerHistory} (log : jobs.log = history.jobs.log) :
    history.follow jobs = { history with jobs } := by
  simp [follow, log]

theorem follow_follow {middle last : SchedulerHistory} (first : history.jobs.log <+: middle.log)
    (second : middle.log <+: last.log) :
    (history.follow middle).follow last = history.follow last := by
  obtain ⟨notes, first⟩ := first
  obtain ⟨more, second⟩ := second
  simp [follow, ← second, ← first]

theorem walk_job (steps : List SchedulerHistory.Step) :
    history.walk (steps.map .job) = history.follow (history.jobs.walk steps) := by
  induction steps generalizing history with
  | nil => simp [walk, SchedulerHistory.walk, follow]
  | cons first rest ih =>
    calc history.walk ((first :: rest).map .job)
        = (history.follow (history.jobs.step first)).follow
            ((history.jobs.step first).walk rest) := ih
      _ = history.follow (history.jobs.walk (first :: rest)) :=
          follow_follow (SchedulerHistory.step_continues first).log
            (SchedulerHistory.walk_continues rest).log

theorem fire_walks (timer : TimerId) :
    ∃ steps, history.act (.fire timer) = history.walk steps := by
  cases fires : history.jobs.scheduler.fire? timer with
  | none => exact ⟨[], by simp [act, walk, fires]⟩
  | some scheduler =>
    simp only [Scheduler.fire?, Option.ite_none_right_eq_some, Option.some.injEq] at fires
    obtain ⟨⟨armed, pending⟩, rfl⟩ := fires
    have expires : history.step (.expire timer) =
        history.fires (history.jobs.scheduler.setTimer timer .fired) timer := if_pos pending
    have firing : timer ∈ (history.step (.expire timer)).firing := by
      rw [expires]
      exact List.mem_append_right _ (List.mem_singleton_self timer)
    obtain ⟨steps, offers⟩ :=
      SchedulerHistory.offer_walks (history.step (.expire timer)).jobs
    -- The timer expires, its callback is handed over at once, and the job may get its worker.
    refine ⟨.expire timer :: .handOver timer :: steps.map .job, ?_⟩
    let fired := history.step (.expire timer)
    calc history.act (.fire timer)
        = (fired.assign timer).follow (fired.jobs.act .offer) := by
          simp only [act, Scheduler.fire?, if_pos (And.intro armed pending), fired, expires]
      _ = ((fired.assign timer).follow (fired.jobs.step .enlist)).follow
            ((fired.jobs.step .enlist).walk steps) := by
          rw [offers]
          exact (follow_follow (SchedulerHistory.step_continues .enlist).log
            (SchedulerHistory.walk_continues steps).log).symm
      _ = ((fired.assign timer).follow (fired.jobs.step .enlist)).walk (steps.map .job) :=
          (walk_job steps).symm
      _ = (fired.step (.handOver timer)).walk (steps.map .job) := by rw [step, if_pos firing]

theorem act_walks (distinct : (history.jobs.scheduler.running ++
      history.jobs.scheduler.waiting).Nodup) (action : Action) :
    ∃ steps, history.act action = history.walk steps := by
  cases action with
  | single step => exact ⟨[step], rfl⟩
  | jobs action =>
    obtain ⟨steps, same⟩ := SchedulerHistory.act_walks distinct action
    exact ⟨steps.map .job, by rw [walk_job, ← same]; rfl⟩
  | fire timer => exact fire_walks timer

end TimerHistory

end ClusterDriver
