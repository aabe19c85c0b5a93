import ClusterDriver.Proofs.Scheduler.TimerSteps

set_option autoImplicit false

namespace ClusterDriver

namespace TimerHistory

open TimerLog

variable {history : TimerHistory} {workers : Nat}

structure Told (history : TimerHistory) : Prop where
  courses : ∀ timer, courseOf history.log timer ∈ TimerEvent.courses
  states : ∀ timer, history.state? timer = TimerEvent.stateAfter (courseOf history.log timer)
  fresh : ∀ timer, history.scheduled ≤ timer → courseOf history.log timer = []

namespace Told

variable {next : TimerHistory} {timer : TimerId} {event : TimerEvent}

theorem lt_scheduled (told : history.Told) (known : courseOf history.log timer ≠ []) :
    timer < history.scheduled :=
  Nat.lt_of_not_le fun new => known (told.fresh timer new)

theorem pending (told : history.Told) (pending : history.state? timer = some .pending) :
    courseOf history.log timer = [.scheduled] := by
  have only : ∀ course ∈ TimerEvent.courses,
      TimerEvent.stateAfter course = some .pending → course = [.scheduled] := by decide
  rw [told.states] at pending
  exact only _ (told.courses timer) pending

theorem fired (told : history.Told) :
    history.state? timer = some .fired ↔ .fired ∈ courseOf history.log timer := by
  have only : ∀ course ∈ TimerEvent.courses,
      TimerEvent.stateAfter course = some .fired ↔ .fired ∈ course := by decide
  rw [told.states]
  exact only _ (told.courses timer)

theorem cancelled (told : history.Told) :
    history.state? timer = some .cancelled ↔ .asked true ∈ courseOf history.log timer := by
  have only : ∀ course ∈ TimerEvent.courses,
      TimerEvent.stateAfter course = some .cancelled ↔ .asked true ∈ course := by decide
  rw [told.states]
  exact only _ (told.courses timer)

theorem noted (told : history.Told) (log : next.log = history.log ++ [(timer, event)])
    (counts : event ≠ .asked false)
    (course : courseOf history.log timer ++ [event] ∈ TimerEvent.courses)
    (state : next.state? timer = TimerEvent.stateAfter (courseOf history.log timer ++ [event]))
    (others : ∀ other, timer ≠ other → next.state? other = history.state? other)
    (scheduled : history.scheduled ≤ next.scheduled) (known : timer < next.scheduled) :
    next.Told where
  courses other := by
    rw [log, courseOf_note _ _ _ counts]
    split
    next same => exact same ▸ course
    next => exact told.courses other
  states other := by
    rw [log, courseOf_note _ _ _ counts]
    split
    next same => exact same ▸ state
    next different => exact (others other different).trans (told.states other)
  fresh other new := by
    rw [log, courseOf_note _ _ _ counts, if_neg (Nat.ne_of_lt (Nat.lt_of_lt_of_le known new))]
    exact told.fresh other (Nat.le_trans scheduled new)

theorem stays (told : history.Told)
    (course : ∀ timer, courseOf next.log timer = courseOf history.log timer)
    (states : ∀ timer, next.state? timer = history.state? timer)
    (scheduled : next.scheduled = history.scheduled) : next.Told where
  courses timer := course timer ▸ told.courses timer
  states timer := by rw [states, course, told.states]
  fresh timer new := by
    rw [course]
    exact told.fresh timer (scheduled ▸ new)

end Told

/-- Each job is for at most one timer and each timer has at most one job, which is not offered
before the timer has fired. The callback has run if this job has started. -/
structure Assigned (history : TimerHistory) : Prop where
  offered : ∀ job timer, history.callbackOf job = some timer → job < history.jobs.offered
  once : ∀ first second timer, history.callbackOf first = some timer →
    history.callbackOf second = some timer → first = second
  apart : ∀ timer ∈ history.firing, ∀ job, history.callbackOf job ≠ some timer
  firing : ∀ timer ∈ history.firing, .fired ∈ courseOf history.log timer
  fired : ∀ job timer, history.callbackOf job = some timer →
    .fired ∈ courseOf history.log timer
  ran : ∀ timer, .ran ∈ courseOf history.log timer ↔
    ∃ job, history.callbackOf job = some timer ∧
      .started ∈ JobLog.lifeOf history.jobs.log job

namespace Assigned

variable {next : TimerHistory}

theorem keeps (assigned : history.Assigned) (callbackOf : next.callbackOf = history.callbackOf)
    (offered : history.jobs.offered ≤ next.jobs.offered) (log : history.log <+: next.log)
    (firing : ∀ timer ∈ next.firing, timer ∈ history.firing ∨
      .fired ∉ courseOf history.log timer ∧ .fired ∈ courseOf next.log timer)
    (ran : ∀ timer, .ran ∈ courseOf next.log timer ↔
      ∃ job, history.callbackOf job = some timer ∧
        .started ∈ JobLog.lifeOf next.jobs.log job) : next.Assigned := by
  obtain ⟨more, log⟩ := log
  have lasts (timer : TimerId) (fired : .fired ∈ courseOf history.log timer) :
      .fired ∈ courseOf next.log timer := by
    rw [← log, courseOf_append]
    exact List.mem_append_left _ fired
  refine ⟨?_, ?_, ?_, ?_, ?_, ?_⟩
  · rw [callbackOf]
    exact fun job timer known => Nat.lt_of_lt_of_le (assigned.offered job timer known) offered
  · rw [callbackOf]
    exact assigned.once
  · rw [callbackOf]
    intro timer member job known
    rcases firing timer member with old | ⟨unfired, -⟩
    · exact assigned.apart timer old job known
    · exact unfired (assigned.fired job timer known)
  · intro timer member
    rcases firing timer member with old | ⟨-, fired⟩
    · exact lasts timer (assigned.firing timer old)
    · exact fired
  · rw [callbackOf]
    exact fun job timer known => lasts timer (assigned.fired job timer known)
  · rw [callbackOf]
    exact ran

theorem noted (assigned : history.Assigned) {timer : TimerId} {event : TimerEvent}
    (callbackOf : next.callbackOf = history.callbackOf)
    (offered : next.jobs.offered = history.jobs.offered)
    (jobs : next.jobs.log = history.jobs.log) (log : next.log = history.log ++ [(timer, event)])
    (firing : ∀ timer ∈ next.firing, timer ∈ history.firing ∨
      .fired ∉ courseOf history.log timer ∧ .fired ∈ courseOf next.log timer)
    (silent : event ≠ .ran) : next.Assigned := by
  refine assigned.keeps callbackOf (Nat.le_of_eq offered.symm) (log ▸ List.prefix_append _ _) firing
    fun other => ?_
  rw [jobs, ← assigned.ran, log, courseOf_append, List.mem_append, or_iff_left]
  exact fun ran => silent (eq_of_mem_single ran).symm

theorem ran_started (assigned : history.Assigned) {job : JobId} {timer : TimerId}
    (calls : history.callbackOf job = some timer) (other : TimerId) :
    .ran ∈ courseOf (history.log ++ [(timer, .ran)]) other ↔
      ∃ id, history.callbackOf id = some other ∧
        .started ∈ JobLog.lifeOf (history.jobs.log ++ [.job job .started]) id := by
  have began (id : JobId) :
      .started ∈ JobLog.lifeOf (history.jobs.log ++ [.job job .started]) id ↔
        job = id ∨ .started ∈ JobLog.lifeOf history.jobs.log id := by
    rw [JobLog.lifeOf_job]
    by_cases same : job = id <;> simp [same]
  rw [courseOf_note _ _ _ (by decide)]
  split
  next same => exact iff_of_true (by simp) ⟨job, same ▸ calls, (began job).2 (.inl rfl)⟩
  next different =>
    rw [assigned.ran]
    refine exists_congr fun id => and_congr_right fun calledBy => ?_
    rw [began, or_iff_right]
    rintro rfl
    exact different (Option.some.inj (calls.symm.trans calledBy))

theorem assigns (assigned : history.Assigned) {timer : TimerId} {event : JobEvent}
    {jobs : SchedulerHistory} (fires : timer ∈ history.firing)
    (fresh : JobLog.lifeOf history.jobs.log history.jobs.offered = [])
    (log : jobs.log = history.jobs.log ++ [.job history.jobs.offered event])
    (offered : jobs.offered = history.jobs.offered + 1) (unstarted : event ≠ .started) :
    Assigned { history.assign timer with jobs } := by
  -- Jobs that are assigned are older than the one offered now, so none of them loses its timer.
  have calls {job : JobId} {other : TimerId}
      (known : (history.assign timer).callbackOf job = some other) :
      job = history.jobs.offered ∧ timer = other ∨
        job < history.jobs.offered ∧ history.callbackOf job = some other := by
    simp only [assign] at known
    split at known
    next same => exact .inl ⟨same, Option.some.inj known⟩
    next => exact .inr ⟨assigned.offered job other known, known⟩
  refine ⟨fun job other known => ?_, fun first second other one two => ?_,
    fun other member job known => ?_, fun other member => ?_, fun job other known => ?_,
    fun other => ?_⟩
  · refine Nat.lt_of_lt_of_eq ?_ offered.symm
    rcases calls known with ⟨same, -⟩ | ⟨old, -⟩
    · exact Nat.lt_succ_of_le (Nat.le_of_eq same)
    · exact Nat.lt_succ_of_lt old
  · rcases calls one with ⟨same, mine⟩ | ⟨-, before⟩ <;>
      rcases calls two with ⟨again, own⟩ | ⟨-, since⟩
    · exact same.trans again.symm
    · exact absurd since (assigned.apart other (mine ▸ fires) second)
    · exact absurd before (assigned.apart other (own ▸ fires) first)
    · exact assigned.once first second other before since
  · obtain ⟨firing, different⟩ := List.mem_filter.1 member
    rcases calls known with ⟨-, rfl⟩ | ⟨-, before⟩
    · simp at different
    · exact assigned.apart other firing job before
  · exact assigned.firing other (List.mem_filter.1 member).1
  · rcases calls known with ⟨-, same⟩ | ⟨-, before⟩
    · exact assigned.firing other (same ▸ fires)
    · exact assigned.fired job other before
  · have silent := SchedulerNote.ran?_unstarted unstarted history.jobs.offered
      (history.assign timer).callbackOf
    refine (assigned.ran other).trans (exists_congr fun job => ?_)
    rw [log]
    constructor
    · rintro ⟨known, began⟩
      have old : job ≠ history.jobs.offered := Nat.ne_of_lt (assigned.offered job other known)
      have still : (history.assign timer).callbackOf job = some other := (if_neg old).trans known
      exact ⟨still, (SchedulerNote.started_mem silent still _).2 began⟩
    · rintro ⟨known, began⟩
      have before := (SchedulerNote.started_mem silent known _).1 began
      rcases calls known with ⟨rfl, -⟩ | ⟨-, still⟩
      · rw [fresh] at before
        cases before
      · exact ⟨still, before⟩

end Assigned

structure Sound (history : TimerHistory) (workers : Nat) : Prop where
  jobs : history.jobs.Sound workers
  told : history.Told
  assigned : history.Assigned

namespace Sound

theorem schedules (sound : history.Sound workers) : (history.step .schedule).Sound workers := by
  have fresh := sound.told.fresh history.scheduled (Nat.le_refl _)
  have absent : history.state? history.scheduled = none := by
    rw [sound.told.states, fresh]
    rfl
  rw [step]
  cases added : history.jobs.scheduler.addTimer? history.scheduled with
  | none =>
    refine ⟨sound.jobs, ?_, ?_⟩
    · exact sound.told.noted rfl (by decide) (by rw [fresh]; decide) (by rw [fresh]; exact absent)
        (fun _ _ => rfl) (Nat.le_succ _) (Nat.lt_succ_self _)
    · exact sound.assigned.noted rfl rfl rfl rfl (fun _ member => .inl member) (by decide)
  | some scheduler =>
    have state := Scheduler.timerState?_addTimer? added absent
    refine ⟨?_, ?_, ?_⟩
    · simp only [Scheduler.addTimer?, Option.ite_none_left_eq_some, Option.some.injEq] at added
      rw [← added.2]
      exact sound.jobs.withTimers _ _
    · refine sound.told.noted rfl (by decide) (by rw [fresh]; decide) ?_ ?_ (Nat.le_succ _)
        (Nat.lt_succ_self _)
      · rw [fresh]
        exact (state _).trans (if_pos rfl)
      · exact fun other different => (state other).trans (if_neg different)
    · exact sound.assigned.noted rfl rfl rfl rfl (fun _ member => .inl member) (by decide)

theorem settles (sound : history.Sound workers) {timer : TimerId} {state : TimerState}
    {event : TimerEvent} {firing : List TimerId} (pending : history.state? timer = some .pending)
    (course : [.scheduled, event] ∈ TimerEvent.courses)
    (settled : TimerEvent.stateAfter [.scheduled, event] = some state)
    (counts : event ≠ .asked false) (silent : event ≠ .ran)
    (fires : ∀ other ∈ firing, other ∈ history.firing ∨ other = timer ∧ event = .fired) :
    Sound { history.record (history.jobs.scheduler.setTimer timer state) timer event with firing }
      workers := by
  have before := sound.told.pending pending
  have states := history.jobs.scheduler.timerState?_setTimer timer state
  have known : timer < history.scheduled := sound.told.lt_scheduled (by simp [before])
  refine ⟨sound.jobs.withTimers _ _, ?_, ?_⟩
  · refine sound.told.noted rfl counts (by rwa [before]) ?_ ?_ (Nat.le_refl _) known
    · rw [before]
      calc (history.jobs.scheduler.setTimer timer state).timerState? timer
          = (history.state? timer).map fun _ => state := (states timer).trans (if_pos rfl)
        _ = TimerEvent.stateAfter ([.scheduled] ++ [event]) := by rw [pending]; exact settled.symm
    · exact fun other different => (states other).trans (if_neg different)
  · refine sound.assigned.noted rfl rfl rfl rfl (fun other member => ?_) silent
    rcases fires other member with old | ⟨rfl, rfl⟩
    · exact .inl old
    · refine .inr ⟨by simp [before], ?_⟩
      have after := courseOf_note history.log other other counts
      rw [if_pos rfl, before] at after
      exact after ▸ List.mem_cons_of_mem _ (List.mem_singleton_self _)

theorem expires (sound : history.Sound workers) (timer : TimerId) :
    (history.step (.expire timer)).Sound workers := by
  rw [step]
  split
  next pending =>
    refine sound.settles pending (by decide) rfl (by decide) (by decide) fun other member => ?_
    rcases List.mem_append.1 member with old | new
    · exact .inl old
    · exact .inr ⟨List.mem_singleton.1 new, rfl⟩
  next => exact sound

theorem cancels (sound : history.Sound workers) (timer : TimerId) :
    (history.step (.cancel timer)).Sound workers := by
  simp only [step, Scheduler.cancelTimer?]
  by_cases pending : history.jobs.scheduler.timerState? timer = some .pending
  · rw [if_pos pending]
    exact sound.settles pending (by decide) rfl (by decide) (by decide) fun _ member => .inl member
  · rw [if_neg pending]
    refine ⟨sound.jobs, ?_, ?_⟩
    · exact sound.told.stays (fun _ => courseOf_vain _ _ _) (fun _ => rfl) rfl
    · exact sound.assigned.noted rfl rfl rfl rfl (fun _ member => .inl member) (by decide)

theorem loses (sound : history.Sound workers) (timer : TimerId) :
    (history.step (.lose timer)).Sound workers where
  jobs := sound.jobs
  told := { sound.told with }
  assigned := sound.assigned.keeps rfl (Nat.le_refl _) List.prefix_rfl
    (fun _ member => .inl (List.mem_filter.1 member).1) sound.assigned.ran

theorem course_of_starting (sound : history.Sound workers) {job : JobId} {timer : TimerId}
    (waits : job ∈ history.jobs.scheduler.waiting) (calls : history.callbackOf job = some timer) :
    courseOf history.log timer = [.scheduled, .fired] := by
  have only : ∀ course ∈ TimerEvent.courses,
      .fired ∈ course → .ran ∉ course → course = [.scheduled, .fired] := by decide
  -- Only this job could have run the callback, and a job that waits has not started.
  refine only _ (sound.told.courses timer) (sound.assigned.fired job timer calls) fun ran => ?_
  obtain ⟨other, same, began⟩ := (sound.assigned.ran timer).1 ran
  rw [sound.assigned.once other job timer same calls,
    (sound.jobs.staffed.filed.waiting job).1 waits] at began
  simp at began

variable {next : SchedulerHistory} {note : SchedulerNote}

theorem calls (sound : history.Sound workers) {job : JobId} {timer : TimerId}
    (takes : history.jobs.Takes (.job job .started) next)
    (assigned : history.callbackOf job = some timer) :
    Sound { history with jobs := next, log := history.log ++ [(timer, .ran)] } workers := by
  have course : courseOf history.log timer = [.scheduled, .fired] := by
    cases takes with
    | started waits => exact sound.course_of_starting waits assigned
  have known : timer < history.scheduled := sound.told.lt_scheduled (by simp [course])
  have state (other : TimerId) : next.scheduler.timerState? other = history.state? other :=
    congrArg (List.lookup other) takes.timers
  refine ⟨⟨takes.staffed sound.jobs.staffed, takes.closing sound.jobs⟩, ?_, ?_⟩
  · refine sound.told.noted rfl (by decide) (by rw [course]; decide) ?_ (fun other _ => state other)
      (Nat.le_refl _) known
    calc next.scheduler.timerState? timer
        = TimerEvent.stateAfter (courseOf history.log timer) :=
          (state timer).trans (sound.told.states timer)
      _ = TimerEvent.stateAfter (courseOf history.log timer ++ [.ran]) := by rw [course]; rfl
  · refine sound.assigned.keeps rfl takes.offered_le (List.prefix_append _ _) (fun _ => .inl)
      fun other => ?_
    rw [takes.log]
    exact sound.assigned.ran_started assigned other

theorem passes (sound : history.Sound workers) (takes : history.jobs.Takes note next)
    (silent : note.ran? history.callbackOf = none) :
    Sound { history with jobs := next } workers := by
  refine ⟨⟨takes.staffed sound.jobs.staffed, takes.closing sound.jobs⟩, ?_, ?_⟩
  · exact sound.told.stays (fun _ => rfl)
      (fun timer => congrArg (List.lookup timer) takes.timers) rfl
  · refine sound.assigned.keeps rfl takes.offered_le List.prefix_rfl (fun _ => .inl) fun timer => ?_
    rw [takes.log, sound.assigned.ran]
    exact exists_congr fun job => and_congr_right fun calls =>
      (SchedulerNote.started_mem silent calls _).symm

theorem works (sound : history.Sound workers) (step : SchedulerHistory.Step) :
    (history.step (.job step)).Sound workers := by
  rw [TimerHistory.step]
  rcases history.jobs.step_cases step with ⟨now, same⟩ | ⟨note, takes⟩
  · have jobs := SchedulerHistory.step_sound sound.jobs step
    have silent : (history.jobs.step step).log = history.jobs.log := by rw [same]
    rw [follow_silent silent, same]
    exact ⟨same ▸ jobs, { sound.told with }, { sound.assigned with }⟩
  · rw [follow_noted takes.log]
    cases ran : note.ran? history.callbackOf with
    | none =>
      rw [Option.toList_none, List.append_nil]
      exact sound.passes takes ran
    | some entry =>
      obtain ⟨job, timer, rfl, assigned, rfl⟩ := SchedulerNote.ran?_eq_some ran
      exact sound.calls takes assigned

theorem handsOver (sound : history.Sound workers) (timer : TimerId) :
    (history.step (.handOver timer)).Sound workers := by
  rw [step]
  split
  next firing =>
    obtain ⟨event, other, takes, offered⟩ := history.jobs.enlist_takes
    have silent := SchedulerNote.ran?_unstarted other history.jobs.offered
      (history.assign timer).callbackOf
    have log : (history.jobs.step .enlist).log = (history.assign timer).jobs.log ++ [_] := takes.log
    rw [follow_noted log, silent, Option.toList_none, List.append_nil]
    refine ⟨⟨takes.staffed sound.jobs.staffed, takes.closing sound.jobs⟩, ?_, ?_⟩
    · exact sound.told.stays (fun _ => rfl)
        (fun timer => congrArg (List.lookup timer) takes.timers) rfl
    · exact sound.assigned.assigns firing (sound.jobs.staffed.fresh _ (Nat.le_refl _)) takes.log
        offered other
  next => exact sound

end Sound

theorem step_sound (sound : history.Sound workers) (step : Step) :
    (history.step step).Sound workers := by
  cases step with
  | job step => exact sound.works step
  | schedule => exact sound.schedules
  | expire timer => exact sound.expires timer
  | handOver timer => exact sound.handsOver timer
  | lose timer => exact sound.loses timer
  | cancel timer => exact sound.cancels timer

theorem walk_sound (sound : history.Sound workers) (steps : List Step) :
    (history.walk steps).Sound workers := by
  induction steps generalizing history with
  | nil => exact sound
  | cons step rest ih => exact ih (step_sound sound step)

theorem act_sound (sound : history.Sound workers) (action : Action) :
    (history.act action).Sound workers := by
  obtain ⟨steps, same⟩ := act_walks sound.jobs.staffed.filed.distinct action
  rw [same]
  exact walk_sound sound steps

theorem run_sound (sound : history.Sound workers) (actions : List Action) :
    (history.run actions).Sound workers := by
  induction actions generalizing history with
  | nil => exact sound
  | cons action rest ih => exact ih (act_sound sound action)

theorem started_sound (workers : Nat) : (started workers).Sound workers where
  jobs := SchedulerHistory.started_sound workers
  told := ⟨fun _ => List.mem_cons_self, fun _ => rfl, fun _ _ => rfl⟩
  assigned := ⟨nofun, nofun, nofun, nofun, nofun, by simp [started, courseOf, lifeOf]⟩

theorem step_log (step : Step) : history.log <+: (history.step step).log := by
  cases step with
  | job step => exact List.prefix_append _ _
  | schedule =>
    simp only [TimerHistory.step]
    split <;> exact List.prefix_append _ _
  | expire timer =>
    simp only [TimerHistory.step]
    split
    next => exact List.prefix_append _ _
    next => exact List.prefix_rfl
  | handOver timer =>
    simp only [TimerHistory.step]
    split
    next => exact List.prefix_append _ _
    next => exact List.prefix_rfl
  | lose timer => exact List.prefix_rfl
  | cancel timer =>
    simp only [TimerHistory.step]
    split <;> exact List.prefix_append _ _

theorem walk_log (steps : List Step) : history.log <+: (history.walk steps).log := by
  induction steps generalizing history with
  | nil => exact List.prefix_rfl
  | cons step rest ih => exact (step_log step).trans ih

theorem run_log (sound : history.Sound workers) (actions : List Action) :
    history.log <+: (history.run actions).log := by
  induction actions generalizing history with
  | nil => exact List.prefix_rfl
  | cons action rest ih =>
    obtain ⟨steps, same⟩ := act_walks sound.jobs.staffed.filed.distinct action
    have first : history.log <+: (history.act action).log := same ▸ walk_log steps
    exact first.trans (ih (act_sound sound action))

theorem lifeOf_prefix {first second : TimerLog} (earlier : first <+: second) (timer : TimerId) :
    lifeOf first timer <+: lifeOf second timer := by
  obtain ⟨more, rfl⟩ := earlier
  rw [lifeOf_append]
  exact List.prefix_append _ _

/-- A callback runs at most once, and only if its timer has fired. At most one cancellation is
granted, none after the timer has fired, and no callback runs after one. A timer that has fired or
was cancelled stays so, and it is never both. -/
theorem callbacks_run_once (workers : Nat) (before after : List Action) (timer : TimerId) :
    let early := (started workers).run before
    let late := early.run after
    let life := lifeOf late.log timer
    lifeOf early.log timer <+: life ∧
      life.count .ran ≤ 1 ∧ life.count (.asked true) ≤ 1 ∧
      ¬[.fired, .asked true].Sublist life ∧ ¬(.asked true ∈ life ∧ .ran ∈ life) ∧
      (late.state? timer = some .fired ↔ .fired ∈ life) ∧
      (late.state? timer = some .cancelled ↔ .asked true ∈ life) ∧
      ¬(late.state? timer = some .fired ∧ late.state? timer = some .cancelled) ∧
      (early.state? timer = some .fired → late.state? timer = some .fired ∧
        late.jobs.scheduler.cancelTimer? timer = none) ∧
      (early.state? timer = some .cancelled → late.state? timer = some .cancelled) ∧
      (.ran ∈ life → late.state? timer = some .fired) := by
  intro early late life
  -- A course is one of six, and each of them has what is claimed; the life of a timer adds to its
  -- course only what was asked in vain.
  have possible : ∀ course ∈ TimerEvent.courses, course.count .ran ≤ 1 ∧
      course.count (.asked true) ≤ 1 ∧ ¬[.fired, .asked true].Sublist course ∧
      ¬(.asked true ∈ course ∧ .ran ∈ course) ∧ (.ran ∈ course → .fired ∈ course) := by decide
  have first := run_sound (started_sound workers) before
  have last : late.Sound workers := run_sound first after
  have continues : lifeOf early.log timer <+: life := lifeOf_prefix (run_log first after) timer
  have fired : late.state? timer = some .fired ↔ .fired ∈ life :=
    last.told.fired.trans (mem_course (by decide))
  have cancelled : late.state? timer = some .cancelled ↔ .asked true ∈ life :=
    last.told.cancelled.trans (mem_course (by decide))
  obtain ⟨once, single, order, apart, ran⟩ := possible _ (last.told.courses timer)
  rw [count_course (by decide)] at once single
  rw [mem_course (by decide), mem_course (by decide)] at apart ran
  refine ⟨continues, once, single, fun late => order ?_, apart, fired, cancelled, ?_, ?_, ?_,
    fun began => fired.2 (ran began)⟩
  · exact late.filter fun event => event ≠ .asked false
  · rintro ⟨one, two⟩
    cases one.symm.trans two
  · intro was
    have still := fired.2 (continues.mem ((mem_course (by decide)).1 (first.told.fired.1 was)))
    exact ⟨still, if_neg fun pending => by cases still.symm.trans pending⟩
  · intro was
    exact cancelled.2 (continues.mem ((mem_course (by decide)).1 (first.told.cancelled.1 was)))

def contended : List Action :=
  [.single .schedule, .single .schedule, .single .schedule, .jobs .offer, .fire 0,
    .single (.cancel 0), .single (.cancel 1), .fire 1, .single (.cancel 1),
    .jobs (.release 0 .completed), .jobs (.single (.beginShutdown 5)), .single (.expire 2),
    .single (.handOver 2), .single .schedule, .jobs (.release 1 .completed)]

theorem contended_run_once :
    let log := ((started 1).run contended).log
    lifeOf log 0 = [.scheduled, .fired, .asked false, .ran] ∧
      lifeOf log 1 = [.scheduled, .asked true, .asked false] ∧
      lifeOf log 2 = [.scheduled, .fired] ∧ lifeOf log 3 = [.refused] ∧
      ((started 1).run contended).state? 0 = some .fired ∧
      ((started 1).run contended).state? 1 = some .cancelled := by
  intro log
  have ran : lifeOf log 0 = [.scheduled, .fired, .asked false, .ran] := by decide
  have asked : lifeOf log 1 = [.scheduled, .asked true, .asked false] := by decide
  obtain ⟨_, _, _, _, _, _, _, _, _, _, fired⟩ := callbacks_run_once 1 [] contended 0
  obtain ⟨_, _, _, _, _, _, cancelled, _⟩ := callbacks_run_once 1 [] contended 1
  have began : .ran ∈ lifeOf log 0 := ran ▸ by decide
  have granted : .asked true ∈ lifeOf log 1 := asked ▸ by decide
  exact ⟨ran, asked, by decide, by decide, fired began, cancelled.2 granted⟩

end TimerHistory

end ClusterDriver
