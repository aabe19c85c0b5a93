import ClusterDriver.Proofs.Request.Numbering
import ClusterDriver.Proofs.Session.Living

/-!
The requests of a session and the jobs that run them. Every request that was submitted has an
outcome, or its task goes on and has a job, or the task was dropped together with its job. Two tasks
never belong to one request, so that nobody but its own task gives it an outcome.
-/

set_option autoImplicit false

namespace ClusterDriver

/-! ### One request -/

structure RequestContext.Tends (context : RequestContext) (run : Option Run) : Prop where
  pending : context.Pending
  untried : run = none → context.attempts = []
  unfinished : ∀ underWay, run = some underWay → underWay.finished = false
  numbered : ∀ underWay, run = some underWay → Run.Numbered { underWay with context }

theorem RequestContext.Fresh.tends {context : RequestContext} (fresh : context.Fresh) :
    context.Tends none where
  pending := fresh.pending
  untried _ := fresh.attempts
  unfinished _ same := by cases same
  numbered _ same := by cases same

theorem RequestContext.Tends.cancel {context : RequestContext} {run : Option Run}
    (tends : context.Tends run) : context.cancel.Tends run where
  pending := ⟨tends.pending.unresolved, tends.pending.phase⟩
  untried := tends.untried
  unfinished := tends.unfinished
  numbered := tends.numbered

theorem RequestContext.tends_plain {context : RequestContext} {run : Option Run} :
    context.Tends (run.map fun underWay => { underWay with woken := [] }) ↔ context.Tends run := by
  cases run with
  | none => exact .rfl
  | some run =>
    refine ⟨fun tends => ⟨tends.pending, nofun, ?_, ?_⟩, fun tends => ⟨tends.pending, nofun, ?_, ?_⟩⟩
    · rintro _ ⟨⟩
      exact tends.unfinished { run with woken := [] } rfl
    · rintro _ ⟨⟩
      exact tends.numbered { run with woken := [] } rfl
    · rintro _ ⟨⟩
      exact tends.unfinished run rfl
    · rintro _ ⟨⟩
      exact tends.numbered run rfl

namespace Submission

variable {σ : Type} {cluster : Cluster σ} {submission : Submission}

/-- A request is over, or can go on. -/
def Fares (submission : Submission) : Prop :=
  submission.isOver = false → submission.context.Tends submission.run

theorem Fares.ceased (ceased : submission.isOver = true) : submission.Fares :=
  fun goesOn => absurd (ceased.symm.trans goesOn) (by decide)

theorem poll_fares {run : Run} (underWay : submission.run = some run)
    (tends : submission.context.Tends submission.run) (around : σ) :
    (submission.poll cluster around).1.Fares := by
  have unfinished := tends.unfinished run underWay
  have numbered := (Run.numbered_kept cluster).steps
    (Run.stepLimit { run with context := submission.context })
    (cluster.alarm none submission.context.deadline around) tends.pending
    (tends.numbered run underWay)
  rw [← Run.poll_run cluster { run with context := submission.context } around] at numbered
  have progresses := Run.poll_progresses cluster { run with context := submission.context } around
    tends.pending
  simp only [poll, underWay, adopt]
  generalize Run.poll cluster { run with context := submission.context } around = polled at *
  rcases progresses with onward | ⟨result, ended⟩
  · refine fun _ => ⟨onward.pending tends.pending, ?_, ?_, ?_⟩
    · intro unborn
      cases unborn
    · intro after same
      obtain rfl := Option.some.inj same
      exact onward.finished.trans unfinished
    · intro after same
      obtain rfl := Option.some.inj same
      exact numbered
  · exact .ceased ended.finished

theorem start_fares {registry : ProfileRegistry} {codec : Codec}
    (goesOn : submission.isOver = false) (fresh : submission.context.Fresh) (around : σ) :
    (submission.start cluster registry codec around).1.Fares := by
  rcases @start_cases _ cluster registry codec _ goesOn around with
    ⟨_, ceased, _⟩ | ⟨build, plan, later, _, prepared, same⟩
  · exact .ceased ceased
  · obtain ⟨own, unfinished, _⟩ := prepare_ok prepared plan
    have numbered := Run.started_numbered fresh prepared plan (cluster.now later)
    have tends : submission.context.Tends
        (some ((build plan).startExecution (cluster.now later))) := by
      refine ⟨fresh.pending, nofun, ?_, ?_⟩
      · intro underWay same
        obtain rfl := Option.some.inj same
        exact unfinished
      · intro underWay same
        obtain rfl := Option.some.inj same
        rwa [Run.with_own_context
          (show ((build plan).startExecution (cluster.now later)).context = submission.context
            from own)]
    rw [same]
    exact @poll_fares _ _ { submission.count [.submitted] with
      run := some ((build plan).startExecution (cluster.now later)) } _ rfl tends later

end Submission

/-! ### Jobs -/

namespace Scheduler

variable {scheduler later : Scheduler} {job other : JobId} {given : List JobId}

def Has (scheduler : Scheduler) (job : JobId) : Prop :=
  job ∈ scheduler.waiting ∨ job ∈ scheduler.running

def Idle (scheduler : Scheduler) : Prop := scheduler.waiting = [] ∧ scheduler.running = []

theorem has_promote (scheduler : Scheduler) (job : JobId) :
    scheduler.promote.1.Has job ↔ scheduler.Has job := by
  simp only [Has, promote, List.mem_append]
  conv_rhs => rw [← List.take_append_drop scheduler.freeWorkers scheduler.waiting, List.mem_append]
  tauto

theorem offer?_cases (offered : scheduler.offer? job = some (later, given)) :
    scheduler.isShutdown = false ∧
      later = { scheduler with waiting := scheduler.waiting ++ [job] }.promote.1 := by
  unfold offer? at offered
  split at offered
  next => cases offered
  next accepting =>
    cases offered
    exact ⟨by simpa using accepting, rfl⟩

theorem has_offer? (offered : scheduler.offer? job = some (later, given)) :
    later.Has other ↔ scheduler.Has other ∨ other = job := by
  rw [(offer?_cases offered).2, has_promote]
  simp only [Has, List.mem_append, List.mem_singleton]
  tauto

theorem isTerminated_offer? (offered : scheduler.offer? job = some (later, given)) :
    later.isTerminated = false := by
  obtain ⟨accepting, same⟩ := offer?_cases offered
  have phase : scheduler.phase = .accepting := by simpa [isShutdown] using accepting
  rw [same]
  simp [isTerminated, promote, phase]

theorem has_remove (different : other ≠ job) (held : scheduler.Has other) :
    (scheduler.remove job).1.Has other := by
  rw [remove, has_promote]
  exact held.imp (List.mem_erase_of_ne different).2 (List.mem_erase_of_ne different).2

theorem idle_remove (idle : scheduler.Idle) (job : JobId) : (scheduler.remove job).1.Idle := by
  simp [Idle, remove, promote, idle.1, idle.2]

end Scheduler

/-! ### All requests of a session -/

namespace Simulation

theorem getElem?_dropped (jobs : List Process) (left : List JobId) (tasks : List RequestTask)
    (id : TaskId) :
    (dropped jobs left tasks)[id]? = tasks[id]?.map fun task =>
      if .request id ∈ left.filterMap (jobs[·]?) then task.abort else task := by
  induction left generalizing tasks with
  | nil => simp [dropped]
  | cons job rest ih =>
    rw [dropped, List.foldl_cons, ← dropped, ih]
    cases given : jobs[job]? with
    | none => simp [given]
    | some process =>
      cases process with
      | request task =>
        by_cases own : task = id
        · subst own
          simp only [given, List.getElem?_modify, List.filterMap_cons, List.mem_cons, true_or,
            if_true, Option.map_eq_map, Option.map_map]
          congr 1
          funext task
          simp only [Function.comp_apply]
          split <;> rfl
        · have other : Process.request id ≠ .request task := by simpa using Ne.symm own
          simp [given, own, other]
      | _ => simp [given]

theorem map_dropped {α : Type} {view : RequestTask → α}
    (same : ∀ task, view task.abort = view task) (jobs : List Process) (left : List JobId)
    (tasks : List RequestTask) : (dropped jobs left tasks).map view = tasks.map view := by
  apply List.ext_getElem?
  intro id
  simp only [List.getElem?_map, getElem?_dropped, Option.map_map]
  congr 1
  funext task
  simp only [Function.comp_apply]
  split
  next => exact same task
  next => rfl

namespace Affairs

def context? (affairs : Affairs) (number : Nat) : Option RequestContext :=
  if number = 0 then none else affairs.contexts[number - 1]?

structure Runs (affairs : Affairs) (job : JobId) (id : TaskId) : Prop where
  own : affairs.jobs[job]? = some (.request id)
  has : affairs.scheduler.Has job

structure GoesOn (affairs : Affairs) (id : TaskId) (task : RequestTask) : Prop where
  kept : task.aborted = false
  tends : ∃ context, affairs.context? task.context = some context ∧ context.Tends task.run
  served : ∃ job, task.job = some job ∧ affairs.Runs job id

structure Tended (affairs : Affairs) : Prop where
  apart : (affairs.tasks.map (·.context)).Nodup
  known : ∀ number ∈ affairs.tasks.map (·.context),
    1 ≤ number ∧ number ≤ affairs.contexts.length
  goesOn : ∀ id task, affairs.tasks[id]? = some task → task.isOver = false → affairs.GoesOn id task
  settled : ∀ number context, affairs.context? number = some context → context.outcome = none →
    ∃ (id : TaskId) (task : RequestTask), affairs.tasks[id]? = some task ∧ task.context = number ∧
      (task.isOver = false ∨ task.aborted = true)
  idle : affairs.scheduler.isTerminated = true → affairs.scheduler.Idle

variable {affairs before after : Affairs} {id : TaskId} {task : RequestTask}

theorem context?_range {number : Nat} {context : RequestContext}
    (known : affairs.context? number = some context) :
    1 ≤ number ∧ number ≤ affairs.contexts.length := by
  unfold context? at known
  split at known
  next => cases known
  next =>
    have inside := (List.getElem?_eq_some_iff.1 known).1
    omega

theorem Tended.jobs (tended : before.Tended) (contexts : after.contexts = before.contexts)
    (tasks : after.tasks = before.tasks)
    (runs : ∀ job id, before.Runs job id → after.Runs job id)
    (idle : after.scheduler.isTerminated = true → after.scheduler.Idle) : after.Tended := by
  have known (number : Nat) : after.context? number = before.context? number := by
    simp only [context?, contexts]
  refine ⟨?_, ?_, ?_, ?_, idle⟩
  · rw [tasks]
    exact tended.apart
  · rw [tasks, contexts]
    exact tended.known
  · intro id task found goesOn
    rw [tasks] at found
    obtain ⟨kept, tends, job, own, served⟩ := tended.goesOn id task found goesOn
    exact ⟨kept, by simpa only [known] using tends, job, own, runs job id served⟩
  · intro number context found unresolved
    rw [known] at found
    rw [tasks]
    exact tended.settled number context found unresolved

theorem Tended.same (tended : before.Tended) (contexts : after.contexts = before.contexts)
    (tasks : after.tasks = before.tasks) (jobs : after.jobs = before.jobs)
    (scheduler : after.scheduler = before.scheduler) : after.Tended := by
  refine tended.jobs contexts tasks (fun job id runs => ⟨?_, ?_⟩) ?_
  · rw [jobs]
    exact runs.own
  · rw [scheduler]
    exact runs.has
  · rw [scheduler]
    exact tended.idle

theorem Runs.offer? {job : JobId} {process : Process} {scheduler : Scheduler} {given : List JobId}
    (runs : before.Runs job id)
    (offered : before.scheduler.offer? before.jobs.length = some (scheduler, given)) :
    Runs { before with jobs := before.jobs ++ [process], scheduler } job id where
  own := by
    rw [List.getElem?_append_left (List.getElem?_eq_some_iff.1 runs.own).1]
    exact runs.own
  has := (Scheduler.has_offer? offered).2 (.inl runs.has)

theorem Runs.remove {job other : JobId} (runs : before.Runs job id)
    (different : before.jobs[other]? ≠ some (.request id)) :
    Runs { before with scheduler := (before.scheduler.remove other).1 } job id where
  own := runs.own
  has := by
    refine Scheduler.has_remove ?_ runs.has
    rintro rfl
    exact different runs.own

theorem context?_modify (number tested : Nat) (change : RequestContext → RequestContext) :
    context? { before with contexts := before.contexts.modify (number - 1) change } tested =
      (before.context? tested).map fun context =>
        if tested - 1 = number - 1 then change context else context := by
  unfold context?
  split
  next => rfl
  next =>
    rw [List.getElem?_modify]
    simp only [Option.map_eq_map, eq_comm]

theorem Tended.cancels (tended : before.Tended) (number : Nat) :
    Tended { before with contexts := before.contexts.modify (number - 1) (·.cancel) } := by
  refine ⟨tended.apart, ?_, ?_, ?_, tended.idle⟩
  · rw [List.length_modify]
    exact tended.known
  · intro id task found goesOn
    obtain ⟨kept, ⟨context, known, tends⟩, job, own, served⟩ := tended.goesOn id task found goesOn
    refine ⟨kept, ?_, job, own, served.own, served.has⟩
    rw [context?_modify, known]
    refine ⟨_, rfl, ?_⟩
    split
    next => exact tends.cancel
    next => exact tends
  · intro tested context found unresolved
    rw [context?_modify] at found
    obtain ⟨earlier, known, rfl⟩ := Option.map_eq_some_iff.1 found
    refine tended.settled tested earlier known ?_
    split at unresolved <;> exact unresolved

theorem Tended.inj (tended : before.Tended) {other : TaskId} {another : RequestTask}
    (found : before.tasks[id]? = some task) (known : before.tasks[other]? = some another)
    (same : another.context = task.context) : other = id := by
  have inside : other < (before.tasks.map (·.context)).length := by
    simpa using (List.getElem?_eq_some_iff.1 known).1
  refine (List.getElem?_inj inside tended.apart).1 ?_
  simp [List.getElem?_map, found, known, same]

theorem context?_keep {own : RequestTask} (first : 1 ≤ own.context) (submission : Submission)
    (number : Nat) :
    (before.keep id own submission).context? number = (before.context? number).map fun context =>
      if number = own.context then submission.context else context := by
  refine (@context?_modify before own.context number fun _ => submission.context).trans ?_
  cases known : before.context? number with
  | none => rfl
  | some context =>
    have range := context?_range known
    simp only [Option.map_some, show number - 1 = own.context - 1 ↔ number = own.context by omega]

theorem contexts_keep (own : RequestTask) (submission : Submission) :
    (before.keep id own submission).tasks.map (·.context) = before.tasks.map (·.context) := by
  apply World.map_modify_of_same
  exact fun _ => rfl

theorem getElem?_keep {other : TaskId} (different : other ≠ id) (own : RequestTask)
    (submission : Submission) :
    (before.keep id own submission).tasks[other]? = before.tasks[other]? :=
  List.getElem?_modify_ne _ _ (Ne.symm different)

theorem Tended.keep (tended : before.Tended) {own : RequestTask} {submission : Submission}
    (found : before.tasks[id]? = some task) (goesOn : task.isOver = false)
    (context : own.context = task.context) (job : own.job = task.job)
    (fares : submission.Fares) : (before.keep id own submission).Tended := by
  obtain ⟨kept, ⟨old, known, _⟩, running, hasJob, served⟩ := tended.goesOn id task found goesOn
  have first : 1 ≤ own.context := by
    rw [context]
    exact (context?_range known).1
  have contexts := @contexts_keep before id own submission
  have now : (before.keep id own submission).context? task.context = some submission.context := by
    rw [context?_keep first, known, Option.map_some, if_pos context.symm]
  -- The turn changes the context of this request only.
  have others (number : Nat) (different : number ≠ task.context) :
      (before.keep id own submission).context? number = before.context? number := by
    rw [context?_keep first, context]
    simp [different]
  have turned : (before.keep id own submission).tasks[id]? = some { task with
      run := submission.run.map fun run => { run with woken := [] }
      isOver := submission.isOver
      aborted := submission.isDropped } := by
    simp only [Affairs.keep]
    rw [List.getElem?_modify_eq, found, Option.map_eq_map, Option.map_some, goesOn, Bool.false_or,
      kept, Bool.false_or]
  -- The job of another request is not the one that is given back.
  have runs {other : TaskId} {task : JobId} (different : other ≠ id)
      (runs : before.Runs task other) : (before.keep id own submission).Runs task other := by
    refine ⟨runs.own, ?_⟩
    simp only [Affairs.keep, job, hasJob, Option.elim_some]
    split
    next =>
      refine (runs.remove ?_).has
      rw [served.own]
      simpa using Ne.symm different
    next => exact runs.has
  refine ⟨?_, ?_, ?_, ?_, ?_⟩
  · rw [contexts]
    exact tended.apart
  · rw [contexts]
    simpa only [Affairs.keep, List.length_modify] using tended.known
  · intro other another there unfinished
    by_cases same : other = id
    · subst same
      obtain rfl := Option.some.inj (turned.symm.trans there)
      have unfinished : submission.isOver = false := unfinished
      have kept : submission.isDropped = false := by simp [Submission.isDropped, unfinished]
      refine ⟨kept, ⟨_, now, RequestContext.tends_plain.2 (fares unfinished)⟩, running, hasJob,
        served.own, ?_⟩
      simpa only [Affairs.keep, unfinished, Bool.false_eq_true, if_false] using served.has
    · rw [getElem?_keep same] at there
      obtain ⟨kept, tends, job, hasJob, served⟩ := tended.goesOn other another there unfinished
      have different := fun alike => same (tended.inj found there alike)
      exact ⟨kept, by rwa [others _ different], job, hasJob, runs same served⟩
  · intro number context there unresolved
    by_cases same : number = task.context
    · subst same
      obtain rfl := Option.some.inj (now.symm.trans there)
      refine ⟨id, _, turned, rfl, ?_⟩
      -- Without an outcome a request goes on or was dropped.
      cases ceased : submission.isOver with
      | false => exact .inl rfl
      | true => simp [Submission.isDropped, ceased, RequestContext.isResolved, unresolved]
    · rw [others number same] at there
      obtain ⟨other, another, member, own, left⟩ :=
        tended.settled number context there unresolved
      refine ⟨other, another, ?_, own, left⟩
      rw [getElem?_keep]
      · exact member
      · rintro rfl
        obtain rfl := Option.some.inj (found.symm.trans member)
        exact same own.symm
  · intro ended
    simp only [Affairs.keep, job, hasJob, Option.elim_some] at ended ⊢
    split at ended
    next ceased =>
      rw [if_pos ceased]
      exact Scheduler.idle_remove (tended.idle ended) running
    next goesOn =>
      rw [if_neg goesOn]
      exact tended.idle ended

theorem context?_append (contexts : List RequestContext) (one : RequestContext) (number : Nat)
    (same : before.contexts = contexts) :
    context? { before with contexts := contexts ++ [one] } number =
      if number = contexts.length + 1 then some one else before.context? number := by
  subst same
  unfold context?
  split
  next zero =>
    rw [if_neg (by omega)]
  next =>
    split
    next last =>
      subst last
      exact List.getElem?_concat_length
    next other =>
      rw [List.getElem?_append]
      split
      next => rfl
      next beyond =>
        rw [List.getElem?_eq_none_iff.2 (by simp; omega), List.getElem?_eq_none_iff.2 (by omega)]

theorem Tended.blank (contexts : affairs.contexts = []) (tasks : affairs.tasks = [])
    (idle : affairs.scheduler.Idle) : affairs.Tended where
  apart := by simp [tasks]
  known := by simp [tasks]
  goesOn := by simp [tasks]
  settled number context known := by simp [context?, contexts] at known
  idle _ := idle

theorem Tended.accepts (tended : before.Tended) {fresh : RequestContext} (new : fresh.Fresh)
    (request : Request) (options : RequestOptions) {scheduler : Scheduler} {given : List JobId}
    (offered : before.scheduler.offer? before.jobs.length = some (scheduler, given)) :
    Tended { before with
      contexts := before.contexts ++ [fresh]
      tasks := before.tasks ++ [{
        context := before.contexts.length + 1, request, options, job := some before.jobs.length }]
      jobs := before.jobs ++ [.request before.tasks.length]
      scheduler } := by
  -- The number of the new context was never given out.
  have unused : before.contexts.length + 1 ∉ before.tasks.map (·.context) := fun member =>
    Nat.not_succ_le_self _ (tended.known _ member).2
  have others (number : Nat) (known : number ≤ before.contexts.length) :
      context? { before with contexts := before.contexts ++ [fresh] } number =
        before.context? number := by
    rw [context?_append _ _ _ rfl, if_neg (by omega)]
  have last : context? { before with contexts := before.contexts ++ [fresh] }
      (before.contexts.length + 1) = some fresh := by
    rw [context?_append _ _ _ rfl, if_pos rfl]
  refine ⟨?_, ?_, ?_, ?_, ?_⟩
  · simp only [List.map_append, List.map_cons, List.map_nil]
    exact List.nodup_append.2 ⟨tended.apart, List.nodup_singleton _, fun number member other new => by
      rintro rfl
      exact unused (List.mem_singleton.1 new ▸ member)⟩
  · simp only [List.map_append, List.map_cons, List.map_nil, List.length_append, List.length_singleton]
    refine List.forall_mem_append.2 ⟨fun number member => ?_, by simp⟩
    have range := tended.known number member
    omega
  · intro id task found unfinished
    rw [List.getElem?_append] at found
    split at found
    next =>
      obtain ⟨kept, ⟨context, known, tends⟩, job, hasJob, served⟩ :=
        tended.goesOn id task found unfinished
      refine ⟨kept, ⟨context, ?_, tends⟩, job, hasJob, (served.offer? offered).own,
        (Scheduler.has_offer? offered).2 (.inl served.has)⟩
      exact (others _ (context?_range known).2).trans known
    next beyond =>
      obtain ⟨inside, rfl⟩ := List.getElem?_eq_some_iff.1 found
      have own : id = before.tasks.length :=
        Nat.le_antisymm (Nat.sub_eq_zero_iff_le.1 (Nat.lt_one_iff.1 inside)) (Nat.not_lt.1 beyond)
      subst own
      simp only [Nat.sub_self, List.getElem_cons_zero]
      refine ⟨rfl, ⟨fresh, last, new.tends⟩, before.jobs.length, rfl, ?_, ?_⟩
      · exact List.getElem?_concat_length
      · exact (Scheduler.has_offer? offered).2 (.inr rfl)
  · intro number context known unresolved
    by_cases own : number = before.contexts.length + 1
    · subst own
      exact ⟨before.tasks.length, _, List.getElem?_concat_length, rfl, .inl rfl⟩
    · have earlier : before.context? number = some context := by
        rw [← known]
        refine Eq.trans ?_ (context?_append before.contexts fresh number rfl).symm
        rw [if_neg own]
      obtain ⟨id, task, found, same, left⟩ := tended.settled number context earlier unresolved
      refine ⟨id, task, ?_, same, left⟩
      rw [List.getElem?_append_left (List.getElem?_eq_some_iff.1 found).1]
      exact found
  · intro ended
    rw [Scheduler.isTerminated_offer? offered] at ended
    cases ended

theorem Tended.refuses (tended : before.Tended) {refused : RequestContext}
    (resolved : refused.outcome ≠ none) :
    Tended { before with contexts := before.contexts ++ [refused] } := by
  have more (number : Nat) := context?_append before.contexts refused number rfl
  refine ⟨tended.apart, ?_, ?_, ?_, tended.idle⟩
  · intro number member
    have range := tended.known number member
    simp only [List.length_append, List.length_singleton]
    omega
  · intro id task found unfinished
    obtain ⟨kept, ⟨context, known, tends⟩, job, hasJob, served⟩ :=
      tended.goesOn id task found unfinished
    refine ⟨kept, ⟨context, ?_, tends⟩, job, hasJob, served.own, served.has⟩
    have range := context?_range known
    rw [more, if_neg (by omega)]
    exact known
  · intro number context known unresolved
    rw [more] at known
    split at known
    next =>
      obtain rfl := Option.some.inj known
      exact absurd unresolved resolved
    next => exact tended.settled number context known unresolved

theorem Tended.drops (tended : before.Tended) {scheduler : Scheduler} (idle : scheduler.Idle) :
    Tended { before with
      scheduler
      tasks := dropped before.jobs (before.scheduler.running ++ before.scheduler.waiting)
        before.tasks } := by
  -- No request goes on without a job, and so none goes on when all jobs have been dropped.
  have contexts : (dropped before.jobs (before.scheduler.running ++ before.scheduler.waiting)
      before.tasks).map (·.context) = before.tasks.map (·.context) :=
    map_dropped (fun _ => rfl) _ _ _
  have stopped {id : TaskId} {task : RequestTask} (found : before.tasks[id]? = some task) :
      ∃ later : RequestTask, (dropped before.jobs
          (before.scheduler.running ++ before.scheduler.waiting) before.tasks)[id]? = some later ∧
        later.context = task.context ∧ later.isOver = true ∧
        (task.isOver = false ∨ task.aborted = true → later.aborted = true) := by
    rw [getElem?_dropped, found]
    refine ⟨_, rfl, ?_⟩
    split
    next => exact ⟨rfl, rfl, fun _ => rfl⟩
    next spared =>
      -- It would have one of the jobs if it went on.
      have ceased : task.isOver = true := by
        by_contra goesOn
        obtain ⟨_, _, job, _, own, has⟩ := tended.goesOn id task found (by simpa using goesOn)
        refine spared (List.mem_filterMap.2 ⟨job, ?_, own⟩)
        exact List.mem_append.2 has.symm
      exact ⟨rfl, ceased, fun left => left.resolve_left (by simp [ceased])⟩
  refine ⟨?_, ?_, ?_, ?_, fun _ => idle⟩
  · simp only [contexts]
    exact tended.apart
  · simp only [contexts]
    exact tended.known
  · intro id task found unfinished
    have same := getElem?_dropped before.jobs
      (before.scheduler.running ++ before.scheduler.waiting) before.tasks id
    obtain ⟨earlier, known, _⟩ := Option.map_eq_some_iff.1 (same.symm.trans found)
    obtain ⟨later, there, _, ceased, _⟩ := stopped known
    obtain rfl := Option.some.inj (there.symm.trans found)
    cases unfinished.symm.trans ceased
  · intro number context known unresolved
    obtain ⟨id, task, found, own, left⟩ := tended.settled number context known unresolved
    obtain ⟨later, there, same, _, aborted⟩ := stopped found
    exact ⟨id, later, there, same.trans own, .inr (aborted left)⟩

theorem Move.tended {actor : Option ErrandId} (move : Move actor before after)
    (tended : before.Tended) : after.Tended := by
  cases move with
  | opens config blank =>
    refine .blank blank.contexts ?_ ⟨rfl, rfl⟩
    refine List.eq_nil_iff_forall_not_mem.2 fun task member => ?_
    have range := tended.known _ (List.mem_map_of_mem member)
    rw [blank.contexts, List.length_nil] at range
    omega
  | accepts started timeout request options unclosed offered =>
    exact tended.accepts ⟨⟨rfl, rfl⟩, rfl⟩ request options offered
  | refuses started timeout =>
    refine tended.refuses ?_
    rw [RequestContext.Pending.outcome_resolve ⟨rfl, rfl⟩]
    exact nofun
  | cancels number => exact tended.cancels number
  | calls offered =>
    refine tended.jobs rfl rfl (fun _ _ runs => runs.offer? offered) fun ended => ?_
    rw [Scheduler.isTerminated_offer? offered] at ended
    cases ended
  | calledBack own =>
    refine tended.jobs rfl rfl (fun _ _ runs => runs.remove ?_) fun ended => ?_
    · rw [own]
      exact nofun
    · exact Scheduler.idle_remove (tended.idle ended) _
  | begins closing scheduler unclosed waiting running going =>
    refine tended.jobs rfl rfl (fun job id runs => ⟨runs.own, ?_⟩) fun ended => ?_
    · simpa only [Scheduler.Has, waiting, running] using runs.has
    · simpa only [Scheduler.Idle, waiting, running] using tended.idle (going ended)
  | drops scheduler idle => exact tended.drops idle
  | _ => exact tended.same rfl rfl rfl rfl

theorem Moves.tended {actor : Option ErrandId} (moves : Moves actor before after)
    (tended : before.Tended) : after.Tended := by
  induction moves with
  | refl => exact tended
  | tail _ move ih => exact move.tended ih

end Affairs

namespace World

variable {world middle : World} {id : TaskId} {task : RequestTask} {context : RequestContext}
  {submission : Submission}

theorem Attends.fares (attends : world.Attends id task context submission middle)
    (tends : context.Tends task.run) : submission.Fares := by
  cases attends with
  | held _ ceased => exact .ceased ceased
  | starts _ unborn started =>
    have fresh : context.Fresh := ⟨tends.pending, tends.untried unborn⟩
    have fares := @Submission.start_fares _ (cluster id)
      { request := task.request, options := task.options, context }
      (world.attending id task).setup.registry (world.attending id task).setup.codec rfl fresh
      (world.attending id task)
    rwa [started] at fares
  | breaksOff => exact .ceased rfl
  | @polls _ _ run _ born polled =>
    rw [born] at tends
    have fares := @Submission.poll_fares _ (cluster id)
      { request := task.request, options := task.options, context, run := some run } run rfl tends
      (world.attending id task)
    rwa [polled] at fares

theorem tended_turnRequest (tended : world.affairs.Tended) (id : TaskId) :
    (world.turnRequest id).affairs.Tended := by
  rcases turnRequest_cases world id with
    same | ⟨task, context, submission, middle, found, goesOn, known, attends, same⟩
  · rwa [same]
  · have plain : world.affairs.tasks[id]? = some task.plain := by simp [affairs, found]
    obtain ⟨other, own, tends⟩ := (tended.goesOn id task.plain plain goesOn).tends
    obtain rfl := Option.some.inj (own.symm.trans known)
    have fares := attends.fares (RequestContext.tends_plain.1 tends)
    have apart := attends.rewires.apart
    have rewired : middle.affairs.Tended := by
      rw [apart]
      exact tended.same rfl rfl rfl rfl
    have there : middle.affairs.tasks[id]? = some task.plain := by
      rw [apart]
      exact plain
    rw [same]
    exact rewired.keep there goesOn rfl rfl fares

theorem tended_act (tended : world.affairs.Tended) (happening : Happening) :
    (world.act happening).affairs.Tended := by
  by_cases request : ∃ id, happening = .turn (.request id)
  · obtain ⟨id, rfl⟩ := request
    exact tended_turnRequest tended id
  · exact (shifts_act fun id same => request ⟨id, same⟩).tended tended

end World

end Simulation

end ClusterDriver
