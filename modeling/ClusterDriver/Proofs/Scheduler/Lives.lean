import ClusterDriver.Proofs.Scheduler.Steps
import Mathlib.Data.List.Nodup

set_option autoImplicit false

namespace ClusterDriver

namespace JobLog

variable {log : JobLog} {id : JobId}

theorem split_concat {earlier later : JobLog} {last note : SchedulerNote}
    (split : log ++ [last] = earlier ++ note :: later) :
    earlier = log ∧ note = last ∨ ∃ rest, log = earlier ++ note :: rest := by
  rcases List.eq_nil_or_concat later with rfl | ⟨rest, final, rfl⟩
  · obtain ⟨same, single⟩ := List.append_inj' split rfl
    exact .inl ⟨same.symm, (List.singleton_inj.1 single).symm⟩
  · have longer : log ++ [last] = (earlier ++ note :: rest) ++ [final] := by
      simpa [List.concat_eq_append] using split
    exact .inr ⟨rest, (List.append_inj' longer rfl).1⟩

/-! ### Where jobs are filed -/

structure Filed (scheduler : Scheduler) (log : JobLog) : Prop where
  distinct : (scheduler.running ++ scheduler.waiting).Nodup
  waiting : ∀ id, id ∈ scheduler.waiting ↔ lifeOf log id = [.accepted]
  running : ∀ id, id ∈ scheduler.running ↔ lifeOf log id = [.accepted, .started]
  lives : ∀ id, lifeOf log id ∈ JobEvent.lives

namespace Filed

variable {scheduler later : Scheduler}

theorem mem_unfinished (filed : Filed scheduler log) :
    id ∈ unfinished log ↔ id ∈ scheduler.running ++ scheduler.waiting := by
  -- Of all lives, only those of jobs that run or wait have begun and are not at their end.
  have lasting : ∀ life ∈ JobEvent.lives, (0 < life.count .accepted ∧
      life.any JobEvent.isOver = false) ↔ life = [.accepted, .started] ∨ life = [.accepted] := by
    decide
  rw [List.mem_append, filed.running, filed.waiting, ← lasting _ (filed.lives id),
    ← count_accepted, List.count_pos_iff, unfinished, List.mem_filter, Bool.not_eq_true']
  rfl

theorem unfinished_perm (filed : Filed scheduler log) :
    (unfinished log).Perm (scheduler.running ++ scheduler.waiting) := by
  have once : ∀ life ∈ JobEvent.lives, life.count .accepted ≤ 1 := by decide
  have distinct : (accepted log).Nodup := by
    rw [List.nodup_iff_count_le_one]
    intro id
    rw [count_accepted]
    exact once _ (filed.lives id)
  exact (List.perm_ext_iff_of_nodup (distinct.filter _) filed.distinct).2
    fun _ => filed.mem_unfinished

theorem running_perm (filed : Filed scheduler log) :
    (JobLog.running log).Perm scheduler.running := by
  have distinct := filed.unfinished_perm.nodup_iff.2 filed.distinct
  refine (List.perm_ext_iff_of_nodup (distinct.filter _)
    (List.nodup_append.1 filed.distinct).1).2 fun id => ?_
  rw [List.mem_filter, filed.mem_unfinished, List.mem_append, filed.running, filed.waiting]
  constructor
  · rintro ⟨runs | waits, begun⟩
    · exact runs
    · simp [waits] at begun
  · intro runs
    exact ⟨.inl runs, by simp [runs]⟩

theorem moves (filed : Filed scheduler log) {event : JobEvent}
    (distinct : (later.running ++ later.waiting).Nodup)
    (waits : ∀ other, other ≠ id → (other ∈ later.waiting ↔ other ∈ scheduler.waiting))
    (runs : ∀ other, other ≠ id → (other ∈ later.running ↔ other ∈ scheduler.running))
    (ownWaits : id ∈ later.waiting ↔ lifeOf log id ++ [event] = [.accepted])
    (ownRuns : id ∈ later.running ↔ lifeOf log id ++ [event] = [.accepted, .started])
    (life : lifeOf log id ++ [event] ∈ JobEvent.lives) :
    Filed later (log ++ [.job id event]) where
  distinct := distinct
  waiting other := by
    rw [lifeOf_job]
    split
    next same => exact same ▸ ownWaits
    next different => exact (waits other (Ne.symm different)).trans (filed.waiting other)
  running other := by
    rw [lifeOf_job]
    split
    next same => exact same ▸ ownRuns
    next different => exact (runs other (Ne.symm different)).trans (filed.running other)
  lives other := by
    rw [lifeOf_job]
    split
    next same => exact same ▸ life
    next => exact filed.lives other

theorem enlists (filed : Filed scheduler log) (fresh : lifeOf log id = []) :
    Filed (scheduler.enlist id) (log ++ [.job id .accepted]) := by
  have noneRuns : id ∉ scheduler.running := by simp [filed.running, fresh]
  have noneWaits : id ∉ scheduler.waiting := by simp [filed.waiting, fresh]
  refine filed.moves ?_ ?_ (fun _ _ => Iff.rfl) ?_ ?_ ?_
  · rw [Scheduler.enlist, ← List.append_assoc, List.nodup_append]
    refine ⟨filed.distinct, List.nodup_singleton _, ?_⟩
    rintro other member _ new rfl
    rw [List.mem_singleton.1 new] at member
    exact (List.mem_append.1 member).elim noneRuns noneWaits
  · intro other different
    simp [Scheduler.enlist, different]
  · simp [Scheduler.enlist, fresh]
  · simpa [Scheduler.enlist, fresh] using noneRuns
  · rw [fresh]
    decide

theorem refuses (filed : Filed scheduler log) (fresh : lifeOf log id = []) :
    Filed scheduler (log ++ [.job id .refused]) := by
  refine filed.moves filed.distinct (fun _ _ => Iff.rfl) (fun _ _ => Iff.rfl) ?_ ?_ ?_
  · simp [filed.waiting, fresh]
  · simp [filed.running, fresh]
  · rw [fresh]
    decide

theorem starts (filed : Filed scheduler log) (waits : id ∈ scheduler.waiting) :
    Filed (scheduler.start id) (log ++ [.job id .started]) := by
  have life := (filed.waiting id).1 waits
  have queue := (List.nodup_append.1 filed.distinct).2.1
  refine filed.moves ?_ ?_ ?_ ?_ ?_ ?_
  · have moved := (List.perm_cons_erase waits).append_left scheduler.running
    simpa [Scheduler.start] using moved.nodup_iff.1 filed.distinct
  · intro other different
    exact List.mem_erase_of_ne different
  · intro other different
    simp [Scheduler.start, different]
  · simp [Scheduler.start, life, queue.not_mem_erase]
  · simp [Scheduler.start, life]
  · rw [life]
    decide

theorem life_of_allowed (filed : Filed scheduler log) {ending : JobEnding}
    (allowed : scheduler.allows id ending = true) :
    lifeOf log id = [.accepted] ∧ ending ≠ .completed ∨
      lifeOf log id = [.accepted, .started] ∧ ending ≠ .gaveUp := by
  rw [← filed.waiting, ← filed.running]
  cases ending with
  | completed => exact .inr ⟨by simpa [Scheduler.allows] using allowed, by decide⟩
  | gaveUp => exact .inl ⟨by simpa [Scheduler.allows] using allowed, by decide⟩
  | aborted =>
    simp only [Scheduler.allows, Bool.or_eq_true, decide_eq_true_eq] at allowed
    exact allowed.symm.imp (⟨·, by decide⟩) (⟨·, by decide⟩)

theorem leaves (filed : Filed scheduler log) {ending : JobEnding}
    (allowed : scheduler.allows id ending = true) :
    Filed (scheduler.leave id) (log ++ [.job id (.ended ending)]) := by
  obtain ⟨running, waiting, _⟩ := List.nodup_append.1 filed.distinct
  have life := filed.life_of_allowed allowed
  refine filed.moves ?_ ?_ ?_ ?_ ?_ ?_
  · exact filed.distinct.sublist (List.erase_sublist.append List.erase_sublist)
  · intro other different
    exact List.mem_erase_of_ne different
  · intro other different
    exact List.mem_erase_of_ne different
  · rcases life with ⟨life, _⟩ | ⟨life, _⟩ <;>
      simp [Scheduler.leave, life, waiting.not_mem_erase]
  · rcases life with ⟨life, _⟩ | ⟨life, _⟩ <;>
      simp [Scheduler.leave, life, running.not_mem_erase]
  · rcases life with ⟨life, possible⟩ | ⟨life, possible⟩
    · rw [life]
      revert possible
      cases ending <;> decide
    · rw [life]
      revert possible
      cases ending <;> decide

theorem stays (filed : Filed scheduler log) {note : SchedulerNote}
    (other : ∀ id, note.eventOf? id = none) (waiting : later.waiting = scheduler.waiting)
    (running : later.running = scheduler.running) : Filed later (log ++ [note]) where
  distinct := by
    rw [waiting, running]
    exact filed.distinct
  waiting id := by
    rw [waiting, lifeOf_other (other id)]
    exact filed.waiting id
  running id := by
    rw [running, lifeOf_other (other id)]
    exact filed.running id
  lives id := by
    rw [lifeOf_other (other id)]
    exact filed.lives id

end Filed

/-! ### Verdicts -/

/-- The quiet period was over, or no job was left, when the jobs were counted, which happens once.
-/
def Verdict (log : JobLog) (report : SchedulerReport) : Prop :=
  ∃ before now after, log = before ++ .judged now :: after ∧ (∀ time, .judged time ∉ before) ∧
    (unfinished before = [] ∨
      ∃ start quietPeriod, .closed start quietPeriod ∈ before ∧ start + quietPeriod ≤ now) ∧
    report.abortedTasks = (unfinished before).length

theorem Verdict.append {report : SchedulerReport} (verdict : Verdict log report) (more : JobLog) :
    Verdict (log ++ more) report := by
  obtain ⟨before, now, after, rfl, first, due, counted⟩ := verdict
  exact ⟨before, now, after ++ more, by simp, first, due, counted⟩

def Fits (log : JobLog) : SchedulerNote → Prop
  | .returned report => unfinished log = [] ∧ Verdict log report
  | .rejoined => unfinished log = []
  | _ => True

end JobLog

namespace SchedulerHistory

open JobLog

variable {history next : SchedulerHistory} {workers : Nat} {note : SchedulerNote}

/-! ### Workers -/

structure Staffed (history : SchedulerHistory) (workers : Nat) : Prop where
  filed : Filed history.scheduler history.log
  staff : history.scheduler.workers = max 1 workers
  within : history.scheduler.running.length ≤ max 1 workers
  fresh : ∀ id, history.offered ≤ id → lifeOf history.log id = []
  moments : ∀ earlier, earlier <+: history.log → (running earlier).length ≤ max 1 workers

namespace Staffed

theorem noted (staffed : history.Staffed workers) (log : next.log = history.log ++ [note])
    (filed : Filed next.scheduler next.log)
    (staff : next.scheduler.workers = history.scheduler.workers)
    (within : next.scheduler.running.length ≤ max 1 workers)
    (fresh : ∀ id, next.offered ≤ id → lifeOf next.log id = []) : next.Staffed workers where
  filed := filed
  staff := staff.trans staffed.staff
  within := within
  fresh := fresh
  moments earlier reached := by
    -- The present moment is the only new one, and the log tells who runs now.
    rw [log, List.prefix_concat_iff] at reached
    rcases reached with rfl | before
    · rw [← log, filed.running_perm.length_eq]
      exact within
    · exact staffed.moments earlier before

theorem fresh_job (staffed : history.Staffed workers) {offered : Nat} {event : JobEvent} {job : JobId}
    (kept : history.offered ≤ offered) (old : job < offered) (id : JobId) (new : offered ≤ id) :
    lifeOf (history.log ++ [.job job event]) id = [] := by
  rw [lifeOf_job, if_neg (Nat.ne_of_lt (Nat.lt_of_lt_of_le old new))]
  exact staffed.fresh id (Nat.le_trans kept new)

theorem lt_offered (staffed : history.Staffed workers) {job : JobId}
    (known : lifeOf history.log job ≠ []) : job < history.offered :=
  Nat.lt_of_not_le fun unknown => known (staffed.fresh job unknown)

theorem enlists (staffed : history.Staffed workers) :
    Staffed (history.receive (history.scheduler.enlist history.offered)
      [.job history.offered .accepted]) workers :=
  staffed.noted rfl (staffed.filed.enlists (staffed.fresh _ (Nat.le_refl _))) rfl staffed.within
    (staffed.fresh_job (Nat.le_succ _) (Nat.lt_succ_self _))

theorem refuses (staffed : history.Staffed workers) : history.refuse.Staffed workers :=
  staffed.noted rfl (staffed.filed.refuses (staffed.fresh _ (Nat.le_refl _))) rfl staffed.within
    (staffed.fresh_job (Nat.le_succ _) (Nat.lt_succ_self _))

theorem starts (staffed : history.Staffed workers) {job : JobId}
    (waits : job ∈ history.scheduler.waiting) (free : 0 < history.scheduler.freeWorkers) :
    Staffed (history.record (history.scheduler.start job) [.job job .started]) workers := by
  have known : lifeOf history.log job ≠ [] := by
    rw [(staffed.filed.waiting job).1 waits]
    exact List.cons_ne_nil _ _
  refine staffed.noted rfl (staffed.filed.starts waits) rfl ?_
    (staffed.fresh_job (Nat.le_refl _) (staffed.lt_offered known))
  have room := staffed.staff
  rw [Scheduler.freeWorkers] at free
  simp only [record, Scheduler.start, List.length_append, List.length_singleton]
  omega

theorem leaves (staffed : history.Staffed workers) {job : JobId} {ending : JobEnding}
    (allowed : history.scheduler.allows job ending = true) :
    Staffed (history.record (history.scheduler.leave job) [.job job (.ended ending)]) workers := by
  have known : lifeOf history.log job ≠ [] := by
    rcases staffed.filed.life_of_allowed allowed with ⟨life, _⟩ | ⟨life, _⟩ <;> simp [life]
  exact staffed.noted rfl (staffed.filed.leaves allowed) rfl
    (Nat.le_trans List.length_erase_le staffed.within)
    (staffed.fresh_job (Nat.le_refl _) (staffed.lt_offered known))

theorem stays (staffed : history.Staffed workers) (log : next.log = history.log ++ [note])
    (other : ∀ id, note.eventOf? id = none)
    (waiting : next.scheduler.waiting = history.scheduler.waiting)
    (running : next.scheduler.running = history.scheduler.running)
    (staff : next.scheduler.workers = history.scheduler.workers)
    (offered : next.offered = history.offered) : next.Staffed workers := by
  refine staffed.noted log ?_ staff ?_ ?_
  · rw [log]
    exact staffed.filed.stays other waiting running
  · rw [running]
    exact staffed.within
  · intro id new
    rw [log, lifeOf_other (other id)]
    exact staffed.fresh id (offered ▸ new)

end Staffed

theorem Takes.staffed (takes : history.Takes note next) (staffed : history.Staffed workers) :
    next.Staffed workers := by
  cases takes with
  | refused => exact staffed.refuses
  | accepted => exact staffed.enlists
  | started waits free => exact staffed.starts waits free
  | ended allowed => exact staffed.leaves allowed
  | closed | judged | returned | rejoined =>
    exact staffed.stays rfl (fun _ => rfl) rfl rfl rfl rfl

/-! ### Shutdown -/

structure Closing (history : SchedulerHistory) : Prop where
  draining : ∀ deadline cancelled, history.scheduler.phase = .draining deadline cancelled →
    ∃ start quietPeriod, .closed start quietPeriod ∈ history.log ∧ start + quietPeriod = deadline
  ended : history.scheduler.phase = .terminated →
    history.scheduler.running ++ history.scheduler.waiting = []
  undecided : history.verdict = none → ∀ now, .judged now ∉ history.log
  verdict : ∀ report, history.verdict = some report → Verdict history.log report
  fits : ∀ earlier note later, history.log = earlier ++ note :: later → Fits earlier note

namespace Closing

theorem noted (closing : history.Closing) (log : next.log = history.log ++ [note])
    (draining : ∀ deadline cancelled, next.scheduler.phase = .draining deadline cancelled →
      history.scheduler.phase = .draining deadline cancelled ∨
        ∃ start quietPeriod, note = .closed start quietPeriod ∧ start + quietPeriod = deadline)
    (ended : next.scheduler.phase = .terminated →
      next.scheduler.running ++ next.scheduler.waiting = [])
    (undecided : next.verdict = none → history.verdict = none ∧ ∀ now, note ≠ .judged now)
    (verdict : ∀ report, next.verdict = some report →
      history.verdict = some report ∨ Verdict next.log report)
    (fits : Fits history.log note) : next.Closing where
  draining deadline cancelled phase := by
    rw [log]
    rcases draining deadline cancelled phase with before | ⟨start, quietPeriod, rfl, same⟩
    · obtain ⟨start, quietPeriod, member, same⟩ := closing.draining deadline cancelled before
      exact ⟨start, quietPeriod, List.mem_append_left _ member, same⟩
    · exact ⟨start, quietPeriod, by simp, same⟩
  ended := ended
  undecided none now member := by
    obtain ⟨before, other⟩ := undecided none
    rw [log] at member
    rcases List.mem_append.1 member with old | new
    · exact closing.undecided before now old
    · exact other now (List.mem_singleton.1 new).symm
  verdict report known := by
    rcases verdict report known with before | now
    · rw [log]
      exact (closing.verdict report before).append _
    · exact now
  fits earlier other later split := by
    rw [log] at split
    rcases split_concat split with ⟨rfl, rfl⟩ | ⟨rest, before⟩
    · exact fits
    · exact closing.fits earlier other rest before

theorem stays (closing : history.Closing) (log : next.log = history.log ++ [note])
    (phase : next.scheduler.phase = history.scheduler.phase)
    (verdict : next.verdict = history.verdict) (other : ∀ now, note ≠ .judged now)
    (ended : history.scheduler.phase = .terminated →
      next.scheduler.running ++ next.scheduler.waiting = [])
    (fits : Fits history.log note) : next.Closing := by
  rw [← phase] at ended
  refine closing.noted log (fun deadline cancelled same => .inl ?_) ended
    (fun undecided => ⟨?_, other⟩) (fun report known => .inl ?_) fits
  · rw [← phase, same]
  · rw [← verdict, undecided]
  · rw [← verdict, known]

end Closing

structure Sound (history : SchedulerHistory) (workers : Nat) : Prop where
  staffed : history.Staffed workers
  closing : history.Closing

theorem Staffed.none_left (staffed : history.Staffed workers)
    (none : history.scheduler.running ++ history.scheduler.waiting = []) :
    unfinished history.log = [] := by
  have left := staffed.filed.unfinished_perm
  rw [none] at left
  exact left.eq_nil

theorem Takes.closing (takes : history.Takes note next) (sound : history.Sound workers) :
    next.Closing := by
  obtain ⟨staffed, closing⟩ := sound
  cases takes with
  | refused => exact closing.stays rfl rfl rfl (by simp) closing.ended trivial
  | accepted accepting =>
    refine closing.stays rfl rfl rfl (by simp) (fun ended => ?_) trivial
    rw [accepting] at ended
    cases ended
  | started waits =>
    -- Nobody who could start waits at the end of a shutdown.
    refine closing.stays rfl rfl rfl (by simp) (fun ended => ?_) trivial
    have nobody := List.append_eq_nil_iff.1 (closing.ended ended)
    simp [nobody.2] at waits
  | ended allowed =>
    refine closing.stays rfl rfl rfl (by simp) (fun ended => ?_) trivial
    have nobody := List.append_eq_nil_iff.1 (closing.ended ended)
    simp [record, Scheduler.leave, nobody]
  | closed =>
    refine closing.noted rfl ?_ (by simp [record]) (fun none => ⟨none, by simp⟩)
      (fun report known => .inl known) trivial
    rintro deadline cancelled ⟨⟩
    exact .inr ⟨_, _, rfl, rfl⟩
  | judged undecided phase counted due =>
    have left := staffed.filed.unfinished_perm
    refine closing.noted rfl (fun deadline cancelled same => .inl same) closing.ended (by simp) ?_
      trivial
    rintro report ⟨⟩
    refine .inr ⟨history.log, history.now, [], rfl, closing.undecided undecided, ?_,
      counted.trans left.length_eq.symm⟩
    rcases due with none | late
    · exact .inl (staffed.none_left none)
    · obtain ⟨start, quietPeriod, member, same⟩ := closing.draining _ _ phase
      exact .inr ⟨start, quietPeriod, member, same ▸ late⟩
  | returned verdict none =>
    exact closing.noted rfl (by simp [record]) (fun _ => none) (fun known => ⟨known, by simp⟩)
      (fun report known => .inl known) ⟨staffed.none_left none, closing.verdict _ verdict⟩
  | rejoined phase =>
    exact closing.stays rfl rfl rfl (by simp) closing.ended
      (staffed.none_left (closing.ended phase))

/-! ### Runs -/

theorem step_sound (sound : history.Sound workers) (step : Step) :
    (history.step step).Sound workers := by
  rcases history.step_cases step with ⟨now, same⟩ | ⟨note, takes⟩
  · rw [same]
    exact ⟨{ sound.staffed with }, { sound.closing with }⟩
  · exact ⟨takes.staffed sound.staffed, takes.closing sound⟩

theorem walk_sound (sound : history.Sound workers) (steps : List Step) :
    (history.walk steps).Sound workers := by
  induction steps generalizing history with
  | nil => exact sound
  | cons step rest ih => exact ih (step_sound sound step)

theorem act_sound (sound : history.Sound workers) (action : Action) :
    (history.act action).Sound workers := by
  obtain ⟨steps, same⟩ := act_walks sound.staffed.filed.distinct action
  rw [same]
  exact walk_sound sound steps

theorem run_sound (sound : history.Sound workers) (actions : List Action) :
    (history.run actions).Sound workers := by
  induction actions generalizing history with
  | nil => exact sound
  | cons action rest ih => exact ih (act_sound sound action)

theorem started_sound (workers : Nat) : (started workers).Sound workers where
  staffed := {
    filed := {
      distinct := List.nodup_nil
      waiting := by simp [started, Scheduler.ofWorkers, lifeOf]
      running := by simp [started, Scheduler.ofWorkers, lifeOf]
      lives := fun _ => List.mem_cons_self }
    staff := Nat.max_comm _ _
    within := Nat.zero_le _
    fresh := fun _ _ => rfl
    moments := by
      intro earlier reached
      rw [List.prefix_nil.1 reached]
      exact Nat.zero_le _ }
  closing := {
    draining := by simp [started, Scheduler.ofWorkers]
    ended := by simp [started, Scheduler.ofWorkers]
    undecided := fun _ _ => List.not_mem_nil
    verdict := by simp [started]
    fits := by simp [started] }

/-! ### Offers after a shutdown has begun -/

/-- Nothing that was noted is taken back, and no job is accepted again once none was. -/
structure Continues (history next : SchedulerHistory) : Prop where
  log : history.log <+: next.log
  accepting : next.scheduler.phase = .accepting → history.scheduler.phase = .accepting

namespace Continues

theorem refl (history : SchedulerHistory) : history.Continues history :=
  ⟨List.prefix_rfl, id⟩

theorem trans {middle : SchedulerHistory} (first : history.Continues middle)
    (second : middle.Continues next) : history.Continues next :=
  ⟨first.log.trans second.log, fun accepting => first.accepting (second.accepting accepting)⟩

end Continues

theorem Takes.continues (takes : history.Takes note next) : history.Continues next := by
  refine ⟨takes.log ▸ List.prefix_append _ _, ?_⟩
  cases takes with
  | closed | returned => simp [record]
  | _ => exact id

theorem step_continues (step : Step) : history.Continues (history.step step) := by
  rcases history.step_cases step with ⟨now, same⟩ | ⟨note, takes⟩
  · rw [same]
    exact ⟨List.prefix_rfl, id⟩
  · exact takes.continues

theorem walk_continues (steps : List Step) : history.Continues (history.walk steps) := by
  induction steps generalizing history with
  | nil => exact .refl history
  | cons step rest ih => exact (step_continues step).trans ih

theorem act_continues (sound : history.Sound workers) (action : Action) :
    history.Continues (history.act action) := by
  obtain ⟨steps, same⟩ := act_walks sound.staffed.filed.distinct action
  rw [same]
  exact walk_continues steps

theorem run_continues (sound : history.Sound workers) (actions : List Action) :
    history.Continues (history.run actions) := by
  induction actions generalizing history with
  | nil => exact .refl history
  | cons action rest ih =>
    exact (act_continues sound action).trans (ih (act_sound sound action))

theorem beginShutdown_shut (history : SchedulerHistory) (quietPeriod : Nat) :
    (history.step (.beginShutdown quietPeriod)).scheduler.isShutdown = true := by
  cases shut : history.scheduler.isShutdown with
  | true => simp [step, Scheduler.beginShutdown?, shut]
  | false =>
    have phase : history.scheduler.phase = .accepting := by
      simpa [Scheduler.isShutdown] using shut
    simp [step, Scheduler.beginShutdown?, Scheduler.isShutdown, phase, record]

theorem run_shut (sound : history.Sound workers) {actions : List Action} {quietPeriod : Nat}
    (begun : .single (.beginShutdown quietPeriod) ∈ actions) :
    (history.run actions).scheduler.isShutdown = true := by
  obtain ⟨before, after, rfl⟩ := List.append_of_mem begun
  have middle := run_sound sound before
  have shut := beginShutdown_shut (history.run before) quietPeriod
  have later := run_continues (step_sound middle (.beginShutdown quietPeriod)) after
  have joined : history.run (before ++ .single (.beginShutdown quietPeriod) :: after) =
      ((history.run before).step (.beginShutdown quietPeriod)).run after := by
    simp [run, act]
  rw [joined]
  simp only [Scheduler.isShutdown, decide_eq_true_eq] at shut ⊢
  exact fun accepting => shut (later.accepting accepting)

theorem offer_refused (sound : history.Sound workers) (shut : history.scheduler.isShutdown = true)
    {action : Action} (offers : action.offers = true) :
    lifeOf (history.act action).log history.offered = [.refused] := by
  have refused : history.act action = history.refuse := by
    cases action with
    | offer => simp [act, Scheduler.offer?, shut]
    | single step =>
      cases step with
      | enlist => simp [act, step, shut]
      | _ => cases offers
    | _ => cases offers
  rw [refused, refuse, receive, record, lifeOf_job, if_pos rfl,
    sound.staffed.fresh _ (Nat.le_refl _)]
  rfl

theorem refused_life (sound : next.Sound workers) (continues : history.Continues next) {id : JobId}
    (refused : lifeOf history.log id = [.refused]) : lifeOf next.log id = [.refused] := by
  have alone : ∀ life ∈ JobEvent.lives, life.head? = some .refused → life = [.refused] := by decide
  obtain ⟨more, same⟩ := continues.log
  refine alone _ (sound.staffed.filed.lives id) ?_
  rw [← same, lifeOf_append, refused]
  rfl

/-! ### All jobs of a scheduler -/

/-- No more bodies run than there are workers. A job completes or gives up, once and never both; its
body does not start after it has given up, and it does not give up after its body has started.
What is offered to a shutdown is refused. When a shutdown returns no job is left, and it reports
how many were left when its quiet period was over. -/
theorem jobs_run_once (workers : Nat) (actions : List Action) :
    let log := ((started workers).run actions).log
    (∀ moment, moment <+: log → (running moment).length ≤ max 1 workers) ∧
      (∀ id, (lifeOf log id).Nodup ∧
        ¬(.ended .completed ∈ lifeOf log id ∧ .ended .gaveUp ∈ lifeOf log id) ∧
        ¬[.ended .gaveUp, .started].Sublist (lifeOf log id) ∧
        ¬[.started, .ended .gaveUp].Sublist (lifeOf log id) ∧
        (.ended .completed ∈ lifeOf log id → .started ∈ lifeOf log id)) ∧
      (∀ before action after quietPeriod, actions = before ++ action :: after →
        action.offers = true → .single (.beginShutdown quietPeriod) ∈ before →
          lifeOf log ((started workers).run before).offered = [.refused]) ∧
      (∀ moment report later, log = moment ++ .returned report :: later →
        unfinished moment = [] ∧
          ∃ before now after, moment = before ++ .judged now :: after ∧
            (∀ time, .judged time ∉ before) ∧
            (unfinished before = [] ∨ ∃ start quietPeriod,
              .closed start quietPeriod ∈ before ∧ start + quietPeriod ≤ now) ∧
            report.abortedTasks = (unfinished before).length ∧
            (report.isClean = true ↔ unfinished before = [])) ∧
      (∀ moment later, log = moment ++ .rejoined :: later → unfinished moment = []) := by
  intro log
  have sound := run_sound (started_sound workers) actions
  refine ⟨sound.staffed.moments, fun id => ?_, ?_, ?_,
    fun moment later split => sound.closing.fits moment .rejoined later split⟩
  · have possible : ∀ life ∈ JobEvent.lives, life.Nodup ∧
        ¬(.ended .completed ∈ life ∧ .ended .gaveUp ∈ life) ∧
        ¬[.ended .gaveUp, .started].Sublist life ∧ ¬[.started, .ended .gaveUp].Sublist life ∧
        (.ended .completed ∈ life → .started ∈ life) := by decide
    exact possible _ (sound.staffed.filed.lives id)
  · rintro before action after quietPeriod rfl offers begun
    have middle := run_sound (started_sound workers) before
    have refused := offer_refused middle (run_shut (started_sound workers) begun) offers
    have later := run_continues (act_sound middle action) after
    have joined : (started workers).run (before ++ action :: after) =
        (((started workers).run before).act action).run after := by
      simp [run]
    rw [← joined] at later
    exact refused_life sound later refused
  · intro moment report later split
    obtain ⟨none, before, now, after, same, first, due, counted⟩ :=
      sound.closing.fits moment (.returned report) later split
    refine ⟨none, before, now, after, same, first, due, counted, ?_⟩
    simp [SchedulerReport.isClean, counted]

def hurried : List Action :=
  [.offer, .offer, .offer, .giveUp 1, .single (.beginShutdown 5), .offer, .single (.wait 5),
    .single .judge, .release 0 .completed, .release 2 .aborted, .single .finish, .single .rejoin]

theorem hurried_run_once :
    let log := ((started 0).run hurried).log
    lifeOf log 0 = [.accepted, .started, .ended .completed] ∧
      lifeOf log 1 = [.accepted, .ended .gaveUp] ∧
      lifeOf log 2 = [.accepted, .started, .ended .aborted] ∧ lifeOf log 3 = [.refused] ∧
      ∃ moment later, log = moment ++ .returned ⟨0, 2⟩ :: later ∧ unfinished moment = [] ∧
        ∃ before now after, moment = before ++ .judged now :: after ∧
          (unfinished before).length = 2 := by
  intro log
  obtain ⟨_, _, refused, returned, _⟩ := jobs_run_once 0 hurried
  have late : lifeOf log 3 = [.refused] :=
    refused [.offer, .offer, .offer, .giveUp 1, .single (.beginShutdown 5)] .offer _ 5 rfl rfl
      (by decide)
  have split : log = log.take 11 ++ .returned ⟨0, 2⟩ :: log.drop 12 := by decide
  obtain ⟨none, before, now, after, same, _, _, counted, _⟩ := returned _ _ _ split
  exact ⟨by decide, by decide, by decide, late, _, _, split, none, before, now, after, same,
    counted.symm⟩

end SchedulerHistory

end ClusterDriver
