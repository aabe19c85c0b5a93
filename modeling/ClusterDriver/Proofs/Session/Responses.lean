import ClusterDriver.Proofs.Session.Alarms

set_option autoImplicit false

namespace ClusterDriver.Simulation

namespace Agenda

variable {agenda : Agenda Process Waker}

theorem mem_wake (agenda : Agenda Process Waker) (process : Process) :
    process ∈ (agenda.wake process).ready := by
  unfold wake
  split
  next member => exact member
  next => exact List.mem_append_right _ (List.mem_singleton_self _)

theorem tick_alarms (sorted : agenda.Sorted) {alarm : Alarm Waker} (member : alarm ∈ agenda.alarms) :
    (alarm.due ≤ agenda.now + 1 ∧ alarm.waker ∈ agenda.tick.2) ∨
      (agenda.now + 1 < alarm.due ∧ alarm ∈ agenda.tick.1.alarms) := by
  unfold Sorted at sorted
  simp only [tick]
  generalize agenda.alarms = alarms at *
  induction alarms with
  | nil => cases member
  | cons first rest ih =>
    obtain ⟨least, sorted⟩ := List.pairwise_cons.1 sorted
    by_cases early : first.due ≤ agenda.now + 1
    · rw [List.takeWhile_cons_of_pos (by simpa using early)]
      rcases List.mem_cons.1 member with rfl | member
      · exact .inl ⟨early, List.mem_map_of_mem List.mem_cons_self⟩
      · refine (ih sorted member).imp (fun due => ⟨due.1, ?_⟩) fun later => ⟨later.1, later.2⟩
        exact List.mem_cons_of_mem _ due.2
    · rw [List.takeWhile_cons_of_neg (by simpa using early)]
      right
      refine ⟨?_, member⟩
      rcases List.mem_cons.1 member with rfl | member
      · omega
      · have later := least alarm member
        omega

theorem sorted_tick (sorted : agenda.Sorted) : agenda.tick.1.Sorted :=
  sorted.sublist (List.drop_sublist _ _)

theorem next?_ready {process : Process} {later : Agenda Process Waker}
    (drawn : agenda.next? = some (process, later)) :
    later.now = agenda.now ∧ later.alarms = agenda.alarms ∧
      (agenda.ready = process :: later.ready ∨ agenda.ready = []) := by
  unfold next? at drawn
  split at drawn
  next ready =>
    cases drawn
    exact ⟨rfl, rfl, .inl ready⟩
  next ready _ =>
    cases drawn
    exact ⟨rfl, rfl, .inr ready⟩
  next => cases drawn

end Agenda

namespace World

/-- Whatever can happen by itself or because somebody wants it: somebody takes a turn or does
something out of turn, the first in line takes a turn, or a millisecond passes. -/
inductive Deed where
  | happens (happening : Happening)
  | draw
  | pass

/-- Time does not stand still or go back, and nobody who was woken is forgotten. -/
def Happening.isTimely : Happening → Bool
  | .schedule _ => false
  | _ => true

def deed (world : World) : Deed → World
  | .happens happening => if happening.isTimely then world.act happening else world
  | .draw =>
      match world.agenda.next? with
      | none => world
      | some (process, agenda) => { world with agenda }.act (.turn process)
  | .pass =>
      let (agenda, woken) := world.agenda.tick
      woken.foldl wake { world with agenda }

def proceed (world : World) (deeds : List Deed) : World := deeds.foldl deed world

def draws (deeds : List Deed) : Nat := deeds.countP fun deed => deed matches .draw

theorem proceed_append (world : World) (earlier later : List Deed) :
    world.proceed (earlier ++ later) = (world.proceed earlier).proceed later :=
  List.foldl_append

/-! ### Outcomes that stay -/

variable {world later : World} {id : TaskId} {number : Nat}

theorem outcome?_affairs (world : World) (number : Nat) :
    world.outcome? number = world.affairs.outcome? number := by
  have aborted : (world.tasks.map RequestTask.plain).any
      (fun task => task.context = number && task.aborted) =
        world.tasks.any fun task => task.context = number && task.aborted :=
    List.any_map
  simp only [outcome?, Affairs.outcome?]
  rw [show world.affairs.tasks = world.tasks.map RequestTask.plain from rfl, aborted]
  rfl

theorem settles_turnRequest (tended : world.affairs.Tended) (id : TaskId) :
    world.affairs.Settles (world.turnRequest id).affairs := by
  by_cases goesOn : ∃ task context, world.tasks[id]? = some task ∧ task.isOver = false ∧
      world.context? task.context = some context
  · obtain ⟨task, context, found, goesOn, known⟩ := goesOn
    rcases turnRequest_spec found goesOn known with ⟨_, same⟩ | ⟨submission, middle, attends, same⟩
    · rw [same, affairs_setAlarm, attending, affairs_await]
      exact .same rfl rfl fun closing => closing
    · have apart := attends.rewires.apart
      have rewired : middle.affairs.Tended := by
        rw [apart]
        exact tended.same rfl rfl rfl rfl
      have there : middle.affairs.tasks[id]? = some task.plain := by
        rw [apart]
        simp [affairs, found]
      have settles : world.affairs.Settles middle.affairs := by
        rw [apart]
        exact .same rfl rfl fun closing => closing
      rw [same, affairs_keep]
      refine settles.trans (.keep rewired there goesOn rfl fun other own => ?_)
      have same : middle.affairs.context? task.context = some context := by
        rw [apart]
        exact known
      obtain rfl := Option.some.inj (same.symm.trans own)
      exact attends.deadline
  · rw [turnRequest_idle fun task context found unfinished known =>
      goesOn ⟨task, context, found, unfinished, known⟩]
    exact .same rfl rfl fun closing => closing

theorem settles_act (tended : world.affairs.Tended) (happening : Happening) :
    world.affairs.Settles (world.act happening).affairs := by
  by_cases request : ∃ id, happening = .turn (.request id)
  · obtain ⟨id, rfl⟩ := request
    exact settles_turnRequest tended id
  · exact (shifts_act fun id same => request ⟨id, same⟩).settles

theorem affairs_wakes (woken : List Waker) (world : World) :
    (woken.foldl wake world).affairs = world.affairs :=
  affairs_foldl affairs_wake woken world

theorem tended_deed (tended : world.affairs.Tended) (deed : Deed) :
    (world.deed deed).affairs.Tended := by
  cases deed with
  | happens happening =>
    simp only [World.deed]
    split
    next => exact tended_act tended happening
    next => exact tended
  | draw =>
    simp only [World.deed]
    split
    next => exact tended
    next process agenda _ =>
      have drawn : ({ world with agenda } : World).affairs.Tended := tended
      exact tended_act drawn _
  | pass =>
    simp only [World.deed, affairs_wakes]
    exact tended

theorem settles_deed (tended : world.affairs.Tended) (deed : Deed) :
    world.affairs.Settles (world.deed deed).affairs := by
  have same : world.affairs.Settles world.affairs := .same rfl rfl fun closing => closing
  cases deed with
  | happens happening =>
    simp only [World.deed]
    split
    next => exact settles_act tended happening
    next => exact same
  | draw =>
    simp only [World.deed]
    split
    next => exact same
    next process agenda _ =>
      have drawn : ({ world with agenda } : World).affairs.Tended := tended
      have settles := settles_act drawn (.turn process)
      exact settles
  | pass =>
    simp only [World.deed, affairs_wakes]
    exact same

theorem settles_proceed (tended : world.affairs.Tended) (deeds : List Deed) :
    (world.proceed deeds).affairs.Tended ∧ world.affairs.Settles (world.proceed deeds).affairs := by
  induction deeds generalizing world with
  | nil => exact ⟨tended, .same rfl rfl fun closing => closing⟩
  | cons deed rest ih =>
    obtain ⟨tends, settles⟩ := ih (tended_deed tended deed)
    exact ⟨tends, (settles_deed tended deed).trans settles⟩

theorem pending_goesOn (tended : world.affairs.Tended) (first : 1 ≤ number)
    (submitted : number ≤ world.contexts.length) (pending : world.outcome? number = none) :
    ∃ (id : TaskId) (task : RequestTask), world.tasks[id]? = some task ∧ task.context = number ∧
      task.isOver = false := by
  have inside : number - 1 < world.affairs.contexts.length := Nat.sub_one_lt_of_le first submitted
  have there : world.affairs.context? number = some world.affairs.contexts[number - 1] := by
    rw [Affairs.context?, if_neg (Nat.ne_of_gt first), List.getElem?_eq_getElem inside]
  rw [outcome?_affairs, Affairs.outcome?, there] at pending
  split at pending
  next => cases pending
  next unresolved =>
    have kept : ¬ world.affairs.tasks.any fun task => task.context = number && task.aborted := by
      intro any
      rw [if_pos any] at pending
      cases pending
    obtain ⟨id, plain, found, own, goesOn | aborted⟩ := tended.settled number _ there unresolved
    · obtain ⟨task, there, rfl⟩ := Option.map_eq_some_iff.1 (List.getElem?_map.symm.trans found)
      exact ⟨id, task, there, own, goesOn⟩
    · refine absurd (List.any_eq_true.2 ⟨plain, List.mem_of_getElem? found, ?_⟩) kept
      simp [own, aborted]

theorem terminated_settled (tended : world.affairs.Tended) (first : 1 ≤ number)
    (submitted : number ≤ world.contexts.length) (ended : world.scheduler.isTerminated = true) :
    world.outcome? number ≠ none := by
  intro pending
  obtain ⟨id, task, found, rfl, goesOn⟩ := pending_goesOn tended first submitted pending
  have plain : world.affairs.tasks[id]? = some task.plain := by simp [affairs, found]
  obtain ⟨job, _, _, has⟩ := (tended.goesOn id task.plain plain goesOn).served
  obtain ⟨waiting, running⟩ := tended.idle ended
  rcases has with waits | runs
  · rw [waiting] at waits
    cases waits
  · rw [running] at runs
    cases runs

theorem Over.told {task : RequestTask} (tended : world.affairs.Tended) (ceased : world.Over id)
    (found : world.tasks[id]? = some task) : world.outcome? task.context ≠ none := by
  intro pending
  have plain : world.affairs.tasks[id]? = some task.plain := by simp [affairs, found]
  obtain ⟨first, last⟩ :=
    tended.known _ (List.mem_map_of_mem (f := RequestTask.context) (List.mem_of_getElem? plain))
  obtain ⟨other, another, there, own, goesOn⟩ := pending_goesOn tended first last pending
  have same : world.affairs.tasks[other]? = some another.plain := by simp [affairs, there]
  obtain rfl : other = id := tended.inj plain same own
  obtain ⟨known, ended, done⟩ := ceased
  cases there.symm.trans ended
  cases goesOn.symm.trans done

/-! ### Nobody is forgotten -/

/-- Of what was noted nothing about the requests is lost before they have ended, and whoever submits
a request is woken. -/
structure Hears (before after : World) : Prop where
  now : after.now = before.now
  ready : before.agenda.ready <+: after.agenda.ready
  sorted : before.agenda.Sorted → after.agenda.Sorted
  alarms : ∀ (id : TaskId) due, lastCall id due ∈ before.agenda.alarms →
    lastCall id due ∈ after.agenda.alarms ∨ after.Over id
  fresh : ∀ id : TaskId, before.tasks.length ≤ id → ∀ task, after.tasks[id]? = some task →
    Process.request id ∈ after.agenda.ready

theorem Hears.heeds (heeds : ∀ id, world.Heeds id later) : world.Hears later where
  now := (heeds 0).now
  ready := (heeds 0).ready
  sorted := (heeds 0).sorted
  alarms id due member := (heeds id).alarm due member
  fresh id beyond task there := by
    have inside := (List.getElem?_eq_some_iff.1 there).1
    rw [(heeds 0).tasks] at inside
    exact absurd (Nat.lt_of_lt_of_le inside beyond) (Nat.lt_irrefl id)

theorem Hears.minds (minds : world.Minds later) : world.Hears later where
  now := minds.agenda.now
  ready := minds.agenda.ready
  sorted := minds.agenda.sorted
  alarms id due member := .inl (minds.agenda.alarms id due member)
  fresh id beyond task there := by
    have inside := (List.getElem?_eq_some_iff.1 there).1
    rw [minds.tasks] at inside
    exact absurd (Nat.lt_of_lt_of_le inside beyond) (Nat.lt_irrefl id)

theorem hears_offer (world : World) (request : Request) (options : RequestOptions) :
    world.Hears ((world.begun options).offer (world.contexts.length + 1) request options) := by
  have begun : world.Minds (world.begun options) := minds_mk.2 (.refl world)
  have refused : world.Minds ((world.begun options).refuse (world.contexts.length + 1)) :=
    minds_updateContext begun _ _
  simp only [offer]
  split
  next => exact .minds refused
  next =>
    split
    next => exact .minds refused
    next later job added =>
      have given := minds_addJob? begun added
      have length : (world.begun options).tasks.length = later.tasks.length :=
        given.tasks.symm
      rw [length]
      have asks := Agenda.minds_wake later.agenda (.request later.tasks.length)
      have noted := given.agenda.trans asks
      refine ⟨noted.now, noted.ready, noted.sorted,
        fun id due member => .inl (noted.alarms id due member), fun id beyond task there => ?_⟩
      have inside := (List.getElem?_eq_some_iff.1 there).1
      have more : (later.addTask (world.contexts.length + 1) request options).1.tasks.length =
          later.tasks.length + 1 := List.length_append
      simp only [updateTask, List.length_modify, more] at inside
      rw [← given.tasks] at beyond
      obtain rfl : id = later.tasks.length := Nat.le_antisymm (Nat.le_of_lt_succ inside) beyond
      exact Agenda.mem_wake _ _

theorem hears_act {happening : Happening} (timely : happening.isTimely = true) :
    world.Hears (world.act happening) := by
  unfold act
  split
  next => exact .minds (.refl world)
  next possible =>
    have allowed : world.forbids happening = false := by simpa using possible
    have same : world.Minds world := .refl world
    cases happening with
    | turn process =>
      cases process with
      | connection channel => exact .minds (minds_turnConnection _ same channel)
      | reader channel => exact .minds (minds_turnReader _ same channel)
      | watcher channel => exact .minds (minds_turnWatcher same channel)
      | manager pool => exact .minds (minds_turnManager _ same pool)
      | tracking => exact .minds (minds_turnTracking same)
      | listener id => exact .minds (minds_turnListener same id)
      | request task => exact .heeds fun _ => heeds_turnRequest world task
      | timer id => exact .minds (minds_turnTimer same id)
      | callback job => exact .minds (minds_turnCallback same job)
      | errand id =>
        simp only [occur]
        split
        next => exact .minds same
        next =>
          by_cases closes : ∃ quietPeriod timeout,
              world.errands[id]? = some (.closeSession quietPeriod timeout)
          · obtain ⟨quietPeriod, timeout, closes⟩ := closes
            simp only [turnErrand, closes]
            exact .heeds fun _ => heeds_pursueClosing world id quietPeriod timeout
          · exact .minds (minds_turnErrand same id fun quietPeriod timeout closing =>
              closes ⟨quietPeriod, timeout, closing⟩)
      | acceptor server => exact .minds (minds_turnAcceptor _ same server)
      | service socket => exact .minds (minds_turnService _ same socket)
      | delayedReply id => exact .minds (minds_turnDelayedReply same id)
    | schedule agenda => cases timely
    | wake waker => exact .minds (minds_wake same waker)
    | begin errand => exact .minds (minds_wakeProcess (minds_mk.2 same) _)
    | submit request options =>
      rcases occur_submit world request options with same | same <;> rw [same]
      · exact .minds (.refl world)
      · exact hears_offer world request options
    | cancel context => exact .minds (minds_cancelContext same context)
    | step step =>
      cases step with
      | stop server => exact .minds (minds_stopServer same server)
      | restart server => exact .minds (minds_restartServer same server)
      | markDown address => exact .minds (minds_changeNodes same _ _)
      | markUp address => exact .minds (minds_changeNodes same _ _)
      | addNode contact => exact .minds (minds_mk.2 same)
      | _ => exact .minds (minds_mk.2 same)
    | addServer server => exact .minds (minds_mk.2 same)
    | startServer server => exact .minds (minds_startServer same server)
    | watch => exact .minds (minds_mk.2 same)
    | forget => exact .minds (minds_mk.2 same)

def Awaited (world : World) (id : TaskId) : Prop :=
  ∀ task context, world.tasks[id]? = some task → task.isOver = false →
    world.context? task.context = some context →
      .request id ∈ world.agenda.ready ∨
        world.now < context.deadline ∧ lastCall id context.deadline ∈ world.agenda.alarms

structure Vigilant (world : World) : Prop where
  sorted : world.agenda.Sorted
  awaited : ∀ id, world.Awaited id

theorem went_on (tended : world.affairs.Tended) (settles : world.affairs.Settles later.affairs)
    (existed : id < world.tasks.length) {task : RequestTask} {context : RequestContext}
    (found : later.tasks[id]? = some task) (goesOn : task.isOver = false)
    (known : later.context? task.context = some context) :
    ∃ (earlier : RequestTask) (former : RequestContext), world.tasks[id]? = some earlier ∧
      earlier.isOver = false ∧ earlier.context = task.context ∧
      world.context? earlier.context = some former ∧ former.deadline = context.deadline := by
  have there := List.getElem?_eq_getElem existed
  generalize world.tasks[id] = earlier at there
  have plain : world.affairs.tasks[id]? = some earlier.plain := by simp [affairs, there]
  obtain ⟨last, same, own, ceased⟩ := settles.tasks id _ plain
  obtain rfl : last = task.plain := by
    refine Option.some.inj (same.symm.trans ?_)
    simp [affairs, found]
  have unfinished : earlier.isOver = false := by
    by_contra ended
    have ended := ceased (by simpa [RequestTask.plain] using ended)
    cases goesOn.symm.trans ended
  obtain ⟨_, ⟨former, held, _⟩, _⟩ := tended.goesOn id _ plain unfinished
  obtain ⟨last, found, deadline, _⟩ := settles.known _ former held
  have own : task.context = earlier.context := own
  rw [own] at known
  obtain rfl := Option.some.inj (known.symm.trans found)
  exact ⟨earlier, former, there, unfinished, own.symm, held, deadline.symm⟩

theorem Awaited.hears (awaited : world.Awaited id) (tended : world.affairs.Tended)
    (settles : world.affairs.Settles later.affairs) (hears : world.Hears later) :
    later.Awaited id := by
  intro task context found goesOn known
  by_cases existed : id < world.tasks.length
  · obtain ⟨earlier, former, there, unfinished, own, held, deadline⟩ :=
      went_on tended settles existed found goesOn known
    rcases awaited earlier former there unfinished held with ready | ⟨early, alarm⟩
    · exact .inl (hears.ready.mem ready)
    · rw [deadline] at early alarm
      rcases hears.alarms id _ alarm with set | ⟨other, ended, ceased⟩
      · exact .inr ⟨hears.now ▸ early, set⟩
      · obtain rfl := Option.some.inj (found.symm.trans ended)
        cases goesOn.symm.trans ceased
  · exact .inl (hears.fresh id (Nat.le_of_not_lt existed) task found)

theorem vigilant_act {happening : Happening} (tended : world.affairs.Tended)
    (vigilant : world.Vigilant) (timely : happening.isTimely = true) :
    (world.act happening).Vigilant where
  sorted := (hears_act timely).sorted vigilant.sorted
  awaited id := (vigilant.awaited id).hears tended (settles_act tended happening) (hears_act timely)

theorem awaited_turnRequest (tended : world.affairs.Tended) (id : TaskId) :
    (world.turnRequest id).Awaited id := by
  intro task context found goesOn known
  have heeds : world.Heeds id (world.turnRequest id) := heeds_turnRequest world id
  have existed := (List.getElem?_eq_some_iff.1 found).1
  rw [heeds.tasks] at existed
  obtain ⟨earlier, former, there, unfinished, own, held, deadline⟩ :=
    went_on tended (settles_turnRequest tended id) existed found goesOn known
  obtain ⟨called, due⟩ := turnRequest_called tended there unfinished held
  have stays : ¬ (world.turnRequest id).Over id := by
    rintro ⟨other, ended, ceased⟩
    obtain rfl := Option.some.inj (found.symm.trans ended)
    cases goesOn.symm.trans ceased
  rw [← deadline]
  refine .inr ⟨?_, called.resolve_left stays⟩
  rw [heeds.now]
  exact Nat.lt_of_not_le fun late => stays (due late)

theorem vigilant_draw {process : Process} {agenda : Agenda Process Waker}
    (tended : world.affairs.Tended) (vigilant : world.Vigilant)
    (drawn : world.agenda.next? = some (process, agenda)) :
    ({ world with agenda }.act (.turn process)).Vigilant := by
  obtain ⟨now, alarms, ready⟩ := Agenda.next?_ready drawn
  have begun : ({ world with agenda } : World).affairs.Tended := tended
  have hears : ({ world with agenda } : World).Hears
      ({ world with agenda }.act (.turn process)) := hears_act rfl
  have settles := settles_act begun (.turn process)
  refine ⟨hears.sorted ?_, fun id => ?_⟩
  · have sorted := vigilant.sorted
    unfold Agenda.Sorted at sorted ⊢
    rwa [alarms]
  by_cases own : process = .request id
  · subst own
    exact awaited_turnRequest begun id
  · refine Awaited.hears (fun task context found goesOn known => ?_) begun settles hears
    refine (vigilant.awaited id task context found goesOn known).imp (fun woken => ?_) fun later => ?_
    · rcases ready with ready | ready
      · rw [ready] at woken
        exact (List.mem_cons.1 woken).resolve_left (Ne.symm own)
      · rw [ready] at woken
        cases woken
    · have early : agenda.now < context.deadline := by
        rw [now]
        exact later.1
      have set : lastCall id context.deadline ∈ agenda.alarms := by
        rw [alarms]
        exact later.2
      exact ⟨early, set⟩

theorem mem_wakes {waker : Waker} {woken : List Waker} (member : waker ∈ woken) (world : World) :
    waker.process ∈ (woken.foldl wake world).agenda.ready := by
  induction woken generalizing world with
  | nil => cases member
  | cons first rest ih =>
    rcases List.mem_cons.1 member with rfl | member
    · have left := minds_foldl (fun _ waker minds => minds_wake minds waker) rest
        (.refl (world.wake waker))
      exact left.agenda.ready.mem (Agenda.mem_wake _ _)
    · exact ih member _

theorem minds_pass (world : World) :
    Minds { world with agenda := world.agenda.tick.1 } (world.deed .pass) :=
  minds_foldl (fun _ waker minds => minds_wake minds waker) world.agenda.tick.2 (.refl _)

theorem vigilant_pass (tended : world.affairs.Tended) (vigilant : world.Vigilant) :
    (world.deed .pass).Vigilant := by
  have settles := settles_deed tended .pass
  have minds := minds_pass world
  refine ⟨minds.agenda.sorted (Agenda.sorted_tick vigilant.sorted), fun id => ?_⟩
  intro task context found goesOn known
  have existed := (List.getElem?_eq_some_iff.1 found).1
  rw [minds.tasks] at existed
  obtain ⟨earlier, former, there, unfinished, own, held, deadline⟩ :=
    went_on tended settles existed found goesOn known
  rcases vigilant.awaited id earlier former there unfinished held with woken | ⟨early, alarm⟩
  · exact .inl (minds.agenda.ready.mem woken)
  · rw [← deadline]
    refine (Agenda.tick_alarms vigilant.sorted alarm).imp (fun due => mem_wakes due.2 _) fun set => ?_
    refine ⟨?_, minds.agenda.alarms id _ set.2⟩
    rw [World.now, minds.agenda.now]
    exact set.1

theorem vigilant_deed (tended : world.affairs.Tended) (vigilant : world.Vigilant) (deed : Deed) :
    (world.deed deed).Vigilant := by
  cases deed with
  | happens happening =>
    simp only [World.deed]
    split
    next timely => exact vigilant_act tended vigilant timely
    next => exact vigilant
  | draw =>
    simp only [World.deed]
    split
    next => exact vigilant
    next drawn => exact vigilant_draw tended vigilant drawn
  | pass => exact vigilant_pass tended vigilant

/-! ### Answers that come -/

/-- Somebody is in line behind at most so many others. -/
def Lines (world : World) (process : Process) (ahead : Nat) : Prop :=
  ∃ front back, world.agenda.ready = front ++ process :: back ∧ front.length ≤ ahead

theorem Lines.minds {process : Process} {ahead : Nat} (lines : world.Lines process ahead)
    (ready : world.agenda.ready <+: later.agenda.ready) : later.Lines process ahead := by
  obtain ⟨front, back, line, few⟩ := lines
  obtain ⟨more, line'⟩ := ready
  refine ⟨front, back ++ more, ?_, few⟩
  rw [← line', line, List.append_assoc, List.cons_append]

theorem lines_deed {process : Process} {ahead : Nat} (lines : world.Lines process ahead)
    {deed : Deed} (waits : deed ≠ .draw) : (world.deed deed).Lines process ahead := by
  cases deed with
  | happens happening =>
    simp only [World.deed]
    split
    next timely => exact lines.minds (hears_act timely).ready
    next => exact lines
  | draw => exact absurd rfl waits
  | pass =>
    exact lines.minds (minds_pass world).agenda.ready

theorem lines_draw {process : Process} {ahead : Nat} (lines : world.Lines process ahead) :
    (∃ agenda, world.agenda.next? = some (process, agenda) ∧
        world.deed .draw = { world with agenda }.act (.turn process)) ∨
      1 ≤ ahead ∧ (world.deed .draw).Lines process (ahead - 1) := by
  obtain ⟨front, back, line, few⟩ := lines
  cases front with
  | nil =>
    left
    have drawn : world.agenda.next? = some (process, { world.agenda with ready := back }) := by
      simp [Agenda.next?, line]
    exact ⟨_, drawn, by simp [World.deed, drawn]⟩
  | cons first front =>
    right
    have drawn : world.agenda.next? =
        some (first, { world.agenda with ready := front ++ process :: back }) := by
      simp [Agenda.next?, line]
    have length : front.length + 1 ≤ ahead := few
    refine ⟨by omega, ?_⟩
    simp only [World.deed, drawn]
    exact Lines.minds ⟨front, back, rfl, by omega⟩ (hears_act rfl).ready

theorem now_deed (world : World) (deed : Deed) : world.now ≤ (world.deed deed).now := by
  cases deed with
  | happens happening =>
    simp only [World.deed]
    split
    next timely => exact Nat.le_of_eq (hears_act timely).now.symm
    next => exact Nat.le_refl _
  | draw =>
    simp only [World.deed]
    split
    next => exact Nat.le_refl _
    next process agenda drawn =>
      have hears : ({ world with agenda } : World).Hears
        ({ world with agenda }.act (.turn process)) := hears_act rfl
      rw [hears.now]
      exact Nat.le_of_eq (Agenda.next?_ready drawn).1.symm
  | pass =>
    have now : (world.deed .pass).now = world.now + 1 := (minds_pass world).agenda.now
    rw [now]
    exact Nat.le_succ _

theorem told_proceed (tended : world.affairs.Tended) (told : world.outcome? number ≠ none)
    (deeds : List Deed) : (world.proceed deeds).outcome? number = world.outcome? number := by
  obtain ⟨outcome, told⟩ := Option.ne_none_iff_exists'.1 told
  rw [told]
  rw [outcome?_affairs] at told ⊢
  exact (settles_proceed tended deeds).2.outcome? tended told

theorem lines_told (deeds : List Deed) {ahead : Nat} {task : RequestTask} {context : RequestContext}
    (tended : world.affairs.Tended) (found : world.tasks[id]? = some task)
    (known : world.context? task.context = some context) (late : context.deadline ≤ world.now)
    (lines : world.Lines (.request id) ahead) (turns : ahead < draws deeds) :
    (world.proceed deeds).outcome? task.context ≠ none := by
  induction deeds generalizing world ahead task context with
  | nil => exact absurd turns (Nat.not_lt_zero _)
  | cons deed rest ih =>
    have tends := tended_deed tended deed
    have settles := settles_deed tended deed
    have plain : world.affairs.tasks[id]? = some task.plain := by simp [affairs, found]
    obtain ⟨_, same, own, _⟩ := settles.tasks id _ plain
    obtain ⟨after, there, rfl⟩ := Option.map_eq_some_iff.1 (List.getElem?_map.symm.trans same)
    obtain ⟨left, held, deadline, _⟩ := settles.known _ context known
    have own : after.context = task.context := own
    rw [← own] at held ⊢
    -- The task keeps its request, and the request its deadline, so what is left to do is the same.
    have goesOn {ahead : Nat} (lines : (world.deed deed).Lines (.request id) ahead)
        (turns : ahead < draws rest) :
        (world.proceed (deed :: rest)).outcome? after.context ≠ none :=
      ih tends there held (deadline ▸ Nat.le_trans late (now_deed world deed)) lines turns
    by_cases waits : deed = .draw
    · subst waits
      have turns : ahead < draws rest + 1 := by simpa [draws] using turns
      rcases lines_draw lines with ⟨agenda, drawn, same⟩ | ⟨behind, lines⟩
      -- Either it is its turn, which it does not survive, or somebody in front had one.
      · have ended : (world.deed .draw).Over id := by
          cases unfinished : task.isOver with
          | true => exact Over.settles ⟨task, found, unfinished⟩ settles
          | false =>
            rw [same]
            have begun : ({ world with agenda } : World).affairs.Tended := tended
            refine (turnRequest_called begun found unfinished known).2 ?_
            have now := (Agenda.next?_ready drawn).1
            simpa only [World.now, now] using late
        have told := ended.told tends there
        exact fun pending => told ((told_proceed tends told rest).symm.trans pending)
      · exact goesOn lines (by omega)
    · have turns : ahead < draws rest := by
        have same : draws (deed :: rest) = draws rest := by
          cases deed with
          | draw => exact absurd rfl waits
          | _ => simp [draws]
        rwa [same] at turns
      exact goesOn (lines_deed lines waits) turns

theorem vigilant_proceed (tended : world.affairs.Tended) (vigilant : world.Vigilant)
    (deeds : List Deed) : (world.proceed deeds).Vigilant := by
  induction deeds generalizing world with
  | nil => exact vigilant
  | cons deed rest ih => exact ih (tended_deed tended deed) (vigilant_deed tended vigilant deed)

theorem late_told (tended : world.affairs.Tended) (vigilant : world.Vigilant)
    {context : RequestContext} (known : world.context? number = some context)
    (late : context.deadline ≤ world.now) (deeds : List Deed)
    (turns : world.agenda.ready.length ≤ draws deeds) :
    (world.proceed deeds).outcome? number ≠ none := by
  by_cases pending : world.outcome? number = none
  · obtain ⟨first, last⟩ := @Affairs.context?_range world.affairs _ _ known
    obtain ⟨id, task, found, rfl, goesOn⟩ := pending_goesOn tended first last pending
    -- Nobody who is out of time only has an alarm: that would be set for later.
    rcases vigilant.awaited id task context found goesOn known with woken | ⟨early, _⟩
    · obtain ⟨front, back, line⟩ := List.append_of_mem woken
      refine lines_told deeds tended found known late
        ⟨front, back, line, Nat.le_refl _⟩ (Nat.lt_of_lt_of_le ?_ turns)
      simp [line]
    · exact absurd early (Nat.not_lt_of_le late)
  · exact fun untold => pending ((told_proceed tended pending deeds).symm.trans untold)

/-! ### Promises -/

structure Answers (world : World) (number : Nat) : Prop where
  once : ∀ outcome, world.outcome? number = some outcome →
    ∀ more, (world.proceed more).outcome? number = some outcome
  comes : ∃ context, world.context? number = some context ∧
    ∀ more rest, context.deadline ≤ (world.proceed more).now →
      (world.proceed more).agenda.ready.length ≤ draws rest →
        (world.proceed (more ++ rest)).outcome? number ≠ none
  ends : world.scheduler.isTerminated = true → world.outcome? number ≠ none

/-- Whoever submits a request too late is told so, and that is all that happens. -/
structure Refuses (before after : World) : Prop where
  told : ∃ outcome, after.outcome? (before.contexts.length + 1) = some outcome ∧
    outcome.result = .error .sessionClosed
  uncounted : ∃ context, after = { before with contexts := before.contexts ++ [context] }
  unserved : ∀ more, ∀ task ∈ (after.proceed more).tasks,
    task.context ≠ before.contexts.length + 1

theorem answers (tended : world.affairs.Tended) (vigilant : world.Vigilant) (first : 1 ≤ number)
    (submitted : number ≤ world.contexts.length) : world.Answers number where
  once outcome told more := by
    rw [told_proceed tended (by simp [told]) more, told]
  comes := by
    have inside : number - 1 < world.contexts.length := Nat.sub_one_lt_of_le first submitted
    have known : world.context? number = some world.contexts[number - 1] := by
      rw [context?, if_neg (Nat.ne_of_gt first), List.getElem?_eq_getElem inside]
    refine ⟨_, known, fun more rest late turns => ?_⟩
    obtain ⟨tends, settles⟩ := settles_proceed tended more
    obtain ⟨later, found, deadline, _⟩ := settles.known number _ known
    rw [proceed_append]
    exact late_told tends (vigilant_proceed tended vigilant more) found (deadline ▸ late) rest turns
  ends ended := terminated_settled tended first submitted ended

theorem refuses (tended : world.affairs.Tended) (closed : world.isSessionClosed = true)
    {request : Request} {options : RequestOptions}
    (submitted : world.submit? request options = some (later, number)) : world.Refuses later := by
  let begun : RequestContext := {
    id := world.contexts.length + 1, started := world.now
    timeout := Run.timeoutOf world.setup.registry options }
  let refused := begun.resolve world.now (.error .sessionClosed)
  have tends := tended_act tended (.submit request options)
  have acted : world.act (.submit request options) = later := by
    simp [act, forbids, occur, submitted]
  rw [acted] at tends
  have same : later = { world with contexts := world.contexts ++ [refused] } := by
    rw [submit?_begun] at submitted
    obtain ⟨_, _, pair⟩ := Option.map_eq_some_iff.1 submitted
    obtain ⟨rfl, _⟩ := Prod.mk.inj pair
    have last := modify_last world.contexts begun fun context =>
      context.resolve world.now (.error .sessionClosed)
    have still : (world.begun options).isSessionClosed = true := closed
    simp only [offer, still, if_true]
    exact congrArg (fun contexts => { world with contexts }) last
  have told : later.outcome? (world.contexts.length + 1) =
      some ⟨.error .sessionClosed, refused.trace world.now⟩ := by
    have unresolved : begun.Pending := ⟨rfl, rfl⟩
    have known : later.context? (world.contexts.length + 1) = some refused := by
      rw [same, context?, if_neg (Nat.succ_ne_zero _)]
      simp
    rw [outcome?, known, Option.bind_some, unresolved.outcome_resolve]
    rfl
  refine ⟨⟨_, told, rfl⟩, ⟨refused, same⟩, fun more => ?_⟩
  -- No task carries this number, and none ever will.
  have unserved : later.affairs.Unserved (world.contexts.length + 1) := by
    rw [same]
    refine ⟨Nat.le_of_eq (by simp [affairs]), fun task member own => ?_⟩
    have known := (tended.known _ (List.mem_map_of_mem (f := RequestTask.context) member)).2
    rw [own] at known
    exact absurd known (Nat.not_succ_le_self _)
  have left := (settles_proceed tends more).2.unserved _ unserved
  exact fun task member => left.2 task.plain (List.mem_map_of_mem member)

theorem submit?_number (world : World) (request : Request) {options : RequestOptions}
    (fits : world.now + Run.timeoutOf world.setup.registry options < Clock.limit) :
    ∃ later, world.submit? request options = some (later, world.contexts.length + 1) ∧
      later.contexts.length = world.contexts.length + 1 := by
  rw [submit?_begun, Clock.after?_eq_some fits]
  refine ⟨_, rfl, ?_⟩
  have begun : (world.begun options).contexts.length = world.contexts.length + 1 :=
    List.length_append
  have refused : ((world.begun options).refuse
      (world.contexts.length + 1)).contexts.length = world.contexts.length + 1 := by
    simpa only [refuse, updateContext, List.length_modify] using begun
  simp only [offer]
  split
  next => exact refused
  next =>
    split
    next => exact refused
    next later job added =>
      obtain ⟨_, _, _, _, same⟩ := affairs_addJob? added
      have kept : later.contexts = (world.begun options).contexts := congrArg (·.contexts) same
      rw [← begun, ← kept]
      rfl

/-- Every request that was submitted gets one outcome, and only one: whether its turn comes, it runs
out of time, it is given up, the session is closed or it came too late for that. And whoever submits
one with a deadline that the clock can show gets a number for it. -/
theorem submitted_answered {network : Network} {setup : Setup} {deeds : List Deed} {world : World}
    (reached : world = (unopened network setup).proceed deeds) :
    (∀ number, 1 ≤ number → number ≤ world.contexts.length → world.Answers number) ∧
      ∀ request options,
        world.now + Run.timeoutOf world.setup.registry options < Clock.limit →
          ∃ later, world.submit? request options = some (later, world.contexts.length + 1) ∧
            later.contexts.length = world.contexts.length + 1 ∧
            (world.isSessionClosed = true → world.Refuses later) := by
  have blank : (unopened network setup).affairs.Tended := .blank rfl rfl ⟨rfl, rfl⟩
  have still : (unopened network setup).Vigilant := ⟨.nil, fun id task context found => by cases found⟩
  have tended := (settles_proceed blank deeds).1
  have vigilant := vigilant_proceed blank still deeds
  rw [← reached] at tended vigilant
  refine ⟨fun number first submitted => answers tended vigilant first submitted,
    fun request options fits => ?_⟩
  obtain ⟨later, submitted, length⟩ := submit?_number world request fits
  exact ⟨later, submitted, length, fun closed => refuses tended closed submitted⟩

end World

/-! ### A session with one worker -/

namespace OneWorker

def config : DriverConfig where
  contactPoints := [⟨.v4 1 9042, none, []⟩]
  scheduler := { workers := 1 }

def opening : List World.Deed :=
  [.happens (.addServer { address := .v4 1 9042, conduct := .ordinary .never [] }),
    .happens (.startServer 0), .happens (.begin (.openSession config none))] ++
      List.replicate 40 .draw

def asking : List World.Deed :=
  List.replicate 2 (.happens (.submit (.query ByteArray.empty) { timeout := some 2 })) ++
    List.replicate 20 .draw

def busy : World :=
  (World.unopened { isUp := true } { registry := .ofConfig config }).proceed (opening ++ asking)

def closing : List World.Deed := [.happens (.begin (.closeSession 1 50)), .draw]

def shutting : World := busy.proceed closing

def shut : World := shutting.proceed (.pass :: List.replicate 20 .draw)

theorem busy_waits :
    busy.contexts.map (·.deadline) = [2, 2] ∧ busy.scheduler.running = [0] ∧
      busy.scheduler.waiting = [1] ∧ (busy.outcome? 1).isNone ∧ (busy.outcome? 2).isNone := by
  decide +kernel

theorem shut_terminated :
    shutting.isSessionClosed ∧
      shutting.now + Run.timeoutOf shutting.setup.registry {} < Clock.limit ∧
      shutting.contexts.length = 2 ∧ shut.scheduler.isTerminated ∧ shut.contexts.length = 2 := by
  decide +kernel

theorem patience_ends :
    (busy.proceed [.pass, .pass]).now = 2 ∧
      (busy.proceed [.pass, .pass]).agenda.ready.length ≤ World.draws (List.replicate 2 .draw) := by
  decide +kernel

theorem everybody_answered :
    (busy.outcome? 1).isNone ∧ (busy.outcome? 2).isNone ∧
      (busy.proceed ([.pass, .pass] ++ List.replicate 2 .draw)).outcome? 1 ≠ none ∧
      shut.scheduler.isTerminated ∧ shut.outcome? 1 ≠ none ∧ shut.outcome? 2 ≠ none ∧
      shutting.isSessionClosed ∧
      shutting.now + Run.timeoutOf shutting.setup.registry {} < Clock.limit ∧
      ∃ later, shutting.submit? (.query ByteArray.empty) {} = some (later, 3) ∧
        shutting.Refuses later := by
  obtain ⟨deadlines, _, _, first, second⟩ := busy_waits
  obtain ⟨closed, fits, submitted, terminated, length⟩ := shut_terminated
  have early := @World.submitted_answered { isUp := true } { registry := .ofConfig config }
    (opening ++ asking) busy rfl
  have late := @World.submitted_answered { isUp := true } { registry := .ofConfig config }
    (opening ++ asking ++ closing) shutting (World.proceed_append _ _ _).symm
  have last := @World.submitted_answered { isUp := true } { registry := .ofConfig config }
    (opening ++ asking ++ closing ++ .pass :: List.replicate 20 .draw) shut
    (by rw [World.proceed_append, World.proceed_append]; rfl)
  have two : busy.contexts.length = 2 := by simpa using congrArg List.length deadlines
  obtain ⟨context, known, comes⟩ := (early.1 1 (by decide) (by omega)).comes
  have due : context.deadline = 2 := by
    have there := congrArg (·[0]?) deadlines
    have known : busy.contexts[0]? = some context := known
    simpa [known] using there
  have patience := patience_ends
  obtain ⟨later, given, _, refused⟩ := late.2 (.query ByteArray.empty) {} fits
  rw [submitted] at given
  exact ⟨first, second, comes [.pass, .pass] _ (by omega) patience.2, terminated,
    (last.1 1 (by decide) (by omega)).ends terminated,
    (last.1 2 (by decide) (by omega)).ends terminated, closed, fits, later, given, refused closed⟩

end OneWorker

end ClusterDriver.Simulation
