import ClusterDriver.Proofs.Session.Tasks

set_option autoImplicit false

namespace ClusterDriver.Simulation

namespace Affairs

def outcome? (affairs : Affairs) (number : Nat) : Option Outcome :=
  match (affairs.context? number).bind (·.outcome) with
  | some outcome => some outcome
  | none =>
      if affairs.tasks.any fun task => task.context = number && task.aborted then
        some (.untraced .sessionClosed)
      else none

def Unserved (affairs : Affairs) (number : Nat) : Prop :=
  number ≤ affairs.contexts.length ∧ ∀ task ∈ affairs.tasks, task.context ≠ number

/-- Neither outcomes nor dropped or refused requests are ever forgotten. -/
structure Settles (before after : Affairs) : Prop where
  known : ∀ number context, before.context? number = some context →
    ∃ later, after.context? number = some later ∧ later.deadline = context.deadline ∧
      (context.outcome.isSome → later.outcome = context.outcome)
  tasks : ∀ (id : TaskId) task, before.tasks[id]? = some task →
    ∃ later, after.tasks[id]? = some later ∧ later.context = task.context ∧
      (task.isOver = true → later.isOver = true)
  dropped : ∀ task ∈ before.tasks, task.aborted = true → ∃ later ∈ after.tasks,
    later.context = task.context ∧ later.aborted = true ∧
      ∀ context, before.context? task.context = some context → context.outcome = none →
        ∃ left, after.context? task.context = some left ∧ left.outcome = none
  unserved : ∀ number, before.Unserved number → after.Unserved number
  closing : before.closing.isSome → after.closing.isSome

variable {before middle after : Affairs}

theorem Settles.trans (one : before.Settles middle) (two : middle.Settles after) :
    before.Settles after where
  known number context there := by
    obtain ⟨later, found, deadline, same⟩ := one.known number context there
    obtain ⟨last, known, due, alike⟩ := two.known number later found
    refine ⟨last, known, due.trans deadline, fun resolved => ?_⟩
    have settled := same resolved
    rw [← settled] at resolved ⊢
    exact alike resolved
  tasks id task there := by
    obtain ⟨later, found, own, ceased⟩ := one.tasks id task there
    obtain ⟨last, known, same, ended⟩ := two.tasks id later found
    exact ⟨last, known, same.trans own, fun done => ended (ceased done)⟩
  dropped task member aborted := by
    obtain ⟨later, there, own, left, stays⟩ := one.dropped task member aborted
    obtain ⟨last, known, same, gone, remains⟩ := two.dropped later there left
    refine ⟨last, known, same.trans own, gone, fun context found unresolved => ?_⟩
    obtain ⟨next, found, unresolved⟩ := stays context found unresolved
    rw [← own] at found ⊢
    exact remains next found unresolved
  unserved number refused := two.unserved number (one.unserved number refused)
  closing closing := two.closing (one.closing closing)

theorem Settles.same (contexts : after.contexts = before.contexts)
    (tasks : after.tasks = before.tasks) (closing : before.closing.isSome → after.closing.isSome) :
    before.Settles after where
  known number context there := by
    refine ⟨context, ?_, rfl, fun _ => rfl⟩
    rwa [context?, contexts]
  tasks id task there := ⟨task, by rwa [tasks], rfl, fun ceased => ceased⟩
  dropped task member aborted := by
    refine ⟨task, by rwa [tasks], rfl, aborted, fun context there unresolved => ?_⟩
    refine ⟨context, ?_, unresolved⟩
    rwa [context?, contexts]
  unserved number refused := by
    rwa [Unserved, contexts, tasks]
  closing := closing

theorem Settles.outcome? (settles : before.Settles after) (tended : before.Tended) {number : Nat}
    {outcome : Outcome} (told : before.outcome? number = some outcome) :
    after.outcome? number = some outcome := by
  unfold Affairs.outcome? at told
  split at told
  next own given =>
    cases told
    obtain ⟨context, there, resolved⟩ := Option.bind_eq_some_iff.1 given
    obtain ⟨later, found, _, same⟩ := settles.known number context there
    have kept := same (by rw [resolved]; rfl)
    simp [Affairs.outcome?, found, kept, resolved]
  next unresolved =>
    split at told
    next any =>
      cases told
      obtain ⟨task, member, given⟩ := List.any_eq_true.1 any
      obtain ⟨rfl, aborted⟩ : task.context = number ∧ task.aborted = true := by simpa using given
      obtain ⟨later, there, own, left, stays⟩ := settles.dropped task member aborted
      obtain ⟨first, last⟩ := tended.known _ (List.mem_map_of_mem member)
      obtain ⟨context, found⟩ : ∃ context, before.context? task.context = some context := by
        unfold context?
        rw [if_neg (by omega), List.getElem?_eq_getElem (by omega)]
        exact ⟨_, rfl⟩
      rw [found] at unresolved
      obtain ⟨remaining, known, pending⟩ := stays context found unresolved
      have any : after.tasks.any (fun other => other.context = task.context && other.aborted) =
          true := List.any_eq_true.2 ⟨later, there, by simp [own, left]⟩
      simp [Affairs.outcome?, known, pending, any]
    next => cases told

theorem Settles.keep (tended : before.Tended) {id : TaskId} {task own : RequestTask}
    (found : before.tasks[id]? = some task) (goesOn : task.isOver = false)
    (context : own.context = task.context) {submission : Submission}
    (deadline : ∀ context, before.context? task.context = some context →
      submission.context.deadline = context.deadline) :
    before.Settles (before.keep id own submission) := by
  obtain ⟨kept, ⟨old, known, tends⟩, _⟩ := tended.goesOn id task found goesOn
  have first : 1 ≤ own.context := by
    rw [context]
    exact (context?_range known).1
  refine ⟨?_, ?_, ?_, ?_, fun closing => closing⟩
  · intro number earlier there
    rw [context?_keep first, there, context]
    refine ⟨_, rfl, ?_, fun resolved => ?_⟩
    · split
      next same =>
        subst same
        exact deadline earlier there
      next => rfl
    · split
      next same =>
        subst same
        obtain rfl := Option.some.inj (known.symm.trans there)
        rw [tends.pending.unresolved] at resolved
        cases resolved
      next => rfl
  · intro other earlier there
    by_cases same : other = id
    · subst same
      simp only [Affairs.keep]
      rw [List.getElem?_modify_eq, there]
      exact ⟨_, rfl, rfl, fun ceased => by simp [ceased]⟩
    · rw [getElem?_keep same]
      exact ⟨earlier, there, rfl, fun ceased => ceased⟩
  · intro left member aborted
    obtain ⟨other, there⟩ := List.getElem?_of_mem member
    -- A task that was dropped has no turns, so it is none of those that were.
    have different : other ≠ id := by
      rintro rfl
      obtain rfl := Option.some.inj (found.symm.trans there)
      cases aborted.symm.trans kept
    refine ⟨left, ?_, rfl, aborted, fun earlier there unresolved => ⟨earlier, ?_, unresolved⟩⟩
    · rw [← getElem?_keep different own submission] at there
      exact List.mem_of_getElem? there
    · have apart : left.context ≠ own.context := fun same =>
        different (tended.inj found ‹_› (same.trans context))
      rw [context?_keep first, there, Option.map_some, if_neg apart]
  · intro number refused
    refine ⟨?_, fun later member same => ?_⟩
    · simpa only [Affairs.keep, List.length_modify] using refused.1
    · have contexts := List.mem_map_of_mem (f := RequestTask.context) member
      rw [contexts_keep] at contexts
      obtain ⟨earlier, there, own⟩ := List.mem_map.1 contexts
      exact refused.2 earlier there (own.trans same)

theorem Settles.appends (one : RequestContext) :
    before.Settles { before with contexts := before.contexts ++ [one] } := by
  have known (number : Nat) (context : RequestContext)
      (there : before.context? number = some context) :
      context? { before with contexts := before.contexts ++ [one] } number = some context := by
    have range := context?_range there
    rw [context?_append _ _ _ rfl, if_neg (by omega)]
    exact there
  refine ⟨fun number context there => ⟨context, known number context there, rfl, fun _ => rfl⟩,
    fun _ task there => ⟨task, there, rfl, fun ceased => ceased⟩, ?_, ?_, fun closing => closing⟩
  · intro task member aborted
    exact ⟨task, member, rfl, aborted, fun context there unresolved =>
      ⟨context, known _ context there, unresolved⟩⟩
  · intro number refused
    refine ⟨?_, refused.2⟩
    simp only [List.length_append, List.length_singleton]
    exact Nat.le_succ_of_le refused.1

theorem Move.settles {actor : Option ErrandId} (move : Move actor before after) :
    before.Settles after := by
  cases move with
  | opens config blank => exact .same rfl rfl id
  | accepts started timeout request options unclosed offered =>
    have appends := @Settles.appends before { id := before.contexts.length + 1, started, timeout }
    refine ⟨appends.known, fun id task there => ?_, fun task member aborted => ?_,
      fun number refused => ?_, id⟩
    · refine ⟨task, ?_, rfl, fun ceased => ceased⟩
      rw [List.getElem?_append_left (List.getElem?_eq_some_iff.1 there).1]
      exact there
    · obtain ⟨later, there, rest⟩ := appends.dropped task member aborted
      exact ⟨later, List.mem_append_left _ there, rest⟩
    · refine ⟨(appends.unserved number refused).1, List.forall_mem_append.2 ⟨refused.2, ?_⟩⟩
      refine List.forall_mem_singleton.2 fun same => ?_
      have known := refused.1
      simp only at same
      omega
  | refuses started timeout => exact .appends _
  | cancels number =>
    -- Cancelling touches neither the deadline nor the outcome.
    have changed (tested : Nat) (context : RequestContext)
        (there : before.context? tested = some context) : ∃ later,
          context? { before with contexts := before.contexts.modify (number - 1) (·.cancel) }
            tested = some later ∧ later.deadline = context.deadline ∧
              later.outcome = context.outcome := by
      rw [context?_modify, there]
      refine ⟨_, rfl, ?_⟩
      split <;> exact ⟨rfl, rfl⟩
    refine ⟨fun tested context there => ?_,
      fun _ task there => ⟨task, there, rfl, fun ceased => ceased⟩,
      fun task member aborted => ?_, fun tested refused => ?_, id⟩
    · obtain ⟨later, found, deadline, same⟩ := changed tested context there
      exact ⟨later, found, deadline, fun _ => same⟩
    · refine ⟨task, member, rfl, aborted, fun context there unresolved => ?_⟩
      obtain ⟨later, found, _, same⟩ := changed _ context there
      exact ⟨later, found, same.trans unresolved⟩
    · exact ⟨by simpa using refused.1, refused.2⟩
  | begins => exact .same rfl rfl fun _ => rfl
  | closes => exact .same rfl rfl fun _ => rfl
  | drops scheduler idle =>
    have left {other : TaskId} {task : RequestTask} (there : before.tasks[other]? = some task) :=
      (getElem?_dropped before.jobs (before.scheduler.running ++ before.scheduler.waiting)
        before.tasks other).trans (congrArg _ there)
    refine ⟨fun number context there => ⟨context, there, rfl, fun _ => rfl⟩,
      fun other task there => ?_, fun task member aborted => ?_,
      fun number refused => ⟨refused.1, fun later member same => ?_⟩, id⟩
    · refine ⟨_, left there, ?_, fun ceased => ?_⟩
      · split <;> rfl
      · split
        next => rfl
        next => exact ceased
    · obtain ⟨other, there⟩ := List.getElem?_of_mem member
      have left := left there
      refine ⟨_, List.mem_of_getElem? left, ?_, ?_, fun context there unresolved =>
        ⟨context, there, unresolved⟩⟩
      · split <;> rfl
      · split
        next => rfl
        next => exact aborted
    · have contexts := List.mem_map_of_mem (f := RequestTask.context) member
      rw [map_dropped fun _ => rfl] at contexts
      obtain ⟨earlier, there, own⟩ := List.mem_map.1 contexts
      exact refused.2 earlier there (own.trans same)
  | _ => exact .same rfl rfl id

theorem Moves.settles {actor : Option ErrandId} (moves : Moves actor before after) :
    before.Settles after := by
  induction moves with
  | refl => exact .same rfl rfl id
  | tail _ move ih => exact ih.trans move.settles

end Affairs

end ClusterDriver.Simulation
