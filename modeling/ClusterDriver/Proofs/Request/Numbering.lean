import ClusterDriver.Proofs.Request.Verdict
import Mathlib.Data.List.Nodup

set_option autoImplicit false

namespace ClusterDriver

def Stage.attempt? : Stage → Option Nat
  | .awaiting _ attempt _ _ => some attempt
  | _ => none

/-- An attempt that an execution waits for, as it would be recorded were it answered at once. -/
def Run.outstanding? (run : Run) (execution : Execution) : Option AttemptRecord :=
  match execution.stage with
  | .awaiting node attempt started _ =>
      some (run.attemptRecord execution node attempt started 0 none none)
  | _ => none

def Run.outstanding (run : Run) : List AttemptRecord :=
  run.executions.filterMap run.outstanding?

def replaced (next : Execution) (executions : List Execution) : List Execution :=
  executions.map fun other => if other.number = next.number then next else other

theorem mem_replaced {next execution : Execution} {executions : List Execution}
    (member : execution ∈ replaced next executions) :
    execution = next ∨ execution ∈ executions ∧ execution.number ≠ next.number := by
  obtain ⟨other, running, rfl⟩ := List.mem_map.1 member
  split
  next => exact .inl rfl
  next different => exact .inr ⟨running, different⟩

theorem forall_replaced {property : Execution → Prop} {next : Execution}
    {executions : List Execution} (new : property next)
    (others : ∀ execution ∈ executions, execution.number ≠ next.number → property execution) :
    ∀ execution ∈ replaced next executions, property execution := by
  intro execution member
  rcases mem_replaced member with rfl | ⟨member, different⟩
  · exact new
  · exact others execution member different

theorem numbers_replaced (next : Execution) (executions : List Execution) :
    (replaced next executions).map (·.number) = executions.map (·.number) := by
  simp only [replaced, List.map_map]
  refine List.map_congr_left fun other _ => ?_
  simp only [Function.comp]
  split
  next same => exact same.symm
  next => rfl

theorem replaced_self {execution : Execution} {executions : List Execution}
    (unique : (executions.map (·.number)).Nodup) (running : execution ∈ executions) :
    replaced execution executions = executions := by
  refine (List.map_congr_left fun other member => ?_).trans (List.map_id executions)
  split
  next same => exact (List.inj_on_of_nodup_map unique member running same).symm
  next => rfl

def totalOf (weight : Execution → Nat) : List Execution → Nat
  | [] => 0
  | execution :: rest => weight execution + totalOf weight rest

@[simp]
theorem totalOf_nil (weight : Execution → Nat) : totalOf weight [] = 0 := rfl

@[simp]
theorem totalOf_cons (weight : Execution → Nat) (execution : Execution) (rest : List Execution) :
    totalOf weight (execution :: rest) = weight execution + totalOf weight rest := rfl

@[simp]
theorem totalOf_append (weight : Execution → Nat) (executions further : List Execution) :
    totalOf weight (executions ++ further) =
      totalOf weight executions + totalOf weight further := by
  induction executions with
  | nil => simp
  | cons execution rest ih => simp [ih, Nat.add_assoc]

theorem totalOf_one (executions : List Execution) :
    totalOf (fun _ => 1) executions = executions.length := by
  induction executions with
  | nil => rfl
  | cons execution rest ih => simp [ih, Nat.add_comm]

theorem totalOf_replaced (weight : Execution → Nat) {execution next : Execution}
    {executions : List Execution} (unique : (executions.map (·.number)).Nodup)
    (running : execution ∈ executions) (same : next.number = execution.number) :
    totalOf weight (replaced next executions) + weight execution =
      totalOf weight executions + weight next := by
  induction executions with
  | nil => cases running
  | cons head rest ih =>
    obtain ⟨other, unique⟩ := List.nodup_cons.1 unique
    simp only [replaced, List.map_cons, totalOf_cons] at ih ⊢
    rcases List.mem_cons.1 running with rfl | running
    · -- None of the others has the number.
      have untouched : rest.map (fun other => if other.number = next.number then next else other) =
          rest := by
        refine (List.map_congr_left fun other member => ?_).trans (List.map_id rest)
        split
        next found =>
          exact absurd (List.mem_map.2 ⟨other, member, found.trans same⟩) ‹_›
        next => rfl
      rw [untouched, if_pos same.symm]
      omega
    · have different : head.number ≠ next.number := by
        intro found
        exact other (List.mem_map.2 ⟨execution, running, (found.trans same).symm⟩)
      rw [if_neg different]
      have rest := ih unique running
      omega

theorem totalOf_without (weight : Execution → Nat) {execution : Execution}
    {executions : List Execution} (unique : (executions.map (·.number)).Nodup)
    (running : execution ∈ executions) :
    totalOf weight (executions.filter fun other => other.number ≠ execution.number) +
      weight execution = totalOf weight executions := by
  induction executions with
  | nil => cases running
  | cons head rest ih =>
    obtain ⟨other, unique⟩ := List.nodup_cons.1 unique
    rw [totalOf_cons]
    rcases List.mem_cons.1 running with rfl | running
    · have untouched : rest.filter (fun other => other.number ≠ execution.number) = rest := by
        refine List.filter_eq_self.2 fun member found => ?_
        exact decide_eq_true fun same => other (List.mem_map.2 ⟨member, found, same⟩)
      rw [List.filter_cons_of_neg (by simp), untouched]
      omega
    · have different : head.number ≠ execution.number := by
        intro found
        exact other (List.mem_map.2 ⟨execution, running, found.symm⟩)
      rw [List.filter_cons_of_pos (by simpa using different), totalOf_cons]
      have rest := ih unique running
      omega

theorem length_without {execution : Execution} {executions : List Execution}
    (unique : (executions.map (·.number)).Nodup) (running : execution ∈ executions) :
    (executions.filter fun other => other.number ≠ execution.number).length + 1 =
      executions.length := by
  have counted := totalOf_without (fun _ => 1) unique running
  rwa [totalOf_one, totalOf_one] at counted

structure Numbering (records : List AttemptRecord) (executions : List Execution)
    (sent started : Nat) : Prop where
  unique : (executions.map (·.number)).Nodup
  begun : ∀ execution ∈ executions, execution.number ≤ started
  recorded : ∀ record ∈ records,
    record.execution ≤ started ∧ 1 ≤ record.attempt ∧ record.attempt ≤ sent
  distinct : (records.map (·.attempt)).Nodup
  outstanding : ∀ execution ∈ executions, ∀ attempt, execution.stage.attempt? = some attempt →
    1 ≤ attempt ∧ attempt ≤ sent ∧ ∀ record ∈ records, record.attempt ≠ attempt
  apart : ∀ first ∈ executions, ∀ second ∈ executions, ∀ attempt,
    first.stage.attempt? = some attempt → second.stage.attempt? = some attempt →
      first.number = second.number

namespace Numbering

variable {records : List AttemptRecord} {executions few : List Execution} {sent started : Nat}
  {execution next : Execution}

theorem empty (sent started : Nat) : Numbering [] [] sent started where
  unique := .nil
  begun := by simp
  recorded := by simp
  distinct := .nil
  outstanding := by simp
  apart := by simp

theorem replaced_begun (numbering : Numbering records executions sent started)
    (running : execution ∈ executions) (same : next.number = execution.number) :
    ∀ other ∈ replaced next executions, other.number ≤ started :=
  forall_replaced (same ▸ numbering.begun execution running)
    fun other member _ => numbering.begun other member

theorem drops (numbering : Numbering records executions sent started)
    (sublist : few.Sublist executions) : Numbering records few sent started where
  unique := numbering.unique.sublist (sublist.map _)
  begun other member := numbering.begun other (sublist.subset member)
  recorded := numbering.recorded
  distinct := numbering.distinct
  outstanding other member := numbering.outstanding other (sublist.subset member)
  apart first one second two := numbering.apart first (sublist.subset one) second (sublist.subset two)

theorem goesOn (numbering : Numbering records executions sent started)
    (running : execution ∈ executions) (same : next.number = execution.number)
    (idle : next.stage.attempt? = none) :
    Numbering records (replaced next executions) sent started where
  unique := by
    rw [numbers_replaced]
    exact numbering.unique
  begun := numbering.replaced_begun running same
  recorded := numbering.recorded
  distinct := numbering.distinct
  outstanding := by
    refine forall_replaced ?_ fun other member _ => numbering.outstanding other member
    intro attempt awaits
    cases idle.symm.trans awaits
  apart := by
    intro first one second two attempt awaits waits
    rcases mem_replaced one with rfl | ⟨one, _⟩
    · cases idle.symm.trans awaits
    rcases mem_replaced two with rfl | ⟨two, _⟩
    · cases idle.symm.trans waits
    exact numbering.apart first one second two attempt awaits waits

theorem sends (numbering : Numbering records executions sent started)
    (running : execution ∈ executions) (same : next.number = execution.number)
    (dispatched : next.stage.attempt? = some (sent + 1)) :
    Numbering records (replaced next executions) (sent + 1) started where
  unique := by
    rw [numbers_replaced]
    exact numbering.unique
  begun := numbering.replaced_begun running same
  recorded record member := by
    obtain ⟨begun, first, last⟩ := numbering.recorded record member
    exact ⟨begun, first, Nat.le_succ_of_le last⟩
  distinct := numbering.distinct
  outstanding := by
    refine forall_replaced ?_ ?_
    · intro attempt awaits
      obtain rfl := Option.some.inj (dispatched.symm.trans awaits)
      refine ⟨Nat.succ_pos sent, Nat.le_refl _, fun record member => ?_⟩
      exact Nat.ne_of_lt (Nat.lt_succ_of_le (numbering.recorded record member).2.2)
    · intro other member _ attempt awaits
      obtain ⟨first, last, unrecorded⟩ := numbering.outstanding other member attempt awaits
      exact ⟨first, Nat.le_succ_of_le last, unrecorded⟩
  apart := by
    have later : ∀ other ∈ executions, other.stage.attempt? ≠ some (sent + 1) := by
      intro other member awaits
      have bound := (numbering.outstanding other member _ awaits).2.1
      exact Nat.not_succ_le_self sent bound
    intro first one second two attempt awaits waits
    rcases mem_replaced one with rfl | ⟨one, _⟩
    · rcases mem_replaced two with rfl | ⟨two, _⟩
      · rfl
      · exact absurd (waits.trans (awaits.symm.trans dispatched)) (later second two)
    · rcases mem_replaced two with rfl | ⟨two, _⟩
      · exact absurd (awaits.trans (waits.symm.trans dispatched)) (later first ‹_›)
      · exact numbering.apart first one second two attempt awaits waits

theorem hears {record : AttemptRecord} (numbering : Numbering records executions sent started)
    (running : execution ∈ executions) (same : next.number = execution.number)
    (own : record.execution = execution.number)
    (awaits : execution.stage.attempt? = some record.attempt)
    (idle : next.stage.attempt? = none) :
    Numbering (records ++ [record]) (replaced next executions) sent started where
  unique := by
    rw [numbers_replaced]
    exact numbering.unique
  begun := numbering.replaced_begun running same
  recorded := by
    obtain ⟨first, last, _⟩ := numbering.outstanding execution running _ awaits
    have begun := own ▸ numbering.begun execution running
    exact List.forall_mem_append.2
      ⟨numbering.recorded, List.forall_mem_singleton.2 ⟨begun, first, last⟩⟩
  distinct := by
    obtain ⟨_, _, unrecorded⟩ := numbering.outstanding execution running _ awaits
    simpa [List.nodup_append] using ⟨numbering.distinct, unrecorded⟩
  outstanding := by
    refine forall_replaced ?_ ?_
    · intro attempt waits
      cases idle.symm.trans waits
    · intro other member different attempt waits
      obtain ⟨first, last, unrecorded⟩ := numbering.outstanding other member attempt waits
      -- Two executions do not wait for the same attempt.
      have another : record.attempt ≠ attempt := by
        rintro rfl
        have own := numbering.apart other member execution running _ waits awaits
        exact different (own.trans same.symm)
      exact ⟨first, last,
        List.forall_mem_append.2 ⟨unrecorded, List.forall_mem_singleton.2 another⟩⟩
  apart := by
    intro first one second two attempt awaits waits
    rcases mem_replaced one with rfl | ⟨one, _⟩
    · cases idle.symm.trans awaits
    rcases mem_replaced two with rfl | ⟨two, _⟩
    · cases idle.symm.trans waits
    exact numbering.apart first one second two attempt awaits waits

theorem starts (numbering : Numbering records executions sent started)
    (idle : next.stage.attempt? = none) (number : next.number = started + 1) :
    Numbering records (executions ++ [next]) sent (started + 1) where
  unique := by
    have unused : ∀ execution ∈ executions, execution.number ≠ next.number := by
      intro execution running same
      have bound := numbering.begun execution running
      omega
    simpa [List.nodup_append] using ⟨numbering.unique, unused⟩
  begun := by
    refine List.forall_mem_append.2 ⟨?_, List.forall_mem_singleton.2 (Nat.le_of_eq number)⟩
    exact fun execution running => Nat.le_succ_of_le (numbering.begun execution running)
  recorded record member := by
    obtain ⟨begun, range⟩ := numbering.recorded record member
    exact ⟨Nat.le_succ_of_le begun, range⟩
  distinct := numbering.distinct
  outstanding := by
    refine List.forall_mem_append.2 ⟨numbering.outstanding, List.forall_mem_singleton.2 ?_⟩
    intro attempt awaits
    cases idle.symm.trans awaits
  apart := by
    intro first one second two attempt awaits waits
    rcases List.mem_append.1 one with one | new
    · rcases List.mem_append.1 two with two | new
      · exact numbering.apart first one second two attempt awaits waits
      · obtain rfl := List.mem_singleton.1 new
        cases idle.symm.trans waits
    · obtain rfl := List.mem_singleton.1 new
      cases idle.symm.trans awaits

end Numbering

namespace Run

variable {σ : Type}

def Numbered (run : Run) : Prop :=
  Numbering run.context.attempts run.executions run.attempts run.started

theorem numbered_update {run after : Run} {records : List AttemptRecord} {next : Execution}
    (numbering : Numbering records (replaced next run.executions) after.attempts after.started)
    (executions : after.executions = run.executions)
    (recorded : after.context.attempts = records) : (after.update next).Numbered := by
  subst recorded
  rw [← executions] at numbering
  exact numbering

theorem Numbered.enter {run : Run} (numbered : run.Numbered) (phase : Phase) :
    (run.enter phase).Numbered := by
  rw [Numbered, attempts_enter]
  exact numbered

theorem Numbered.startExecution {run : Run} (numbered : run.Numbered) (now : Nat) :
    (run.startExecution now).Numbered :=
  numbered.starts rfl rfl

theorem update_self {run : Run} {execution : Execution}
    (unique : (run.executions.map (·.number)).Nodup) (running : execution ∈ run.executions) :
    run.update execution = run := by
  have same := replaced_self unique running
  unfold replaced at same
  rw [update, same]

theorem finish_numbered {run : Run} {executions : List Execution}
    (numbering : Numbering run.context.attempts executions run.attempts run.started)
    (cluster : Cluster σ) (result : Except RequestError Success) (around : σ) :
    (run.finish cluster result around).1.Numbered := by
  have dropped := numbering.drops (List.nil_sublist executions)
  rw [← attempts_finish cluster run result around] at dropped
  exact dropped

theorem Numbered.heard {run : Run} {execution : Execution} {node : Node} {attempt started : Nat}
    {handle : Handle} (numbered : run.Numbered) (running : execution ∈ run.executions)
    (stage : execution.stage = .awaiting node attempt started handle) (latency : Nat)
    (error : Option AttemptError) (decision : Option RetryDecision) {next : Execution}
    (same : next.number = execution.number) (idle : next.stage.attempt? = none) :
    Numbering
      (run.context.attempts ++
        [run.attemptRecord execution node attempt started latency error decision])
      (replaced next run.executions) run.attempts run.started := by
  have awaits : execution.stage.attempt? = some attempt := by
    rw [stage]
    rfl
  exact numbered.hears running same rfl awaits idle

theorem Numbered.advanced {cluster : Cluster σ} {run after : Run} {execution next : Execution}
    {around later : σ} (numbered : run.Numbered) (running : execution ∈ run.executions)
    (advanced : Advanced cluster run execution around (.onward next) after later) :
    (after.update next).Numbered := by
  cases advanced with
  | begins =>
    refine numbered_update ?_ rfl (attempts_enter _ _)
    exact numbered.goesOn running rfl rfl
  | unusable => exact numbered_update (numbered.goesOn running rfl rfl) rfl rfl
  | usable => exact numbered_update (numbered.goesOn running rfl rfl) rfl rfl
  | refused => exact numbered_update (numbered.goesOn running rfl rfl) rfl rfl
  | sends =>
    refine numbered_update ?_ rfl (attempts_enter _ _)
    exact numbered.sends running rfl rfl
  | retries stage =>
    refine numbered_update ?_ rfl (attempts_enter _ _)
    exact numbered.heard running stage _ _ _ rfl rfl

theorem Numbered.ended {cluster : Cluster σ} {run after : Run} {execution : Execution}
    {how : ExecutionEnd} {around later : σ} (numbered : run.Numbered)
    (running : execution ∈ run.executions)
    (advanced : Advanced cluster run execution around (.ended how) after later) :
    ∃ executions, Numbering after.context.attempts executions after.attempts after.started := by
  -- It makes no difference what an execution would do next.
  let next : Execution := { execution with stage := .starting none }
  have same : next.number = execution.number := rfl
  cases advanced with
  | expired => exact ⟨_, numbered⟩
  | exhausted => exact ⟨_, numbered⟩
  | succeeds stage => exact ⟨_, numbered.heard running stage _ none none same rfl⟩
  | fails stage => exact ⟨_, numbered.heard running stage _ _ _ same rfl⟩

theorem numbered_kept (cluster : Cluster σ) : Kept cluster Numbered where
  woken _ numbered := numbered
  cancelled numbered := numbered
  turned := by
    intro run around after later _ _ numbered turned
    cases turned with
    | cancelled => exact finish_numbered numbered _ _ _
    | expired => exact finish_numbered numbered _ _ _
    | missed => exact numbered.drops List.filter_sublist
    | advanced running advanced => exact numbered.advanced running advanced
    | waited running =>
      rw [update_self numbered.unique running]
      exact numbered
    | dropped => exact numbered.drops List.filter_sublist
    | ended running advanced =>
      obtain ⟨executions, numbering⟩ := numbered.ended running advanced
      apply finish_numbered
      exact numbering
    | calmed => exact numbered
    | speculated =>
      have counted : Numbered ({ run with context := run.context.recordSpeculation }.record
        .speculativeExecution) := numbered
      exact (counted.enter _).startExecution _

theorem started_numbered {registry : ProfileRegistry} {codec : Codec} {context : RequestContext}
    {request : Request} {options : RequestOptions} {build : Plan → Run} (fresh : context.Fresh)
    (prepared : prepare registry codec context request options = .ok build) (plan : Plan)
    (now : Nat) : ((build plan).startExecution now).Numbered := by
  have unstarted := prepare_unstarted prepared plan
  obtain ⟨same, _, _⟩ := Submission.prepare_ok prepared plan
  refine Numbered.startExecution ?_ now
  rw [Numbered, same, fresh.attempts, unstarted.executions]
  exact .empty _ _

end Run

theorem Life.Reached.numbered {σ : Type} {cluster : Cluster σ} {registry : ProfileRegistry}
    {codec : Codec} {life : Life σ} (reached : life.Reached cluster registry codec) {run : Run}
    (underWay : life.submission.current? = some run) : run.Numbered := by
  obtain ⟨own, same, rfl⟩ := Option.map_eq_some_iff.1 underWay
  have lasting : Run.Lasting cluster registry codec life.submission.request
      life.submission.options Run.Numbered :=
    { Run.numbered_kept cluster with
      started := fun _ now fresh prepared => Run.started_numbered fresh prepared _ now }
  exact (reached.lasts lasting).runs same

end ClusterDriver
