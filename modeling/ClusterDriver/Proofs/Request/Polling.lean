import ClusterDriver.Proofs.Request.Budget

set_option autoImplicit false

namespace ClusterDriver

def Stage.hungry : Stage → Nat
  | .starting none | .seeking _ none => 1
  | _ => 0

def Execution.hunger (woken : List Nat) (execution : Execution) : Nat :=
  if execution.number ∈ woken then execution.stage.hungry else 0

def Execution.weight (limit : Nat) (execution : Execution) : Nat :=
  4 * execution.tries limit + execution.stage.rest

theorem Execution.weight_le (limit : Nat) (execution : Execution) :
    execution.weight limit ≤ 4 * (limit + 2) := by
  unfold weight tries Stage.rest
  split <;> simp_all <;> omega

theorem totalOf_congr {weight other : Execution → Nat} {executions : List Execution}
    (same : ∀ execution ∈ executions, weight execution = other execution) :
    totalOf weight executions = totalOf other executions := by
  induction executions with
  | nil => rfl
  | cons execution rest ih =>
    obtain ⟨first, others⟩ := List.forall_mem_cons.1 same
    rw [totalOf_cons, totalOf_cons, first, ih others]

theorem totalOf_le {weight : Execution → Nat} {bound : Nat}
    (each : ∀ execution, weight execution ≤ bound) (executions : List Execution) :
    totalOf weight executions ≤ executions.length * bound := by
  induction executions with
  | nil => simp
  | cons execution rest ih =>
    have first := each execution
    rw [totalOf_cons, List.length_cons, Nat.succ_mul]
    omega

theorem Execution.hunger_without {woken : List Nat} {number : Nat} {execution : Execution}
    (different : execution.number ≠ number) :
    execution.hunger (woken.filter fun other => other ≠ number) = execution.hunger woken := by
  simp [hunger, different]

theorem length_without_lt {woken : List Nat} {number : Nat} (member : number ∈ woken) :
    (woken.filter fun other => other ≠ number).length < woken.length :=
  List.length_filter_lt_length_iff_exists.2 ⟨number, member, by simp⟩

namespace Run

variable {σ : Type} {cluster : Cluster σ} {run after : Run} {execution next : Execution}
  {around later : σ}

/-- The turns that a poll may still take. Another execution is started only while nodes are left and
none of those that run is about to take one, so each of them pays for one. -/
def stepsLeft (run : Run) : Nat :=
  4 * run.reserve + totalOf (·.weight run.profile.maxSameNodeRetries) run.executions +
    run.woken.length + run.speculation.toList.length +
    4 * (run.plan.remaining.length - totalOf (·.hunger run.woken) run.executions)

theorem Advanced.appetite
    (advanced : Advanced cluster run execution around (.onward next) after later) :
    after.plan.remaining.length + execution.stage.hungry ≤
      run.plan.remaining.length + next.stage.hungry := by
  cases advanced with
  | @begins preferred stage => cases preferred <;> simp [Stage.hungry, stage, enter]
  | unusable stage candidate =>
    cases candidate with
    | same => simp [Stage.hungry, stage, noteNodeError]
    | next planned => simp [Stage.hungry, stage, planned, noteNodeError]
  | usable stage candidate =>
    cases candidate with
    | same => simp [Stage.hungry, stage]
    | next planned => simp [Stage.hungry, stage, planned]
  | refused stage => simp [Stage.hungry, stage, noteNodeError]
  | sends stage => simp [Stage.hungry, stage, dispatched, enter, record]
  | retries stage => simp [Stage.hungry, stage, Run.retried, settled, enter, record]

theorem turn?_cases (turned : run.turn? cluster around = some (after, later)) :
    after.finished = true ∨
      (run.context.isExpired (cluster.now around) = false ∧
        ∃ number ∈ run.woken, run.take? cluster around (.execution number) = some (after, later)) ∨
      (run.woken = [] ∧ run.take? cluster around .speculation = some (after, later)) := by
  unfold turn? at turned
  split at turned
  · cases turned
  split at turned
  · cases turned
    exact .inl rfl
  split at turned
  · cases turned
    exact .inl rfl
  next early =>
    split at turned
    next number rest woken =>
      refine .inr (.inl ⟨by simpa using early, number, ?_, turned⟩)
      simp [woken]
    next idle =>
      split at turned
      · cases turned
      next due speculation =>
        split at turned
        next reached =>
          exact .inr (.inr ⟨idle, by simpa [take?, speculation, reached] using turned⟩)
        · cases turned

section Steps

variable {number : Nat}

theorem stepsLeft_missed (woken : number ∈ run.woken)
    (unknown : run.executions.find? (fun execution => execution.number = number) = none) :
    (run.remove number).stepsLeft < run.stepsLeft := by
  have executions := remove_unknown unknown
  have fewer := length_without_lt woken
  have hunger : totalOf (·.hunger (run.remove number).woken) run.executions =
      totalOf (·.hunger run.woken) run.executions := by
    refine totalOf_congr fun execution running => Execution.hunger_without ?_
    simpa using List.find?_eq_none.1 unknown execution running
  have reserve : (run.remove number).reserve = run.reserve := rfl
  simp only [stepsLeft, executions, hunger, reserve]
  simp only [remove]
  omega

theorem stepsLeft_onward (numbered : run.Numbered) (fits : execution.stage.Fits)
    (running : execution ∈ run.executions) (woken : execution.number ∈ run.woken)
    (advanced : Advanced cluster run execution around (.onward next) after later) :
    (after.update next).stepsLeft < run.stepsLeft := by
  obtain ⟨_, _, costs⟩ := advanced.costs fits
  have executions := advanced.updated
  have reserve : (after.update next).reserve = after.reserve := rfl
  have profile : (after.update next).profile = run.profile := advanced.profile
  have same : (after.update next).woken = run.woken := advanced.woken
  have speculation : (after.update next).speculation = run.speculation := advanced.speculation
  have plan : (after.update next).plan = after.plan := rfl
  have weight := totalOf_replaced (·.weight run.profile.maxSameNodeRetries) numbered.unique running
    advanced.number
  have hunger := totalOf_replaced (·.hunger run.woken) numbered.unique running advanced.number
  have appetite := advanced.appetite
  simp only [Execution.hunger, advanced.number, woken, if_true] at hunger
  simp only [effort, purse, advanced.profile] at costs
  simp only [Execution.weight] at weight
  simp only [stepsLeft, executions, reserve, profile, same, speculation, plan, Execution.hunger,
    Execution.weight]
  omega

theorem Advanced.not_hungry
    (advanced : Advanced cluster run execution around (.waiting next) after later) :
    execution.stage.hungry = 0 := by
  cases advanced with
  | unconnected stage => simp [Stage.hungry, stage]
  | unanswered stage => simp [Stage.hungry, stage]

theorem stepsLeft_waits (numbered : run.Numbered) (running : execution ∈ run.executions)
    (woken : execution.number ∈ run.woken)
    (advanced : Advanced cluster run execution around (.waiting execution) run later) :
    stepsLeft { run.update execution with
      woken := run.woken.filter fun other => other ≠ execution.number } < run.stepsLeft := by
  have fewer := length_without_lt woken
  have hunger : totalOf (·.hunger (run.woken.filter fun other => other ≠ execution.number))
      run.executions = totalOf (·.hunger run.woken) run.executions := by
    refine totalOf_congr fun other member => ?_
    by_cases same : other.number = execution.number
    · obtain rfl := List.inj_on_of_nodup_map numbered.unique member running same
      simp [Execution.hunger, advanced.not_hungry]
    · exact Execution.hunger_without same
  rw [update_self numbered.unique running]
  simp only [stepsLeft, hunger, reserve]
  omega

theorem stepsLeft_stops {how : ExecutionEnd} (numbered : run.Numbered)
    (running : execution ∈ run.executions) (woken : execution.number ∈ run.woken)
    (early : run.context.isExpired (cluster.now around) = false)
    (stops : Stops cluster run execution around how) :
    (run.remove execution.number).stepsLeft < run.stepsLeft := by
  cases stops with
  | expired _ late => cases early.symm.trans late
  | exhausted _ planned =>
    have fewer := length_without_lt woken
    have weight := totalOf_without (·.weight run.profile.maxSameNodeRetries) numbered.unique running
    have reserve : (run.remove execution.number).reserve = run.reserve := rfl
    simp only [stepsLeft, reserve]
    simp only [remove, planned, List.length_nil, Nat.zero_sub]
    omega

theorem stepsLeft_calmed (armed : run.speculation ≠ none) :
    stepsLeft { run with speculation := none } < run.stepsLeft := by
  obtain ⟨due, same⟩ := Option.ne_none_iff_exists'.1 armed
  simp only [stepsLeft, same, reserve, Option.toList, List.length_nil, List.length_singleton]
  omega

theorem stepsLeft_startExecution (idle : run.woken = []) (armed : run.speculation ≠ none)
    (planned : run.plan.remaining ≠ []) (now : Nat) :
    (run.startExecution now).stepsLeft < run.stepsLeft := by
  have weight : totalOf (·.weight run.profile.maxSameNodeRetries)
      (run.startExecution now).executions =
        totalOf (·.weight run.profile.maxSameNodeRetries) run.executions + 2 := by
    simp [Run.startExecution, Execution.weight, Execution.tries, Stage.rest]
  have hungry : 1 ≤ totalOf (·.hunger (run.startExecution now).woken)
      (run.startExecution now).executions := by
    simp [Run.startExecution, Execution.hunger, Stage.hungry]
  have resting : ∀ execution : Execution, execution.hunger run.woken ≤ 0 := by
    intro execution
    simp [idle, Execution.hunger]
  have sated : totalOf (·.hunger run.woken) run.executions = 0 := by
    simpa using totalOf_le resting run.executions
  have reserve : (run.startExecution now).reserve = run.reserve := rfl
  have profile : (run.startExecution now).profile = run.profile := rfl
  have plan : (run.startExecution now).plan = run.plan := rfl
  have woken : (run.startExecution now).woken.length = 1 := by simp [Run.startExecution, idle]
  have left : 1 ≤ run.plan.remaining.length := List.length_pos_iff.2 planned
  have armedOnce : run.speculation.toList.length = 1 := by
    obtain ⟨due, same⟩ := Option.ne_none_iff_exists'.1 armed
    simp [same]
  have atMostOnce : (run.startExecution now).speculation.toList.length ≤ 1 := by
    cases (run.startExecution now).speculation <;> simp
  have asleep : run.woken.length = 0 := by simp [idle]
  simp only [stepsLeft, weight, reserve, profile, plan, woken, sated, asleep, armedOnce]
  omega

theorem turn?_stepsLeft (numbered : run.Numbered) (fits : ∀ execution ∈ run.executions,
    execution.stage.Fits) (turned : run.turn? cluster around = some (after, later)) :
    after.finished = true ∨ after.stepsLeft < run.stepsLeft := by
  rcases turn?_cases turned with finished | ⟨early, number, woken, taken⟩ | ⟨idle, taken⟩
  · exact .inl finished
  · cases take?_taken taken with
    | missed unknown => exact .inr (stepsLeft_missed woken unknown)
    | driven found driven =>
      have running := List.mem_of_find?_eq_some found
      cases driven with
      | onward step =>
        exact .inr (stepsLeft_onward numbered (fits _ running) running woken
          (advanced_of_step step))
      | waits step => exact .inr (stepsLeft_waits numbered running woken (advanced_of_step step))
      | stops _ stops => exact .inr (stepsLeft_stops numbered running woken early stops)
      | ends => exact .inl rfl
  · refine .inr ?_
    cases take?_taken taken with
    | calmed due => exact stepsLeft_calmed due
    | speculated due planned =>
      apply stepsLeft_startExecution
      · exact idle
      · exact due
      · exact planned

theorem stepsLeft_lt_stepLimit (awake : run.woken.length ≤ run.executions.length) :
    run.stepsLeft < run.stepLimit := by
  have weight : totalOf (·.weight run.profile.maxSameNodeRetries) run.executions ≤
      run.executions.length * (4 * (run.profile.maxSameNodeRetries + 2)) :=
    totalOf_le (Execution.weight_le run.profile.maxSameNodeRetries) run.executions
  have armed : run.speculation.toList.length ≤ 1 := by cases run.speculation <;> simp
  simp only [stepsLeft, stepLimit, reserve]
  generalize run.plan.remaining.length = nodes
  generalize run.executions.length = running at *
  generalize run.profile.maxSameNodeRetries = retries at *
  have each : nodes * (1 + retries) + nodes = nodes * (retries + 2) := by
    rw [← Nat.mul_succ, Nat.succ_eq_add_one, show 1 + retries + 1 = retries + 2 by omega]
  have one : running ≤ running * (retries + 2) := Nat.le_mul_of_pos_right running (by omega)
  have all : running * (4 * (retries + 2)) = 4 * (running * (retries + 2)) :=
    Nat.mul_left_comm running 4 (retries + 2)
  have limit : 8 * (nodes + running + 2) * (retries + 2) =
      8 * (nodes * (retries + 2)) + 8 * (running * (retries + 2)) + 16 * (retries + 2) := by
    rw [Nat.mul_assoc, Nat.add_mul, Nat.add_mul]
    omega
  omega

end Steps

theorem steps_rest {limit more : Nat} (enough : limit ≤ more)
    (rests : (run.steps cluster limit around).1.turn? cluster
      (run.steps cluster limit around).2 = none) :
    run.steps cluster more around = run.steps cluster limit around := by
  induction limit generalizing more run around with
  | zero =>
    cases more with
    | zero => rfl
    | succ more =>
      simp only [Run.steps] at rests ⊢
      rw [rests]
  | succ limit ih =>
    cases more with
    | zero => cases enough
    | succ more =>
      simp only [Run.steps] at rests ⊢
      split
      next => rfl
      next after later turned =>
        simp only [turned] at rests
        exact ih (Nat.le_of_succ_le_succ enough) rests

namespace Course

variable {registry : ProfileRegistry} {codec : Codec} {request : Request}
  {options : RequestOptions} {plan : Plan} {first : Run} {start : σ} {history : List (Moment σ)}

theorem steps_end (course : Course cluster first start history run around)
    (begins : Begins registry codec request options plan first) {limit : Nat}
    (enough : run.stepsLeft < limit) :
    (run.steps cluster limit around).1.turn? cluster (run.steps cluster limit around).2 = none := by
  induction limit generalizing history run around with
  | zero => omega
  | succ limit ih =>
    simp only [Run.steps]
    split
    next rests => exact rests
    next after later turned =>
      obtain ⟨unfinished, _⟩ := turn?_turned turned
      obtain ⟨turn, taken⟩ := turn?_take? turned
      have onward := course.turns unfinished taken
      rcases turn?_stepsLeft (course.numbered begins) (course.budgeted begins).fits turned with
        finished | fewer
      · rw [steps_finished cluster limit later finished]
        simp [turn?, finished]
      · exact ih onward (by omega)

end Course

end Run

/-- However many steps a worker may take with a request, it does not take more than it takes within
the limit of a poll, and then there is none left to take. -/
theorem Life.Reached.polls_end {σ : Type} {cluster : Cluster σ} {registry : ProfileRegistry}
    {codec : Codec} {life : Life σ} {run : Run} (reached : life.Reached cluster registry codec)
    (underWay : life.submission.current? = some run)
    (awake : run.woken.length ≤ run.executions.length) (around : σ) :
    let polled := run.steps cluster run.stepLimit around
    polled.1.turn? cluster polled.2 = none ∧
      ∀ limit, run.stepLimit ≤ limit → run.steps cluster limit around = polled := by
  obtain ⟨plan, history, _, first, start, begins, course⟩ := reached.course underWay
  have rests := (course.changes around).steps_end begins (Run.stepsLeft_lt_stepLimit awake)
  exact ⟨rests, fun limit enough => Run.steps_rest enough rests⟩

end ClusterDriver
