import ClusterDriver.Proofs.Request.Course

set_option autoImplicit false

namespace ClusterDriver

/-- A node that an execution is to try again is the one that its retry asked for. -/
def Stage.Fits : Stage → Prop
  | .seeking retryingOn (some node) => retryingOn = some node.address
  | _ => True

/-- The attempts and refusals that an execution may still come to without another node of the plan,
when the same node is retried at most `limit` times. -/
def Execution.tries (limit : Nat) (execution : Execution) : Nat :=
  match execution.stage with
  | .starting none | .seeking _ none => 0
  | .starting (some _) | .seeking _ (some _) => 1 + (limit - execution.sameNodeRetries)
  | .acquiring retryingOn node _ =>
      1 + (limit - if retryingOn = some node.address then execution.sameNodeRetries else 0)
  | .awaiting _ _ _ _ => limit - execution.sameNodeRetries

def Stage.rest : Stage → Nat
  | .awaiting _ _ _ _ => 3
  | .starting _ => 2
  | .seeking _ _ => 1
  | .acquiring _ _ _ => 0

namespace Run

variable {σ : Type} {cluster : Cluster σ} {run after : Run} {execution next : Execution}
  {around later : σ}

def reserve (run : Run) : Nat :=
  run.plan.remaining.length * (1 + run.profile.maxSameNodeRetries)

/-- What all that are left, and the node that an execution has in hand, are good for to it. -/
def purse (run : Run) (execution : Execution) : Nat :=
  run.reserve + execution.tries run.profile.maxSameNodeRetries

def used (run : Run) : Nat := run.attempts + run.nodeErrors.length

def effort (run : Run) (execution : Execution) : Nat :=
  4 * run.purse execution + execution.stage.rest

theorem Advanced.fits
    (advanced : Advanced cluster run execution around (.onward next) after later) :
    next.stage.Fits := by
  cases advanced with
  | @begins preferred => cases preferred <;> simp [Stage.Fits]
  | _ => trivial

theorem Advanced.costs (fits : execution.stage.Fits)
    (advanced : Advanced cluster run execution around (.onward next) after later) :
    after.reserve ≤ run.reserve ∧
      after.used + after.purse next ≤ run.used + run.purse execution ∧
      after.effort next < run.effort execution := by
  -- What an execution may still use comes from the plan: taking a node moves its share from
  -- the reserve to the purse.
  cases advanced with
  | @begins preferred stage =>
    have reserve : (run.enter .awaitingChannel).reserve = run.reserve := rfl
    have used : (run.enter .awaitingChannel).used = run.used := rfl
    have profile : (run.enter .awaitingChannel).profile = run.profile := rfl
    simp only [effort, purse, Execution.tries, Stage.rest, stage, reserve, used, profile]
    cases preferred <;> simp only <;> omega
  | unusable stage candidate =>
    cases candidate with
    | same =>
      simp only [effort, purse, used, reserve, Execution.tries, Stage.rest, stage, noteNodeError,
        List.length_append, List.length_singleton]
      omega
    | next planned =>
      simp only [effort, purse, used, reserve, Execution.tries, Stage.rest, stage, noteNodeError,
        planned, List.length_append, List.length_cons, List.length_nil, Nat.add_mul]
      omega
  | usable stage candidate =>
    rw [stage] at fits
    cases candidate with
    | same =>
      have retrying : _ = some _ := fits
      simp only [effort, purse, used, reserve, Execution.tries, Stage.rest, stage, retrying, if_true]
      omega
    | next planned =>
      simp only [effort, purse, used, reserve, Execution.tries, Stage.rest, stage, planned,
        List.length_cons, Nat.add_mul]
      omega
  | refused stage =>
    simp only [effort, purse, used, reserve, Execution.tries, Stage.rest, stage, noteNodeError,
      List.length_append, List.length_singleton]
    omega
  | @sends retryingOn node pool handle later stage =>
    have reserve : (run.dispatched node).reserve = run.reserve := rfl
    have used : (run.dispatched node).used = run.used + 1 := by
      simp only [Run.used, dispatched, enter, record]
      omega
    have profile : (run.dispatched node).profile = run.profile := rfl
    simp only [effort, purse, Execution.tries, Stage.rest, stage, reserve, used, profile]
    omega
  | @retries node attempt started latency handle cause decision preferred _ _ stage _ decided again =>
    have reserve (record : AttemptRecord) : (run.settled record).retried.reserve =
        run.reserve := rfl
    have used (record : AttemptRecord) : (run.settled record).retried.used = run.used := rfl
    have profile (record : AttemptRecord) : (run.settled record).retried.profile =
        run.profile := rfl
    simp only [effort, purse, Execution.tries, Stage.rest, stage, reserve, used, profile]
    cases again with
    | same =>
      have allowed := ((decide_judged decided).2.1 rfl).2
      simp only [Option.isSome, if_true]
      omega
    | next =>
      simp only
      omega

theorem Advanced.effort_pos {how : ExecutionEnd}
    (advanced : Advanced cluster run execution around (.ended how) after later) :
    0 < run.effort execution := by
  cases advanced with
  | expired stage => simp [effort, Stage.rest, stage]
  | exhausted stage => simp [effort, Stage.rest, stage]
  | succeeds stage => simp [effort, Stage.rest, stage]
  | fails stage => simp [effort, Stage.rest, stage]

/-- What all executions together have used of a plan, with what is left to them. -/
structure Budgeted (total : Nat) (run : Run) : Prop where
  fits : ∀ execution ∈ run.executions, execution.stage.Fits
  spent : run.used + run.reserve +
    totalOf (·.tries run.profile.maxSameNodeRetries) run.executions ≤ total

namespace Budgeted

variable {total : Nat}

theorem finish (spent : run.used + run.reserve ≤ total) (cluster : Cluster σ)
    (result : Except RequestError Success) (around : σ) :
    (run.finish cluster result around).1.Budgeted total where
  fits execution running := by cases running
  spent := spent

theorem of_alike (budgeted : run.Budgeted total) (alike : Alike run after)
    (profile : after.profile = run.profile) : after.used + after.reserve ≤ total := by
  have spent := budgeted.spent
  simp only [used, reserve, alike.attempts, alike.nodeErrors, alike.plan, profile] at spent ⊢
  omega

theorem onward (budgeted : run.Budgeted total) (numbered : run.Numbered)
    (running : execution ∈ run.executions)
    (advanced : Advanced cluster run execution around (.onward next) after later) :
    (after.update next).Budgeted total := by
  have executions := advanced.updated
  constructor
  · rw [executions]
    exact forall_replaced advanced.fits fun other member _ => budgeted.fits other member
  · have moved := totalOf_replaced (·.tries run.profile.maxSameNodeRetries) numbered.unique running
      advanced.number
    obtain ⟨_, costs, _⟩ := advanced.costs (budgeted.fits execution running)
    have spent := budgeted.spent
    have profile : (after.update next).profile = run.profile := advanced.profile
    have used : (after.update next).used = after.used := rfl
    have reserve : (after.update next).reserve = after.reserve := rfl
    simp only [purse, advanced.profile] at costs
    rw [executions, profile, used, reserve]
    omega

theorem stops (budgeted : run.Budgeted total) (numbered : run.Numbered)
    (running : execution ∈ run.executions) : (run.remove execution.number).Budgeted total where
  fits other member := budgeted.fits other (List.mem_of_mem_filter member)
  spent := by
    have moved := totalOf_without (·.tries run.profile.maxSameNodeRetries) numbered.unique running
    have spent := budgeted.spent
    have used : (run.remove execution.number).used = run.used := rfl
    have reserve : (run.remove execution.number).reserve = run.reserve := rfl
    simp only [remove] at used reserve ⊢
    omega

theorem startExecution (budgeted : run.Budgeted total) (now : Nat) :
    (run.startExecution now).Budgeted total where
  fits := List.forall_mem_append.2 ⟨budgeted.fits, List.forall_mem_singleton.2 trivial⟩
  spent := by
    have spent := budgeted.spent
    have used : (run.startExecution now).used = run.used := rfl
    have reserve : (run.startExecution now).reserve = run.reserve := rfl
    rw [used, reserve]
    simpa [Run.startExecution, Execution.tries] using spent

theorem taken {turn : Turn} (budgeted : run.Budgeted total) (numbered : run.Numbered)
    (taken : Taken cluster run around turn after later) : after.Budgeted total := by
  have within : run.used + run.reserve ≤ total := Nat.le_trans (Nat.le_add_right _ _) budgeted.spent
  cases taken with
  | cancelled => exact .finish within _ _ _
  | expired => exact .finish within _ _ _
  | missed unknown =>
    have executions := remove_unknown unknown
    exact ⟨executions ▸ budgeted.fits, executions ▸ budgeted.spent⟩
  | driven found driven =>
    have running := List.mem_of_find?_eq_some found
    cases driven with
    | onward step => exact budgeted.onward numbered running (advanced_of_step step)
    | waits =>
      rw [update_self numbered.unique running]
      exact { budgeted with }
    | stops => exact budgeted.stops numbered running
    | ends step =>
      have advanced := advanced_of_step step
      have still := budgeted.of_alike advanced.ended_alike advanced.profile
      apply finish
      exact still
  | calmed => exact { budgeted with }
  | speculated =>
    apply startExecution
    exact { budgeted with }

end Budgeted

def Progress.isWaiting : Progress → Bool
  | .waiting _ => true
  | _ => false

def Moment.getsOn (cluster : Cluster σ) (moment : Moment σ) (number : Nat) : Bool :=
  match moment.execution? with
  | none => false
  | some execution =>
      !(moment.run.advance cluster execution moment.around).1.isWaiting &&
        execution.number == number

def gains (cluster : Cluster σ) (history : List (Moment σ)) (number : Nat) : Nat :=
  history.countP fun moment => moment.getsOn cluster number

def gained (gains : Nat → Nat) (number : Nat) : Nat → Nat :=
  fun other => if other = number then gains other + 1 else gains other

theorem gains_still (history : List (Moment σ)) {moment : Moment σ}
    (still : ∀ number, moment.getsOn cluster number = false) :
    gains cluster (history ++ [moment]) = gains cluster history := by
  funext number
  simp [gains, still]

theorem gains_getsOn (history : List (Moment σ)) {moment : Moment σ} {number : Nat}
    (getsOn : ∀ other, moment.getsOn cluster other = (number == other)) :
    gains cluster (history ++ [moment]) = gained (gains cluster history) number := by
  funext other
  by_cases same : number = other
  · simp [gains, gained, getsOn, same]
  · simp [gains, gained, getsOn, same, Ne.symm same]

theorem getsOn_advance {number : Nat} {progress : Progress}
    (found : run.executions.find? (fun other => other.number = execution.number) = some execution)
    (step : run.advance cluster execution around = (progress, after, later)) :
    (Moment.mk run around (.execution execution.number)).getsOn cluster number =
      (!progress.isWaiting && execution.number == number) := by
  simp only [Moment.getsOn, Moment.execution?, found, step]

structure Paced (total : Nat) (gains : Nat → Nat) (run : Run) : Prop where
  unstarted : ∀ number, run.started < number → gains number = 0
  running : ∀ execution ∈ run.executions,
    gains execution.number + run.effort execution ≤ 4 * total + 2
  every : ∀ number, gains number ≤ 4 * total + 2

namespace Paced

variable {total : Nat} {gains : Nat → Nat}

theorem fewer (paced : run.Paced total gains) (fewer : after.executions ⊆ run.executions)
    (started : after.started = run.started) (reserve : after.reserve = run.reserve)
    (profile : after.profile = run.profile) : after.Paced total gains where
  unstarted number := started ▸ paced.unstarted number
  running execution member := by
    have before := paced.running execution (fewer member)
    simpa only [effort, purse, reserve, profile] using before
  every := paced.every

theorem finish (paced : run.Paced total gains) (started : after.started = run.started)
    (result : Except RequestError Success) (around : σ) :
    (after.finish cluster result around).1.Paced total gains where
  unstarted number := started ▸ paced.unstarted number
  running execution member := by cases member
  every := paced.every

theorem gained_of_lt {number : Nat} (begun : number ≤ run.started)
    (unstarted : ∀ number, run.started < number → gains number = 0) :
    ∀ other, run.started < other → gained gains number other = 0 := by
  intro other later
  have different : other ≠ number := by omega
  simpa [gained, different] using unstarted other later

theorem gained_le {limit number : Nat} (every : ∀ other, gains other ≤ limit)
    (further : gains number + 1 ≤ limit) (other : Nat) : gained gains number other ≤ limit := by
  unfold gained
  split
  next same =>
    subst same
    exact further
  next => exact every other

theorem onward (paced : run.Paced total gains) (numbered : run.Numbered)
    (fits : execution.stage.Fits) (running : execution ∈ run.executions)
    (advanced : Advanced cluster run execution around (.onward next) after later) :
    (after.update next).Paced total (gained gains execution.number) := by
  obtain ⟨reserve, _, costs⟩ := advanced.costs fits
  have before := paced.running execution running
  have executions := advanced.updated
  have started : (after.update next).started = run.started := advanced.started
  refine ⟨?_, ?_, gained_le paced.every (by omega)⟩
  · rw [started]
    exact gained_of_lt (numbered.begun execution running) paced.unstarted
  · rw [executions]
    refine forall_replaced ?_ fun other member different => ?_
    · have effort : (after.update next).effort next = after.effort next := rfl
      simp only [gained, advanced.number, if_true, effort]
      omega
    · -- What the plan has lost, the others have lost as well.
      have own := paced.running other member
      have effort : (after.update next).effort other = after.effort other := rfl
      rw [advanced.number] at different
      simp only [gained, different, if_false, effort]
      simp only [Run.effort, purse, advanced.profile] at own ⊢
      omega

theorem ends (paced : run.Paced total gains) (numbered : run.Numbered)
    (running : execution ∈ run.executions) (effort : 0 < run.effort execution) :
    (run.remove execution.number).Paced total (gained gains execution.number) where
  unstarted := gained_of_lt (numbered.begun execution running) paced.unstarted
  running other member := by
    obtain ⟨member, different⟩ := List.mem_filter.1 member
    have own := paced.running other member
    have different : other.number ≠ execution.number := of_decide_eq_true different
    simp only [gained, different, if_false]
    exact own
  every := by
    have before := paced.running execution running
    exact gained_le paced.every (by omega)

theorem startExecution (paced : run.Paced total gains) (room : run.reserve ≤ total) (now : Nat) :
    (run.startExecution now).Paced total gains where
  unstarted number later := by
    refine paced.unstarted number ?_
    have started : (run.startExecution now).started = run.started + 1 := rfl
    omega
  running := by
    refine List.forall_mem_append.2 ⟨?_, List.forall_mem_singleton.2 ?_⟩
    · exact fun execution member => paced.running execution member
    · have unstarted := paced.unstarted (run.started + 1) (Nat.lt_succ_self _)
      have reserve : (run.startExecution now).reserve = run.reserve := rfl
      simp only [unstarted, effort, purse, Execution.tries, Stage.rest, reserve]
      omega
  every := paced.every

end Paced

namespace Course

variable {registry : ProfileRegistry} {codec : Codec} {request : Request}
  {options : RequestOptions} {plan : Plan} {first : Run} {start : σ} {history : List (Moment σ)}

theorem budgeted (course : Course cluster first start history run around)
    (begins : Begins registry codec request options plan first) :
    run.Budgeted first.reserve := by
  induction course with
  | opens =>
    have initial := begins.initial
    refine ⟨?_, ?_⟩
    · rw [initial.executions]
      exact List.forall_mem_singleton.2 trivial
    · simp [used, initial.attempts, initial.nodeErrors, initial.executions,
        Execution.tries]
  | changes _ _ ih => exact ih
  | wakes _ _ ih => exact { ih with }
  | cancels _ ih => exact { ih with }
  | turns course _ taken ih => exact ih.taken (course.numbered begins) (take?_taken taken)

theorem paced (course : Course cluster first start history run around)
    (begins : Begins registry codec request options plan first) :
    run.Paced first.reserve (gains cluster history) := by
  induction course with
  | opens =>
    have initial := begins.initial
    refine ⟨fun _ _ => rfl, ?_, fun _ => Nat.zero_le _⟩
    rw [initial.executions]
    refine List.forall_mem_singleton.2 ?_
    simp [gains, effort, purse, Execution.tries, Stage.rest]
  | changes _ _ ih => exact ih
  | wakes _ _ ih => exact { ih with }
  | cancels _ ih => exact { ih with }
  | @turns history run after around later turn course _ taken ih =>
    have numbered := course.numbered begins
    have budgeted := course.budgeted begins
    cases take?_taken taken with
    | cancelled =>
      rw [gains_still history fun _ => rfl]
      exact ih.finish rfl _ _
    | expired =>
      rw [gains_still history fun _ => rfl]
      exact ih.finish rfl _ _
    | missed unknown =>
      rw [gains_still history fun number => by simp only [Moment.getsOn, Moment.execution?, unknown]]
      exact ih.fewer (List.filter_subset_self _) rfl rfl rfl
    | calmed =>
      rw [gains_still history fun _ => rfl]
      exact { ih with }
    | speculated =>
      rw [gains_still history fun _ => rfl]
      -- The new execution can only count on what is left of the plan.
      have room : run.reserve ≤ first.reserve := by
        have spent := budgeted.spent
        omega
      apply Paced.startExecution
      · exact { ih with }
      · exact room
    | driven found driven =>
      have running := List.mem_of_find?_eq_some found
      cases driven with
      | onward step =>
        rw [gains_getsOn history fun other => getsOn_advance found step]
        exact ih.onward numbered (budgeted.fits _ running) running (advanced_of_step step)
      | waits step =>
        rw [gains_still history fun other => getsOn_advance found step]
        rw [update_self numbered.unique running]
        exact { ih with }
      | stops step =>
        rw [gains_getsOn history fun other => getsOn_advance found step]
        exact ih.ends numbered running (advanced_of_step step).effort_pos
      | @ends how middle informed step =>
        rw [gains_getsOn history fun other => getsOn_advance found step]
        have advanced := advanced_of_step step
        have ended := ih.ends numbered running advanced.effort_pos
        apply ended.finish
        exact advanced.started

end Course

end Run

namespace Life

variable {σ : Type} {cluster : Cluster σ} {registry : ProfileRegistry} {codec : Codec}

/-- The length of its plan bounds what a request does, whatever its policies decide: no place of the
plan is taken twice, each is good for one attempt and for as many more as the same node may be
retried, and no execution gets on more often than that allows. -/
theorem Given.plan_bounds_attempts {plan : Plan} {life : Life σ} {profile : Profile} {run : Run}
    (given : life.Given cluster registry codec plan)
    (found : registry.find? (life.submission.options.profile.getD defaultProfileName) =
      some profile)
    (underWay : life.submission.current? = some run) :
    (∃ history, life.Traced cluster registry codec plan history run) ∧
      ∀ history, life.Traced cluster registry codec plan history run →
        (Run.pulls history).map (·.2) ++ run.plan.remaining = plan.remaining ∧
        run.attempts = (Run.sends cluster history).length ∧
        (Run.sends cluster history).length + (Run.refusals cluster history).length ≤
          plan.remaining.length * (1 + profile.maxSameNodeRetries) ∧
        ∀ number, Run.gains cluster history number ≤
          4 * (plan.remaining.length * (1 + profile.maxSameNodeRetries)) + 2 := by
  refine ⟨given.course underWay, fun history traced => ?_⟩
  obtain ⟨_, first, start, begins, course⟩ := traced
  have initial := begins.initial
  have pulled := course.pulls_remaining
  have sent := course.sends_attempts
  have refused := course.refusals_nodeErrors
  rw [initial.plan] at pulled
  rw [initial.attempts, Nat.zero_add] at sent
  rw [initial.nodeErrors, List.nil_append] at refused
  obtain rfl : profile = first.profile :=
    Option.some.inj (found.symm.trans begins.prepared.profile)
  have total : first.reserve =
      plan.remaining.length * (1 + first.profile.maxSameNodeRetries) := by
    rw [Run.reserve, initial.plan]
  rw [← total]
  refine ⟨pulled, sent, ?_, (course.paced begins).every⟩
  have spent := (course.budgeted begins).spent
  rw [Run.used, sent, refused] at spent
  omega

def persistent : Life Script :=
  (submitted (.query ByteArray.empty) {} 1 0 100
    { replies := List.replicate 9 (errorReply .overloaded) }).act
    (scripted [nodeAt 1, nodeAt 1]) (deciding [.retrySameNode]) .passThrough .start

theorem persistent_plan_bounds_attempts :
    persistent.Given (scripted [nodeAt 1, nodeAt 1]) (deciding [.retrySameNode]) .passThrough
        ⟨[nodeAt 1, nodeAt 1]⟩ ∧
      ∃ profile run, (deciding [.retrySameNode]).find? defaultProfileName = some profile ∧
        profile.maxSameNodeRetries = 1 ∧ persistent.submission.current? = some run ∧
        run.attempts = 4 ∧ ∃ history,
          persistent.Traced (scripted [nodeAt 1, nodeAt 1]) (deciding [.retrySameNode]) .passThrough
            ⟨[nodeAt 1, nodeAt 1]⟩ history run ∧
          (Run.pulls history).map (·.2) = [nodeAt 1, nodeAt 1] ∧
          (Run.sends (scripted [nodeAt 1, nodeAt 1]) history).length ≤ 2 * (1 + 1) := by
  have given : persistent.Given (scripted [nodeAt 1, nodeAt 1]) (deciding [.retrySameNode])
      .passThrough ⟨[nodeAt 1, nodeAt 1]⟩ := .started ⟨_, _, _, _, _, _, [], rfl⟩ rfl rfl
  obtain ⟨run, underWay, sent, left⟩ : ∃ run, persistent.submission.current? = some run ∧
      run.attempts = 4 ∧ run.plan.remaining = [] := ⟨_, rfl, rfl, rfl⟩
  obtain ⟨⟨history, traced⟩, bounds⟩ := given.plan_bounds_attempts rfl underWay
  obtain ⟨pulled, _, bound, _⟩ := bounds history traced
  rw [left, List.append_nil] at pulled
  refine ⟨given, _, run, rfl, rfl, underWay, sent, history, traced, pulled, ?_⟩
  exact Nat.le_trans (Nat.le_add_right _ _) bound

end Life

end ClusterDriver
