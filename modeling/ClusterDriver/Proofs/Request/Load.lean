import ClusterDriver.Proofs.Request.Course
import ClusterDriver.Proofs.Request.Once

set_option autoImplicit false

namespace ClusterDriver

theorem StandardRetry.decide_retries {policy : StandardRetry} {failure : FailureKind}
    {retries : Nat} {idempotent : Bool}
    (again : policy.decide failure retries idempotent = .retrySameNode ∨
      policy.decide failure retries idempotent = .retryNextNode) : retries < policy.maxRetries := by
  unfold decide at again
  split at again
  next => simp at again
  next =>
    split at again
    next => simp at again
    next =>
      split at again
      next => simp at again
      next within => exact Nat.not_le.1 within

def Stage.owes : Stage → Nat
  | .awaiting _ _ _ _ => 0
  | _ => 1

def owed (executions : List Execution) : Nat := totalOf (·.stage.owes) executions

namespace Run

variable {σ : Type} {cluster : Cluster σ} {run after : Run} {execution next : Execution}
  {around later : σ}

/-- Another execution is started only while fewer than `limit` are running. -/
def Caps (limit : Nat) (run : Run) : Prop :=
  run.idempotent = true → ∀ asked running,
    run.profile.speculation.delayAfter asked running ≠ none → running < limit

theorem Caps.nextSpeculation {limit now : Nat} (caps : run.Caps limit)
    (armed : run.nextSpeculation now ≠ none) : run.executions.length < limit := by
  unfold Run.nextSpeculation at armed
  split at armed
  next idempotent =>
    refine caps idempotent (run.started - 1) _ fun never => ?_
    simp [never] at armed
  next => exact absurd rfl armed

/-- How many executions are running, and how many attempts have come of them and of retries. -/
structure Carried (limit : Nat) (run : Run) : Prop where
  running : run.executions.length ≤ limit
  room : run.speculation ≠ none → run.executions.length < limit
  sent : run.attempts ≤ run.retries + limit
  busy : run.finished = false → run.executions ≠ []
  balanced : run.finished = false →
    run.attempts + owed run.executions = run.retries + run.executions.length

namespace Carried

variable {limit : Nat}

theorem of_balanced (running : run.executions.length ≤ limit)
    (room : run.speculation ≠ none → run.executions.length < limit) (busy : run.executions ≠ [])
    (balanced : run.attempts + owed run.executions = run.retries + run.executions.length) :
    run.Carried limit where
  running
  room
  sent := by omega
  busy _ := busy
  balanced _ := balanced

theorem finish (sent : run.attempts ≤ run.retries + limit) (cluster : Cluster σ)
    (result : Except RequestError Success) (around : σ) :
    (run.finish cluster result around).1.Carried limit where
  running := Nat.zero_le _
  room armed := absurd rfl armed
  sent := sent
  busy finished := by cases finished
  balanced finished := by cases finished

end Carried

theorem Advanced.balance
    (advanced : Advanced cluster run execution around (.onward next) after later) :
    after.attempts + next.stage.owes + run.retries =
      run.attempts + execution.stage.owes + after.retries := by
  cases advanced with
  | begins stage => simp [Stage.owes, stage, enter]
  | unusable stage => simp [Stage.owes, stage, noteNodeError]
  | usable stage => simp [Stage.owes, stage]
  | refused stage => simp [Stage.owes, stage, noteNodeError]
  | sends stage => simp [Stage.owes, stage, dispatched, enter, record]
  | retries stage =>
    simp only [Stage.owes, stage, Run.retried, settled, enter, record]
    omega

theorem Stops.owes {how : ExecutionEnd} (stops : Stops cluster run execution around how) :
    execution.stage.owes = 1 := by
  cases stops with
  | expired stage => rw [stage, Stage.owes]; simp
  | exhausted stage => rw [stage, Stage.owes]; simp

namespace Carried

variable {limit : Nat}

theorem onward (carried : run.Carried limit) (unfinished : run.finished = false)
    (numbered : run.Numbered) (running : execution ∈ run.executions)
    (advanced : Advanced cluster run execution around (.onward next) after later) :
    (after.update next).Carried limit := by
  have executions := advanced.updated
  have length : (after.update next).executions.length = run.executions.length := by
    rw [executions, replaced, List.length_map]
  refine .of_balanced ?_ ?_ ?_ ?_
  · rw [length]
    exact carried.running
  · intro armed
    rw [length]
    refine carried.room fun calm => armed ?_
    exact advanced.speculation.trans calm
  · intro idle
    have nothing : run.executions.length = 0 := by rw [← length, idle, List.length_nil]
    exact carried.busy unfinished (List.eq_nil_of_length_eq_zero nothing)
  · have moved := totalOf_replaced (·.stage.owes) numbered.unique running advanced.number
    have before := carried.balanced unfinished
    have turn := advanced.balance
    rw [length, executions]
    unfold owed at before ⊢
    have attempts : (after.update next).attempts = after.attempts := rfl
    have retries : (after.update next).retries = after.retries := rfl
    omega

theorem stops {how : ExecutionEnd} (carried : run.Carried limit)
    (unfinished : run.finished = false) (numbered : run.Numbered)
    (running : execution ∈ run.executions) (stops : Stops cluster run execution around how)
    (others : (run.remove execution.number).executions ≠ []) :
    (run.remove execution.number).Carried limit := by
  have length := length_without numbered.unique running
  have moved := totalOf_without (·.stage.owes) numbered.unique running
  have before := carried.balanced unfinished
  have owes := stops.owes
  refine .of_balanced ?_ ?_ others ?_
  · have bound := carried.running
    simp only [remove]
    omega
  · intro armed
    have bound := carried.room armed
    simp only [remove]
    omega
  · simp only [remove, owed] at before ⊢
    omega

theorem startExecution (running : run.executions.length < limit)
    (caps : run.Caps limit)
    (balanced : run.attempts + owed run.executions = run.retries + run.executions.length)
    (now : Nat) : (run.startExecution now).Carried limit := by
  refine .of_balanced ?_ ?_ ?_ ?_
  · simpa [Run.startExecution] using Nat.succ_le_of_lt running
  · intro armed
    have still : Caps limit { run with
      started := run.started + 1
      executions := run.executions ++ [Execution.mk (run.started + 1) (.starting none) 0]
      woken := run.woken ++ [run.started + 1] } := caps
    exact still.nextSpeculation armed
  · simp [Run.startExecution]
  · have one : owed (run.startExecution now).executions = owed run.executions + 1 := by
      simp [owed, Run.startExecution, Stage.owes]
    have length : (run.startExecution now).executions.length = run.executions.length + 1 := by
      simp [Run.startExecution]
    have attempts : (run.startExecution now).attempts = run.attempts := rfl
    have retries : (run.startExecution now).retries = run.retries := rfl
    omega

theorem taken {turn : Turn} (carried : run.Carried limit) (unfinished : run.finished = false)
    (numbered : run.Numbered) (caps : run.Caps limit)
    (taken : Taken cluster run around turn after later) : after.Carried limit := by
  cases taken with
  | cancelled => exact .finish carried.sent _ _ _
  | expired => exact .finish carried.sent _ _ _
  | missed unknown =>
    have executions := remove_unknown unknown
    exact { carried with
      running := executions ▸ carried.running
      room := executions ▸ carried.room
      busy := executions ▸ carried.busy
      balanced := executions ▸ carried.balanced }
  | driven found driven =>
    have running := List.mem_of_find?_eq_some found
    cases driven with
    | onward step => exact carried.onward unfinished numbered running (advanced_of_step step)
    | waits =>
      rw [update_self numbered.unique running]
      exact { carried with }
    | stops _ stops others => exact carried.stops unfinished numbered running stops others
    | ends step =>
      have alike := (advanced_of_step step).ended_alike
      refine .finish ?_ _ _ _
      have sent := carried.sent
      rwa [← alike.attempts, ← alike.retries] at sent
  | calmed => exact { carried with room := fun armed => absurd rfl armed }
  | speculated due =>
    apply startExecution
    · exact carried.room due
    · exact caps
    · exact carried.balanced unfinished

end Carried

namespace Course

variable {registry : ProfileRegistry} {codec : Codec} {request : Request}
  {options : RequestOptions} {plan : Plan} {first : Run} {start : σ} {history : List (Moment σ)}

theorem carried {limit : Nat} (course : Course cluster first start history run around)
    (begins : Begins registry codec request options plan first) (positive : 1 ≤ limit)
    (caps : ∀ run : Run, run.Prepared registry codec request options → run.Caps limit) :
    run.Carried limit := by
  induction course with
  | opens =>
    have initial := begins.initial
    obtain @⟨_, build, fresh, prepared, now⟩ := begins
    have unstarted := prepare_unstarted prepared plan
    refine .startExecution ?_ (caps _ (prepare_prepared prepared plan)) ?_ now
    · rw [unstarted.executions]
      exact positive
    · have retries : (build plan).retries = 0 := initial.retries
      rw [unstarted.executions, unstarted.attempts]
      exact retries.symm
  | changes _ _ ih => exact ih
  | wakes _ _ ih => exact { ih with }
  | cancels _ ih => exact { ih with }
  | turns course unfinished taken ih =>
    exact ih.taken unfinished (course.numbered begins) (caps _ (course.prepared begins))
      (take?_taken taken)

theorem retries_le {profile : Profile} {policy : StandardRetry}
    (course : Course cluster first start history run around)
    (begins : Begins registry codec request options plan first)
    (found : registry.find? (options.profile.getD defaultProfileName) = some profile)
    (standard : profile.retry = .standard policy) : run.retries ≤ policy.maxRetries := by
  induction course with
  | opens =>
    rw [begins.initial.retries]
    exact Nat.zero_le _
  | changes _ _ ih => exact ih
  | wakes _ _ ih => exact ih
  | cancels _ ih => exact ih
  | @turns history run after around later turn course _ taken ih =>
    have same : profile = run.profile :=
      Option.some.inj (found.symm.trans (course.prepared begins).profile)
    subst same
    rcases (take?_taken taken).advanced with ⟨_, alike⟩ | ⟨_, _, middle, _, _, advanced, alike⟩
    · exact alike.retries ▸ ih
    · rw [alike.retries]
      cases advanced with
      | retries _ _ decided goesOn =>
        exact StandardRetry.decide_retries (decide_again standard decided goesOn)
      | _ => exact ih

end Course

end Run

namespace Life

variable {σ : Type} {cluster : Cluster σ} {registry : ProfileRegistry} {codec : Codec}

theorem Traced.sends {plan : Plan} {life : Life σ} {history : List (Run.Moment σ)} {run : Run}
    (traced : life.Traced cluster registry codec plan history run) :
    (Run.sends cluster history).length = run.attempts := by
  obtain ⟨_, first, start, begins, course⟩ := traced
  have counted := course.sends_attempts
  rw [begins.initial.attempts] at counted
  omega

/-- The load that a request puts on the cluster under the standard retry policy with constant
speculation: no more executions at a time than are allowed, just one if it must not run twice, no
more retries than are allowed to all of them together, and no more attempts than both. -/
theorem Reached.load_bounded {life : Life σ} {profile : Profile} {policy : StandardRetry}
    {speculation : ConstantSpeculation} {run : Run}
    (reached : life.Reached cluster registry codec)
    (found : registry.find? (life.submission.options.profile.getD defaultProfileName) =
      some profile)
    (standard : profile.retry = .standard policy)
    (constant : profile.speculation = .constant speculation)
    (underWay : life.submission.current? = some run) :
    run.executions.length ≤ max 1 speculation.maxExecutions ∧
      (life.submission.isOver = false → 1 ≤ run.executions.length ∧
        (life.submission.options.idempotent.getD profile.idempotent = false →
          run.executions.length = 1)) ∧
      run.retries ≤ policy.maxRetries ∧
      run.attempts ≤ policy.maxRetries + max 1 speculation.maxExecutions ∧
      ∃ plan history, life.Traced cluster registry codec plan history run ∧
        (Run.sends cluster history).length = run.attempts := by
  obtain ⟨plan, history, traced⟩ := reached.course underWay
  obtain ⟨_, first, start, begins, course⟩ := id traced
  have same {run : Run} (prepared : run.Prepared registry codec life.submission.request
      life.submission.options) : profile = run.profile :=
    Option.some.inj (found.symm.trans prepared.profile)
  have carried : run.Carried (max 1 speculation.maxExecutions) := by
    refine course.carried begins (Nat.le_max_left _ _) fun run prepared _ asked running armed => ?_
    rw [← same prepared, constant] at armed
    simp only [SpeculationPolicy.delayAfter] at armed
    split at armed
    next room => exact Nat.lt_of_lt_of_le room (Nat.le_max_right _ _)
    next => exact absurd rfl armed
  have retries := course.retries_le begins found standard
  have sent := carried.sent
  refine ⟨carried.running, fun goesOn => ?_, retries, by omega, plan, history, traced,
    traced.sends⟩
  obtain ⟨own, running, rfl⟩ := Option.map_eq_some_iff.1 underWay
  have unfinished : own.finished = false := reached.sound.unfinished goesOn running
  have busy : 1 ≤ own.executions.length := List.length_pos_iff.2 (carried.busy unfinished)
  refine ⟨busy, fun once => ?_⟩
  have alone : Run.Carried 1 { own with context := life.submission.context } := by
    refine course.carried begins (Nat.le_refl 1) fun run prepared idempotent => ?_
    rw [prepared.idempotent, ← same prepared, once] at idempotent
    cases idempotent
  exact Nat.le_antisymm alone.running busy

def hedging : ProfileRegistry :=
  ⟨[{ Profile.standard with idempotent := true, speculation := .constant ⟨10, 2⟩ }]⟩

def hedged : Life Script :=
  (submitted (.query ByteArray.empty) {} 1 0 100 { replies := [] }).run
    (scripted [nodeAt 1, nodeAt 2, nodeAt 3]) hedging .passThrough
    [.start, .change { now := 10, sent := 1, replies := [] }, .poll,
      .change { now := 20, sent := 2, replies := [errorReply .overloaded] }, .wake [1], .poll]

theorem hedged_load_bounded :
    hedged.Reached (scripted [nodeAt 1, nodeAt 2, nodeAt 3]) hedging .passThrough ∧
      ∃ profile, hedging.find? defaultProfileName = some profile ∧
        profile.retry = .standard ⟨1, false⟩ ∧ profile.speculation = .constant ⟨10, 2⟩ ∧
        ∃ run, hedged.submission.current? = some run ∧ run.executions.length = 2 ∧
          run.retries = 1 ∧ run.attempts = 3 ∧ run.attempts ≤ 1 + max 1 2 := by
  have reached : hedged.Reached (scripted [nodeAt 1, nodeAt 2, nodeAt 3]) hedging .passThrough :=
    ⟨_, _, _, _, _, _, _, rfl⟩
  obtain ⟨run, underWay, running, retries, sent⟩ : ∃ run, hedged.submission.current? = some run ∧
      run.executions.length = 2 ∧ run.retries = 1 ∧ run.attempts = 3 := ⟨_, rfl, rfl, rfl, rfl⟩
  obtain ⟨_, _, _, bound, _⟩ := Reached.load_bounded reached rfl rfl rfl underWay
  exact ⟨reached, _, rfl, rfl, rfl, run, underWay, running, retries, sent, bound⟩

end Life

end ClusterDriver
