import ClusterDriver.Proofs.Request.Lasting

set_option autoImplicit false

namespace ClusterDriver

namespace AttemptRecord

def isFinal (record : AttemptRecord) : Bool :=
  record.error.isNone || record.decision = some .rethrow || record.decision = some .ignore

inductive Settles (record : AttemptRecord) : Except RequestError Success → Prop where
  | success (response : Response) (answered : record.error = none) :
      Settles record (.ok ⟨response, record.node, false⟩)
  | ignored {cause : AttemptError} (failed : record.error = some cause)
      (decided : record.decision = some .ignore) :
      Settles record (.ok ⟨.empty, record.node, true⟩)
  | rethrown {cause : ServerError} (failed : record.error = some (.server cause))
      (decided : record.decision = some .rethrow) :
      Settles record (.error (.rethrown record.node cause))
  | failed {cause : AttemptError} (failed : record.error = some cause)
      (notServer : ∀ server, cause ≠ .server server) (decided : record.decision = some .rethrow) :
      Settles record (.error (.attemptFailed record.node cause))

/-- Whatever the policy wanted, the decision in a record fits the error. -/
structure Judged (returnsRows : Bool) (record : AttemptRecord) : Prop where
  decided : record.decision.isSome = record.error.isSome
  validation : ∀ cause, record.error = some (.server cause) →
    cause.kind.errorClass = .validation → record.decision = some .rethrow
  transport : ∀ detail, record.error = some (.transport detail) →
    record.decision ≠ some .retrySameNode
  ignored : record.decision = some .ignore → returnsRows = false

theorem Settles.isFinal {record : AttemptRecord} {result : Except RequestError Success}
    (settles : record.Settles result) : record.isFinal = true := by
  cases settles with
  | success _ answered => simp [AttemptRecord.isFinal, answered]
  | ignored _ decided => simp [AttemptRecord.isFinal, decided]
  | rethrown _ decided => simp [AttemptRecord.isFinal, decided]
  | failed _ _ decided => simp [AttemptRecord.isFinal, decided]

end AttemptRecord

namespace RequestContext

/-- Whether a result comes from an attempt. All others come from a lack of nodes or of time, or from
the caller. -/
def isVerdict : Except RequestError Success → Bool
  | .ok _ | .error (.rethrown _ _) | .error (.attemptFailed _ _) => true
  | _ => false

theorem isVerdict_of_settles {record : AttemptRecord} {result : Except RequestError Success}
    (settles : record.Settles result) : isVerdict result = true := by
  cases settles <;> rfl

@[simp]
theorem outcome_enter (context : RequestContext) (phase : Phase) :
    (context.enter phase).outcome = context.outcome := by
  rcases context.enter_cases phase with same | ⟨_, same⟩ <;> rw [same]

inductive Concluded (context : RequestContext) : Prop where
  | undecided (unresolved : context.outcome = none)
      (retried : ∀ record ∈ context.attempts, record.isFinal = false)
  | settled {earlier : List AttemptRecord} {last : AttemptRecord}
      {result : Except RequestError Success} {trace : Trace}
      (attempts : context.attempts = earlier ++ [last])
      (retried : ∀ record ∈ earlier, record.isFinal = false) (settles : last.Settles result)
      (resolved : context.outcome = some ⟨result, trace⟩)
      (traced : trace.attempts = context.attempts)
  | spent {result : Except RequestError Success} {trace : Trace}
      (retried : ∀ record ∈ context.attempts, record.isFinal = false)
      (elsewhere : isVerdict result = false) (resolved : context.outcome = some ⟨result, trace⟩)
      (traced : trace.attempts = context.attempts)

theorem Concluded.retried {context : RequestContext} (concluded : context.Concluded)
    (pending : context.Pending) : ∀ record ∈ context.attempts, record.isFinal = false := by
  cases concluded with
  | undecided _ retried => exact retried
  | settled _ _ _ resolved => cases pending.unresolved.symm.trans resolved
  | spent retried => exact retried

theorem Concluded.cancel {context : RequestContext} (concluded : context.Concluded) :
    context.cancel.Concluded := by
  cases concluded with
  | undecided unresolved retried => exact .undecided unresolved retried
  | settled attempts retried settles resolved traced =>
    exact .settled attempts retried settles resolved traced
  | spent retried elsewhere resolved traced => exact .spent retried elsewhere resolved traced

theorem Pending.spent {context : RequestContext} (pending : context.Pending) (now : Nat)
    {result : Except RequestError Success} (elsewhere : isVerdict result = false)
    (retried : ∀ record ∈ context.attempts, record.isFinal = false) :
    (context.resolve now result).Concluded := by
  refine .spent ?_ elsewhere (pending.outcome_resolve now result) ?_
  · rwa [attempts_resolve]
  · rw [attempts_resolve]
    rfl

theorem Pending.settled {context : RequestContext} (pending : context.Pending) (now : Nat)
    {result : Except RequestError Success} {earlier : List AttemptRecord} {last : AttemptRecord}
    (attempts : context.attempts = earlier ++ [last])
    (retried : ∀ record ∈ earlier, record.isFinal = false) (settles : last.Settles result) :
    (context.resolve now result).Concluded := by
  refine .settled ?_ retried settles (pending.outcome_resolve now result) ?_
  · rw [attempts_resolve, attempts]
  · rw [attempts_resolve]
    rfl

theorem Untried.concluded {context : RequestContext} (untried : context.Untried) :
    context.Concluded := by
  have retried : ∀ record ∈ context.attempts, record.isFinal = false := by
    simp [untried.attempts]
  cases resolved : context.outcome with
  | none => exact .undecided resolved retried
  | some outcome =>
    obtain ⟨cause, result, untimely, traced⟩ := untried.outcome outcome resolved
    refine .spent retried ?_ resolved (traced.trans untried.attempts.symm)
    rw [result]
    cases untimely <;> rfl

end RequestContext

namespace Run

variable {σ : Type}

theorem decide_judged {cluster : Cluster σ} {run : Run} {cause : AttemptError} {retries : Nat}
    {around later : σ} {decision : RetryDecision}
    (decided : run.decide cluster cause retries around = (decision, later)) :
    (cause.kind.isFatal = true → decision = .rethrow) ∧
      (decision = .retrySameNode →
        cause.isTransport = false ∧ retries < run.profile.maxSameNodeRetries) ∧
      (decision = .ignore → run.returnsRows = false) := by
  unfold decide at decided
  split at decided
  next fatal =>
    cases decided
    exact ⟨fun _ => rfl, nofun, nofun⟩
  next other =>
    obtain ⟨rfl, -⟩ := Prod.mk.inj decided
    refine ⟨fun fatal => absurd fatal other, ?_, ?_⟩
    · intro same
      split at same
      next =>
        split at same
        next => cases same
        next allowed => simpa [not_or, Nat.not_le] using allowed
      next =>
        split at same
        next => cases same
        next => cases same
      next notSame _ => exact absurd same notSame
    · intro ignored
      split at ignored
      next =>
        split at ignored
        next => cases ignored
        next => cases ignored
      next =>
        split at ignored
        next => cases ignored
        next noRows => simpa using noRows
      next _ notIgnored => exact absurd ignored notIgnored

theorem attemptRecord_answered (run : Run) (execution : Execution) (node : Node)
    (attempt started latency : Nat) :
    (run.attemptRecord execution node attempt started latency none none).Judged run.returnsRows where
  decided := rfl
  validation := nofun
  transport := nofun
  ignored := nofun

theorem attemptRecord_failed {cluster : Cluster σ} {run : Run} {cause : AttemptError}
    {retries : Nat} {around later : σ} {decision : RetryDecision}
    (decided : run.decide cluster cause retries around = (decision, later))
    (execution : Execution) (node : Node) (attempt started latency : Nat) :
    (run.attemptRecord execution node attempt started latency (some cause)
      (some decision)).Judged run.returnsRows := by
  obtain ⟨fatal, same, ignored⟩ := decide_judged decided
  refine ⟨rfl, ?_, ?_, ?_⟩
  · intro server failed validation
    cases failed
    exact congrArg some (fatal (by simpa [AttemptError.kind, FailureKind.isFatal] using validation))
  · intro detail failed again
    cases failed
    exact absurd (same (Option.some.inj again)).1 (by simp [AttemptError.isTransport])
  · exact fun ignores => ignored (Option.some.inj ignores)

theorem attemptRecord_settles {run after : Run} {execution : Execution} {node : Node}
    {attempt started latency : Nat} {cause : AttemptError} {decision : RetryDecision}
    {how : ExecutionEnd} (givesUp : GivesUp node cause decision how) :
    (run.attemptRecord execution node attempt started latency (some cause)
      (some decision)).Settles (after.resultOfEnd how) := by
  cases givesUp with
  | ignore => exact .ignored rfl rfl
  | rethrow =>
    cases cause with
    | server cause => exact .rethrown rfl rfl
    | timeout limit => exact .failed rfl nofun rfl
    | transport detail => exact .failed rfl nofun rfl

/-- While a request runs, its records are retries; when it has ended, no execution is left. -/
structure Ruled (run : Run) : Prop where
  concluded : run.context.Concluded
  judged : ∀ record ∈ run.context.attempts, record.Judged run.returnsRows
  dropped : run.context.outcome ≠ none → run.executions = []

theorem Ruled.goesOn {run after : Run} (ruled : run.Ruled) (pending : run.context.Pending)
    (outcome : after.context.outcome = run.context.outcome)
    (attempts : after.context.attempts = run.context.attempts)
    (rows : after.returnsRows = run.returnsRows) : after.Ruled where
  concluded := .undecided (outcome.trans pending.unresolved)
    (attempts ▸ ruled.concluded.retried pending)
  judged := by
    rw [attempts, rows]
    exact ruled.judged
  dropped resolved := absurd (outcome.trans pending.unresolved) resolved

theorem judged_append {run : Run} {last : AttemptRecord} (ruled : run.Ruled)
    (fits : last.Judged run.returnsRows) :
    ∀ record ∈ run.context.attempts ++ [last], record.Judged run.returnsRows :=
  List.forall_mem_append.2 ⟨ruled.judged, List.forall_mem_singleton.2 fits⟩

theorem Ruled.recorded {run : Run} {last : AttemptRecord} (ruled : run.Ruled)
    (pending : run.context.Pending) (again : last.isFinal = false)
    (fits : last.Judged run.returnsRows) : (run.settled last).Ruled where
  concluded := by
    have retried := ruled.concluded.retried pending
    exact .undecided pending.unresolved
      (List.forall_mem_append.2 ⟨retried, List.forall_mem_singleton.2 again⟩)
  judged := judged_append ruled fits
  dropped resolved := absurd pending.unresolved resolved

theorem Ruled.advanced {cluster : Cluster σ} {run after : Run} {execution next : Execution}
    {around later : σ} (ruled : run.Ruled) (pending : run.context.Pending)
    (advanced : Advanced cluster run execution around (.onward next) after later) :
    (after.update next).Ruled := by
  cases advanced with
  | begins => exact ruled.goesOn pending (by simp [update, enter]) (by simp [update, enter]) rfl
  | unusable => exact ruled.goesOn pending rfl rfl rfl
  | usable => exact ruled.goesOn pending rfl rfl rfl
  | refused => exact ruled.goesOn pending rfl rfl rfl
  | sends =>
    refine ruled.goesOn pending ?_ ?_ rfl
    · simp [update, dispatched, enter, record]
    · simp [update, dispatched, enter, record]
  | @retries node attempt started latency _ cause decision _ _ _ _ _ decided retries =>
    have again : (run.attemptRecord execution node attempt started latency (some cause)
        (some decision)).isFinal = false := by
      cases retries <;> rfl
    have fits := attemptRecord_failed decided execution node attempt started latency
    have recorded := ruled.recorded pending again fits
    refine recorded.goesOn { pending with } ?_ ?_ rfl
    · simp [update, Run.retried, enter, record]
    · simp [update, Run.retried, enter, record]

theorem Ruled.finish {run : Run} {result : Except RequestError Success} (cluster : Cluster σ)
    (around : σ) (concluded : ∀ now, (run.context.resolve now result).Concluded)
    (judged : ∀ record ∈ run.context.attempts, record.Judged run.returnsRows) :
    (run.finish cluster result around).1.Ruled where
  concluded := concluded _
  judged := by
    intro record member
    exact judged record ((RequestContext.attempts_resolve _ _ _) ▸ member)
  dropped _ := rfl

theorem Ruled.verdict {run : Run} {last : AttemptRecord} {result : Except RequestError Success}
    (ruled : run.Ruled) (pending : run.context.Pending) (fits : last.Judged run.returnsRows)
    (settles : last.Settles result) (number : Nat) (cluster : Cluster σ) (around : σ) :
    (((run.settled last).remove number).finish cluster result around).1.Ruled := by
  have pending : ((run.settled last).remove number).context.Pending := { pending with }
  refine .finish _ _ (fun now => ?_) (judged_append ruled fits)
  exact pending.settled now rfl (ruled.concluded.retried { pending with }) settles

theorem Ruled.ended {cluster : Cluster σ} {run after : Run} {execution : Execution}
    {how : ExecutionEnd} {around later : σ} (ruled : run.Ruled) (pending : run.context.Pending)
    (advanced : Advanced cluster run execution around (.ended how) after later) :
    ((after.remove execution.number).finish cluster (after.resultOfEnd how) later).1.Ruled := by
  have retried := ruled.concluded.retried pending
  cases advanced with
  | expired =>
    exact .finish _ _ (fun now => pending.spent now rfl retried) ruled.judged
  | exhausted =>
    exact .finish _ _ (fun now => pending.spent now rfl retried) ruled.judged
  | succeeds =>
    exact ruled.verdict pending (attemptRecord_answered _ _ _ _ _ _) (.success _ rfl) _ _ _
  | fails _ _ decided givesUp =>
    exact ruled.verdict pending (attemptRecord_failed decided _ _ _ _ _)
      (attemptRecord_settles givesUp) _ _ _

theorem ruled_lasting (cluster : Cluster σ) (registry : ProfileRegistry) (codec : Codec)
    (request : Request) (options : RequestOptions) :
    Lasting cluster registry codec request options Ruled where
  started := by
    intro context build around now fresh prepared
    obtain ⟨same, _, _⟩ := Submission.prepare_ok prepared (cluster.plan options.routingKey around).1
    have attempts : (build (cluster.plan options.routingKey around).1).context.attempts = [] := by
      rw [same]
      exact fresh.attempts
    have unresolved : (build (cluster.plan options.routingKey around).1).context.outcome = none := by
      rw [same]
      exact fresh.pending.unresolved
    refine ⟨.undecided unresolved ?_, ?_, fun resolved => absurd unresolved resolved⟩
    · simp [startExecution, attempts]
    · simp [startExecution, attempts]
  woken _ ruled := { ruled with }
  cancelled ruled := ⟨ruled.concluded.cancel, ruled.judged, ruled.dropped⟩
  turned := by
    intro run around after later pending _ ruled turned
    have retried := ruled.concluded.retried pending
    cases turned with
    | cancelled =>
      exact .finish cluster around (fun now => pending.spent now rfl retried) ruled.judged
    | expired =>
      exact .finish cluster around (fun now => pending.spent now rfl retried) ruled.judged
    | missed => exact ruled.goesOn pending rfl rfl rfl
    | advanced _ advanced => exact ruled.advanced pending advanced
    | waited => exact ruled.goesOn pending rfl rfl rfl
    | dropped => exact ruled.goesOn pending rfl rfl rfl
    | ended _ advanced => exact ruled.ended pending advanced
    | calmed => exact ruled.goesOn pending rfl rfl rfl
    | speculated =>
      refine ruled.goesOn pending ?_ ?_ rfl
      · simp [startExecution, enter, record, RequestContext.recordSpeculation]
      · simp [startExecution, enter, record, RequestContext.recordSpeculation]

/-! ### Errors that are not left to the policy -/

def withPolicy (run : Run) (policy : RetryPolicy) : Run :=
  { run with profile := { run.profile with retry := policy } }

def countingBy (cluster : Cluster σ) (calls : String → σ → Nat) (count : String → σ → σ) :
    Cluster σ :=
  { cluster with retryCalls := calls, countRetryCall := count }

/-- A turn goes the same way whatever the retry policy is, and however its calls are counted. -/
def IgnoresPolicy (cluster : Cluster σ) (run : Run) (around : σ) (turn : Turn) : Prop :=
  ∀ policy calls count,
    (run.withPolicy policy).take? (countingBy cluster calls count) around turn =
      (run.take? cluster around turn).map fun (after, later) => (after.withPolicy policy, later)

theorem turnOf_fatal {cluster : Cluster σ} {run : Run} {execution : Execution} {number : Nat}
    {around later : σ} {node : Node} {attempt started : Nat} {handle : Handle} {reply : Reply}
    {cause : AttemptError}
    (found : run.executions.find? (fun execution => execution.number = number) = some execution)
    (stage : execution.stage = .awaiting node attempt started handle)
    (replied : cluster.reply? execution.number handle around = (some reply, later))
    (failed : resultOf run.codec reply = .error cause) (fatal : cause.kind.isFatal = true) :
    run.turnOf cluster number around =
      let informed := cluster.dismissAlarms execution.number later
      let after := run.settled
        (run.attemptRecord execution node attempt started (cluster.now informed - started)
          (some cause) (some .rethrow))
      (after.remove number).finish cluster (after.resultOfEnd (.rethrow node.address cause))
        informed := by
  simp only [turnOf, found, advance, stage, replied, failed, onResult, decide, fatal, if_true]
  rfl

theorem fatal_ignoresPolicy {cluster : Cluster σ} {run after : Run} {around later : σ}
    {turn : Turn} {record : AttemptRecord} {cause : ServerError}
    (taken : run.take? cluster around turn = some (after, later))
    (added : after.context.attempts = run.context.attempts ++ [record])
    (failed : record.error = some (.server cause))
    (validation : cause.kind.errorClass = .validation) :
    run.IgnoresPolicy cluster around turn := by
  rcases take?_attempts taken with same | ⟨number, execution, own, rfl, found, recorded, appended⟩
  · simp [same] at added
  obtain rfl : own = record := by simpa [appended] using added
  cases recorded with
  | answered => cases failed
  | failed stage failure =>
    cases failed
    have fatal : (AttemptError.server cause).kind.isFatal = true := by
      simpa [AttemptError.kind, FailureKind.isFatal] using validation
    cases failure with
    | reply replied answer =>
      intro policy calls count
      have here := turnOf_fatal found stage replied answer fatal
      have there : (run.withPolicy policy).turnOf (countingBy cluster calls count) number around =
          _ := turnOf_fatal found stage replied answer fatal
      simp only [take?, here, there]
      rfl

end Run

def Submission.sent (submission : Submission) : Nat :=
  (submission.run.map (·.attempts)).getD 0

namespace RequestContext

theorem Concluded.dropLast {context : RequestContext} (concluded : context.Concluded) :
    ∀ record ∈ context.attempts.dropLast, record.isFinal = false := by
  cases concluded with
  | undecided _ retried => exact fun record member => retried record (List.dropLast_subset _ member)
  | settled attempts retried => rwa [attempts, List.dropLast_concat]
  | spent retried => exact fun record member => retried record (List.dropLast_subset _ member)

theorem Concluded.final_iff {context : RequestContext} (concluded : context.Concluded) :
    (∃ record ∈ context.attempts, record.isFinal = true) ↔
      ∃ outcome, context.outcome = some outcome ∧ isVerdict outcome.result = true := by
  have none_final (retried : ∀ record ∈ context.attempts, record.isFinal = false) :
      ¬ ∃ record ∈ context.attempts, record.isFinal = true := by
    rintro ⟨record, member, final⟩
    cases final.symm.trans (retried record member)
  cases concluded with
  | undecided unresolved retried =>
    refine iff_of_false (none_final retried) ?_
    rintro ⟨outcome, resolved, _⟩
    cases unresolved.symm.trans resolved
  | settled attempts _ settles resolved =>
    refine iff_of_true ⟨_, ?_, settles.isFinal⟩ ⟨_, resolved, isVerdict_of_settles settles⟩
    simp [attempts]
  | spent retried elsewhere resolved =>
    refine iff_of_false (none_final retried) ?_
    rintro ⟨outcome, found, verdict⟩
    obtain rfl := Option.some.inj (resolved.symm.trans found)
    cases verdict.symm.trans elsewhere

theorem Concluded.outcome {context : RequestContext} (concluded : context.Concluded)
    {outcome : Outcome} (resolved : context.outcome = some outcome) :
    outcome.trace.attempts = context.attempts ∧
      (isVerdict outcome.result = true →
        ∃ record, context.attempts.getLast? = some record ∧ record.Settles outcome.result) := by
  cases concluded with
  | undecided unresolved => cases unresolved.symm.trans resolved
  | settled attempts _ settles found traced =>
    obtain rfl := Option.some.inj (found.symm.trans resolved)
    exact ⟨traced, fun _ => ⟨_, by simp [attempts], settles⟩⟩
  | spent _ elsewhere found traced =>
    obtain rfl := Option.some.inj (found.symm.trans resolved)
    exact ⟨traced, fun verdict => by cases verdict.symm.trans elsewhere⟩

end RequestContext

namespace Life

variable {σ : Type} {cluster : Cluster σ} {registry : ProfileRegistry} {codec : Codec}

def trace (life : Life σ) : List AttemptRecord := life.submission.context.attempts

theorem act_rests (life : Life σ) (move : Move σ) (isOver : life.submission.isOver = true) :
    (life.act cluster registry codec move).trace = life.trace ∧
      (life.act cluster registry codec move).submission.sent = life.submission.sent := by
  have notWaiting : life.waits = false := by simp [waits, isOver]
  cases move with
  | change => exact ⟨rfl, rfl⟩
  | wake executions =>
    refine ⟨rfl, ?_⟩
    cases underWay : life.submission.run <;> simp [act, Submission.sent, underWay]
  | cancel => exact ⟨rfl, rfl⟩
  | hold => simp [act, notWaiting]
  | start => simp [act, notWaiting]
  | begin => simp [act, notWaiting]
  | poll => simp [act, isOver]
  | turn => simp [act, isOver]

theorem run_rests (life : Life σ) (moves : List (Move σ)) (isOver : life.submission.isOver = true) :
    (life.run cluster registry codec moves).trace = life.trace ∧
      (life.run cluster registry codec moves).submission.sent = life.submission.sent := by
  induction moves generalizing life with
  | nil => exact ⟨rfl, rfl⟩
  | cons move rest ih =>
    have next : (life.act cluster registry codec move).trace = life.trace ∧ _ :=
      act_rests life move isOver
    have last := ih (life.act cluster registry codec move) (act_over life move isOver).isOver
    exact ⟨last.1.trans next.1, last.2.trans next.2⟩

theorem Reached.concluded {life : Life σ} (reached : life.Reached cluster registry codec) :
    life.submission.context.Concluded := by
  have keeps := reached.lasts (Run.ruled_lasting cluster registry codec _ _)
  cases underWay : life.submission.run with
  | none => exact (keeps.idle underWay).concluded
  | some run => exact (keeps.runs underWay).concluded

theorem Reached.over_of_final {life : Life σ} (reached : life.Reached cluster registry codec)
    (final : ∃ record ∈ life.trace, record.isFinal = true) :
    life.submission.isOver = true ∧
      ∀ run, life.submission.run = some run → run.executions = [] := by
  obtain ⟨outcome, resolved, _⟩ := reached.concluded.final_iff.1 final
  refine ⟨?_, ?_⟩
  · rcases reached.sound.pending_or_over with ⟨pending, _⟩ | ⟨_, _, _, isOver, _⟩
    · cases pending.unresolved.symm.trans resolved
    · exact isOver
  · intro run underWay
    have keeps := reached.lasts (Run.ruled_lasting cluster registry codec _ _)
    exact (keeps.runs underWay).dropped (by simp [resolved])

theorem Reached.judged {life : Life σ} (reached : life.Reached cluster registry codec) :
    ∀ record ∈ life.trace, record.Judged life.submission.request.returnsRows := by
  have keeps := reached.lasts (Run.ruled_lasting cluster registry codec _ _)
  have same := reached.lasts (Run.prepared_lasting cluster registry codec _ _)
  cases underWay : life.submission.run with
  | none => simp [trace, (keeps.idle underWay).attempts]
  | some run =>
    rw [← (same.runs underWay).returnsRows]
    exact (keeps.runs underWay).judged

/-- The trace of a request has at most one final record, which is the last, and it has one just if
the request ended with what an attempt came to; nothing is sent or recorded after it. A request that
is wrong in itself is not retried, whatever the policy, and one that waits for rows does not ignore
a failure. -/
theorem Reached.trace_settles {life : Life σ} (reached : life.Reached cluster registry codec) :
    (∀ record ∈ life.trace.dropLast, record.isFinal = false) ∧
      ((∃ record ∈ life.trace, record.isFinal = true) ↔
        ∃ outcome, life.submission.context.outcome = some outcome ∧
          RequestContext.isVerdict outcome.result = true) ∧
      (∀ outcome, life.submission.context.outcome = some outcome →
        outcome.trace.attempts = life.trace ∧
          (RequestContext.isVerdict outcome.result = true →
            ∃ record, life.trace.getLast? = some record ∧ record.Settles outcome.result)) ∧
      ((∃ record ∈ life.trace, record.isFinal = true) →
        (∀ run, life.submission.run = some run → run.executions = []) ∧
          ∀ moves, (life.run cluster registry codec moves).trace = life.trace ∧
            (life.run cluster registry codec moves).submission.sent = life.submission.sent) ∧
      (∀ record ∈ life.trace, ∀ cause, record.error = some (.server cause) →
        cause.kind.errorClass = .validation → record.decision = some .rethrow) ∧
      (∀ run around turn after later record cause,
        life.submission.current? = some run →
        run.take? cluster around turn = some (after, later) →
        after.context.attempts = life.trace ++ [record] → record.error = some (.server cause) →
        cause.kind.errorClass = .validation → run.IgnoresPolicy cluster around turn) ∧
      (∀ record ∈ life.trace, record.decision = some .ignore →
        life.submission.request.returnsRows = false) := by
  have concluded := reached.concluded
  have judged := reached.judged
  refine ⟨concluded.dropLast, concluded.final_iff, fun outcome resolved => concluded.outcome resolved,
    ?_, fun record member => (judged record member).validation, ?_,
    fun record member => (judged record member).ignored⟩
  · intro final
    obtain ⟨isOver, none_left⟩ := reached.over_of_final final
    exact ⟨none_left, fun moves => run_rests life moves isOver⟩
  · intro run around turn after later record cause underWay taken added failed validation
    obtain ⟨own, _, rfl⟩ := Option.map_eq_some_iff.1 underWay
    exact Run.fatal_ignoresPolicy taken added failed validation

/-- Surroundings in which every pool has a connection at once, and all that is sent gets the next
of a list of replies. -/
structure Script where
  now : Nat := 0
  sent : Nat := 0
  replies : List Reply
  calls : Nat := 0

def nodeAt (host : UInt32) : Node where
  id := 0
  address := .v4 host 9042
  datacenter := none
  tokens := []
  distance := .near

def scripted (nodes : List Node) : Cluster Script where
  now := (·.now)
  plan _ around := (⟨nodes⟩, around)
  pool _ around := (.ok 0, around)
  send? _ pool _ _ around := (some (.ok ⟨pool, around.sent⟩), { around with sent := around.sent + 1 })
  reply? _ _ around :=
    match around.replies with
    | [] => (none, around)
    | reply :: rest => (some reply, { around with replies := rest })
  abandon _ around := around
  retryCalls _ around := around.calls
  countRetryCall _ around := { around with calls := around.calls + 1 }
  alarm _ _ around := around
  dismissAlarms _ around := around

def errorReply (kind : ServerErrorKind) : Reply :=
  .ok ⟨protocolVersion ||| responseFlag, 0, 0, .error, ServerError.encode ⟨kind, ""⟩⟩

def deciding (decisions : List RetryDecision) : ProfileRegistry :=
  ⟨[{ Profile.standard with retry := .sequence decisions }]⟩

def rejected : Life Script :=
  (submitted (.write ByteArray.empty) {} 1 0 100
    { replies := [errorReply .overloaded, errorReply .invalid] }).run
    (scripted [nodeAt 1, nodeAt 2]) (deciding [.retryNextNode, .ignore]) .passThrough [.start]

theorem rejected_trace_settles :
    rejected.Reached (scripted [nodeAt 1, nodeAt 2]) (deciding [.retryNextNode, .ignore])
        .passThrough ∧
      rejected.trace.length = 2 ∧
      rejected.submission.context.outcome.map (·.result) =
        some (.error (.rethrown (nodeAt 2).address ⟨.invalid, ""⟩)) ∧
      ∃ record, rejected.trace.getLast? = some record ∧ record.isFinal = true := by
  have reached : rejected.Reached (scripted [nodeAt 1, nodeAt 2])
      (deciding [.retryNextNode, .ignore]) .passThrough := ⟨_, _, _, _, _, _, _, rfl⟩
  obtain ⟨_, _, settles, _⟩ := Reached.trace_settles reached
  have ended : ∃ trace, rejected.submission.context.outcome =
      some ⟨.error (.rethrown (nodeAt 2).address ⟨.invalid, ""⟩), trace⟩ := ⟨_, rfl⟩
  obtain ⟨trace, resolved⟩ := ended
  obtain ⟨record, last, settled⟩ := (settles _ resolved).2 rfl
  exact ⟨reached, rfl, by rw [resolved]; rfl, record, last, settled.isFinal⟩

end Life

end ClusterDriver
