import ClusterDriver.Proofs.Request.Numbering

set_option autoImplicit false

namespace ClusterDriver

/-- The errors after which a statement may be sent again even if it must not run twice. -/
def AttemptRecord.IsHarmless (record : AttemptRecord) : Prop :=
  ∃ cause, record.error = some (.server cause) ∧
    (cause.kind = .readTimeout ∨ cause.kind = .bootstrapping)

theorem StandardRetry.decide_once {policy : StandardRetry} {failure : FailureKind} {retries : Nat}
    (again : policy.decide failure retries false = .retrySameNode ∨
      policy.decide failure retries false = .retryNextNode) :
    failure = .server .readTimeout ∨ failure = .server .bootstrapping := by
  unfold decide at again
  split at again
  next => simp at again
  next =>
    split at again
    next => simp at again
    next =>
      split at again
      next => simp at again
      next =>
        unfold preference at again
        split at again
        next => exact .inl rfl
        next => exact .inr rfl
        next => simp at again

theorem AttemptError.kind_server {cause : AttemptError} {kind : ServerErrorKind}
    (same : cause.kind = .server kind) : ∃ server, cause = .server server ∧ server.kind = kind := by
  cases cause with
  | server server => exact ⟨server, rfl, FailureKind.server.inj same⟩
  | timeout => cases same
  | transport => cases same

def Harmless (records : List AttemptRecord) (attempt : Nat) : Prop :=
  ∃ record ∈ records, record.attempt = attempt ∧ record.IsHarmless

theorem Harmless.append {records : List AttemptRecord} {attempt : Nat}
    (harmless : Harmless records attempt) (more : List AttemptRecord) :
    Harmless (records ++ more) attempt := by
  obtain ⟨record, member, found⟩ := harmless
  exact ⟨record, List.mem_append_left more member, found⟩

inductive Single (records : List AttemptRecord) (sent : Nat) : List Execution → Prop where
  | dropped (harmless : ∀ attempt, 1 ≤ attempt → attempt < sent → Harmless records attempt) :
      Single records sent []
  | idle {execution : Execution} (stage : execution.stage.attempt? = none)
      (harmless : ∀ attempt, 1 ≤ attempt → attempt ≤ sent → Harmless records attempt) :
      Single records sent [execution]
  | awaits {execution : Execution} (stage : execution.stage.attempt? = some sent)
      (harmless : ∀ attempt, 1 ≤ attempt → attempt < sent → Harmless records attempt) :
      Single records sent [execution]

namespace Single

variable {records : List AttemptRecord} {sent : Nat} {executions few : List Execution}
  {execution next : Execution}

theorem earlier (single : Single records sent executions) {attempt : Nat} (first : 1 ≤ attempt)
    (before : attempt < sent) : Harmless records attempt := by
  cases single with
  | dropped harmless => exact harmless attempt first before
  | idle _ harmless => exact harmless attempt first (Nat.le_of_lt before)
  | awaits _ harmless => exact harmless attempt first before

theorem unique (single : Single records sent executions) : (executions.map (·.number)).Nodup := by
  cases single <;> simp

theorem drops (single : Single records sent executions) (sublist : few.Sublist executions) :
    Single records sent few := by
  have dropped : Single records sent [] := .dropped fun _ first before => single.earlier first before
  have one {execution : Execution} (sublist : few.Sublist [execution])
      (single : Single records sent [execution]) : Single records sent few := by
    rcases List.sublist_singleton.1 sublist with rfl | rfl
    · exact dropped
    · exact single
  cases single with
  | dropped => rwa [List.sublist_nil.1 sublist]
  | idle stage harmless => exact one sublist (.idle stage harmless)
  | awaits stage harmless => exact one sublist (.awaits stage harmless)

theorem goesOn (single : Single records sent executions) (running : execution ∈ executions)
    (same : next.number = execution.number) (idle : execution.stage.attempt? = none)
    (still : next.stage.attempt? = none) : Single records sent (replaced next executions) := by
  cases single with
  | dropped => cases running
  | idle _ harmless =>
    obtain rfl := List.mem_singleton.1 running
    simpa [replaced, same] using Single.idle still harmless
  | awaits awaits =>
    obtain rfl := List.mem_singleton.1 running
    cases idle.symm.trans awaits

theorem sends (single : Single records sent executions) (running : execution ∈ executions)
    (same : next.number = execution.number) (idle : execution.stage.attempt? = none)
    (dispatched : next.stage.attempt? = some (sent + 1)) :
    Single records (sent + 1) (replaced next executions) := by
  cases single with
  | dropped => cases running
  | idle _ harmless =>
    obtain rfl := List.mem_singleton.1 running
    have earlier (attempt : Nat) (first : 1 ≤ attempt) (before : attempt < sent + 1) :
        Harmless records attempt := harmless attempt first (Nat.le_of_lt_succ before)
    simpa [replaced, same] using Single.awaits dispatched earlier
  | awaits awaits =>
    obtain rfl := List.mem_singleton.1 running
    cases idle.symm.trans awaits

theorem hears {record : AttemptRecord} (single : Single records sent executions)
    (running : execution ∈ executions) (same : next.number = execution.number)
    (awaits : execution.stage.attempt? = some record.attempt) (idle : next.stage.attempt? = none)
    (harmless : record.IsHarmless) :
    Single (records ++ [record]) sent (replaced next executions) := by
  cases single with
  | dropped => cases running
  | idle waits =>
    obtain rfl := List.mem_singleton.1 running
    cases waits.symm.trans awaits
  | awaits stage earlier =>
    obtain rfl := List.mem_singleton.1 running
    have last : record.attempt = sent := Option.some.inj (awaits.symm.trans stage)
    have all (attempt : Nat) (first : 1 ≤ attempt) (before : attempt ≤ sent) :
        Harmless (records ++ [record]) attempt := by
      rcases Nat.lt_or_eq_of_le before with before | rfl
      · exact (earlier attempt first before).append [record]
      · exact ⟨record, by simp, last, harmless⟩
    simpa [replaced, same] using Single.idle idle all

theorem ends (single : Single records sent executions) (more : List AttemptRecord) :
    Single (records ++ more) sent [] :=
  .dropped fun _ first before => (single.earlier first before).append more

end Single

namespace Run

variable {σ : Type}

theorem decide_again {cluster : Cluster σ} {run : Run} {policy : StandardRetry}
    {cause : AttemptError} {retries : Nat} {around later : σ} {decision : RetryDecision}
    {node : Node} {preferred : Option Node} (standard : run.profile.retry = .standard policy)
    (decided : run.decide cluster cause retries around = (decision, later))
    (goesOn : Retries node decision preferred) :
    policy.decide cause.kind run.retries run.idempotent = .retrySameNode ∨
      policy.decide cause.kind run.retries run.idempotent = .retryNextNode := by
  unfold Run.decide at decided
  rw [standard] at decided
  split at decided
  next =>
    cases decided
    cases goesOn
  next =>
    obtain ⟨same, -⟩ := Prod.mk.inj decided
    split at same
    next asked => exact .inl asked
    next =>
      split at same <;> subst same <;> cases goesOn
    next =>
      rw [← same] at goesOn
      change Retries node (policy.decide cause.kind run.retries run.idempotent) preferred at goesOn
      generalize policy.decide cause.kind run.retries run.idempotent = wanted at goesOn ⊢
      cases goesOn with
      | same => exact .inl rfl
      | next => exact .inr rfl

theorem decide_once {cluster : Cluster σ} {run : Run} {policy : StandardRetry}
    {cause : AttemptError} {retries : Nat} {around later : σ} {decision : RetryDecision}
    {node : Node} {preferred : Option Node} (standard : run.profile.retry = .standard policy)
    (once : run.idempotent = false)
    (decided : run.decide cluster cause retries around = (decision, later))
    (goesOn : Retries node decision preferred) :
    ∃ server, cause = .server server ∧
      (server.kind = .readTimeout ∨ server.kind = .bootstrapping) := by
  have again := decide_again standard decided goesOn
  rw [once] at again
  rcases StandardRetry.decide_once again with readTimeout | bootstrapping
  · obtain ⟨server, rfl, same⟩ := AttemptError.kind_server readTimeout
    exact ⟨server, rfl, .inl same⟩
  · obtain ⟨server, rfl, same⟩ := AttemptError.kind_server bootstrapping
    exact ⟨server, rfl, .inr same⟩

theorem Recorded.harmless_or_final {cluster : Cluster σ} {run : Run} {execution : Execution}
    {policy : StandardRetry} {record : AttemptRecord} {around : σ}
    (standard : run.profile.retry = .standard policy) (once : run.idempotent = false)
    (recorded : Recorded cluster run execution around record) :
    record.IsHarmless ∨ record.isFinal = true := by
  cases recorded with
  | answered => exact .inr rfl
  | @failed node _ _ _ _ _ decision _ _ _ _ decided =>
    have harmless {preferred : Option Node} (goesOn : Retries node decision preferred) :=
      decide_once standard once decided goesOn
    cases decision with
    | retrySameNode =>
      obtain ⟨server, rfl, kind⟩ := harmless .same
      exact .inl ⟨server, rfl, kind⟩
    | retryNextNode =>
      obtain ⟨server, rfl, kind⟩ := harmless .next
      exact .inl ⟨server, rfl, kind⟩
    | rethrow => exact .inr rfl
    | ignore => exact .inr rfl

structure Cautious (run : Run) : Prop where
  calm : run.speculation = none
  single : Single run.context.attempts run.attempts run.executions
  judged : ∀ record ∈ run.context.attempts, record.IsHarmless ∨ record.isFinal = true

theorem cautious_update {run after : Run} {next : Execution} {records : List AttemptRecord}
    (calm : after.speculation = none)
    (single : Single records after.attempts (replaced next run.executions))
    (judged : ∀ record ∈ after.context.attempts, record.IsHarmless ∨ record.isFinal = true)
    (executions : after.executions = run.executions) (recorded : after.context.attempts = records) :
    (after.update next).Cautious := by
  subst recorded
  rw [← executions] at single
  exact ⟨calm, single, judged⟩

section Careful

variable {cluster : Cluster σ} {run after : Run} {execution next : Execution}
  {policy : StandardRetry} {around later : σ}

theorem Cautious.judges {progress : Progress} (cautious : run.Cautious)
    (standard : run.profile.retry = .standard policy) (once : run.idempotent = false)
    (advanced : Advanced cluster run execution around progress after later) :
    ∀ record ∈ after.context.attempts, record.IsHarmless ∨ record.isFinal = true := by
  rcases advanced.attempts with same | ⟨last, recorded, appended⟩
  · rw [same]
    exact cautious.judged
  · rw [appended]
    have fits := recorded.harmless_or_final standard once
    exact List.forall_mem_append.2 ⟨cautious.judged, List.forall_mem_singleton.2 fits⟩

theorem Cautious.advanced (cautious : run.Cautious)
    (standard : run.profile.retry = .standard policy) (once : run.idempotent = false)
    (running : execution ∈ run.executions)
    (advanced : Advanced cluster run execution around (.onward next) after later) :
    (after.update next).Cautious := by
  have judged := cautious.judges standard once advanced
  have goesOn (same : next.number = execution.number) (idle : execution.stage.attempt? = none)
      (still : next.stage.attempt? = none) := cautious.single.goesOn running same idle still
  cases advanced with
  | begins stage =>
    refine cautious_update cautious.calm (goesOn rfl ?_ rfl) judged rfl (attempts_enter _ _)
    rw [stage]
    rfl
  | unusable stage =>
    refine cautious_update cautious.calm (goesOn rfl ?_ rfl) judged rfl rfl
    rw [stage]
    rfl
  | usable stage =>
    refine cautious_update cautious.calm (goesOn rfl ?_ rfl) judged rfl rfl
    rw [stage]
    rfl
  | refused stage =>
    refine cautious_update cautious.calm (goesOn rfl ?_ rfl) judged rfl rfl
    rw [stage]
    rfl
  | sends stage =>
    refine cautious_update cautious.calm (cautious.single.sends running rfl ?_ rfl) judged rfl
      (attempts_enter _ _)
    rw [stage]
    rfl
  | retries stage _ decided retries =>
    obtain ⟨server, rfl, kind⟩ := decide_once standard once decided retries
    refine cautious_update cautious.calm
      (cautious.single.hears running rfl ?_ rfl ⟨server, rfl, kind⟩) judged rfl (attempts_enter _ _)
    rw [stage]
    rfl

theorem cautious_finish (dropped : Single run.context.attempts run.attempts [])
    (judged : ∀ record ∈ run.context.attempts, record.IsHarmless ∨ record.isFinal = true)
    (result : Except RequestError Success) : (run.finish cluster result around).1.Cautious := by
  rw [← attempts_finish cluster run result around] at dropped judged
  exact ⟨rfl, dropped, judged⟩

theorem Cautious.ended {how : ExecutionEnd} (cautious : run.Cautious)
    (advanced : Advanced cluster run execution around (.ended how) after later) :
    Single after.context.attempts after.attempts [] := by
  have dropped := cautious.single.drops (List.nil_sublist _)
  cases advanced with
  | expired => exact dropped
  | exhausted => exact dropped
  | succeeds => exact cautious.single.ends _
  | fails => exact cautious.single.ends _

end Careful

theorem startExecution_calm {run : Run} (once : run.idempotent = false) (now : Nat) :
    (run.startExecution now).speculation = none := by
  simp [startExecution, nextSpeculation, once]

theorem cautious_lasting (cluster : Cluster σ) {registry : ProfileRegistry} (codec : Codec)
    (request : Request) {options : RequestOptions} {profile : Profile} {policy : StandardRetry}
    (found : registry.find? (options.profile.getD defaultProfileName) = some profile)
    (standard : profile.retry = .standard policy)
    (once : options.idempotent.getD profile.idempotent = false) :
    Lasting cluster registry codec request options fun run =>
      run.Prepared registry codec request options ∧ run.Cautious := by
  have prepared_lasting := prepared_lasting cluster registry codec request options
  have careful {run : Run} (prepared : run.Prepared registry codec request options) :
      run.profile.retry = .standard policy ∧ run.idempotent = false := by
    have same : profile = run.profile := Option.some.inj (found.symm.trans prepared.profile)
    subst same
    exact ⟨standard, prepared.idempotent.trans once⟩
  refine { woken := ?_, cancelled := ?_, turned := ?_, started := ?_ }
  · exact fun woken holds => ⟨prepared_lasting.woken woken holds.1, { holds.2 with }⟩
  · exact fun holds => ⟨prepared_lasting.cancelled holds.1, { holds.2 with }⟩
  · intro run around after later pending unfinished holds turned
    obtain ⟨prepared, cautious⟩ := holds
    refine ⟨prepared_lasting.turned pending unfinished prepared turned, ?_⟩
    obtain ⟨standard, once⟩ := careful prepared
    have dropped := cautious.single.drops (List.nil_sublist _)
    cases turned with
    | cancelled => exact cautious_finish dropped cautious.judged _
    | expired => exact cautious_finish dropped cautious.judged _
    | missed => exact { cautious with single := cautious.single.drops List.filter_sublist }
    | advanced running advanced => exact cautious.advanced standard once running advanced
    | waited running =>
      rw [update_self cautious.single.unique running]
      exact { cautious with }
    | dropped => exact { cautious with single := cautious.single.drops List.filter_sublist }
    | ended _ advanced =>
      have settled := cautious.ended advanced
      have judged := cautious.judges standard once advanced
      exact cautious_finish (by exact settled) (by exact judged) _
    | calmed => exact { cautious with calm := rfl }
    -- Such a request never speculates.
    | speculated due => exact absurd cautious.calm due
  · intro context build around now fresh prepared
    have first := prepared_lasting.started around now fresh prepared
    have unstarted := prepare_unstarted prepared (cluster.plan options.routingKey around).1
    obtain ⟨same, _, _⟩ := Submission.prepare_ok prepared (cluster.plan options.routingKey around).1
    refine ⟨first, ?_, ?_, ?_⟩
    · exact startExecution_calm (careful (prepare_prepared prepared _)).2 now
    · simp only [startExecution, unstarted.executions, unstarted.attempts, List.nil_append]
      exact .idle rfl fun attempt first last => absurd (Nat.le_trans first last) (by simp)
    · simp [startExecution, same, fresh.attempts]

theorem outstanding_length {records : List AttemptRecord} {run : Run}
    (single : Single records run.attempts run.executions) : run.outstanding.length ≤ 1 := by
  refine Nat.le_trans (List.length_filterMap_le _ _) ?_
  generalize run.attempts = sent at single
  generalize run.executions = executions at single ⊢
  cases single <;> simp

theorem resultOf_server {codec : Codec} {reply : Reply} {cause : ServerError}
    (failed : resultOf codec reply = .error (.server cause)) :
    ∃ frame, reply = .ok frame ∧ frame.opcode = .error ∧
      ServerError.decode frame.body = .ok cause := by
  unfold resultOf at failed
  split at failed
  next frame =>
    unfold responseOf at failed
    split at failed
    next isError =>
      split at failed
      next decoded =>
        cases failed
        exact ⟨frame, rfl, isError, decoded⟩
      next => cases failed
    next => split at failed <;> cases failed
  next => cases failed
  next => cases failed

end Run

namespace Life

variable {σ : Type} {cluster : Cluster σ} {registry : ProfileRegistry} {codec : Codec}

/-- A request that must not run twice, under the standard policy: it has one attempt outstanding at
most, and every attempt before the last one sent has ended in a harmless error. After any other end
of an attempt nothing is outstanding, and nothing is sent ever again. An error of a server is
recorded only if it was read from the reply to the attempt. -/
theorem Reached.sent_once {life : Life σ} {profile : Profile} {policy : StandardRetry} {run : Run}
    (reached : life.Reached cluster registry codec)
    (found : registry.find? (life.submission.options.profile.getD defaultProfileName) =
      some profile)
    (standard : profile.retry = .standard policy)
    (once : life.submission.options.idempotent.getD profile.idempotent = false)
    (underWay : life.submission.current? = some run) :
    run.outstanding.length ≤ 1 ∧
      (∀ attempt, 1 ≤ attempt → attempt < run.attempts →
        ∃ record ∈ life.trace, record.attempt = attempt ∧ record.IsHarmless) ∧
      (∀ record ∈ life.trace, ¬ record.IsHarmless →
        record.attempt = run.attempts ∧ run.outstanding = [] ∧
          ∀ moves, (life.run cluster registry codec moves).submission.sent = run.attempts) ∧
      ∀ around turn after later record cause,
        run.take? cluster around turn = some (after, later) →
        after.context.attempts = life.trace ++ [record] → record.error = some (.server cause) →
        ∃ execution ∈ run.executions, ∃ node started handle frame read,
          execution.stage = .awaiting node record.attempt started handle ∧
          cluster.reply? execution.number handle around = (some (.ok frame), read) ∧
          frame.opcode = .error ∧ ServerError.decode frame.body = .ok cause := by
  obtain ⟨own, same, rfl⟩ := Option.map_eq_some_iff.1 underWay
  have cautious := ((reached.lasts (Run.cautious_lasting cluster codec _ found standard once)).runs
    same).2
  refine ⟨Run.outstanding_length cautious.single, ?_, ?_, ?_⟩
  · exact fun attempt first before => cautious.single.earlier first before
  · intro record member harmful
    have final := (cautious.judged record member).resolve_left harmful
    obtain ⟨isOver, none_left⟩ := reached.over_of_final ⟨record, member, final⟩
    have numbered := reached.numbered underWay
    refine ⟨?_, by simp [Run.outstanding, none_left own same], fun moves => ?_⟩
    · -- An earlier attempt would have been harmless.
      obtain ⟨_, first, last⟩ := numbered.recorded record member
      refine Nat.le_antisymm last (Nat.not_lt.1 fun before => harmful ?_)
      obtain ⟨other, recorded, number, harmless⟩ := cautious.single.earlier first before
      rwa [List.inj_on_of_nodup_map numbered.distinct member recorded number.symm]
    · rw [(run_rests life moves isOver).2, Submission.sent, same]
      rfl
  · intro around turn after later record cause taken added failed
    rcases Run.take?_attempts taken with
      same | ⟨number, execution, last, rfl, running, recorded, appended⟩
    · simp [same, trace] at added
    obtain rfl : last = record := by simpa [appended, trace] using added
    cases recorded with
    | answered => cases failed
    | failed stage failure =>
      cases failed
      cases failure with
      | reply replied answer =>
        obtain ⟨frame, rfl, isError, decoded⟩ := Run.resultOf_server answer
        exact ⟨execution, List.mem_of_find?_eq_some running, _, _, _, frame, _, stage, replied,
          isError, decoded⟩

def written : Life Script :=
  (submitted (.write ByteArray.empty) {} 1 0 100
    { replies := [errorReply .readTimeout, errorReply .writeTimeout] }).run
    (scripted [nodeAt 1, nodeAt 2]) .initial .passThrough [.start]

theorem written_sent_once :
    written.Reached (scripted [nodeAt 1, nodeAt 2]) .initial .passThrough ∧
      ProfileRegistry.initial.find? defaultProfileName = some .standard ∧
      Profile.standard.retry = .standard ⟨1, false⟩ ∧
      written.submission.options.idempotent.getD Profile.standard.idempotent = false ∧
      ∃ run, written.submission.current? = some run ∧ run.attempts = 2 ∧
        (∃ record ∈ written.trace, record.attempt = 1 ∧ record.IsHarmless) ∧
        ∀ moves, (written.run (scripted [nodeAt 1, nodeAt 2]) .initial .passThrough
          moves).submission.sent = 2 := by
  have reached : written.Reached (scripted [nodeAt 1, nodeAt 2]) .initial .passThrough :=
    ⟨_, _, _, _, _, _, _, rfl⟩
  have found : ProfileRegistry.initial.find? defaultProfileName = some .standard := rfl
  obtain ⟨run, underWay, sent⟩ :
      ∃ run, written.submission.current? = some run ∧ run.attempts = 2 := ⟨_, rfl, rfl⟩
  obtain ⟨_, earlier, last, _⟩ := reached.sent_once found rfl rfl underWay
  have failed : ∃ record ∈ written.trace, record.error =
      some (.server ⟨.writeTimeout, ""⟩) := ⟨_, List.mem_cons_of_mem _ List.mem_cons_self, rfl⟩
  obtain ⟨record, member, failed⟩ := failed
  have harmful : ¬ record.IsHarmless := by
    rintro ⟨cause, same, harmless⟩
    cases failed.symm.trans same
    simp at harmless
  refine ⟨reached, found, rfl, rfl, run, underWay, sent, earlier 1 (by decide) (by omega), ?_⟩
  intro moves
  exact ((last record member harmful).2.2 moves).trans sent

end Life

end ClusterDriver
