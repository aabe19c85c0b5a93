import ClusterDriver.Proofs.Request.Paths

set_option autoImplicit false

namespace ClusterDriver

namespace Run

variable {σ : Type}

def refused (run : Run) : List SocketAddress := run.nodeErrors.map (·.1)

structure Orderly (owner : SocketAddress → Option Nat) (run : Run) : Prop where
  numbered : run.Numbered
  owned : Ownership owner run.plan.remaining run.refused run.context.attempts run.executions
  paths : Paths run.refused run.profile.maxSameNodeRetries run.context.attempts run.executions

theorem orderly_update {owner : SocketAddress → Option Nat} {run after : Run} {next : Execution}
    {records : List AttemptRecord} (numbered : (after.update next).Numbered)
    (owned : Ownership owner after.plan.remaining after.refused records
      (replaced next run.executions))
    (paths : Paths after.refused after.profile.maxSameNodeRetries records
      (replaced next run.executions))
    (executions : after.executions = run.executions)
    (recorded : after.context.attempts = records) : (after.update next).Orderly owner := by
  subst recorded
  rw [← executions] at owned paths
  exact ⟨numbered, owned, paths⟩

theorem refused_noteNodeError (run : Run) (node : Node) (reason : String) :
    (run.noteNodeError node reason).refused = run.refused ++ [node.address] := by
  simp [refused, noteNodeError]

theorem Orderly.takes {owner : SocketAddress → Option Nat} {run : Run} {execution : Execution}
    {preferred : Option Node} {node : Node} {plan : Plan} (orderly : run.Orderly owner)
    (candidate : run.Candidate preferred node plan)
    (held : ∀ node, preferred = some node →
      owner node.address = some execution.number ∧ node.address ∉ run.refused) :
    ∃ owner, Ownership owner plan.remaining run.refused run.context.attempts run.executions ∧
      owner node.address = some execution.number ∧ node.address ∉ run.refused ∧
      (preferred = some node ∨
        preferred = none ∧ node.address ∉ nodesOf (attemptsOf execution.number
          run.context.attempts)) := by
  cases candidate with
  | same => exact ⟨owner, orderly.owned, (held node rfl).1, (held node rfl).2, .inl rfl⟩
  | @next _ rest planned =>
    have owned := orderly.owned
    rw [planned] at owned
    have free := owned.free node List.mem_cons_self
    refine ⟨_, owned.takes execution.number, Function.update_self _ _ _, ?_, .inr ⟨rfl, ?_⟩⟩
    · exact fun refused => owned.unusable _ refused free
    · intro member
      obtain ⟨record, tried, same⟩ := List.mem_map.1 member
      have taken := owned.recorded record (List.mem_of_mem_filter tried)
      rw [same, free] at taken
      cases taken

theorem Retries.called {cluster : Cluster σ} {run : Run} {execution : Execution} {node : Node}
    {cause : AttemptError} {decision : RetryDecision} {preferred : Option Node}
    {around later : σ} (retries : Retries node decision preferred)
    (decided : run.decide cluster cause execution.sameNodeRetries around = (decision, later))
    (attempt started latency : Nat) :
    (run.attemptRecord execution node attempt started latency (some cause) (some decision)).Calls
      decision where
  failed := nofun
  decided := rfl
  transport detail failed := by
    cases failed
    cases retries with
    | next => rfl
    | same => cases ((decide_judged decided).2.1 rfl).1

theorem Retries.poised {cluster : Cluster σ} {run : Run} {execution : Execution} {node : Node}
    {cause : AttemptError} {decision : RetryDecision} {preferred : Option Node}
    {around later : σ} {path : List AttemptRecord} (retries : Retries node decision preferred)
    (decided : run.decide cluster cause execution.sameNodeRetries around = (decision, later))
    (counted : (nodesOf path).count node.address = execution.sameNodeRetries)
    (refused : List SocketAddress) (attempt started latency : Nat) :
    Poised refused run.profile.maxSameNodeRetries
      (path ++
        [run.attemptRecord execution node attempt started latency (some cause) (some decision)])
      (if preferred.isSome then execution.sameNodeRetries + 1 else execution.sameNodeRetries)
      (.starting preferred) := by
  have called := retries.called decided attempt started latency
  cases retries with
  | same =>
    have allowed := ((decide_judged decided).2.1 rfl).2
    refine .starting (.back List.getLast?_concat rfl called ?_ allowed)
    rw [nodesOf_append, List.count_append, counted]
    simp [attemptRecord]
  | next =>
    refine .starting (.onward ?_ nofun)
    intro last found
    obtain rfl := Option.some.inj (List.getLast?_concat.symm.trans found)
    exact .inl called

theorem Orderly.advanced {owner : SocketAddress → Option Nat} {cluster : Cluster σ}
    {run after : Run} {execution next : Execution} {around later : σ} (orderly : run.Orderly owner)
    (running : execution ∈ run.executions)
    (advanced : Advanced cluster run execution around (.onward next) after later) :
    ∃ owner, (after.update next).Orderly owner := by
  have numbered := orderly.numbered.advanced running advanced
  have poised := orderly.paths.poised execution running
  have held := orderly.owned.held execution running
  -- Only taking a node from the plan changes who owns it; refusals and failures lengthen the path.
  cases advanced with
  | begins stage =>
    rw [stage] at poised held
    cases poised with
    | starting heads =>
      refine ⟨owner, orderly_update numbered (orderly.owned.goesOn ?_)
        (orderly.paths.goesOn (List.Subset.refl _) ?_) rfl (attempts_enter _ _)⟩
      · exact held
      · exact .seeking heads
  | @unusable retryingOn preferred node plan reason _ stage candidate =>
    rw [stage] at poised held
    cases poised with
    | seeking heads =>
      obtain ⟨owner, owned, mine, _, target⟩ := orderly.takes candidate held
      refine ⟨owner, orderly_update numbered ?_ ?_ rfl rfl⟩
      · rw [refused_noteNodeError]
        exact owned.refuses mine rfl
      · rw [refused_noteNodeError]
        refine orderly.paths.goesOn (List.subset_append_left _ _) ?_
        exact .seeking (heads.turnsAway (target.imp_right And.left))
  | @usable retryingOn preferred node plan _ _ stage candidate =>
    rw [stage] at poised held
    cases poised with
    | seeking heads =>
      obtain ⟨owner, owned, mine, usable, target⟩ := orderly.takes candidate held
      refine ⟨owner, orderly_update numbered (owned.goesOn ?_)
        (orderly.paths.goesOn (List.Subset.refl _) ?_) rfl rfl⟩
      · rintro other ⟨⟩
        exact ⟨mine, usable⟩
      · exact .acquiring heads target
  | @refused retryingOn node pool reason _ stage =>
    rw [stage] at poised held
    cases poised with
    | acquiring heads target =>
      refine ⟨owner, orderly_update numbered ?_ ?_ rfl rfl⟩
      · rw [refused_noteNodeError]
        exact orderly.owned.refuses (held node rfl).1 rfl
      · rw [refused_noteNodeError]
        refine orderly.paths.goesOn (List.subset_append_left _ _) ?_
        exact .seeking (heads.turnsAway (target.imp_right And.left))
  | @sends retryingOn node pool handle _ stage =>
    rw [stage] at poised held
    cases poised with
    | acquiring heads target =>
      refine ⟨owner, orderly_update numbered (orderly.owned.goesOn held)
        (orderly.paths.goesOn (List.Subset.refl _) ?_) rfl (attempts_enter _ _)⟩
      refine .awaiting (heads.follows target ?_) (heads.counted target)
      intro record member
      have sent := (orderly.numbered.recorded record (List.mem_of_mem_filter member)).2.2
      exact Nat.lt_succ_of_le sent
  | @retries node attempt started _ _ cause decision preferred _ _ stage _ decided retries =>
    rw [stage] at poised held
    cases poised with
    | awaiting follows counted =>
      refine ⟨owner, orderly_update numbered (orderly.owned.hears (held node rfl).1 ?_)
        (orderly.paths.hears rfl follows ?_) rfl (attempts_enter _ _)⟩
      · intro other preferred
        cases retries with
        | same =>
          cases preferred
          exact held node rfl
        | next => cases preferred
      · exact retries.poised decided counted _ _ _ _

theorem Orderly.settled {owner : SocketAddress → Option Nat} {cluster : Cluster σ}
    {run after : Run} {execution : Execution} {how : ExecutionEnd} {around later : σ}
    (orderly : run.Orderly owner) (running : execution ∈ run.executions)
    (advanced : Advanced cluster run execution around (.ended how) after later) :
    Ownership owner after.plan.remaining after.refused after.context.attempts [] ∧
      Paths after.refused after.profile.maxSameNodeRetries after.context.attempts [] := by
  have poised := orderly.paths.poised execution running
  have held := orderly.owned.held execution running
  have none_left := List.nil_sublist run.executions
  have recorded {node : Node} {attempt started : Nat} {handle : Handle}
      (stage : execution.stage = .awaiting node attempt started handle) (latency : Nat)
      (error : Option AttemptError) (decision : Option RetryDecision) :
      let record := run.attemptRecord execution node attempt started latency error decision
      Ownership owner run.plan.remaining run.refused (run.context.attempts ++ [record]) [] ∧
        Paths run.refused run.profile.maxSameNodeRetries (run.context.attempts ++ [record]) [] := by
    rw [stage] at poised held
    cases poised with
    | awaiting follows =>
      have mine := (held node rfl).1
      refine ⟨?_, orderly.paths.recorded_append follows, by simp⟩
      exact { orderly.owned.drops none_left with recorded := orderly.owned.recorded_append mine }
  cases advanced with
  | expired => exact ⟨orderly.owned.drops none_left, orderly.paths.drops none_left⟩
  | exhausted => exact ⟨orderly.owned.drops none_left, orderly.paths.drops none_left⟩
  | succeeds stage => exact recorded stage _ none none
  | fails stage => exact recorded stage _ _ _

theorem orderly_finish {owner : SocketAddress → Option Nat} {run : Run} (cluster : Cluster σ)
    (result : Except RequestError Success) (around : σ)
    (numbered : (run.finish cluster result around).1.Numbered)
    (owned : Ownership owner run.plan.remaining run.refused run.context.attempts [])
    (paths : Paths run.refused run.profile.maxSameNodeRetries run.context.attempts []) :
    (run.finish cluster result around).1.Orderly owner := by
  rw [← attempts_finish cluster run result around] at owned paths
  exact ⟨numbered, owned, paths⟩

theorem Orderly.enter {owner : SocketAddress → Option Nat} {run : Run} (orderly : run.Orderly owner)
    (phase : Phase) : (run.enter phase).Orderly owner := by
  obtain ⟨numbered, owned, paths⟩ := orderly
  rw [← attempts_enter run phase] at owned paths
  exact ⟨numbered.enter phase, owned, paths⟩

theorem Orderly.startExecution {owner : SocketAddress → Option Nat} {run : Run}
    (orderly : run.Orderly owner) (now : Nat) : (run.startExecution now).Orderly owner where
  numbered := orderly.numbered.startExecution now
  owned := orderly.owned.starts rfl
  paths := by
    refine orderly.paths.starts rfl ?_
    simp only [attemptsOf, List.filter_eq_nil_iff, decide_eq_true_eq]
    intro record member same
    have begun := (orderly.numbered.recorded record member).1
    omega

theorem orderly_kept (cluster : Cluster σ) :
    Kept cluster fun run => ∃ owner, run.Orderly owner where
  woken _ orderly := by
    obtain ⟨owner, orderly⟩ := orderly
    exact ⟨owner, { orderly with }⟩
  cancelled orderly := by
    obtain ⟨owner, orderly⟩ := orderly
    exact ⟨owner, { orderly with }⟩
  turned := by
    intro run around after later pending unfinished orderly turned
    obtain ⟨owner, orderly⟩ := orderly
    have numbered := (numbered_kept cluster).turned pending unfinished orderly.numbered turned
    have none_left := List.nil_sublist run.executions
    cases turned with
    | cancelled =>
      exact ⟨owner, orderly_finish _ _ _ numbered (orderly.owned.drops none_left)
        (orderly.paths.drops none_left)⟩
    | expired =>
      exact ⟨owner, orderly_finish _ _ _ numbered (orderly.owned.drops none_left)
        (orderly.paths.drops none_left)⟩
    | missed =>
      exact ⟨owner, numbered, orderly.owned.drops List.filter_sublist,
        orderly.paths.drops List.filter_sublist⟩
    | advanced running advanced => exact orderly.advanced running advanced
    | waited running =>
      rw [update_self orderly.numbered.unique running]
      exact ⟨owner, { orderly with }⟩
    | dropped =>
      exact ⟨owner, numbered, orderly.owned.drops List.filter_sublist,
        orderly.paths.drops List.filter_sublist⟩
    | ended running advanced =>
      obtain ⟨owned, paths⟩ := orderly.settled running advanced
      exact ⟨owner, orderly_finish _ _ _ numbered owned paths⟩
    | calmed => exact ⟨owner, { orderly with }⟩
    | speculated =>
      have counted : Orderly owner ({ run with context := run.context.recordSpeculation }.record
        .speculativeExecution) := { orderly with }
      exact ⟨owner, (counted.enter _).startExecution _⟩

theorem started_orderly {registry : ProfileRegistry} {codec : Codec} {context : RequestContext}
    {request : Request} {options : RequestOptions} {build : Plan → Run} {plan : Plan}
    (distinct : (plan.remaining.map (·.address)).Nodup) (fresh : context.Fresh)
    (prepared : prepare registry codec context request options = .ok build) (now : Nat) :
    ((build plan).startExecution now).Orderly fun _ => none := by
  have unstarted := prepare_unstarted prepared plan
  obtain ⟨same, _, _⟩ := Submission.prepare_ok prepared plan
  refine Orderly.startExecution ?_ now
  have untried : (build plan).context.attempts = [] := by rw [same, fresh.attempts]
  have none_refused : (build plan).refused = [] := by rw [refused, unstarted.nodeErrors, List.map_nil]
  refine ⟨?_, ?_, ?_⟩
  · rw [Numbered, untried, unstarted.executions]
    exact .empty _ _
  · rw [untried, unstarted.executions, none_refused, unstarted.plan]
    exact ⟨distinct, by simp, by simp, by simp, by simp⟩
  · rw [untried, unstarted.executions]
    exact ⟨fun _ => .start, by simp⟩

end Run

/-- A trace as the executions of a request leave it, with the attempts sent so far, the limit of
retries on one node and the nodes to which nothing could be sent. -/
structure WellFormed (attempts : List AttemptRecord) (sent limit : Nat)
    (refused : List SocketAddress) : Prop where
  distinct : (attempts.map (·.attempt)).Nodup
  numbered : ∀ record ∈ attempts, 1 ≤ record.attempt ∧ record.attempt ≤ sent
  consecutive : ∀ number, (attemptsOf number attempts).IsChain fun first second =>
    first.Leads refused second.attempt second.node
  left : ∀ number front record back, attemptsOf number attempts = front ++ record :: back →
    record.node ∈ nodesOf front → (nodesOf front).getLast? = some record.node
  alone : ∀ first ∈ attempts, ∀ second ∈ attempts, first.node = second.node →
    first.execution = second.execution
  tries : ∀ number node, (nodesOf (attemptsOf number attempts)).count node ≤ 1 + limit

namespace Run

theorem mem_outstanding {run : Run} {record : AttemptRecord} (waits : record ∈ run.outstanding) :
    ∃ execution ∈ run.executions, ∃ node attempt started handle,
      execution.stage = .awaiting node attempt started handle ∧
      record = run.attemptRecord execution node attempt started 0 none none := by
  obtain ⟨execution, running, own⟩ := List.mem_filterMap.1 waits
  unfold outstanding? at own
  split at own
  next stage => exact ⟨execution, running, _, _, _, _, stage, (Option.some.inj own).symm⟩
  next => cases own

theorem attemptsOf_outstanding (run : Run) (number : Nat) :
    attemptsOf number run.outstanding =
      (run.executions.filter (·.number = number)).filterMap run.outstanding? := by
  simp only [attemptsOf, outstanding, List.filter_filterMap, List.filterMap_filter]
  refine List.filterMap_congr fun execution _ => ?_
  unfold outstanding?
  by_cases own : execution.number = number <;> split <;>
    simp [Option.filter, attemptRecord, own]

theorem filter_number {executions : List Execution}
    (unique : (executions.map (·.number)).Nodup) (number : Nat) :
    executions.filter (·.number = number) = [] ∨
      ∃ execution ∈ executions, execution.number = number ∧
        executions.filter (·.number = number) = [execution] := by
  have own : ∀ execution ∈ executions.filter (·.number = number),
      execution ∈ executions ∧ execution.number = number := by
    simp
  have distinct := unique.sublist ((List.filter_sublist (p := (·.number = number))).map _)
  match found : executions.filter (·.number = number) with
  | [] => exact .inl found
  | [execution] =>
    obtain ⟨running, same⟩ := own execution (by rw [found]; exact List.mem_cons_self)
    exact .inr ⟨execution, running, same, found⟩
  | first :: second :: rest =>
    rw [found] at own distinct
    have one := (own first (by simp)).2
    have two := (own second (by simp)).2
    simp [one, two] at distinct

theorem attemptsOf_outstanding_cases (run : Run) (unique : (run.executions.map (·.number)).Nodup)
    (number : Nat) :
    attemptsOf number run.outstanding = [] ∨
      ∃ execution ∈ run.executions, execution.number = number ∧ ∃ node attempt started handle,
        execution.stage = .awaiting node attempt started handle ∧
        attemptsOf number run.outstanding =
          [run.attemptRecord execution node attempt started 0 none none] := by
  rw [attemptsOf_outstanding]
  rcases filter_number unique number with none_own | ⟨execution, running, own, found⟩
  · exact .inl (by rw [none_own]; rfl)
  · rw [found]
    cases stage : execution.stage with
    | awaiting node attempt started handle =>
      refine .inr ⟨execution, running, own, node, attempt, started, handle, stage, ?_⟩
      simp [outstanding?, stage]
    | _ => exact .inl (by simp [outstanding?, stage])

theorem attempts_outstanding (run : Run) :
    run.outstanding.map (·.attempt) = run.executions.filterMap (·.stage.attempt?) := by
  simp only [outstanding, List.map_filterMap]
  refine List.filterMap_congr fun execution _ => ?_
  unfold outstanding? Stage.attempt?
  split <;> simp [attemptRecord]

variable {owner : SocketAddress → Option Nat} {run : Run}

theorem Orderly.path (orderly : run.Orderly owner) (number : Nat) :
    Path run.refused run.profile.maxSameNodeRetries
      (attemptsOf number (run.context.attempts ++ run.outstanding)) := by
  have recorded := orderly.paths.recorded number
  have split : attemptsOf number (run.context.attempts ++ run.outstanding) =
      attemptsOf number run.context.attempts ++ attemptsOf number run.outstanding :=
    List.filter_append _ _
  rw [split]
  rcases attemptsOf_outstanding_cases run orderly.numbered.unique number with
    none_waits | ⟨execution, running, rfl, node, attempt, started, handle, stage, waits⟩
  · rwa [none_waits, List.append_nil]
  · have poised := orderly.paths.poised execution running
    rw [stage] at poised
    rw [waits]
    cases poised with
    | awaiting follows => exact recorded.next follows

theorem Orderly.distinct (orderly : run.Orderly owner) :
    ((run.context.attempts ++ run.outstanding).map (·.attempt)).Nodup := by
  have numbering := orderly.numbered
  rw [List.map_append, attempts_outstanding, List.nodup_append]
  refine ⟨numbering.distinct, ?_, ?_⟩
  · have apart := List.pairwise_map.1 numbering.unique
    refine List.pairwise_filterMap.2 (apart.imp_of_mem ?_)
    rintro first second one two different attempt awaits _ waits rfl
    exact different (numbering.apart first one second two attempt awaits waits)
  · intro attempt recorded other waits
    obtain ⟨record, member, rfl⟩ := List.mem_map.1 recorded
    obtain ⟨execution, running, awaits⟩ := List.mem_filterMap.1 waits
    exact (numbering.outstanding execution running other awaits).2.2 record member

theorem Orderly.owned_by (orderly : run.Orderly owner) :
    ∀ record ∈ run.context.attempts ++ run.outstanding, owner record.node = some record.execution := by
  intro record member
  rcases List.mem_append.1 member with recorded | waits
  · exact orderly.owned.recorded record recorded
  · obtain ⟨execution, running, node, _, _, _, stage, rfl⟩ := mem_outstanding waits
    exact (orderly.owned.held execution running node (by rw [stage]; rfl)).1

theorem Orderly.wellFormed (orderly : run.Orderly owner) :
    WellFormed (run.context.attempts ++ run.outstanding) run.attempts
      run.profile.maxSameNodeRetries run.refused where
  distinct := orderly.distinct
  numbered := by
    intro record member
    rcases List.mem_append.1 member with recorded | waits
    · exact (orderly.numbered.recorded record recorded).2
    · obtain ⟨execution, running, node, attempt, _, _, stage, rfl⟩ := mem_outstanding waits
      have awaits : execution.stage.attempt? = some attempt := by
        rw [stage]
        rfl
      obtain ⟨first, last, _⟩ := orderly.numbered.outstanding execution running attempt awaits
      exact ⟨first, last⟩
  consecutive number := (orderly.path number).consecutive
  left number front record back split again := (orderly.path number).left split again
  alone := by
    intro first one second two same
    have mine := orderly.owned_by first one
    rw [same, orderly.owned_by second two] at mine
    exact (Option.some.inj mine).symm
  tries number node := by
    rw [Nat.add_comm]
    exact (orderly.path number).tries node

theorem Orderly.usable (orderly : run.Orderly owner) :
    ∀ record ∈ run.outstanding, record.node ∉ run.refused := by
  intro record waits
  obtain ⟨execution, running, node, _, _, _, stage, rfl⟩ := mem_outstanding waits
  exact (orderly.owned.held execution running node (by rw [stage]; rfl)).2

end Run

namespace Life

variable {σ : Type} {cluster : Cluster σ} {registry : ProfileRegistry} {codec : Codec}

/-- On a plan of distinct nodes, the trace of a request is well formed at every moment, together
with the attempts that are outstanding. None of these has gone to a node that has refused one yet:
if an execution was to stay on a node and is on another, it was refused in between. -/
theorem Given.trace_well_formed {plan : Plan} {life : Life σ} {run : Run}
    (given : life.Given cluster registry codec plan)
    (distinct : (plan.remaining.map (·.address)).Nodup)
    (underWay : life.submission.current? = some run) :
    WellFormed (life.trace ++ run.outstanding) run.attempts run.profile.maxSameNodeRetries
        (run.nodeErrors.map (·.1)) ∧
      ∀ record ∈ run.outstanding, record.node ∉ run.nodeErrors.map (·.1) := by
  have first {context : RequestContext} {request : Request} {options : RequestOptions}
      {build : Plan → Run} (now : Nat) (fresh : context.Fresh)
      (prepared : Run.prepare registry codec context request options = .ok build) :
      ∃ owner, ((build plan).startExecution now).Orderly owner :=
    ⟨_, Run.started_orderly distinct fresh prepared now⟩
  obtain ⟨own, same, rfl⟩ := Option.map_eq_some_iff.1 underWay
  rcases given.runs (Run.orderly_kept cluster) first with ⟨idle, _⟩ | ⟨run, running, owner, orderly⟩
  · cases idle.symm.trans same
  · obtain rfl := Option.some.inj (same.symm.trans running)
    exact ⟨orderly.wellFormed, orderly.usable⟩

def wandering : Life Script :=
  (submitted (.query ByteArray.empty) {} 1 0 100
    { replies := [errorReply .overloaded, errorReply .unavailable, errorReply .serverError] }).act
    (scripted [nodeAt 1, nodeAt 2]) (deciding [.retrySameNode, .retryNextNode, .rethrow])
    .passThrough .start

theorem wandering_trace_well_formed :
    wandering.trace.map (·.node) = [(nodeAt 1).address, (nodeAt 1).address, (nodeAt 2).address] ∧
      ([nodeAt 1, nodeAt 2].map (·.address)).Nodup ∧
      ∃ run, wandering.submission.current? = some run ∧ run.attempts = 3 ∧
        WellFormed (wandering.trace ++ run.outstanding) run.attempts
          run.profile.maxSameNodeRetries (run.nodeErrors.map (·.1)) := by
  have given : wandering.Given (scripted [nodeAt 1, nodeAt 2])
      (deciding [.retrySameNode, .retryNextNode, .rethrow]) .passThrough
      ⟨[nodeAt 1, nodeAt 2]⟩ := .started ⟨_, _, _, _, _, _, [], rfl⟩ rfl rfl
  have distinct : ([nodeAt 1, nodeAt 2].map (·.address)).Nodup := by decide
  obtain ⟨run, underWay, sent⟩ :
      ∃ run, wandering.submission.current? = some run ∧ run.attempts = 3 := ⟨_, rfl, rfl⟩
  exact ⟨rfl, distinct, run, underWay, sent, (given.trace_well_formed distinct underWay).1⟩

end Life

end ClusterDriver
